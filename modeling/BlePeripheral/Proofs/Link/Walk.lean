import BlePeripheral.Proofs.Link.Discipline
import BlePeripheral.Proofs.Link.LifeCycle

/-! Runs in which time passes between one step and the next. The user of the link leaves it and
its peer alone, so what a step has found is what the step before has left, only later. -/

namespace BlePeripheral

def World.later {P : Type} (w : World P) (wait : Nat) : World P :=
  { w with radio := { w.radio with clock := { w.radio.clock with time := w.radio.clock.time + wait } } }

structure Turn where
  wait : Nat
  stage : Stage

def Turn.event (turn : Turn) : LinkEvent := turn.stage.event

namespace Link

variable {P : Type}

theorem AtRest.later {link : Link} {w : World P} (h : link.AtRest w.radio) (wait : Nat) :
    link.AtRest (w.later wait).radio :=
  ⟨⟨h.rests.quiet, h.rests.tuned⟩, h.hops⟩

theorem atRest_of_start {config : LinkConfig} {controls : ControlTable} {clock : Clock} {peer : P}
    {link : Link} {w : World P} (started : start config controls { clock, peer } = .ok (link, w)) :
    link.AtRest w.radio := by
  obtain ⟨prepared, -, rfl, rfl⟩ := start_eq_ok.mp started
  exact ⟨⟨rfl, rfl⟩, nofun⟩

theorem Pause.later (link : Link) (w : World P) (wait : Nat) : link.Pause w link (w.later wait) :=
  ⟨rfl, rfl⟩

variable [Peer P]

inductive Walk : Link → World P → List Turn → Link → World P → Prop
  | nil (link : Link) (w : World P) : Walk link w [] link w
  | cons {link link' link'' : Link} {w w' w'' : World P} {event : LinkEvent} {wait : Nat}
      {turns : List Turn} (step : link.Step (w.later wait) event link' w')
      (rest : Walk link' w' turns link'' w'') :
      Walk link w (⟨wait, ⟨link, event, link'⟩⟩ :: turns) link'' w''

theorem Step.atRest {link link' : Link} {w w' : World P} {event : LinkEvent}
    (h : link.Step w event link' w') (rest : link.AtRest w.radio) : link'.AtRest w'.radio :=
  let ⟨_, _, _, rest'⟩ := h.orderly rest
  rest'

theorem Walk.course {link link' : Link} {w w' : World P} {turns : List Turn}
    (walk : Walk link w turns link' w') : Course link w (turns.map Turn.stage) link' w' := by
  induction walk with
  | nil link w => exact .done (.refl link w)
  | cons step rest ih => exact .step (.later _ _ _) step ih

theorem Walk.next {link link' : Link} {w w' : World P} {turns : List Turn}
    (walk : Walk link w turns link' w') :
    ∀ turn ∈ turns, turn.stage.before.state.Next turn.event turn.stage.after.state := by
  induction walk with
  | nil => simp
  | cons step rest ih => exact List.forall_mem_cons.mpr ⟨step.next, ih⟩

theorem Walk.setup_eq {link link' : Link} {w w' : World P} {turns : List Turn}
    (walk : Walk link w turns link' w') : link'.config = link.config ∧
      link'.prepared = link.prepared ∧ link'.controls = link.controls := by
  induction walk with
  | nil => exact ⟨rfl, rfl, rfl⟩
  | cons step rest ih =>
    obtain ⟨config, prepared, controls⟩ := step.setup_eq
    rw [← config, ← prepared, ← controls]
    exact ih

theorem Walk.controls_eq {link link' : Link} {w w' : World P} {turns : List Turn}
    (walk : Walk link w turns link' w') : link'.controls = link.controls :=
  walk.setup_eq.2.2

theorem Course.later {link link' : Link} {w w' : World P} {stages : List Stage}
    (course : Course link w stages link' w') (wait : Nat) :
    Course link w stages link' (w'.later wait) := by
  induction course with
  | done pause => exact .done ⟨pause.link_eq, by rw [World.later, pause.radio_eq]⟩
  | step pause step rest ih => exact .step pause step ih

theorem Run.walk {link link' : Link} {w w' : World P} {stages : List Stage}
    (run : Run link w stages link' w') : Walk link w (stages.map (⟨0, ·⟩)) link' w' := by
  induction run with
  | nil link w => exact .nil link w
  | cons step rest ih => exact .cons step ih

def testTurns (polls : Nat) (holds : Link → World P → Bool) :
    List (Nat × LinkEvent) → Link → World P → Bool
  | [], link, w => holds link w
  | (wait, event) :: turns, link, w =>
    LinkM.test link.step { w.later wait with polls } fun outcome w =>
      outcome.1 = event && testTurns polls holds turns outcome.2 w

theorem Walk.of_testTurns {link : Link} {w : World P} {polls : Nat}
    {expected : List (Nat × LinkEvent)} {holds : Link → World P → Bool}
    (h : testTurns polls holds expected link w = true) :
    ∃ turns link' w', Walk link w turns link' w' ∧
      turns.map (fun turn => (turn.wait, turn.event)) = expected ∧ holds link' w' = true := by
  induction expected generalizing link w with
  | nil => exact ⟨[], link, w, .nil link w, rfl, h⟩
  | cons first expected ih =>
    obtain ⟨wait, event⟩ := first
    obtain ⟨event', next, u, step, rest⟩ := Step.of_test h
    rw [Bool.and_eq_true, decide_eq_true_eq] at rest
    obtain ⟨rfl, rest⟩ := rest
    obtain ⟨turns, link', w', walk, same, holds⟩ := ih rest
    exact ⟨_, link', w', .cons step walk, by rw [List.map_cons, same]; rfl, holds⟩

end Link

end BlePeripheral
