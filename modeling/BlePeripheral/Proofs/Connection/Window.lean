import BlePeripheral.Link.Connection

/-! Ticks from the units on the air, and the window that is laid out with them. A conversion
saturates twice, and the length of the window is the difference of two counts that have saturated.
Main statement: nothing is lost in this but what saturating each exact count once would lose. -/

namespace BlePeripheral

theorem saturate_mono {m n : Nat} (le : m ≤ n) : saturate m ≤ saturate n := by
  rw [UInt32.le_iff_toNat_le, toNat_saturate, toNat_saturate]
  omega

theorem toNat_min (m n : UInt32) : (min m n).toNat = min m.toNat n.toNat := by
  show (if m ≤ n then m else n).toNat = min m.toNat n.toNat
  simp only [UInt32.le_iff_toNat_le]
  split <;> omega

/-- A count that has saturated once saturates again in every product, unless that is zero. -/
theorem saturate_mul (m n : Nat) : saturate ((saturate m).toNat * n) = saturate (m * n) := by
  apply UInt32.toNat_inj.mp
  rw [toNat_saturate, toNat_saturate, toNat_saturate]
  obtain fits | large := Nat.le_total m 0xFFFFFFFF
  · rw [Nat.min_eq_left fits]
  · rw [Nat.min_eq_right large]
    obtain rfl | moves := Nat.eq_zero_or_pos n
    · rfl
    · have least := Nat.le_mul_of_pos_right 0xFFFFFFFF moves
      rw [Nat.min_eq_right least, Nat.min_eq_right]
      exact Nat.le_trans large (Nat.le_mul_of_pos_right m moves)

namespace TickRate

theorem ticksForUs_saturate (rate : TickRate) (us : Nat) :
    rate.ticksForUs (saturate us) = saturate (us * rate.ticksPerUs.toNat) :=
  saturate_mul us rate.ticksPerUs.toNat

def exact1250Us (rate : TickRate) (units : Nat) : Nat := units * 1250 * rate.ticksPerUs.toNat

theorem ticksFor1250Us_eq (rate : TickRate) (units : UInt32) :
    rate.ticksFor1250Us units = saturate (rate.exact1250Us units.toNat) :=
  rate.ticksForUs_saturate _

theorem exact1250Us_add (rate : TickRate) (m n : Nat) :
    rate.exact1250Us (m + n) = rate.exact1250Us m + rate.exact1250Us n := by
  simp only [exact1250Us, Nat.add_mul]

theorem ticksFor1250Us_mono (rate : TickRate) {units units' : UInt32}
    (le : units ≤ units') : rate.ticksFor1250Us units ≤ rate.ticksFor1250Us units' := by
  rw [ticksFor1250Us_eq, ticksFor1250Us_eq]
  exact saturate_mono (Nat.mul_le_mul_right _ (Nat.mul_le_mul_right _ le))

end TickRate

theorem EventWindow.closing_within {offset last interval : UInt32} (le : offset ≤ last) :
    (within offset (UInt32.ofNat (last.toNat - offset.toNat)) interval).closing =
      min last interval := by
  have length : (UInt32.ofNat (last.toNat - offset.toNat)).toNat = last.toNat - offset.toNat := by
    have := last.toNat_lt
    rw [UInt32.toNat_ofNat']
    omega
  have whole : saturate (offset.toNat + (UInt32.ofNat (last.toNat - offset.toNat)).toNat) = last := by
    have := last.toNat_lt
    rw [UInt32.le_iff_toNat_le] at le
    apply UInt32.toNat_inj.mp
    rw [toNat_saturate, length]
    omega
  rw [within, whole]

namespace Connection

/-- The times of a connection from exact counts of ticks. Each count is saturated once; the window
closes no later than the interval ends, and opens no later than it closes. -/
structure LaidOut (c : Connection) (offset size interval : Nat) : Prop where
  interval_eq : c.intervalTicks.toNat = min interval 0xFFFFFFFF
  closing_eq : c.window.closing.toNat = min (min (offset + size) 0xFFFFFFFF) c.intervalTicks.toNat
  opening_eq : c.window.opening.toNat = min (min offset 0xFFFFFFFF) c.window.closing.toNat

namespace LaidOut

variable {c : Connection} {offset size interval : Nat} (h : c.LaidOut offset size interval)

include h

theorem opening_le : c.window.opening ≤ c.window.closing := by
  rw [UInt32.le_iff_toNat_le, h.opening_eq]
  exact Nat.min_le_right _ _

theorem closing_le : c.window.closing ≤ c.intervalTicks := by
  rw [UInt32.le_iff_toNat_le, h.closing_eq]
  exact Nat.min_le_right _ _

theorem length_le : c.window.closing.toNat - c.window.opening.toNat ≤ size := by
  have closing := h.closing_eq
  have opening := h.opening_eq
  omega

theorem opening_eq_closing : c.window.opening = c.window.closing ↔
    size = 0 ∨ c.intervalTicks.toNat ≤ min offset 0xFFFFFFFF ∨ 0xFFFFFFFF ≤ offset := by
  have closing := h.closing_eq
  have opening := h.opening_eq
  rw [← UInt32.toNat_inj]
  omega

end LaidOut

def OpenedBy (c : Connection) (r : ConnectRequest) (rate : TickRate) : Prop :=
  ∃ context, ConnectionContext.ofRequest r = .ok context ∧ c = ofContext context rate

theorem OpenedBy.laidOut {c : Connection} {r : ConnectRequest} {rate : TickRate}
    (h : c.OpenedBy r rate) : c.LaidOut (rate.exact1250Us r.winOffset.toNat)
      (rate.exact1250Us r.winSize.toNat) (rate.exact1250Us r.interval.toNat) := by
  obtain ⟨context, made, rfl⟩ := h
  obtain ⟨-, same⟩ := ConnectionContext.ofRequest_eq_ok made
  have offset : context.windowOffsetTicks rate = saturate (rate.exact1250Us r.winOffset.toNat) := by
    rw [same]
    exact rate.ticksFor1250Us_eq _
  have units : (r.winOffset.toUInt32 + r.winSize.toUInt32).toNat =
      r.winOffset.toNat + r.winSize.toNat := by
    have := r.winOffset.toNat_lt
    have := r.winSize.toNat_lt
    simp only [UInt32.toNat_add, UInt16.toNat_toUInt32, UInt8.toNat_toUInt32]
    omega
  have last : context.windowEndTicks rate = saturate
      (rate.exact1250Us r.winOffset.toNat + rate.exact1250Us r.winSize.toNat) := by
    rw [same, ← rate.exact1250Us_add, ← units]
    exact rate.ticksFor1250Us_eq _
  have interval : context.intervalTicks rate = saturate (rate.exact1250Us r.interval.toNat) := by
    rw [same]
    exact rate.ticksFor1250Us_eq _
  have ends : context.windowOffsetTicks rate ≤ context.windowEndTicks rate := by
    rw [offset, last]
    exact saturate_mono (Nat.le_add_right _ _)
  constructor
  case interval_eq => rw [← toNat_saturate, ← interval]; rfl
  case closing_eq =>
    -- The window's length is a difference of saturated counts, which leads back to the later one.
    rw [← toNat_saturate, ← last, ← toNat_min]
    exact congrArg UInt32.toNat (EventWindow.closing_within ends)
  case opening_eq =>
    rw [← toNat_saturate, ← offset, ← toNat_min]
    rfl

/-- A conversion saturates the exact count of ticks, whatever saturates on the way. So do the ends of
a connection's window and its interval, and the window is within the interval, no longer than was
asked for, and empty only if it has no length or would not open in time. -/
theorem ticks_saturate_once :
    (∀ (rate : TickRate) (n : UInt32),
      (rate.ticksForUs n).toNat = min (n.toNat * rate.ticksPerUs.toNat) 0xFFFFFFFF ∧
      (rate.ticksForMs n).toNat = min (n.toNat * 1000 * rate.ticksPerUs.toNat) 0xFFFFFFFF ∧
      (rate.ticksFor1250Us n).toNat = min (n.toNat * 1250 * rate.ticksPerUs.toNat) 0xFFFFFFFF ∧
      (rate.ticksFor10Ms n).toNat = min (n.toNat * 10000 * rate.ticksPerUs.toNat) 0xFFFFFFFF) ∧
    ∀ (r : ConnectRequest) (rate : TickRate) (c : Connection) (offset size interval : Nat),
      c.OpenedBy r rate → offset = r.winOffset.toNat * 1250 * rate.ticksPerUs.toNat →
      size = r.winSize.toNat * 1250 * rate.ticksPerUs.toNat →
      interval = r.interval.toNat * 1250 * rate.ticksPerUs.toNat →
        c.LaidOut offset size interval ∧
        c.window.opening ≤ c.window.closing ∧ c.window.closing ≤ c.intervalTicks ∧
        c.window.closing.toNat - c.window.opening.toNat ≤ size ∧
        (c.window.opening = c.window.closing ↔
          size = 0 ∨ c.intervalTicks.toNat ≤ min offset 0xFFFFFFFF ∨ 0xFFFFFFFF ≤ offset) := by
  constructor
  · intro rate n
    refine ⟨toNat_saturate _, ?_, ?_, ?_⟩
    · rw [TickRate.ticksForMs, rate.ticksForUs_saturate, toNat_saturate]
    · rw [TickRate.ticksFor1250Us, rate.ticksForUs_saturate, toNat_saturate]
    · rw [TickRate.ticksFor10Ms, rate.ticksForUs_saturate, toNat_saturate]
  · rintro r rate c _ _ _ opened rfl rfl rfl
    have laidOut := opened.laidOut
    exact ⟨laidOut, laidOut.opening_le, laidOut.closing_le, laidOut.length_le,
      laidOut.opening_eq_closing⟩

/-- At a thousand ticks per nanosecond a window of two units from the second unit on opens after an
exact count of ticks, closes at the largest count there is, and is so shorter than was asked for. -/
theorem ticks_saturate_once_of_fast :
    ∃ (r : ConnectRequest) (c : Connection), c.OpenedBy r ⟨1000000⟩ ∧
      c.window.opening.toNat = 2500000000 ∧ c.window.closing.toNat = 0xFFFFFFFF ∧
      c.intervalTicks = 0xFFFFFFFF ∧ r.winSize.toNat * 1250 * 1000000 = 2500000000 := by
  let r : ConnectRequest :=
    { initiator := .zero, advertiser := .zero, accessAddress := 0, crc := 0, winSize := 2,
      winOffset := 2, interval := 10, latency := 0, timeout := 20, mapField := 0x1FFFFFFFFF,
      hopSca := 7 }
  have several : 2 ≤ r.channelMap.channels.length := by decide
  obtain ⟨context, made⟩ : ∃ context, ConnectionContext.ofRequest r = .ok context :=
    ⟨_, by rw [ConnectionContext.ofRequest, UsedChannels.ofMap, dif_pos several]; rfl⟩
  have opened : (ofContext context ⟨1000000⟩).OpenedBy r ⟨1000000⟩ := ⟨context, made, rfl⟩
  obtain ⟨laidOut, -⟩ := ticks_saturate_once.2 r ⟨1000000⟩ _ 2500000000 2500000000 12500000000
    opened (by decide) (by decide) (by decide)
  have interval := laidOut.interval_eq
  have closing := laidOut.closing_eq
  have opening := laidOut.opening_eq
  refine ⟨r, _, opened, ?_, ?_, UInt32.toNat_inj.mp interval, by decide⟩ <;> omega

end Connection

end BlePeripheral
