import BlePeripheral.Advertising.Config
import BlePeripheral.Channel.Selector
import BlePeripheral.Connection.Context
import BlePeripheral.Link.Ack
import BlePeripheral.Link.Phase
import BlePeripheral.Time.Window

/-! A connection as it runs, and the state of a link that may have one. -/

namespace BlePeripheral

structure Connection where
  context : ConnectionContext
  selector : ChannelSelector
  ack : AckState := {}
  /-- The tick from which the current connection event is counted. -/
  anchor : Tick := 0
  intervalTicks : UInt32
  window : EventWindow
  supervisionTicks : UInt32
  /-- The tick of the last accepted PDU. -/
  lastRx : Tick := 0
  /-- Windows that stayed silent since the last accepted PDU. -/
  missed : UInt32 := 0
  eventCounter : UInt16 := 0
deriving DecidableEq, Repr

namespace Connection

/-- A connection that has not begun: one hop has been made, and nothing has been heard. -/
def ofContext (context : ConnectionContext) (rate : TickRate) : Connection :=
  let offset := context.windowOffsetTicks rate
  let size := UInt32.ofNat ((context.windowEndTicks rate).toNat - offset.toNat)
  let interval := context.intervalTicks rate
  { context
    selector := ChannelSelector.next { used := context.used, hop := context.hopIncrement }
    intervalTicks := interval
    window := EventWindow.within offset size interval
    supervisionTicks := context.supervisionTicks rate }

def channel (c : Connection) : UInt8 := c.selector.current

def nextEvent (c : Connection) : Connection :=
  { c with
    anchor := c.anchor + c.intervalTicks
    eventCounter := c.eventCounter + 1
    selector := c.selector.next }

end Connection

inductive LinkState where
  | advertising
  | connectRequest (connection : Connection)
  | connected (connection : Connection)
deriving DecidableEq, Repr

namespace LinkState

def phase : LinkState → LinkPhase
  | advertising => .advertising
  | connectRequest _ => .connectRequest
  | connected _ => .connected

def connection? : LinkState → Option Connection
  | advertising => none
  | connectRequest c | connected c => some c

def isConnected : LinkState → Bool
  | connected _ => true
  | _ => false

end LinkState

end BlePeripheral
