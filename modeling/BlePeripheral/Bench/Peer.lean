import BlePeripheral.Air.Central
import BlePeripheral.Air.Script

/-! The peers a link can be tried out against. -/

namespace BlePeripheral

inductive BenchPeer where
  | scripted (peer : ScriptedPeer)
  | central (peer : Central)
deriving DecidableEq, Repr

namespace BenchPeer

def queue (advertising data : Script) : BenchPeer → BenchPeer
  | scripted peer =>
    scripted { advertising := peer.advertising ++ advertising, data := peer.data ++ data }
  | central peer => central peer

end BenchPeer

instance : Peer BenchPeer where
  onListen peer channel accessAddress now :=
    match peer with
    | .scripted p =>
      let (reply, p) := Peer.onListen p channel accessAddress now
      (reply, .scripted p)
    | .central p =>
      let (reply, p) := Peer.onListen p channel accessAddress now
      (reply, .central p)
  onTransmit peer pdu channel accessAddress now :=
    match peer with
    | .scripted p => .scripted (Peer.onTransmit p pdu channel accessAddress now)
    | .central p => .central (Peer.onTransmit p pdu channel accessAddress now)

end BlePeripheral
