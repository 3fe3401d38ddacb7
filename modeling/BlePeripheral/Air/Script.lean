import BlePeripheral.Air.Peer

/-! Peers that follow a script: each time they are listened to they offer the next entry,
and nothing once the script is at its end. -/

namespace BlePeripheral

/-- What is offered at each listening; an entry without a delivery is silence. -/
abbrev Script := List (Option Delivery)

def Script.next : Script → Option Delivery × Script
  | [] => (none, [])
  | entry :: rest => (entry, rest)

/-- A peer with one script for the advertising channels and one for everything else. -/
structure ScriptedPeer where
  advertising : Script := []
  data : Script := []
deriving DecidableEq, Repr

instance : Peer ScriptedPeer where
  onListen peer _ accessAddress _ :=
    if accessAddress = advAccessAddress then
      let (delivery, rest) := Script.next peer.advertising
      ({ delivery }, { peer with advertising := rest })
    else
      let (delivery, rest) := Script.next peer.data
      ({ delivery }, { peer with data := rest })
  onTransmit peer _ _ _ _ := peer

structure ListenRecord where
  channel : UInt8
  accessAddress : UInt32
  now : Tick
deriving DecidableEq, Repr

structure RecordingPeer where
  script : Script := []
  listens : Array ListenRecord := #[]
deriving DecidableEq, Repr

instance : Peer RecordingPeer where
  onListen peer channel accessAddress now :=
    let (delivery, rest) := Script.next peer.script
    ({ delivery },
      { script := rest, listens := peer.listens.push { channel, accessAddress, now } })
  onTransmit peer _ _ _ _ := peer

end BlePeripheral
