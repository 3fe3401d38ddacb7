import BlePeripheral.Air.World
import BlePeripheral.Link.Connection
import BlePeripheral.Link.Event

/-! The link layer of a peripheral. A step is one advertising event, one connection set-up or
one connection event:

    advertising -> connect request -> connected -> advertising

A connection request addressed to this device opens a connection, the first frame on it
establishes it, and it ends when the peer asks for that or has been silent for too long. -/

namespace BlePeripheral

structure Link where
  config : LinkConfig
  prepared : PreparedPdus
  controls : ControlTable := {}
  state : LinkState := .advertising
  advIndex : Fin 3 := 0
  lastAdv : Option Tick := none

namespace Link

open LinkM

variable {P : Type} [Peer P]

/-- Encodes the advertising PDUs, tunes the radio to the advertising channels and says so.
The only obstacle is advertising data that does not fit. -/
def start (config : LinkConfig) (controls : ControlTable) (radio : Radio P) :
    Except LinkError (Link × World P) := do
  let prepared ← config.prepare
  return ({ config, prepared, controls },
    { radio := radio.configure advAccessAddress advCrcInit config.phy
      notices := #[.advertisingAs config.address config.mode config.advIntervalMs] })

def advChannel (index : Fin 3) : UInt8 := UInt8.ofNat (37 + index.val)

def answerScan (link : Link) (scanner : DeviceAddress) (channel : UInt8) (receivedAt : Tick) :
    LinkM P (LinkEvent × Link) := do
  match link.prepared.scanResponse with
  | none => return (.ignored (some .scanReq), link)
  | some scanResponse =>
    if link.config.mode.pduType.isScannable then
      waitUntil receivedAt link.config.tickRate.interFrameSpace
      send scanResponse channel
      note (.scanAnswered scanner channel)
      return (.scanResponseSent channel scanner, link)
    else
      return (.ignored (some .scanReq), link)

def contextNotices (c : ConnectionContext) : List Notice :=
  (if c.intervalInRange then [] else [.intervalOutOfRange c.interval]) ++
    (if c.hopInRange then [] else [.hopOutOfRange c.hopIncrement])

def acceptConnect (link : Link) (request : ConnectRequest) : LinkM P (LinkEvent × Link) := do
  if link.config.mode.pduType.isConnectable then
    match ConnectionContext.ofRequest request with
    | .error error =>
      note (.connectRejected request.initiator error)
      return (.connectionRejected request.initiator error, link)
    | .ok context =>
      noteAll (contextNotices context)
      note (.connectAccepted context)
      let connection := Connection.ofContext context link.config.tickRate
      return (.connectRequested request.initiator context.accessAddress connection.channel,
        { link with state := .connectRequest connection })
  else
    return (.ignored (some .connectReq), link)

/-- Reacts to a frame received after an advertisement. Only the two requests, and only those
addressed to this device, come to anything. -/
def answer (link : Link) (channel : UInt8) (frame : RxFrame) : LinkM P (LinkEvent × Link) := do
  match AdvPdu.ofBytes frame.bytes with
  | .error defect =>
    let error := LinkError.malformedFrame defect
    note (.advFrameDiscarded error)
    return (.frameDiscarded error, link)
  | .ok (.scanRequest _ request) =>
    if request.advertiser = link.config.address then
      link.answerScan request.initiator channel frame.timestamp
    else
      return (.ignored (some .scanReq), link)
  | .ok (.connectRequest _ request) =>
    if request.advertiser = link.config.address then
      link.acceptConnect request
    else
      return (.ignored (some .connectReq), link)
  | .ok (.advertisement header _) => return (.ignored (some header.pduType), link)

def advertisedAt (link : Link) (now : Tick) : Link :=
  { link with advIndex := link.advIndex + 1, lastAdv := some now }

/-- Sends the advertisement on the next channel and, unless it is only broadcast, listens for
an answer. -/
def advertiseNow (link : Link) : LinkM P (LinkEvent × Link) := do
  let channel := advChannel link.advIndex
  let now ← readClock
  let next := link.advertisedAt now
  send link.prepared.advertisement channel
  if link.config.mode = .nonConnectable then
    return (.advertised channel, next)
  receive channel
  let opened ← readClock
  match ← listen opened (link.config.tickRate.ticksForUs link.config.advRxWindowUs) with
  | none => return (.advertised channel, next)
  | some frame =>
    note (.frameReceived channel frame.timestamp frame.bytes)
    next.answer channel frame

def advertise (link : Link) : LinkM P (LinkEvent × Link) :=
  match link.lastAdv with
  | none => link.advertiseNow
  | some last => do
    waitUntil last (link.config.tickRate.ticksForMs link.config.advIntervalMs)
    link.advertiseNow

/-- Acknowledges by an empty PDU; two bytes always hold it. -/
def sendAck (ack : AckState) (channel : UInt8) : LinkM P Unit := do
  match Frame.written (Frame.encodeData ack.responseHeader [] (Frame.blank headerSize)) with
  | .ok pdu => send pdu channel
  | .error _ => return

/-- Waits for the first frame of a connection, for as long as it takes, and acknowledges it
whatever it holds. The connection is counted from that acknowledgment. -/
def establish (link : Link) (connection : Connection) : LinkM P (LinkEvent × Link) := do
  let channel := connection.channel
  let context := connection.context
  configure context.accessAddress context.crcInit link.config.phy
  receive channel
  let frame ← waitForFrame
  note (.frameReceived channel frame.timestamp frame.bytes)
  let ack := connection.ack.afterFrame frame.bytes
  waitUntil frame.timestamp link.config.tickRate.interFrameSpace
  sendAck ack channel
  let anchor ← readClock
  note (.connected context.initiator channel context.accessAddress)
  return (.connected context.accessAddress channel,
    { link with state := .connected { connection with ack, anchor, lastRx := anchor } })

def tearDown (link : Link) : LinkM P Unit := do
  idle
  configure advAccessAddress advCrcInit link.config.phy

/-- Ends the connection if the peer has been silent for longer than the supervision timeout;
otherwise the event stands. -/
def supervise (link : Link) (connection : Connection) (event : LinkEvent) :
    LinkM P (LinkEvent × Link) := do
  let now ← readClock
  let elapsed := elapsedSince now connection.lastRx
  if elapsed ≤ connection.supervisionTicks then
    return (event, { link with state := .connected connection })
  let error := LinkError.supervisionTimeout elapsed connection.supervisionTicks
  note (.connectionLost connection.missed error)
  link.tearDown
  return (.connectionLost error, { link with state := .advertising })

def control (link : Link) (connection : Connection) (pdu : ControlPdu) :
    LinkM P ControlAction := do
  note (.controlReceived pdu connection.eventCounter)
  dispatch link.controls pdu connection.context

/-- Acknowledges a well-formed PDU and hands it on if it is a new control PDU. -/
def acceptData (link : Link) (connection : Connection) (channel : UInt8) (timestamp : Tick)
    (pdu : DataPdu) : LinkM P (LinkEvent × Link) := do
  let ack := connection.ack.afterReceive pdu.header
  waitUntil timestamp link.config.tickRate.interFrameSpace
  sendAck ack channel
  let isNew := connection.ack.isNew pdu.header
  let request? := connection.ack.newControl? pdu
  let connection := { connection with ack, missed := 0, lastRx := timestamp }
  let received := (LinkEvent.dataReceived channel pdu.header.llid pdu.payload.length !isNew,
    { link with state := .connected connection })
  match request? with
  | none => return received
  | some request =>
    match ← link.control connection request with
    | .keepConnection => return received
    | .terminate =>
      note (.connectionTerminated request.terminateReason?)
      link.tearDown
      return (.terminated request.terminateReason?, { link with state := .advertising })

/-- Waits for the next anchor and for the window after it to open, and listens on the next
channel until the window closes. -/
def hear (connection : Connection) : LinkM P (Option RxFrame) := do
  waitUntil connection.anchor connection.intervalTicks
  let next := connection.nextEvent
  waitUntil next.anchor next.window.opening
  receive next.channel
  listen next.anchor next.window.closing

def react (link : Link) (connection : Connection) : Option RxFrame → LinkM P (LinkEvent × Link)
  | none => do
    let connection := { connection with missed := connection.missed + 1 }
    let error := LinkError.windowMiss connection.eventCounter
    note (.windowMissed error connection.channel connection.missed)
    link.supervise connection (.eventMissed error connection.missed)
  | some frame => do
    note (.frameReceived connection.channel frame.timestamp frame.bytes)
    -- Whatever is well-formed on a data channel is a data PDU, so there is none to ignore.
    match DataPdu.ofBytes frame.bytes with
    | .error defect =>
      let error := LinkError.malformedFrame defect
      note (.dataFrameDiscarded error)
      link.supervise connection (.frameDiscarded error)
    | .ok pdu => link.acceptData connection connection.channel frame.timestamp pdu

def connectionEvent (link : Link) (connection : Connection) : LinkM P (LinkEvent × Link) := do
  let heard ← hear connection
  link.react connection.nextEvent heard

def act (link : Link) : LinkM P (LinkEvent × Link) :=
  match link.state with
  | .advertising => link.advertise
  | .connectRequest connection => link.establish connection
  | .connected connection => link.connectionEvent connection

def step (link : Link) : LinkM P (LinkEvent × Link) := do
  let (event, next) ← link.act
  if link.state.phase ≠ next.state.phase then
    note (.phaseChanged link.state.phase next.state.phase)
  return (event, next)

def run : Nat → Link → LinkM P Link
  | 0, link => return link
  | n + 1, link => do
    let (_, link) ← link.step
    run n link

end Link

end BlePeripheral
