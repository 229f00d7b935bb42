import Pulsebeam.Lib.Bytes
import Pulsebeam.Lib.OrdMap
import Pulsebeam.Lib.OrdSet
import Pulsebeam.Lib.Word

/-! Data channels over one SCTP association. Channels are installed, opened, reset and closed on streams that are used again
and again; each use has its own lifetime, and what is queued for the application is tested against it when it is delivered. -/

namespace Pulsebeam.Sctp

open Lib Lib.Bytes

abbrev StreamId := Fin 65536

abbrev DataChannelId := Fin 65536

instance streamIdNeZero : NeZero 65536 := ⟨by decide⟩

abbrev Context := Vector UInt8 32

abbrev Nanos := ℕ

structure DataChannelInstallation where
  context : Context
  channel : DataChannelId
  lifetime : ℕ
  deriving DecidableEq

inductive DataReliability
  | reliable
  | maxRetransmits (count : UInt16)
  | maxLifetime (lifetime : Nanos)
  deriving DecidableEq

structure DataChannelConfig where
  id : Option DataChannelId
  label : String
  protocol : String
  ordered : Bool
  reliability : DataReliability
  priority : UInt16
  negotiated : Bool
  deriving DecidableEq

inductive DataMessage
  | text (bytes : List UInt8)
  | binary (bytes : List UInt8)
  deriving DecidableEq

inductive DataChannelEvent
  | opened (channel : DataChannelId) (config : DataChannelConfig)
  | message (channel : DataChannelId) (message : DataMessage)
  | installationFailed (installation : DataChannelInstallation)
  | closed (channel : DataChannelId)
  | resetComplete (channel : DataChannelId)
  | resetFailed (channel : DataChannelId)
  deriving DecidableEq

inductive WriteError
  | unknownDataChannel (channel : DataChannelId)
  | invalidState
  | resetPending
  | messageTooLarge
  | wouldBlock
  deriving DecidableEq

/-! ### The native socket -/

abbrev PpId := UInt32

inductive SocketState
  | closed
  | connecting
  | connected
  | shuttingDown
  deriving DecidableEq

structure Message where
  streamId : StreamId
  ppid : PpId
  payload : List UInt8
  /-- What the payload's buffer takes, which is what a queued event retains. -/
  capacity : ℕ

structure SendOptions where
  unordered : Bool := false
  lifetime : Option Nanos := none
  maxRetransmissions : Option UInt16 := none
  lifecycleId : Option ℕ := none

inductive SendError
  | messageTooLarge
  | resourceExhaustion
  | emptyPayload
  | shuttingDown

inductive ResetStreamsError
  | notConnected
  | notSupported

inductive SocketEvent
  | sendPacket (packet : List UInt8) (capacity : ℕ)
  | onClosed
  | onAborted
  | onStreamsResetFailed (streams : List StreamId)
  | onStreamsResetPerformed (streams : List StreamId)
  | onIncomingStreamReset (streams : List StreamId)
  | onLifecycleEnd (id : ℕ)
  /-- Connected, restarted, error, buffered amounts and the other lifecycle notices, which are all ignored. -/
  | onOther

structure Metrics where
  negotiatedMaximumIncomingStreams : ℕ
  negotiatedMaximumOutgoingStreams : ℕ

/-- The socket and the storage an association draws on. Nothing is known about what either answers. -/
class Native (σ : Type) where
  state : σ → SocketState
  getMetrics : σ → Option Metrics
  pollEvent : σ → Option SocketEvent × σ
  getNextMessage : σ → Option Message × σ
  send : σ → StreamId → PpId → List UInt8 → SendOptions → Except SendError Unit × σ
  resetStreams : σ → List StreamId → Except ResetStreamsError Unit × σ
  setStreamPriority : σ → StreamId → UInt16 → σ
  handleInput : σ → List UInt8 → σ
  advanceTime : σ → Nanos → σ
  connect : σ → σ
  shutdown : σ → σ
  close : σ → σ
  /-- Whether the bytes and the queue slots asked for fit. -/
  reserve : σ → Bool × σ
  /-- The slots an enlarged queue gets beyond those it needs. -/
  spare : σ → ℕ

def dcepPpid : PpId := 50

def textPpid : PpId := 51

def binaryPpid : PpId := 53

def emptyTextPpid : PpId := 56

def emptyBinaryPpid : PpId := 57

def dcepAck : UInt8 := 0x02

def dcepOpen : UInt8 := 0x03

def maxWorkPerCall : ℕ := 256

def channelNotifications : ℕ := 3

def resetBytes : ℕ := 8

def configLeaseBytes : ℕ := 8

def sctpMtu : ℕ := 1191

def dcepOpenHeaderBytes : ℕ := 12

def u16Max : ℕ := 65535

def u32Max : ℕ := 4294967295

def usizeMax : ℕ := Word.max 64

def maxDcepMessageBytes : ℕ := dcepOpenHeaderBytes + 2 * u16Max

def asMillis (d : Nanos) : ℕ := d / 1000000

def fromMillis (n : ℕ) : Nanos := n * 1000000

namespace Message

-- An empty message is sent with one byte that stands for nothing.
def empty (m : Message) : Bool := decide (m.ppid = emptyTextPpid ∨ m.ppid = emptyBinaryPpid)

def bytes (m : Message) : List UInt8 := if m.empty then [] else m.payload

def retainedPayloadBytes (m : Message) : ℕ := if m.empty then 0 else m.capacity

def data (m : Message) : DataMessage :=
  if m.ppid = binaryPpid ∨ m.ppid = emptyBinaryPpid then .binary m.bytes else .text m.bytes

end Message

def following (s : StreamId) : Option StreamId := if h : s.val + 1 < 65536 then some ⟨s.val + 1, h⟩ else none

def firstFrom {α : Type} (m : OrdMap StreamId α) (cursor : StreamId) : Option StreamId :=
  m.keys.find? fun s => decide (cursor ≤ s)

/-! ### The open message -/

def encodeDcepOpen (config : DataChannelConfig) : List UInt8 :=
  let kind : UInt8 := match config.reliability with
    | .reliable => 0
    | .maxRetransmits _ => 1
    | .maxLifetime _ => 2
  let parameter : UInt32 := match config.reliability with
    | .reliable => 0
    | .maxRetransmits count => count.toUInt32
    | .maxLifetime lifetime => UInt32.ofNat (min (asMillis lifetime) u32Max)
  let word (x : UInt16) : List UInt8 := [(be16 x).1, (be16 x).2]
  let label := config.label.toUTF8.toList
  let protocol := config.protocol.toUTF8.toList
  [dcepOpen, kind ||| if config.ordered then 0 else 0x80] ++ word config.priority ++
    [(be32 parameter).1, (be32 parameter).2.1, (be32 parameter).2.2.1, (be32 parameter).2.2.2] ++
    word (UInt16.ofNat (min label.length u16Max)) ++ word (UInt16.ofNat (min protocol.length u16Max)) ++ label ++ protocol

def decodeUtf8 (bytes : List UInt8) : Option String := String.fromUTF8? (ByteArray.mk bytes.toArray)

def decodeDcepOpen : List UInt8 → Option DataChannelConfig
  | b0 :: b1 :: b2 :: b3 :: b4 :: b5 :: b6 :: b7 :: b8 :: b9 :: b10 :: b11 :: body =>
    if b0 ≠ dcepOpen ∨ b1 &&& 0x7c ≠ 0 then none
    else
      let labelLen := (ofBe16 b8 b9).toNat
      let protocolLen := (ofBe16 b10 b11).toNat
      if body.length ≠ labelLen + protocolLen then none
      else
        let parameter := ofBe32 b4 b5 b6 b7
        let reliability : Option DataReliability :=
          if b1 &&& 0x03 = 0 ∧ parameter = 0 then some .reliable
          else if b1 &&& 0x03 = 1 ∧ parameter.toNat ≤ u16Max then some (.maxRetransmits parameter.toUInt16)
          else if b1 &&& 0x03 = 2 then some (.maxLifetime (fromMillis parameter.toNat))
          else none
        match reliability, decodeUtf8 (body.take labelLen), decodeUtf8 (body.drop labelLen) with
        | some reliability, some label, some protocol =>
          some ⟨none, label, protocol, b1 &&& 0x80 = 0, reliability, max (ofBe16 b2 b3) 1, false⟩
        | _, _, _ => none
  | _ => none

def sendOptions (config : DataChannelConfig) (lifecycleId : ℕ) : SendOptions :=
  let options : SendOptions := { unordered := !config.ordered, lifecycleId := some lifecycleId }
  match config.reliability with
  | .reliable => options
  | .maxRetransmits count => { options with maxRetransmissions := some count }
  | .maxLifetime lifetime => { options with lifetime := some lifetime }

def mapSendError : SendError → WriteError
  | .messageTooLarge => .messageTooLarge
  | .resourceExhaustion => .wouldBlock
  | .emptyPayload => .invalidState
  | .shuttingDown => .invalidState

/-! ### The association -/

inductive ChannelState
  | opening
  | opened
  | closing
  deriving DecidableEq

structure Channel where
  lifetime : ℕ
  id : DataChannelId
  stream : StreamId
  config : DataChannelConfig
  state : ChannelState
  reservedEvents : ℕ := channelNotifications
  openedEmitted : Bool := false
  openedAt : Option Nanos := none
  closedEmitted : Bool := false
  sentMessages : ℕ := 0
  receivedMessages : ℕ := 0

structure ResetState where
  incoming : Bool := false
  outgoing : Bool := false
  failed : Bool := false
  notificationReserved : Bool := false

structure BufferedMessage where
  lifetime : ℕ
  bytes : ℕ

structure QueuedEvent where
  lifetime : ℕ
  event : DataChannelEvent
  retainedPayloadBytes : ℕ := 0

inductive Entry
  | closedQueued (lifetime : ℕ)
  | delivered (lifetime : ℕ) (event : DataChannelEvent)
  deriving DecidableEq

inductive Mark
  | admitted (stream : StreamId) (lifetime : ℕ)
  | closing (stream : StreamId)
  | incoming (stream : StreamId)
  | resetAll
  | outgoing (stream : StreamId)
  | failed (stream : StreamId)
  | drained
  deriving DecidableEq

structure ConfigLease where
  owner : ℕ
  bytes : ℕ
  deriving DecidableEq

def configBytes (config : DataChannelConfig) : ℕ :=
  configLeaseBytes + config.label.utf8ByteSize + config.protocol.utf8ByteSize

def Channel.lease (c : Channel) : ConfigLease := ⟨c.lifetime, configBytes c.config⟩

def Channel.markClosed (c : Channel) : Channel :=
  { c with closedEmitted := true, reservedEvents := c.reservedEvents - if c.openedEmitted then 0 else 1 }

def QueuedEvent.lease (q : QueuedEvent) : Option ConfigLease :=
  match q.event with
  | .opened _ config => some ⟨q.lifetime, configBytes config⟩
  | _ => none

structure Books where
  futureEvents : ℕ := 0
  resetRuntimeBytes : ℕ := 0
  configRuntimeBytes : ℕ := 0
  outgoingPacketBytes : ℕ := 0
  eventsCapacity : ℕ := 0
  underflowed : Bool := false

namespace Books

def cancelEvents (b : Books) (n : ℕ) : Books :=
  { b with futureEvents := b.futureEvents - n, underflowed := b.underflowed || decide (b.futureEvents < n) }

def freeResets (b : Books) (n : ℕ) : Books :=
  { b with
    resetRuntimeBytes := b.resetRuntimeBytes - n * resetBytes
    underflowed := b.underflowed || decide (b.resetRuntimeBytes < n * resetBytes) }

def releaseConfig (b : Books) (lease : ConfigLease) (held : Bool) : Books :=
  if held then b
  else
    { b with
      configRuntimeBytes := b.configRuntimeBytes - lease.bytes
      underflowed := b.underflowed || decide (b.configRuntimeBytes < lease.bytes) }

def releaseIdleEvents (b : Books) (queued : ℕ) : Books :=
  if queued = 0 ∧ b.futureEvents = 0 then { b with eventsCapacity := 0 } else b

def commit (b : Books) (queued slots spare : ℕ) : Books :=
  let required := queued + b.futureEvents + slots
  { b with
    eventsCapacity :=
      if required = 0 then 0 else if required ≤ b.eventsCapacity then b.eventsCapacity else required + spare }

def pushBack (b : Books) (queued : ℕ) : Books :=
  if queued < b.eventsCapacity then b else { b with eventsCapacity := max (2 * b.eventsCapacity) 4 }

def admitChannel (b : Books) (config : DataChannelConfig) (queued spare : ℕ) : Books :=
  let b := { b with
    resetRuntimeBytes := b.resetRuntimeBytes + resetBytes
    configRuntimeBytes := b.configRuntimeBytes + configBytes config }.commit queued channelNotifications spare
  { b with futureEvents := b.futureEvents + channelNotifications }

def check (b : Books) (ok : Bool) : Books := { b with underflowed := b.underflowed || !ok }

end Books

structure ConnectionLimits where
  maxInboundDataMessageBytes : ℕ
  maxBufferedDataBytes : ℕ

structure SctpSessionFacts where
  unlimitedMessageSize : Bool
  maxMessageSize : Option ℕ
  passive : Bool

structure Association (σ : Type) where
  context : Context
  socket : σ
  origin : Nanos
  now : Nanos
  localStreamParity : ℕ
  maxInboundSctpMessageBytes : ℕ
  maxInboundMessageBytes : ℕ
  peerMaxMessageBytes : ℕ
  maxOutboundMessageBytes : ℕ
  maxBufferedBytes : ℕ
  channels : OrdMap StreamId Channel := ∅
  pendingInstallations : OrdMap StreamId Channel := ∅
  installationCursor : Option StreamId := none
  outgoing : List (List UInt8 × ℕ) := []
  events : List QueuedEvent := []
  lifecycles : OrdMap ℕ BufferedMessage := ∅
  nextLifecycle : ℕ := 1
  nextChannelLifetime : ℕ := 1
  resetting : OrdMap StreamId ResetState := ∅
  readyResets : OrdSet StreamId := .empty
  resetAllCursor : Option StreamId := none
  declaredCursor : Option StreamId := none
  bufferedPayloadBytes : ℕ := 0
  queuedInboundPayloadBytes : ℕ := 0
  shutdownDeadline : Option Nanos := none
  stopped : Bool := false
  nativeDrainExhausted : Bool := false
  /-- The entries in the order in which they came about, which the association itself does not keep. -/
  history : List Entry := []
  log : List Mark := []
  books : Books := {}
  inbound_le : queuedInboundPayloadBytes ≤ maxBufferedBytes

def receiveMessageBytes (limits : ConnectionLimits) : ℕ := max limits.maxInboundDataMessageBytes maxDcepMessageBytes

def bufferLimits (limits : ConnectionLimits) : Option (ℕ × ℕ) :=
  let receiveWindow := max (receiveMessageBytes limits + sctpMtu) limits.maxBufferedDataBytes
  let sendBuffer := limits.maxBufferedDataBytes + maxDcepMessageBytes
  if receiveWindow > u32Max ∨ sendBuffer > u32Max then none else some (receiveWindow, sendBuffer)

namespace Association

variable {σ : Type}

def new (facts : SctpSessionFacts) (limits : ConnectionLimits) (acceptedAt : Nanos) (context : Context) (socket : σ) :
    Option (Association σ) :=
  match bufferLimits limits with
  | none => none
  | some _ =>
    let peerMax := if facts.unlimitedMessageSize then usizeMax else facts.maxMessageSize.getD (64 * 1024)
    some
      { context := context
        socket := socket
        origin := acceptedAt
        now := acceptedAt
        localStreamParity := if facts.passive then 1 else 0
        maxInboundSctpMessageBytes := receiveMessageBytes limits
        maxInboundMessageBytes := limits.maxInboundDataMessageBytes
        peerMaxMessageBytes := peerMax
        maxOutboundMessageBytes := min peerMax limits.maxBufferedDataBytes
        maxBufferedBytes := limits.maxBufferedDataBytes
        inbound_le := Nat.zero_le _ }

variable [Native σ] (a : Association σ)

def channel (stream : StreamId) : Option Channel := a.channels.get? stream

def onChannel (stream : StreamId) (f : Channel → Channel) : Association σ :=
  { a with channels := a.channels.modify stream f }

def onReset (stream : StreamId) (f : ResetState → ResetState) : Association σ :=
  { a with resetting := a.resetting.modify stream f }

def validateChannelConfig (config : DataChannelConfig) : Bool :=
  let openBytes := dcepOpenHeaderBytes + config.label.utf8ByteSize + config.protocol.utf8ByteSize
  let tooLong := match config.reliability with
    | .maxLifetime lifetime => decide (asMillis lifetime > u32Max)
    | _ => false
  !(decide (config.label.utf8ByteSize > u16Max) || decide (config.protocol.utf8ByteSize > u16Max) ||
    decide (openBytes > maxDcepMessageBytes) || (!config.negotiated && decide (openBytes > a.peerMaxMessageBytes)) || tooLong)

def allocateChannelLifetime : Option (ℕ × Association σ) :=
  if a.nextChannelLifetime = 0 then none
  else
    some (a.nextChannelLifetime,
      { a with nextChannelLifetime := if a.nextChannelLifetime = Word.max 64 then 0 else a.nextChannelLifetime + 1 })

def holds (channels pending : OrdMap StreamId Channel) (events : List QueuedEvent) (lifetime : ℕ) : Bool :=
  (channels.entries.any fun e => e.2.lifetime == lifetime) || (pending.entries.any fun e => e.2.lifetime == lifetime) ||
    events.any fun q => q.lease.any (·.owner == lifetime)

def clearPackets : Association σ := { a with outgoing := [], books := { a.books with outgoingPacketBytes := 0 } }

def clearChannels : Association σ :=
  let forget (b : Books) (e : StreamId × Channel) : Books :=
    (b.cancelEvents e.2.reservedEvents).releaseConfig e.2.lease (holds ∅ ∅ a.events e.2.lifetime)
  { a with
    declaredCursor := none
    installationCursor := none
    pendingInstallations := ∅
    channels := ∅
    books := ((a.pendingInstallations.entries ++ a.channels.entries).foldl forget
      (a.books.freeResets a.pendingInstallations.size)).releaseIdleEvents a.events.length }

def discardInstallation (stream : StreamId) (notify : Bool) : Association σ :=
  match a.pendingInstallations.get? stream with
  | none => a
  | some channel =>
    let pending := a.pendingInstallations.erase stream
    let failed : QueuedEvent := ⟨channel.lifetime, .installationFailed ⟨a.context, channel.id, channel.lifetime⟩, 0⟩
    let books := ((a.books.cancelEvents channel.reservedEvents).freeResets 1).releaseConfig channel.lease
      (holds a.channels pending a.events channel.lifetime)
    { a with
      pendingInstallations := pending
      installationCursor := if pending.entries.isEmpty then none else a.installationCursor
      events := if notify then a.events ++ [failed] else a.events
      books := if notify then (books.pushBack a.events.length).releaseIdleEvents (a.events.length + 1)
        else books.releaseIdleEvents a.events.length }

def retirePendingLoop : ℕ → Association σ → Association σ
  | 0, a => if a.pendingInstallations.entries.isEmpty then { a with installationCursor := none } else a
  | n + 1, a =>
    match a.pendingInstallations.keys.head? with
    | none => { a with installationCursor := none }
    | some stream => retirePendingLoop n (a.discardInstallation stream true)

def retirePendingInstallations : Association σ := retirePendingLoop maxWorkPerCall a

def queueResetCompletion (stream : StreamId) : Association σ :=
  if (a.resetting.get? stream).any fun reset => reset.incoming && reset.outgoing && !reset.failed then
    { a with readyResets := a.readyResets.insert stream }
  else a

def spare : ℕ := Native.spare a.socket

def reserve : Bool × Association σ := ((Native.reserve a.socket).1, { a with socket := (Native.reserve a.socket).2 })

def sendOn (stream : StreamId) (ppid : PpId) (payload : List UInt8) (options : SendOptions) :
    Except SendError Unit × Association σ :=
  ((Native.send a.socket stream ppid payload options).1,
    { a with socket := (Native.send a.socket stream ppid payload options).2 })

def resetStreams (streams : List StreamId) : Except ResetStreamsError Unit × Association σ :=
  ((Native.resetStreams a.socket streams).1, { a with socket := (Native.resetStreams a.socket streams).2 })

def state : SocketState := Native.state a.socket

def setStreamPriority (stream : StreamId) (weight : UInt16) : Association σ :=
  { a with socket := Native.setStreamPriority a.socket stream weight }

def advanceTime (now : Nanos) : Association σ :=
  { a with now := max a.now now, socket := Native.advanceTime a.socket (now - a.origin) }

def streamCapacity : Option ℕ :=
  if a.stopped ∨ a.state ≠ .connected then none
  else
    (Native.getMetrics a.socket).map fun metrics =>
      min metrics.negotiatedMaximumIncomingStreams metrics.negotiatedMaximumOutgoingStreams

def beyondCapacity (stream : StreamId) : Bool :=
  match a.streamCapacity with
  | none => true
  | some capacity => decide (capacity ≤ stream.val)

def allocateStream : Option StreamId :=
  match a.streamCapacity with
  | none => none
  | some capacity =>
    (List.finRange 65536).find? fun stream =>
      decide (a.localStreamParity ≤ stream.val) && decide (stream.val < capacity) &&
        decide ((stream.val - a.localStreamParity) % 2 = 0) && (a.channels.get? stream).isNone &&
          (a.pendingInstallations.get? stream).isNone && (a.resetting.get? stream).isNone

def collapse : Association σ :=
  let a := clearChannels (clearPackets { a with socket := Native.close a.socket })
  { a with
    lifecycles := ∅
    books := { a.books with resetRuntimeBytes := a.resetting.size * resetBytes }
    bufferedPayloadBytes := 0
    stopped := true }

def closing (lifetime : ℕ) : DataChannelEvent → List Entry
  | .closed _ => [.closedQueued lifetime]
  | _ => []

/-- `push_event` of a notice, which retains no payload; that of a message is `pushMessage`. -/
def pushNotice (id : DataChannelId) (event : DataChannelEvent) : Association σ :=
  match a.channel id with
  | none => a
  | some entry =>
    if entry.reservedEvents = 0 then a.collapse
    else if a.reserve.1 then
      { a.reserve.2.onChannel id fun c => { c with reservedEvents := c.reservedEvents - 1 } with
        events := a.events ++ [⟨entry.lifetime, event, 0⟩]
        books := ((a.books.commit a.events.length 0 a.spare).cancelEvents 1).pushBack a.events.length
        history := a.history ++ closing entry.lifetime event }
    else a.reserve.2.collapse

def emitOpened (stream : StreamId) : Association σ :=
  match a.channel stream with
  | none => a
  | some c =>
    if c.openedEmitted then a
    else
      (a.onChannel stream fun c => { c with openedEmitted := true, openedAt := some a.now }).pushNotice c.id
        (.opened c.id { c.config with id := some c.id })

def emitClosed (stream : StreamId) : Association σ :=
  match a.channel stream with
  | none => a
  | some c =>
    if c.closedEmitted then a
    else
      -- An opening that was never announced gives its slot back.
      let canceled := if c.openedEmitted then 0 else 1
      { a.onChannel stream Channel.markClosed with
        books := (a.books.check (decide (canceled ≤ c.reservedEvents))).cancelEvents canceled
        log := a.log ++ [Mark.closing stream] }.pushNotice c.id (.closed c.id)

def closeAllChannels : Association σ :=
  let a := a.retirePendingInstallations
  a.channels.keys.foldl emitClosed a

def abortAssociation : Association σ :=
  { closeAllChannels (clearPackets { a with socket := Native.close a.socket }) with stopped := true }

def enforceShutdownDeadline (now : Nanos) : Association σ :=
  if a.shutdownDeadline.any (fun deadline => decide (deadline ≤ now)) && !a.stopped then a.abortAssociation else a

def pushResetOutcome (stream : StreamId) (success : Bool) : Association σ :=
  let event : DataChannelEvent := if success then .resetComplete stream else .resetFailed stream
  if (a.channels.get? stream).isSome then a.pushNotice stream event
  else if (a.resetting.get? stream).any (·.notificationReserved) then
    -- No admitted lifetime is zero, so that a channel that comes later hides this notice.
    { a.onReset stream ({ · with notificationReserved := false }) with
      events := a.events ++ [⟨0, event, 0⟩]
      books := (a.books.cancelEvents 1).pushBack a.events.length }
  else a

def failReset (stream : StreamId) : Association σ :=
  match a.resetting.get? stream with
  | none => a
  | some reset =>
    if reset.failed then a
    else
      let a := a.onReset stream ({ · with failed := true })
      let a := { a with readyResets := a.readyResets.erase stream, log := a.log ++ [Mark.failed stream] }
      (a.pushResetOutcome stream false).discardInstallation stream true

def removeChannel (stream : StreamId) : Association σ :=
  let channels := a.channels.erase stream
  { a with
    channels := channels
    books := match a.channels.get? stream with
      | none => a.books
      | some c => (a.books.cancelEvents c.reservedEvents).releaseConfig c.lease
          (holds channels a.pendingInstallations a.events c.lifetime) }

def releaseIdleEvents : Association σ := { a with books := a.books.releaseIdleEvents a.events.length }

def rejectDeclared (stream : StreamId) : Association σ :=
  let a := a.emitClosed stream
  let a := { a with resetting := a.resetting.insert stream {} }.failReset stream
  (a.removeChannel stream).releaseIdleEvents

def startReset (stream : StreamId) (notificationReserved : Bool) : Except WriteError Unit × Association σ :=
  let a := a.emitClosed stream
  if a.stopped then (.error .invalidState, a)
  else
    let a := { a with
      resetting := a.resetting.insert stream
        { incoming := a.resetAllCursor.isSome, notificationReserved := notificationReserved } }
    match (a.resetStreams [stream]).1 with
    | .ok _ => (.ok (), (a.resetStreams [stream]).2)
    | .error _ => (.error .invalidState, (a.resetStreams [stream]).2.failReset stream)

def fundReset : Association σ :=
  let books := a.books.commit a.events.length 1 a.spare
  { a.reserve.2 with
    books := { books with
      futureEvents := books.futureEvents + 1
      resetRuntimeBytes := books.resetRuntimeBytes + resetBytes } }

def beginReset (stream : StreamId) : Except WriteError Unit × Association σ :=
  if a.stopped then (.error .invalidState, a)
  else
    match a.resetting.get? stream with
    | some reset => (if reset.failed then .error .invalidState else .ok (), a)
    | none =>
      match a.channel stream with
      | some c =>
        if c.config.negotiated ∧ c.state = .opening then (.error .invalidState, a.rejectDeclared stream)
        else (a.onChannel stream ({ · with state := .closing })).startReset stream false
      | none =>
        if a.reserve.1 then a.fundReset.startReset stream true
        else (.error .wouldBlock, a.reserve.2.abortAssociation)

def closeStream (stream : StreamId) : Association σ := (a.beginReset stream).2

def incomingReset (stream : StreamId) : Association σ :=
  let a := (a.beginReset stream).2
  if (a.resetting.get? stream).isSome then (a.onReset stream ({ · with incoming := true })).queueResetCompletion stream
  else a

def pushMessage (id : DataChannelId) (message : DataMessage) (retained : ℕ) : Bool × Association σ :=
  match a.channel id with
  | none => (false, a)
  | some entry =>
    if h : a.queuedInboundPayloadBytes + retained ≤ a.maxBufferedBytes then
      if a.reserve.1 then
        (true, { a.reserve.2 with
          queuedInboundPayloadBytes := a.queuedInboundPayloadBytes + retained
          events := a.events ++ [⟨entry.lifetime, .message id message, retained⟩]
          books := (a.books.commit a.events.length 1 a.spare).pushBack a.events.length
          inbound_le := h })
      else (false, a.reserve.2.closeStream id)
    else (false, a.closeStream id)

def activateInstallation (stream : StreamId) : Association σ :=
  if a.stopped ∨ a.shutdownDeadline.isSome ∨ a.resetAllCursor.isSome ∨ a.state ≠ .connected ∨
      (a.resetting.get? stream).isSome then a
  else if a.beyondCapacity stream then a.discardInstallation stream true
  else
    match a.pendingInstallations.get? stream with
    | none => a
    | some channel =>
      let pending := a.pendingInstallations.erase stream
      { a.setStreamPriority stream channel.config.priority with
        pendingInstallations := pending
        channels := a.channels.insert stream { channel with state := .opened }
        installationCursor := if pending.entries.isEmpty then none else a.installationCursor
        log := a.log ++ [Mark.admitted stream channel.lifetime] }.emitOpened stream

def visitInstallation : Association σ :=
  match a.installationCursor with
  | none => a
  | some cursor =>
    if a.state ≠ .connected ∧ a.shutdownDeadline.isNone then a
    else
      match firstFrom a.pendingInstallations cursor with
      | none => { a with installationCursor := none }
      | some stream =>
        let a := { a with installationCursor := following stream }
        if a.shutdownDeadline.isSome then a.discardInstallation stream true else a.activateInstallation stream

def activateDeclared (stream : StreamId) : Association σ :=
  if a.resetAllCursor.isSome ∨ a.shutdownDeadline.isSome ∨ a.stopped then a
  else
    match a.channel stream with
    | none => a
    | some channel =>
      if ¬channel.config.negotiated ∨ channel.state ≠ .opening then a
      else
        match a.streamCapacity with
        | none => a
        | some capacity =>
          if capacity ≤ stream.val then a.rejectDeclared stream
          else
            ((a.setStreamPriority stream channel.config.priority).onChannel stream
              ({ · with state := .opened })).emitOpened stream

def visitDeclared : Association σ :=
  match a.declaredCursor with
  | none => a
  | some cursor =>
    if a.resetAllCursor.isSome ∨ a.state ≠ .connected then a
    else
      match firstFrom a.channels cursor with
      | none => { a with declaredCursor := none }
      | some stream =>
        let visited :=
          if a.shutdownDeadline.isSome then
            if (a.channel stream).any fun c => c.config.negotiated && decide (c.state = .opening) then
              a.rejectDeclared stream
            else a
          else a.activateDeclared stream
        { visited with declaredCursor := following stream }

def nextToReset (cursor : StreamId) : Option StreamId :=
  ((firstFrom a.channels cursor).toList ++ (firstFrom a.resetting cursor).toList ++
    (firstFrom a.pendingInstallations cursor).toList).min?

def visitResetAll : Association σ :=
  match a.resetAllCursor with
  | none => a
  | some cursor =>
    match a.nextToReset cursor with
    | none => { a with resetAllCursor := none }
    | some stream =>
      let a := a.discardInstallation stream true
      let a := if (a.channels.get? stream).isSome ∨ (a.resetting.get? stream).isSome then a.incomingReset stream else a
      { a with resetAllCursor := following stream }

def finishReset (stream : StreamId) : Association σ :=
  let a := a.removeChannel stream
  { a with resetting := a.resetting.erase stream, books := a.books.freeResets 1 }

def completeLoop : ℕ → Association σ → Association σ
  | 0, a => { a with nativeDrainExhausted := !a.readyResets.isEmpty }
  | n + 1, a =>
    match a.readyResets.elems with
    | [] => a
    | stream :: _ =>
      let a := { a with readyResets := a.readyResets.erase stream }.pushResetOutcome stream true
      completeLoop n ((a.finishReset stream).activateInstallation stream).releaseIdleEvents

def completeResets : Association σ := completeLoop maxWorkPerCall a

def acceptOpen (stream : StreamId) (payload : List UInt8) : Association σ :=
  if stream.val % 2 = a.localStreamParity ∨ (a.resetting.get? stream).isSome then a.closeStream stream
  else if ¬a.reserve.1 then a.reserve.2.closeStream stream
  else
    let a := a.reserve.2
    match decodeDcepOpen payload with
    | none => a.closeStream stream
    | some config =>
      if ¬a.reserve.1 then a.reserve.2.closeStream stream
      else
        match a.reserve.2.allocateChannelLifetime with
        | none => a.reserve.2.closeStream stream
        | some (lifetime, a) =>
          let a := a.setStreamPriority stream config.priority
          let a := { a with
            channels := a.channels.insert stream
              { lifetime := lifetime, id := stream, stream := stream, config := config, state := .opened }
            books := a.books.admitChannel config a.events.length a.spare
            log := a.log ++ [Mark.admitted stream lifetime] }
          (a.sendOn stream dcepPpid [dcepAck] {}).2.emitOpened stream

def handleDcep (stream : StreamId) (payload : List UInt8) : Association σ :=
  if a.resetAllCursor.isSome then a
  else
    let a := a.activateInstallation stream
    if payload = [dcepAck] then
      match a.channel stream with
      | some c =>
        if c.state = .opening ∧ ¬c.config.negotiated then
          (a.onChannel stream ({ · with state := .opened })).emitOpened stream
        else a
      | none => a
    else if payload.head? = some dcepOpen then
      match a.channel stream with
      | some c => if c.state = .opened then (a.sendOn stream dcepPpid [dcepAck] {}).2 else a
      | none => a.acceptOpen stream payload
    else a.closeStream stream

def acceptMessage (message : Message) : Association σ :=
  let stream := message.streamId
  match a.channel stream with
  | none => a.closeStream stream
  | some channel =>
    if a.resetAllCursor.isSome ∨ channel.state ≠ .opened then a
    else
      if message.bytes.length > a.maxInboundMessageBytes then a.closeStream stream
      else
        match a.pushMessage channel.id message.data message.retainedPayloadBytes with
        | (true, a) =>
          a.onChannel stream fun c => { c with receivedMessages := Word.saturatingAdd 64 c.receivedMessages 1 }
        | (false, a) => a

def handleMessage (message : Message) : Association σ :=
  let stream := message.streamId
  if a.stopped then a
  else if message.payload.length > a.maxInboundSctpMessageBytes then a.closeStream stream
  else if message.ppid = dcepPpid then
    if message.payload.length > maxDcepMessageBytes then a.closeStream stream else a.handleDcep stream message.payload
  else if message.ppid ∈ [textPpid, binaryPpid, emptyTextPpid, emptyBinaryPpid] then
    let a := a.activateInstallation stream
    let a := if a.declaredCursor.isSome then a.activateDeclared stream else a
    a.acceptMessage message
  else a.closeStream stream

def performReset (stream : StreamId) : Association σ :=
  if (a.resetting.get? stream).isSome then
    { a.onReset stream ({ · with outgoing := true }) with log := a.log ++ [Mark.outgoing stream] }.queueResetCompletion stream
  else a

def reportIncoming (stream : StreamId) : Association σ :=
  let a := a.incomingReset stream
  { a with log := a.log ++ [Mark.incoming stream] }

def handleSocketEvent : SocketEvent → Bool × Association σ
  | .sendPacket packet capacity =>
    if a.stopped then (true, a.abortAssociation)
    else if a.reserve.1 then
      (false, { a.reserve.2 with
        outgoing := a.outgoing ++ [(packet, capacity)]
        books := { a.books with outgoingPacketBytes := a.books.outgoingPacketBytes + capacity } })
    else (true, a.reserve.2.abortAssociation)
  | .onClosed => (true, { a.closeAllChannels with stopped := true })
  | .onAborted => (true, { a.closeAllChannels with stopped := true })
  | .onStreamsResetFailed streams => (false, streams.foldl failReset a)
  | .onStreamsResetPerformed streams => (false, streams.foldl performReset a)
  | .onIncomingStreamReset streams =>
    (false,
      if streams.isEmpty then { a with resetAllCursor := some 0, log := a.log ++ [Mark.resetAll] }
      else streams.foldl reportIncoming a)
  | .onLifecycleEnd id =>
    (false, match a.lifecycles.get? id with
      | none => a
      | some message =>
        { a with lifecycles := a.lifecycles.erase id, bufferedPayloadBytes := a.bufferedPayloadBytes - message.bytes })
  | .onOther => (false, a)

def visiting : Bool :=
  a.resetAllCursor.isSome ||
    (a.installationCursor.isSome && (decide (a.state = .connected) || a.shutdownDeadline.isSome)) ||
      (a.declaredCursor.isSome && decide (a.state = .connected))

def pollSocketEvent : Option SocketEvent × Association σ :=
  ((Native.pollEvent a.socket).1, { a with socket := (Native.pollEvent a.socket).2 })

-- Data that comes before the peer's stream counts are known stays in the socket.
def nextMessage (a : Association σ) : Option Message × Association σ :=
  if a.state = .connecting then (none, a)
  else ((Native.getNextMessage a.socket).1, { a with socket := (Native.getNextMessage a.socket).2 })

def drainEvent : Option SocketEvent → Bool × Association σ
  | none => (false, a)
  | some event => a.handleSocketEvent event

def drainLoop : ℕ → Association σ → Association σ
  | 0, a => { a with nativeDrainExhausted := !a.stopped }
  | n + 1, a =>
    match (visitDeclared (visitInstallation (visitResetAll a))).pollSocketEvent with
    | (event, a) =>
      match a.drainEvent event with
      | (true, a) => { a with nativeDrainExhausted := !a.stopped }
      | (false, a) =>
        let connecting := decide (a.state = .connecting)
        match a.nextMessage with
        | (some message, a) => drainLoop n (a.handleMessage message)
        | (none, a) =>
          if event.isSome ∨ a.visiting then drainLoop n a
          else if connecting then a
          else { a with log := a.log ++ [Mark.drained] }.completeResets

def drainSocket : Association σ := drainLoop maxWorkPerCall { a with nativeDrainExhausted := false }

/-! ### What the connection calls -/

def connect (now : Nanos) : Association σ :=
  if a.stopped ∨ a.state ≠ .closed then a
  else
    let a := a.advanceTime now
    { a with socket := Native.connect a.socket }.drainSocket

def openAdmission (now : Nanos) (config : DataChannelConfig) : Except WriteError (StreamId × ℕ) × Association σ :=
  let connected := decide (a.state = .connected)
  if a.stopped ∨ (¬connected ∧ (¬config.negotiated ∨ config.id.isNone ∨ a.shutdownDeadline.isSome)) then
    (.error .invalidState, a)
  else if a.resetAllCursor.isSome then (.error .wouldBlock, a)
  else
    match config.id.or a.allocateStream with
    | none => (.error .wouldBlock, a)
    | some stream =>
      if stream.val = u16Max ∨ (connected ∧ a.beyondCapacity stream) then (.error .invalidState, a)
      else if (a.resetting.get? stream).any (!·.failed) then (.error .resetPending, a)
      else if (a.channels.get? stream).isSome ∨ (a.pendingInstallations.get? stream).isSome ∨
          (a.resetting.get? stream).isSome then (.error .invalidState, a)
      else if ¬a.validateChannelConfig config then (.error .invalidState, a)
      else if ¬a.reserve.1 then (.error .wouldBlock, a.reserve.2)
      else
        match a.reserve.2.allocateChannelLifetime with
        | none => (.error .wouldBlock, a.reserve.2)
        | some (lifetime, a) =>
          let a := if connected then a.setStreamPriority stream config.priority else a
          let a := a.advanceTime now
          if config.negotiated then (.ok (stream, lifetime), a)
          else
            match a.sendOn stream dcepPpid (encodeDcepOpen config) {} with
            | (.error error, a) => (.error (mapSendError error), a)
            | (.ok _, a) => (.ok (stream, lifetime), a)

def openChannel (now : Nanos) (config : DataChannelConfig) :
    Except (WriteError × DataChannelConfig) Unit × Association σ :=
  let connected := decide (a.state = .connected)
  match a.openAdmission now config with
  | (.error reason, a) => (.error (reason, config), a)
  | (.ok (stream, lifetime), a) =>
    let a := { a with
      channels := a.channels.insert stream
        { lifetime := lifetime
          id := config.id.getD stream
          stream := stream
          config := config
          state := if config.negotiated && connected then .opened else .opening }
      books := a.books.admitChannel config a.events.length a.spare
      log := a.log ++ [Mark.admitted stream lifetime] }
    (.ok (),
      if config.negotiated && connected then a.emitOpened stream
      else if config.negotiated then
        { a with declaredCursor := some ((a.declaredCursor.map (min · stream)).getD stream) }
      else a.drainSocket)

def installAdmission (config : DataChannelConfig) : Except WriteError (StreamId × ℕ) × Association σ :=
  if a.stopped ∨ a.shutdownDeadline.isSome ∨ a.resetAllCursor.isSome ∨ ¬config.negotiated then (.error .invalidState, a)
  else
    match config.id with
    | none => (.error .invalidState, a)
    | some stream =>
      if stream.val = u16Max ∨ a.streamCapacity.any (fun capacity => decide (capacity ≤ stream.val)) ∨
          (a.pendingInstallations.get? stream).isSome ∨ (a.resetting.get? stream).any (·.failed) ∨
          ((a.channels.get? stream).isSome ∧ (a.resetting.get? stream).isNone) then (.error .invalidState, a)
      else if ¬a.validateChannelConfig config then (.error .invalidState, a)
      else if ¬a.reserve.1 then (.error .wouldBlock, a.reserve.2)
      else
        match a.reserve.2.allocateChannelLifetime with
        | none => (.error .wouldBlock, a.reserve.2)
        | some (lifetime, a) => (.ok (stream, lifetime), a)

def install (now : Nanos) (config : DataChannelConfig) :
    Except (WriteError × DataChannelConfig) DataChannelInstallation × Association σ :=
  match a.installAdmission config with
  | (.error reason, a) => (.error (reason, config), a)
  | (.ok (stream, lifetime), a) =>
    let a := a.advanceTime now
    let a := { a with
      pendingInstallations := a.pendingInstallations.insert stream
        { lifetime := lifetime, id := stream, stream := stream, config := config, state := .opening }
      books := a.books.admitChannel config a.events.length a.spare
      installationCursor :=
        if a.state ≠ SocketState.connected then some ((a.installationCursor.map (min · stream)).getD stream)
        else a.installationCursor }
    (.ok ⟨a.context, stream, lifetime⟩, a.activateInstallation stream)

def cancelInstallation (now : Nanos) (installation : DataChannelInstallation) :
    Except WriteError Unit × Association σ :=
  let stream := installation.channel
  if a.context ≠ installation.context then (.ok (), a)
  else if (a.pendingInstallations.get? stream).any (·.lifetime = installation.lifetime) then
    (.ok (), a.discardInstallation stream false)
  else if (a.channels.get? stream).any (·.lifetime = installation.lifetime) then
    match (a.advanceTime now).beginReset stream with
    | (result, a) => (result, a.drainSocket)
  else (.ok (), a)

def frame : DataMessage → PpId × List UInt8
  | .text bytes => if bytes.isEmpty then (emptyTextPpid, [0]) else (textPpid, bytes)
  | .binary bytes => if bytes.isEmpty then (emptyBinaryPpid, [0]) else (binaryPpid, bytes)

def payloadBytes : DataMessage → ℕ
  | .text bytes => bytes.length
  | .binary bytes => bytes.length

def sendAdmission (now : Nanos) (channel : DataChannelId) (message : DataMessage) :
    Except WriteError (StreamId × ℕ) × Association σ :=
  match a.channel channel with
  | none => (.error (.unknownDataChannel channel), a)
  | some entry =>
    if a.stopped ∨ a.resetAllCursor.isSome ∨ entry.state ≠ .opened then (.error .invalidState, a)
    else if payloadBytes message > a.maxOutboundMessageBytes ∨ max (payloadBytes message) 1 > a.peerMaxMessageBytes then
      (.error .messageTooLarge, a)
    else if a.bufferedPayloadBytes + payloadBytes message > a.maxBufferedBytes then (.error .wouldBlock, a)
    else if ¬a.reserve.1 then (.error .wouldBlock, a.reserve.2)
    else if a.nextLifecycle = 0 then (.error .wouldBlock, a.reserve.2)
    else
      match (a.reserve.2.advanceTime now).sendOn entry.stream (frame message).1 (frame message).2
          (sendOptions entry.config a.nextLifecycle) with
      | (.error error, a) => (.error (mapSendError error), a)
      | (.ok _, a) => (.ok (entry.stream, entry.lifetime), a)

def send (now : Nanos) (channel : DataChannelId) (message : DataMessage) :
    Except (WriteError × DataMessage) Unit × Association σ :=
  match a.sendAdmission now channel message with
  | (.error reason, a) => (.error (reason, message), a)
  | (.ok (stream, lifetime), a) =>
    let a := { a with
      nextLifecycle := if a.nextLifecycle = Word.max 64 then 0 else a.nextLifecycle + 1
      bufferedPayloadBytes := a.bufferedPayloadBytes + payloadBytes message
      lifecycles := a.lifecycles.insert a.nextLifecycle ⟨lifetime, payloadBytes message⟩ }
    (.ok (), (a.onChannel stream fun c =>
      { c with sentMessages := Word.saturatingAdd 64 c.sentMessages 1 }).drainSocket)

def closeChannel (now : Nanos) (id : DataChannelId) : Except WriteError Unit × Association σ :=
  let pending := (a.pendingInstallations.get? id).isSome
  let a := a.discardInstallation id true
  match a.channel id with
  | none => (if pending then .ok () else .error (.unknownDataChannel id), a)
  | some _ =>
    match (a.advanceTime now).beginReset id with
    | (result, a) => (result, a.drainSocket)

def handleInput (now : Nanos) (packet : List UInt8) : Association σ :=
  if a.stopped then a
  else
    let a := a.advanceTime now
    { a with socket := Native.handleInput a.socket packet }.drainSocket

def eligible (queued : QueuedEvent) : Bool :=
  let delivery (id : DataChannelId) : Bool :=
    !a.stopped && a.resetAllCursor.isNone &&
      (a.channel id).any fun c => decide (c.lifetime = queued.lifetime) && decide (c.state = .opened)
  let notice (id : DataChannelId) : Bool := (a.channel id).all fun c => decide (c.lifetime = queued.lifetime)
  match queued.event with
  | .opened id _ => delivery id
  | .message id _ => delivery id
  | .closed id => notice id
  | .resetComplete id => notice id
  | .resetFailed id => notice id
  | .installationFailed _ => true

def popEvent (queued : QueuedEvent) (rest : List QueuedEvent) : Association σ :=
  let books := a.books.releaseIdleEvents rest.length
  { a with
    events := rest
    books := match queued.lease with
      | none => books
      | some lease => books.releaseConfig lease (holds a.channels a.pendingInstallations rest lease.owner)
    queuedInboundPayloadBytes := a.queuedInboundPayloadBytes - queued.retainedPayloadBytes
    inbound_le := (Nat.sub_le _ _).trans a.inbound_le }

def pollLoop : ℕ → Association σ → Option DataChannelEvent × Association σ
  | 0, a => (none, a)
  | n + 1, a =>
    match a.events with
    | [] => (none, a)
    | queued :: rest =>
      let a := a.popEvent queued rest
      if a.eligible queued then
        (some queued.event, { a with history := a.history ++ [.delivered queued.lifetime queued.event] })
      else pollLoop n a

def pollEvent (now : Nanos) : Option DataChannelEvent × Association σ :=
  let a := if a.stopped then a else ((a.advanceTime now).drainSocket).enforceShutdownDeadline now
  let a := if a.stopped then a.retirePendingInstallations else a
  pollLoop maxWorkPerCall a

def pollPacket : Option (List UInt8) × Association σ :=
  match a.outgoing with
  | [] => (none, a)
  | (packet, capacity) :: rest =>
    (some packet,
      { a with
        outgoing := rest
        books := { a.books.check (decide (capacity ≤ a.books.outgoingPacketBytes)) with
          outgoingPacketBytes := a.books.outgoingPacketBytes - capacity } })

def beginShutdown (now deadline : Nanos) : Association σ :=
  if a.stopped then a
  else
    let a := a.advanceTime now
    let a := { a with
      installationCursor := a.pendingInstallations.keys.head?
      shutdownDeadline := some deadline
      socket := Native.shutdown a.socket }
    a.drainSocket.enforceShutdownDeadline now

def dropEvents (channels pending : OrdMap StreamId Channel) : List QueuedEvent → Books → Books
  | [], b => b
  | q :: rest, b =>
    dropEvents channels pending rest (match q.lease with
      | none => b
      | some lease => b.releaseConfig lease (holds channels pending rest lease.owner))

def abort : Association σ :=
  let a := if a.stopped then a else { a with socket := Native.close a.socket }
  let a := clearPackets a
  let a := clearChannels
    { a with events := [], books := dropEvents a.channels a.pendingInstallations a.events a.books }
  let books := (a.books.cancelEvents (a.resetting.countIf (·.notificationReserved))).releaseIdleEvents 0
  { a with
    books := { books with resetRuntimeBytes := 0 }
    lifecycles := ∅
    resetting := ∅
    readyResets := .empty
    resetAllCursor := none
    bufferedPayloadBytes := 0
    queuedInboundPayloadBytes := 0
    stopped := true
    inbound_le := Nat.zero_le _ }

end Association

end Pulsebeam.Sctp
