import Pulsebeam.Agent.Delivery

/-! The topics of one agent: publishers with their queues and histories, subscribers with their cursors, and the sends
that wait for admission. -/

namespace Pulsebeam.Agent

open Pulsebeam.Lib

structure PendingSend where
  operation : OperationId
  generation : Generation
  channel : ChannelId
  admission : Option OperationId

structure QueuedMessage where
  message : WireMessage
  admission : Option OperationId

structure PublisherState where
  dataTrackId : Option String := none
  nextSequence : ℕ := 0
  history : List WireMessage := []
  queue : List QueuedMessage := []
  pending : Option PendingSend := none

structure SubscriberState where
  latest : OrdMap String ℕ := ∅
  lossy : OrdMap String LossyDelivery := ∅
  ordered : OrdMap String OrderedDelivery := ∅

structure CatalogBinding where
  topic : String
  mode : TopicMode
  participantId : String
  isLocal : Bool

def CatalogBinding.matchesSubscriber (b : CatalogBinding) (s : TopicSubscriber) : Bool :=
  !b.isLocal && b.topic == s.topic && b.mode == s.mode

structure ActiveTopics where
  generation : Generation
  canonicalParticipantId : String
  channels : OrdMap ChannelId TopicChannel := ∅
  channelSources : OrdMap ChannelId String := ∅
  suspended : OrdSet ChannelId := OrdSet.empty

structure AuxiliarySend where
  generation : Generation
  channel : ChannelId
  registration : TopicChannel

structure Admission where
  publisher : TopicPublisher
  payload : Option (List UInt8)
  generation : Option Generation
  binding : Option String
  timer : Option TimerId

structure TopicSend where
  publisher : TopicPublisher
  payload : List UInt8

structure TopicRegistrations where
  publishers : List TopicPublisher := []
  subscribers : List TopicSubscriber := []

structure TopicSource where
  channel : ChannelId
  registration : TopicChannel
  trackId : String
  participantId : String
  participantExternalId : String
  label : String
  delivery : Option TopicMode

-- The identifiers `ids` hands out next and all that was pushed so far are arguments of the operations in the source.
structure Topics where
  publishers : OrdMap TopicPublisher PublisherState := ∅
  subscribers : OrdMap TopicSubscriber SubscriberState := ∅
  registrations : TopicRegistrations := {}
  active : Option ActiveTopics := none
  catalog : OrdMap String CatalogBinding := ∅
  auxiliarySends : OrdMap OperationId AuxiliarySend := ∅
  admissions : OrdMap OperationId Admission := ∅
  ids : ℕ := 1
  trace : List Event := []

def PublisherState.forget (s : PublisherState) (ticket : OperationId) : PublisherState :=
  { s with
    queue := s.queue.filter fun m => m.admission ≠ some ticket
    pending := s.pending.map fun p => if p.admission = some ticket then { p with admission := none } else p }

def PublisherState.drops (s : PublisherState) (publisher : TopicPublisher) (reason : TopicDropReason) : List Event :=
  List.replicate (s.queue.length + s.pending.toList.length) (.sendDropped publisher reason)

def PublisherState.enqueue (s : PublisherState) (mode : TopicMode) (message : WireMessage)
    (admission : Option OperationId) : PublisherState :=
  { s with
    nextSequence := Word.saturatingAdd 64 s.nextSequence 1
    history :=
      if mode = .ordered then
        (if s.history.length = topicHistoryCapacity then s.history.tail else s.history) ++ [message]
      else s.history
    queue := (if mode = .latest then s.queue.dropLast else s.queue) ++ [⟨message, admission⟩] }

def PublisherState.replay (s : PublisherState) (fromSequence : ℕ) : Except TopicError (List Body) :=
  if s.nextSequence < fromSequence then .error .invalidControl
  else
    let floor := (s.history.head?.map (·.sequence)).getD s.nextSequence
    let messages := (s.history.filter fun m => fromSequence ≤ m.sequence).map Body.message
    if fromSequence < floor then
      match s.dataTrackId with
      | none => .error .invalidControl
      | some id => .ok (.floor id floor :: messages)
    else .ok messages

def SubscriberState.unbound (s : SubscriberState) (reason : TopicDropReason) : SubscriberState :=
  if reason = .transportReplaced then ⟨∅, ∅, s.ordered.mapValues fun _ d => d.clearPending⟩ else {}

def validTopic (topic : String) : Bool := !topic.isEmpty && topic.utf8ByteSize ≤ 256

namespace Topics

variable (t : Topics)

def push (e : Event) : Topics := { t with trace := t.trace ++ [e] }

def pushAll (es : List Event) : Topics := { t with trace := t.trace ++ es }

def recordDrop (publisher : TopicPublisher) (reason : TopicDropReason) : Topics :=
  t.push (.sendDropped publisher reason)

def activeIn (generation : Generation) : Option ActiveTopics := t.active.filter fun a => a.generation = generation

def channelForPublisher (publisher : TopicPublisher) : Option ChannelId :=
  t.active.bind fun a => (a.channels.entries.find? fun e => e.1 ∉ a.suspended ∧ e.2 = .publisher publisher).map Prod.fst

section Admission

variable (t : Topics)

def waitingDataSends (publisher : TopicPublisher) : ℕ :=
  (t.admissions.entries.filter fun e => e.2.publisher = publisher ∧ e.2.payload.isSome).length

def beginDataSend (send : TopicSend) : Topics :=
  let ticket := t.ids
  let timer := t.ids + 1
  push { t with
    ids := t.ids + 2
    admissions := t.admissions.insert ticket ⟨send.publisher, some send.payload, none, none, some timer⟩ }
    (.scheduleTimer timer)

def dispatchDataSend (ticket : OperationId) : Topics :=
  match t.admissions.get? ticket with
  | none => t
  | some a =>
    match a.timer with
    | none => t
    | some timer => push { t with admissions := t.admissions.insert ticket { a with timer := none } } (.cancelTimer timer)

def finishDataSend (ticket : OperationId) (error : Option DataSendFailure) : Topics :=
  match t.admissions.get? ticket with
  | none => t
  | some a =>
    let t := { t with
      admissions := t.admissions.erase ticket
      publishers := t.publishers.modify a.publisher (·.forget ticket) }
    let t :=
      match a.timer with
      | some timer => t.push (.cancelTimer timer)
      | none => t
    t.push (.dataSendFinished ticket error)

def finishAll (tickets : List OperationId) (error : DataSendFailure) : Topics :=
  tickets.foldl (fun t ticket => t.finishDataSend ticket (some error)) t

def failPublisherSends (publisher : TopicPublisher) (error : DataSendFailure) : Topics :=
  t.finishAll ((t.admissions.entries.filter fun e => e.2.publisher = publisher).map Prod.fst) error

def expireDataSend (timer : TimerId) : Topics :=
  match t.admissions.entries.find? fun e => e.2.timer = some timer with
  | none => t
  | some e => t.finishDataSend e.1 (some .timedOut)

end Admission

section Sending

variable (t : Topics)

def dispatchPublisher (publisher : TopicPublisher) : Topics :=
  match t.channelForPublisher publisher, t.active, t.publishers.get? publisher with
  | some channel, some active, some state =>
    if state.pending.isSome ∨ state.dataTrackId.isNone then t
    else
      match state.queue with
      | [] => t
      | next :: queue =>
        let operation := t.ids
        let pending := ⟨operation, active.generation, channel, next.admission⟩
        let t := { t with
          ids := t.ids + 1
          publishers := t.publishers.insert publisher { state with queue := queue, pending := some pending } }
        let t :=
          match next.admission with
          | some ticket => t.dispatchDataSend ticket
          | none => t
        t.push (.send operation active.generation channel (.message next.message))
  | _, _, _ => t

def emitAuxiliary (generation : Generation) (channel : ChannelId) (registration : TopicChannel)
    (body : Body) : Topics :=
  if topicSendQueueCapacity ≤ t.auxiliarySends.size then t
  else
    let operation := t.ids
    push { t with
      ids := t.ids + 1
      auxiliarySends := t.auxiliarySends.insert operation ⟨generation, channel, registration⟩ }
      (.send operation generation channel body)

def recordChannelFailure (channel : TopicChannel) (message : String) : Topics :=
  let t :=
    match channel with
    | .publisher publisher => t.failPublisherSends publisher .channelFailed
    | .subscriber _ => t
  t.push (.channelFailed channel message)

def recordAdmission (publisher : TopicPublisher) (message : WireMessage) : Topics :=
  push { t with ids := t.ids + 1 } (.sendAdmitted publisher t.ids message.dataTrackId message.sequence)

def enqueue (publisher : TopicPublisher) (state : PublisherState) (message : WireMessage)
    (admission : Option OperationId) : Topics :=
  let state' := state.enqueue publisher.mode message admission
  let t := push { t with publishers := t.publishers.insert publisher state' } (.queued admission message)
  let t := if publisher.mode = .latest ∧ state.queue ≠ [] then t.recordDrop publisher .superseded else t
  t.recordAdmission publisher message

def sendOwned (send : TopicSend) (admission : Option OperationId) : Topics × Except TopicError Unit :=
  let publisher := send.publisher
  if !validTopic publisher.topic then
    (t.recordDrop publisher .notRegistered, .error (.invalidTopic publisher.topic))
  else if maxTopicPayloadBytes < send.payload.length then
    (t.recordDrop publisher .invalidPayload, .error (.payloadTooLarge send.payload.length maxTopicPayloadBytes))
  else if publisher ∉ t.registrations.publishers then
    (t.recordDrop publisher .notRegistered, .error (.publisherNotRegistered publisher.topic))
  else
    match t.publishers.get? publisher with
    | none => (t.recordDrop publisher .channelUnavailable, .error (.publisherUnavailable publisher.topic))
    | some state =>
      match state.dataTrackId.filter fun _ => (t.channelForPublisher publisher).isSome with
      | none => (t.recordDrop publisher .channelUnavailable, .error (.publisherUnavailable publisher.topic))
      | some dataTrackId =>
        if state.nextSequence = Word.max 64 then
          (t.recordDrop publisher .sequenceExhausted, .error (.sequenceExhausted publisher.topic))
        else if topicSendQueueCapacity ≤
            state.queue.length + state.pending.toList.length + t.waitingDataSends publisher then
          (t.recordDrop publisher .queueFull, .error (.sendQueueFull publisher.topic))
        else
          let message := ⟨dataTrackId, state.nextSequence, send.payload⟩
          ((t.enqueue publisher state message admission).dispatchPublisher publisher, .ok ())

def send (t : Topics) (send : TopicSend) : Topics × Except TopicError Unit := t.sendOwned send none

def pendingPublisher (operation : OperationId) (generation : Generation) (channel : ChannelId) :
    Option TopicPublisher :=
  (t.publishers.entries.find? fun e => e.2.pending.any fun p =>
    p.operation = operation ∧ p.generation = generation ∧ p.channel = channel).map Prod.fst

def auxiliarySend (operation : OperationId) (generation : Generation) (channel : ChannelId) : Option AuxiliarySend :=
  (t.auxiliarySends.get? operation).filter fun p => p.generation = generation ∧ p.channel = channel

def handleSent (operation : OperationId) (generation : Generation) (channel : ChannelId) : Topics × Bool :=
  match t.auxiliarySend operation generation channel with
  | some _ => ({ t with auxiliarySends := t.auxiliarySends.erase operation }, true)
  | none =>
    match t.pendingPublisher operation generation channel with
    | none => (t, false)
    | some publisher =>
      let ticket := ((t.publishers.get? publisher).bind (·.pending)).bind (·.admission)
      let t := { t with publishers := t.publishers.modify publisher fun s => { s with pending := none } }
      let t :=
        match ticket with
        | some ticket => t.finishDataSend ticket none
        | none => t
      (t.dispatchPublisher publisher, true)

def handleSendFailed (operation : OperationId) (generation : Generation) (channel : ChannelId)
    (message : String) : Topics × Bool :=
  match t.auxiliarySend operation generation channel with
  | some p =>
    (recordChannelFailure { t with auxiliarySends := t.auxiliarySends.erase operation } p.registration message, true)
  | none =>
    match t.pendingPublisher operation generation channel with
    | none => (t, false)
    | some publisher =>
      let t := { t with publishers := t.publishers.modify publisher fun s => { s with pending := none } }
      let t := t.failPublisherSends publisher .hostRejected
      let t := t.recordDrop publisher .hostRejected
      let t := t.recordChannelFailure (.publisher publisher) message
      (t.dispatchPublisher publisher, true)

end Sending

section Progress

variable (t : Topics)

def holdsTicket (publisher : TopicPublisher) (ticket : OperationId) : Bool :=
  (t.publishers.get? publisher).any fun s =>
    s.pending.any (·.admission = some ticket) || s.queue.any (·.admission = some ticket)

def dataSendFailure (connectedIntent terminalFailure : Bool) (ticket : OperationId) (a : Admission) :
    Option DataSendFailure :=
  let generation := t.active.map (·.generation)
  let binding := (t.publishers.get? a.publisher).bind (·.dataTrackId)
  if !connectedIntent then some .disconnected
  else if terminalFailure then some .terminalFailure
  else if (a.generation.isSome ∧ a.generation ≠ generation) ∨ (a.binding.isSome ∧ a.binding ≠ binding) then
    some .transportReplaced
  else if a.generation.isSome ∧ t.channelForPublisher a.publisher = none then some .channelFailed
  else if a.payload.isNone ∧ !t.holdsTicket a.publisher ticket then some .superseded
  else none

def sendFailure : TopicError → DataSendFailure
  | .sendQueueFull _ => .queueFull
  | .sequenceExhausted _ => .sequenceExhausted
  | _ => .channelFailed

def progressDataSend (connectedIntent terminalFailure connected : Bool) (ticket : OperationId) : Topics :=
  match t.admissions.get? ticket with
  | none => t
  | some a =>
    match t.dataSendFailure connectedIntent terminalFailure ticket a with
    | some error => t.finishDataSend ticket (some error)
    | none =>
      let channel := t.channelForPublisher a.publisher
      let binding := (t.publishers.get? a.publisher).bind (·.dataTrackId)
      let a := { a with
        generation := if channel.isSome ∨ binding.isSome then t.active.map (·.generation) else a.generation
        binding := if binding.isSome then binding else a.binding }
      let t := { t with admissions := t.admissions.insert ticket a }
      if !connected ∨ channel = none ∨ binding = none then t
      else
        match a.payload with
        | none => t
        | some payload =>
          let t := { t with admissions := t.admissions.insert ticket { a with payload := none } }
          match t.sendOwned ⟨a.publisher, payload⟩ (some ticket) with
          | (t, .ok ()) => t
          | (t, .error error) => t.finishDataSend ticket (some (sendFailure error))

def supersededTickets : List OperationId :=
  (t.admissions.entries.filter fun e =>
    e.2.payload.isNone ∧ (t.publishers.get? e.2.publisher).isSome ∧ !t.holdsTicket e.2.publisher e.1).map Prod.fst

def progressDataSends (connectedIntent terminalFailure connected : Bool) : Topics :=
  let t := t.admissions.keys.foldl (fun t ticket => t.progressDataSend connectedIntent terminalFailure connected ticket) t
  t.finishAll t.supersededTickets .superseded

end Progress

section Sources

variable (t : Topics)

def bindPublisher (publisher : TopicPublisher) (trackId : String) : Topics :=
  let state := (t.publishers.get? publisher).getD {}
  let state :=
    if state.dataTrackId = some trackId then state
    else { state with history := [], nextSequence := 0, dataTrackId := some trackId }
  { t with publishers := t.publishers.insert publisher state }

def cursor (subscriber : TopicSubscriber) (id : String) : Option ℕ :=
  ((t.subscribers.get? subscriber).bind fun s => s.ordered.get? id).bind (·.nextSequence)

def ensureOrdered (subscriber : TopicSubscriber) (id : String) : Topics :=
  { t with subscribers := t.subscribers.modify subscriber fun s =>
      { s with ordered := s.ordered.insert id ((s.ordered.get? id).getD {}) } }

def installSource (generation : Generation) (source : TopicSource) : Topics :=
  match t.activeIn generation, source.delivery with
  | some active, some mode =>
    let newlyReady := source.channel ∈ active.suspended ∨ (active.channels.get? source.channel).isNone
    let t := { t with
      active := some { active with
        suspended := active.suspended.erase source.channel
        channels := active.channels.insert source.channel source.registration
        channelSources := active.channelSources.insert source.channel source.trackId }
      catalog := t.catalog.insert source.trackId
        ⟨source.label, mode, source.participantExternalId, source.participantId == active.canonicalParticipantId⟩ }
    match source.registration with
    | .publisher publisher => (t.bindPublisher publisher source.trackId).dispatchPublisher publisher
    | .subscriber subscriber =>
      if newlyReady ∧ mode = .ordered then
        let t := t.ensureOrdered subscriber source.trackId
        let cursor := t.cursor subscriber source.trackId
        t.emitAuxiliary generation source.channel (.subscriber subscriber)
          (.probe source.trackId (cursor.getD 0) cursor.isNone)
      else t
  | _, _ => t

def endSource (subscriber : TopicSubscriber) (source : String) : Topics :=
  { t with subscribers := t.subscribers.modify subscriber fun s =>
      ⟨s.latest.erase source, s.lossy.erase source, s.ordered.erase source⟩ }

def suspendSource (generation : Generation) (channel : ChannelId) : Topics :=
  match t.activeIn generation with
  | none => t
  | some active => { t with active := some { active with suspended := active.suspended.insert channel } }

def detachSubscriber (subscriber : TopicSubscriber) (source : String) (sourceEnded : Bool) : Topics :=
  { t with subscribers := t.subscribers.modify subscriber fun s =>
      ⟨s.latest.erase source, s.lossy.erase source,
        if sourceEnded then s.ordered.erase source else s.ordered.modify source (·.clearPending)⟩ }

def releaseSource (registration : Option TopicChannel) (source : Option String) (sourceEnded : Bool) : Topics :=
  match source with
  | none => t
  | some source =>
    let t := { t with catalog := t.catalog.erase source }
    match registration with
    | some (.subscriber subscriber) => t.detachSubscriber subscriber source sourceEnded
    | _ => t

def resetPublisher (publisher : TopicPublisher) : Topics :=
  match t.publishers.get? publisher with
  | none => t
  | some state =>
    let t := failPublisherSends { t with publishers := t.publishers.erase publisher } publisher .channelFailed
    let t := t.pushAll (state.drops publisher .channelClosed)
    { t with publishers := t.publishers.insert publisher {} }

def detachSource (generation : Generation) (channel : ChannelId) (sourceEnded : Bool) : Topics :=
  match t.activeIn generation with
  | none => t
  | some active =>
    let registration := active.channels.get? channel
    let source := active.channelSources.get? channel
    let t := { t with active := some { active with
      suspended := active.suspended.erase channel
      channels := active.channels.erase channel
      channelSources := active.channelSources.erase channel } }
    let t := t.releaseSource registration source sourceEnded
    match registration with
    | some (.publisher publisher) => t.resetPublisher publisher
    | _ => t

def remoteProbes (active : ActiveTopics) : List (ChannelId × TopicSubscriber × Body) :=
  active.channels.entries.flatMap fun e =>
    match e.2 with
    | .publisher _ => []
    | .subscriber subscriber =>
      if e.1 ∈ active.suspended ∨ subscriber.mode ≠ .ordered then []
      else
        (t.catalog.entries.filter fun c =>
          (active.channelSources.get? e.1).all (· == c.1) && c.2.matchesSubscriber subscriber).map fun c =>
            let cursor := t.cursor subscriber c.1
            (e.1, subscriber, .probe c.1 (cursor.getD 0) cursor.isNone)

def probeRemotePublishers : Topics :=
  match t.active with
  | none => t
  | some active => (t.remoteProbes active).foldl
      (fun t p => t.emitAuxiliary active.generation p.1 (.subscriber p.2.1) p.2.2) t

def unbind (reason : TopicDropReason) : Topics :=
  { t with
    active := none
    catalog := ∅
    auxiliarySends := ∅
    publishers := t.publishers.mapValues fun _ _ => {}
    subscribers := t.subscribers.mapValues fun _ s => s.unbound reason
    trace := t.trace ++ t.publishers.entries.flatMap fun e => e.2.drops e.1 reason }

def unbindGeneration (generation : Generation) (reason : TopicDropReason) : Topics :=
  match t.activeIn generation with
  | none => t
  | some _ => t.unbind reason

def endSession : Topics := t.unbind .channelClosed

def bindNative (generation : Generation) (canonicalParticipantId : String) : Topics :=
  let active := { generation := generation, canonicalParticipantId := canonicalParticipantId }
  { t.unbind .transportReplaced with active := some active }

def acceptRegistrations (registrations : TopicRegistrations) : Topics := { t with registrations := registrations }

def ensureAll {κ α : Type} [LinearOrder κ] (m : OrdMap κ α) (ks : List κ) (a : α) : OrdMap κ α :=
  ks.foldl (fun m k => m.insert k ((m.get? k).getD a)) m

def desires (registrations : TopicRegistrations) : TopicChannel → Bool
  | .publisher p => p ∈ registrations.publishers
  | .subscriber s => s ∈ registrations.subscribers

def reconcile (registrations : TopicRegistrations) : Topics :=
  { t with
    registrations := registrations
    publishers := ensureAll (t.publishers.retain fun p _ => p ∈ registrations.publishers) registrations.publishers {}
    subscribers := ensureAll (t.subscribers.retain fun s _ => s ∈ registrations.subscribers) registrations.subscribers {}
    active := t.active.map fun a => { a with channels := a.channels.retain fun _ r => desires registrations r }
    trace := t.trace ++ (t.publishers.entries.filter fun e => e.1 ∉ registrations.publishers).flatMap fun e =>
      e.2.drops e.1 .notRegistered }

def channelClosed (generation : Generation) (channel : ChannelId) : Topics × Bool :=
  match t.activeIn generation with
  | none => (t, false)
  | some active =>
    match active.channels.get? channel with
    | none => (t, false)
    | some registration =>
      if (active.channelSources.get? channel).isSome then
        ((t.detachSource generation channel false).recordChannelFailure registration "data channel closed", true)
      else
        let t := { t with active := some { active with channels := active.channels.erase channel } }
        let t :=
          match registration with
          | .publisher publisher =>
            match t.publishers.get? publisher with
            | none => t
            | some state =>
              let t := t.pushAll (state.drops publisher .channelClosed)
              { t with publishers := t.publishers.insert publisher {} }
          | .subscriber subscriber => { t with subscribers := t.subscribers.insert subscriber {} }
        (t.recordChannelFailure registration "data channel closed", true)

end Sources

section Messages

variable (t : Topics)

def deliver (subscriber : TopicSubscriber) (binding : CatalogBinding) (messages : List WireMessage) : Topics :=
  t.pushAll (messages.map fun m =>
    .message ⟨subscriber.topic, subscriber.mode, m.dataTrackId, m.sequence, binding.participantId, m.payload⟩)

def reportGap (subscriber : TopicSubscriber) (id : String) (binding : CatalogBinding) : Option (ℕ × ℕ) → Topics
  | some (expected, available) => t.push (.recoveryGap subscriber id binding.participantId expected available)
  | none => t

def respond (publisher : TopicPublisher) (state : PublisherState) (body : Body) : Except TopicError (List Body) :=
  if publisher.mode ≠ .ordered ∨ state.dataTrackId ≠ some body.dataTrackId then .error .invalidControl
  else
    match body with
    | .probe id fromSequence live =>
      if live then .ok [.frontier id state.nextSequence] else state.replay fromSequence
    | .nack _ fromSequence => state.replay fromSequence
    | _ => .error .invalidControl

def emitAll (generation : Generation) (channel : ChannelId) (registration : TopicChannel)
    (bodies : List Body) : Topics :=
  bodies.foldl (fun t body => t.emitAuxiliary generation channel registration body) t

def setSubscriber (subscriber : TopicSubscriber) (state : SubscriberState) : Topics :=
  { t with subscribers := t.subscribers.insert subscriber state }

def handleOrdered (generation : Generation) (channel : ChannelId) (subscriber : TopicSubscriber)
    (state : SubscriberState) (binding : CatalogBinding) (body : Body) : Topics × Except TopicError Bool :=
  let id := body.dataTrackId
  let delivery := (state.ordered.get? id).getD {}
  match delivery.receive body with
  | none => (t.setSubscriber subscriber { state with ordered := state.ordered.insert id delivery }, .error .invalidControl)
  | some (delivery, result, gap) =>
    let t := t.setSubscriber subscriber { state with ordered := state.ordered.insert id delivery }
    let t := t.reportGap subscriber id binding gap
    let t := t.deliver subscriber binding result.messages
    let t :=
      match result.nackFrom with
      | some fromSequence => t.emitAuxiliary generation channel (.subscriber subscriber) (.nack id fromSequence)
      | none => t
    (t, .ok true)

def handleSubscriber (generation : Generation) (channel : ChannelId) (subscriber : TopicSubscriber)
    (body : Body) : Topics × Except TopicError Bool :=
  let id := body.dataTrackId
  match (t.catalog.get? id).filter (·.matchesSubscriber subscriber), t.subscribers.get? subscriber with
  | some binding, some state =>
    match subscriber.mode, body with
    | .latest, .message m =>
      if (state.latest.get? id).all (· < m.sequence) then
        ((t.setSubscriber subscriber { state with latest := state.latest.insert id m.sequence }).deliver subscriber
          binding [m], .ok true)
      else (t, .ok true)
    | .lossy, .message m =>
      let (delivery, fresh) := ((state.lossy.get? id).getD {}).accept m.sequence
      let t := t.setSubscriber subscriber { state with lossy := state.lossy.insert id delivery }
      (if fresh then t.deliver subscriber binding [m] else t, .ok true)
    | .ordered, body => t.handleOrdered generation channel subscriber state binding body
    | _, _ => (t, .error .invalidControl)
  | _, _ => (t, .ok true)

def handleMessage (generation : Generation) (channel : ChannelId) (received : Received) :
    Topics × Except TopicError Bool :=
  match t.activeIn generation with
  | none => (t, .ok false)
  | some active =>
    match active.channels.get? channel with
    | none => (t, .error .unknownChannel)
    | some registration =>
      match received.decodeBounded with
      | .error _ => (t, .error .malformedMessage)
      | .ok body =>
        if (active.channelSources.get? channel).any (· != body.dataTrackId) then (t, .error .invalidControl)
        else
          match registration with
          | .publisher publisher =>
            match t.publishers.get? publisher with
            | none => (t, .error .invalidControl)
            | some state =>
              match respond publisher state body with
              | .error e => (t, .error e)
              | .ok bodies => (t.emitAll generation channel (.publisher publisher) bodies, .ok true)
          | .subscriber subscriber => t.handleSubscriber generation channel subscriber body

end Messages

end Topics

end Pulsebeam.Agent
