import Pulsebeam.Lib.Run
import Pulsebeam.Rtc.Sctp

/-! The association as a machine. Its calls are made of parts; what every part keeps, every run keeps. -/

namespace Pulsebeam.Sctp

open Lib

variable {σ : Type} [Native σ]

inductive Next : σ → σ → Prop
  | pollEvent (s : σ) : Next s (Native.pollEvent s).2
  | getNextMessage (s : σ) : Next s (Native.getNextMessage s).2
  | send (s : σ) (stream : StreamId) (ppid : PpId) (payload : List UInt8) (options : SendOptions) :
      Next s (Native.send s stream ppid payload options).2
  | resetStreams (s : σ) (streams : List StreamId) : Next s (Native.resetStreams s streams).2
  | setStreamPriority (s : σ) (stream : StreamId) (weight : UInt16) : Next s (Native.setStreamPriority s stream weight)
  | handleInput (s : σ) (packet : List UInt8) : Next s (Native.handleInput s packet)
  | advanceTime (s : σ) (elapsed : Nanos) : Next s (Native.advanceTime s elapsed)
  | connect (s : σ) : Next s (Native.connect s)
  | shutdown (s : σ) : Next s (Native.shutdown s)
  | close (s : σ) : Next s (Native.close s)
  | reserve (s : σ) : Next s (Native.reserve s).2

abbrev Reaches (socket later : σ) : Prop := Relation.ReflTransGen Next socket later

def Spent (socket : σ) : Prop := ∀ later, Reaches socket later → Native.state later ≠ .connected

/-- Whatever is called on it, the socket is spent once it hands out a message while it is not connected. -/
def Orderly (socket : σ) : Prop :=
  ∀ later, Reaches socket later → (Native.getNextMessage later).1.isSome →
    Native.state (Native.getNextMessage later).2 ≠ .connected → Spent (Native.getNextMessage later).2

section

variable {socket later : σ} (hr : Reaches socket later)

include hr

lemma Spent.reaches (h : Spent socket) : Spent later := fun last hlast => h last (hr.trans hlast)

lemma Orderly.reaches (h : Orderly socket) : Orderly later := fun last hlast => h last (hr.trans hlast)

end

namespace Association

variable {a b : Association σ} {s : StreamId} {c : Channel} {P : StreamId → Prop} {I : Association σ → Prop}
  {O : Prop}

structure Core where
  channels : OrdMap StreamId Channel
  pending : OrdMap StreamId Channel
  resetting : OrdMap StreamId ResetState
  ready : OrdSet StreamId
  events : List QueuedEvent
  outgoing : List (List UInt8 × ℕ)
  cursor : Option StreamId
  lifetimes : ℕ
  stopped : Bool
  history : List Entry
  log : List Mark
  books : Books

def core (a : Association σ) : Core where
  channels := a.channels
  pending := a.pendingInstallations
  resetting := a.resetting
  ready := a.readyResets
  events := a.events
  outgoing := a.outgoing
  cursor := a.resetAllCursor
  lifetimes := a.nextChannelLifetime
  stopped := a.stopped
  history := a.history
  log := a.log
  books := a.books

structure Quiet (a b : Association σ) : Prop where
  core : b.core = a.core
  deadline : a.shutdownDeadline.isSome → b.shutdownDeadline.isSome
  socket : Reaches a.socket b.socket

lemma quiet_reserve : Quiet a a.reserve.2 := ⟨rfl, id, .single (.reserve _)⟩

lemma quiet_advanceTime (a : Association σ) (now : Nanos) : Quiet a (a.advanceTime now) :=
  ⟨rfl, id, .single (.advanceTime ..)⟩

lemma quiet_setStreamPriority (a : Association σ) (s : StreamId) (weight : UInt16) : Quiet a (a.setStreamPriority s weight) :=
  ⟨rfl, id, .single (.setStreamPriority ..)⟩

lemma quiet_sendOn (a : Association σ) (s : StreamId) (ppid : PpId) (payload : List UInt8) (options : SendOptions) :
    Quiet a (a.sendOn s ppid payload options).2 := ⟨rfl, id, .single (.send ..)⟩

def settled (a : Association σ) : Prop := a.stopped = true ∨ a.shutdownDeadline.isSome = true ∨ Spent a.socket

lemma Quiet.settled (h : Quiet a b) (hs : a.settled) : b.settled := by
  rcases hs with hs | hs | hs
  · exact .inl ((congrArg Core.stopped h.core).trans hs)
  · exact .inr (.inl (h.deadline hs))
  · exact .inr (.inr (hs.reaches h.socket))

def followingLifetime (a : Association σ) : ℕ :=
  if a.nextChannelLifetime = Word.max 64 then 0 else a.nextChannelLifetime + 1

omit [Native σ] in
lemma followingLifetime_gt (a : Association σ) :
    a.followingLifetime = 0 ∨ a.nextChannelLifetime < a.followingLifetime := by
  rw [followingLifetime]
  split
  · exact .inl rfl
  · exact .inr (Nat.lt_succ_self _)

omit [Native σ] in
lemma allocateChannelLifetime_some {r : ℕ × Association σ} (h : a.allocateChannelLifetime = some r) :
    a.nextChannelLifetime ≠ 0 ∧ r = (a.nextChannelLifetime, { a with nextChannelLifetime := a.followingLifetime }) := by
  rw [allocateChannelLifetime] at h
  split at h
  · cases h
  next hnext => exact ⟨hnext, (Option.some.inj h).symm⟩

def admitted (a : Association σ) (c : Channel) (spare : ℕ) : Association σ :=
  { a with
    nextChannelLifetime := a.followingLifetime
    channels := a.channels.insert c.stream c
    books := a.books.admitChannel c.config a.events.length spare
    log := a.log ++ [Mark.admitted c.stream c.lifetime] }

def staged (a : Association σ) (c : Channel) (spare : ℕ) : Association σ :=
  { a with
    nextChannelLifetime := a.followingLifetime
    pendingInstallations := a.pendingInstallations.insert c.stream c
    books := a.books.admitChannel c.config a.events.length spare }

structure Channel.New (a : Association σ) (c : Channel) : Prop where
  lifetime : c.lifetime = a.nextChannelLifetime
  issued : a.nextChannelLifetime ≠ 0
  id : c.id = c.stream
  slots : c.reservedEvents = channelNotifications
  silent : c.openedEmitted = false
  unclosed : c.closedEmitted = false

structure Vacant (O : Prop) (a : Association σ) (s : StreamId) : Prop where
  cursor : a.resetAllCursor = none
  resetting : a.resetting.get? s = none
  channel : a.channels.get? s = none
  pending : O → a.pendingInstallations.get? s = none ∨ a.settled

lemma pushNotice_frame (a : Association σ) (id : DataChannelId) (e : DataChannelEvent) :
    (a.pushNotice id e).resetAllCursor = a.resetAllCursor ∧ (a.stopped = true → (a.pushNotice id e).stopped = true) ∧
      ((∀ ℓ, closing ℓ e = []) → (a.pushNotice id e).history = a.history) ∧
      ∀ t, a.pendingInstallations.get? t = none → (a.pushNotice id e).pendingInstallations.get? t = none := by
  unfold pushNotice
  split
  · exact ⟨rfl, fun h => h, fun _ => rfl, fun _ h => h⟩
  next entry _ =>
    split
    · exact ⟨rfl, fun _ => rfl, fun _ => rfl, fun _ _ => rfl⟩
    split
    · refine ⟨rfl, fun h => h, fun h => ?_, fun _ h => h⟩
      rw [h entry.lifetime, List.append_nil]
    · exact ⟨rfl, fun _ => rfl, fun _ => rfl, fun _ _ => rfl⟩

lemma emitOpened_frame (a : Association σ) (s : StreamId) :
    (a.emitOpened s).resetAllCursor = a.resetAllCursor ∧ (a.stopped = true → (a.emitOpened s).stopped = true) ∧
      (a.emitOpened s).history = a.history ∧
      ∀ t, a.pendingInstallations.get? t = none → (a.emitOpened s).pendingInstallations.get? t = none := by
  unfold emitOpened
  split
  · exact ⟨rfl, fun h => h, rfl, fun _ h => h⟩
  next c _ =>
    split
    · exact ⟨rfl, fun h => h, rfl, fun _ h => h⟩
    obtain ⟨hk, hstop, hlog, hpending⟩ := pushNotice_frame
      (a.onChannel s fun c => { c with openedEmitted := true, openedAt := some a.now }) c.id
      (.opened c.id { c.config with id := some c.id })
    exact ⟨hk, hstop, hlog fun _ => rfl, hpending⟩

lemma activateInstallation_cursor (a : Association σ) (s : StreamId) :
    (a.activateInstallation s).resetAllCursor = a.resetAllCursor := by
  unfold activateInstallation
  split
  · rfl
  split
  · unfold discardInstallation
    split <;> rfl
  split
  · rfl
  · exact (emitOpened_frame _ s).1

lemma activateInstallation_vacates (hk : a.resetAllCursor = none) (hspent : a.state ≠ .connected → Spent a.socket)
    (hr : (a.activateInstallation s).resetting.get? s = none) :
    (a.activateInstallation s).pendingInstallations.get? s = none ∨ (a.activateInstallation s).settled := by
  unfold activateInstallation at hr ⊢
  split
  next hearly =>
    rw [if_pos hearly] at hr
    rcases hearly with h | h | h | h | h
    · exact .inr (.inl h)
    · exact .inr (.inr (.inl h))
    · rw [hk] at h
      cases h
    · exact .inr (.inr (.inr (hspent h)))
    · rw [hr] at h
      cases h
  · left
    split
    · unfold discardInstallation
      split
      next hnone => exact hnone
      · exact OrdMap.get?_erase_self
    · split
      next hnone => exact hnone
      · exact (emitOpened_frame _ s).2.2.2 s OrdMap.get?_erase_self

/-- What the calls of an association are made of, where `O` says that its socket is orderly. -/
inductive Act (O : Prop) (a : Association σ) : Association σ → Prop
  | touch {later} : Quiet a later → Act O a later
  | tally (t) (f g : ℕ → ℕ) : Act O a (a.onChannel t fun c =>
      { c with sentMessages := f c.sentMessages, receivedMessages := g c.receivedMessages })
  | skip : a.nextChannelLifetime ≠ 0 → Act O a { a with nextChannelLifetime := a.followingLifetime }
  | discard (t notify) : Act O a (a.discardInstallation t notify)
  | activate (t) : Act O a (a.activateInstallation t)
  | reopen {t e} : a.resetAllCursor = none → a.channels.get? t = some e → e.state = .opening →
      Act O a ((a.onChannel t ({ · with state := .opened })).emitOpened t)
  | reject {t e} : a.channels.get? t = some e → e.state = .opening → Act O a (a.rejectDeclared t)
  | reset (t) : Act O a (a.beginReset t).2
  | report (t) : Act O a (a.reportIncoming t)
  | perform (t) : Act O a (a.performReset t)
  | fail (t) : Act O a (a.failReset t)
  | resetAll : Act O a { a with resetAllCursor := some 0, log := a.log ++ [Mark.resetAll] }
  | sweep : Act O a a.visitResetAll
  | complete : Act O a { a with log := a.log ++ [Mark.drained] }.completeResets
  | halt : Act O a { a.closeAllChannels with stopped := true }
  | clear : Act O a a.clearPackets
  | packet (packet capacity) : Act O a { a with
      outgoing := a.outgoing ++ [(packet, capacity)]
      books := { a.books with outgoingPacketBytes := a.books.outgoingPacketBytes + capacity } }
  | poll : Act O a a.pollPacket.2
  | push {t e entry} : a.resetAllCursor = none → a.channels.get? t = some e → e.state = .opened →
      a.channels.get? e.id = some entry → ∀ message retained spare
        (h : a.queuedInboundPayloadBytes + retained ≤ a.maxBufferedBytes), Act O a { a with
          queuedInboundPayloadBytes := a.queuedInboundPayloadBytes + retained
          events := a.events ++ [⟨entry.lifetime, .message e.id message, retained⟩]
          books := (a.books.commit a.events.length 1 spare).pushBack a.events.length
          inbound_le := h }
  | pop {q rest} : a.events = q :: rest → ¬(a.popEvent q rest).eligible q → Act O a (a.popEvent q rest)
  | deliver {q rest} : a.events = q :: rest → (a.popEvent q rest).eligible q →
      Act O a { a.popEvent q rest with history := a.history ++ [.delivered q.lifetime q.event] }
  | accept {b d : Association σ} {c : Channel} : a.stopped = false → (b = a ∨ ∃ s, b = a.activateInstallation s) →
      Channel.New b c → c.state = .opened → b.Vacant O c.stream → ∀ spare, Quiet (b.admitted c spare) d →
        Act O a (d.emitOpened c.stream)
  | declare {c : Channel} : a.stopped = false → Channel.New a c → c.state = .opening → a.Vacant O c.stream →
      ∀ spare, Act O a (a.admitted c spare)
  | stage {c : Channel} : a.stopped = false → Channel.New a c → c.state = .opening →
      a.pendingInstallations.get? c.stream = none →
        ((a.channels.get? c.stream).isSome → (a.resetting.get? c.stream).isSome) → ∀ spare, Act O a (a.staged c spare)
  | abort : Act O a a.abort

structure Withstands (O : Prop) (G I : Association σ → Prop) : Prop where
  orderly : O → ∀ {a}, I a → Orderly a.socket
  act : ∀ {a b}, G a → I a → Act O a b → I b

inductive Lets (I : Association σ → Prop) (a : Association σ) (P : StreamId → Prop) :
    Except WriteError (StreamId × ℕ) × Association σ → Prop
  | error {e : WriteError} {b : Association σ} : I b → Lets I a P (.error e, b)
  | ok {t : StreamId} {socket : σ} {later : Nanos} : a.stopped = false → P t → a.nextChannelLifetime ≠ 0 →
      Reaches a.socket socket → Lets I a P (.ok (t, a.nextChannelLifetime),
        { a with nextChannelLifetime := a.followingLifetime, socket := socket, now := later })

lemma exists_prepared (b : Association σ) (s : StreamId) (weight : UInt16) (now : Nanos) (connected : Bool) :
    ∃ socket later, Reaches b.socket socket ∧
      advanceTime (if connected then b.setStreamPriority s weight else b) now =
        { b with socket := socket, now := later } := by
  cases connected with
  | false => exact ⟨_, _, .single (.advanceTime ..), rfl⟩
  | true => exact ⟨_, _, (Relation.ReflTransGen.single (.setStreamPriority ..)).tail (.advanceTime ..), rfl⟩

namespace Withstands

variable {I : Association σ → Prop}

omit [Native σ] in
lemma foldl {f : Association σ → StreamId → Association σ} (hf : ∀ {a}, I a → ∀ s, I (f a s)) (h : I a)
    (l : List StreamId) : I (l.foldl f a) := by
  induction l generalizing a with
  | nil => exact h
  | cons s l ih => exact ih (hf h s)

section Closing

variable (W : Withstands O (fun _ => True) I)

include W

lemma keeps (h : I a) (ha : Act O a b) : I b := W.act trivial h ha

lemma touched (h : I a) (hq : Quiet a b) : I b := W.keeps h (.touch hq)

lemma visitInstallation (h : I a) : I a.visitInstallation := by
  unfold Association.visitInstallation
  split
  · exact h
  split
  · exact h
  split
  · exact W.touched h ⟨rfl, id, .refl⟩
  next s _ =>
    have h' : I { a with installationCursor := following s } := W.touched h ⟨rfl, id, .refl⟩
    dsimp only
    split
    · exact W.keeps h' (.discard s true)
    · exact W.keeps h' (.activate s)

lemma activateDeclared (h : I a) (s : StreamId) : I (a.activateDeclared s) := by
  unfold Association.activateDeclared
  split
  · exact h
  next hready =>
    simp only [not_or, Bool.not_eq_true, Option.isSome_eq_false_iff, Option.isNone_iff_eq_none] at hready
    split
    · exact h
    next c hc =>
      split
      · exact h
      next hstate =>
        have hstate := not_not.1 (not_or.1 hstate).2
        split
        · exact h
        split
        · exact W.keeps h (.reject hc hstate)
        · have h' := W.touched h (quiet_setStreamPriority a s c.config.priority)
          exact W.keeps h' (.reopen hready.1 hc hstate)

lemma visitDeclared (h : I a) : I a.visitDeclared := by
  unfold Association.visitDeclared
  split
  · exact h
  split
  · exact h
  split
  · exact W.touched h ⟨rfl, id, .refl⟩
  next s _ =>
    refine W.touched (a := if a.shutdownDeadline.isSome then
        if (a.channel s).any fun c => c.config.negotiated && decide (c.state = .opening) then a.rejectDeclared s else a
      else a.activateDeclared s) ?_ ⟨rfl, id, .refl⟩
    split
    · split
      next hany =>
        obtain ⟨c, hc, hprops⟩ := (Option.any_eq_true _ _).1 hany
        rw [Bool.and_eq_true, decide_eq_true_eq] at hprops
        exact W.keeps h (.reject hc hprops.2)
      · exact h
    · exact W.activateDeclared h s

lemma closeStream (h : I a) (s : StreamId) : I (a.closeStream s) := W.keeps h (.reset s)

lemma retirePending (n : ℕ) (h : I a) : I (retirePendingLoop n a) := by
  induction n generalizing a with
  | zero =>
    rw [retirePendingLoop]
    split
    · exact W.touched h ⟨rfl, id, .refl⟩
    · exact h
  | succ n ih =>
    rw [retirePendingLoop]
    split
    · exact W.touched h ⟨rfl, id, .refl⟩
    next s _ => exact ih (W.keeps h (.discard s true))

section

variable (h : I a)

include h

lemma abortAssociation : I a.abortAssociation := by
  have hclosed : I { a with socket := Native.close a.socket } := W.touched h ⟨rfl, id, .single (.close _)⟩
  exact W.keeps (W.keeps hclosed .clear) .halt

lemma enforceShutdownDeadline (now : Nanos) : I (a.enforceShutdownDeadline now) := by
  unfold Association.enforceShutdownDeadline
  split
  · exact W.abortAssociation h
  · exact h

lemma acceptOpen (hrun : a.stopped = false) (hk : a.resetAllCursor = none)
    (hspent : O → a.state ≠ .connected → Spent a.socket)
    (hnone : (a.activateInstallation s).channels.get? s = none) (payload : List UInt8) :
    I ((a.activateInstallation s).acceptOpen s payload) := by
  have hvacates := fun ho => activateInstallation_vacates (s := s) hk (hspent ho)
  have hcursor := (activateInstallation_cursor a s).trans hk
  have hb := W.keeps h (.activate s)
  have hfrom : a.activateInstallation s = a ∨ ∃ t, a.activateInstallation s = a.activateInstallation t := .inr ⟨s, rfl⟩
  generalize a.activateInstallation s = b at hvacates hcursor hb hfrom hnone
  have hreserve := W.touched hb (quiet_reserve)
  have hreserve' := W.touched hreserve (quiet_reserve)
  unfold Association.acceptOpen
  split
  · exact W.closeStream hb s
  next hidle =>
    split
    · exact W.closeStream hreserve s
    dsimp only
    split
    · exact W.closeStream hreserve s
    next config _ =>
      split
      · exact W.closeStream hreserve' s
      split
      · exact W.closeStream hreserve' s
      next ℓ b' hb' =>
        obtain ⟨hnext, ⟨⟩⟩ := allocateChannelLifetime_some hb'
        have hr : b.resetting.get? s = none := by simpa using (not_or.1 hidle).2
        exact W.keeps h (.accept (c := { lifetime := _, id := s, stream := s, config := config, state := .opened }) hrun
          hfrom ⟨rfl, hnext, rfl, rfl, rfl, rfl⟩ rfl ⟨hcursor, hr, hnone, fun ho => hvacates ho hr⟩ _
          ⟨rfl, id, (((Relation.ReflTransGen.single (.reserve _)).tail (.reserve _)).tail
            (.setStreamPriority ..)).tail (.send ..)⟩)

lemma handleDcep (hrun : a.stopped = false) (hspent : O → a.state ≠ .connected → Spent a.socket)
    (s : StreamId) (payload : List UInt8) : I (a.handleDcep s payload) := by
  unfold Association.handleDcep
  split
  · exact h
  next hk =>
    have hk : a.resetAllCursor = none := by simpa using hk
    have hb := W.keeps h (.activate s)
    have hcursor := (activateInstallation_cursor a s).trans hk
    dsimp only
    split
    · split
      next c hc =>
        split
        next hstate => exact W.keeps hb (.reopen hcursor hc hstate.1)
        · exact hb
      · exact hb
    · split
      · split
        · split
          · exact W.touched hb (quiet_sendOn ..)
          · exact hb
        next hnone => exact W.acceptOpen h hrun hk hspent hnone payload
      · exact W.closeStream hb s

lemma acceptMessage (message : Message) : I (a.acceptMessage message) := by
  unfold Association.acceptMessage
  dsimp only
  split
  · exact W.closeStream h _
  next c hc =>
    split
    · exact h
    next hopen =>
      obtain ⟨hk, ho⟩ := not_or.1 hopen
      have hk : a.resetAllCursor = none := by simpa using hk
      split
      · exact W.closeStream h _
      have hpush : I (a.pushMessage c.id message.data message.retainedPayloadBytes).2 := by
        unfold pushMessage
        split
        · exact h
        next entry hentry =>
          split
          next hle =>
            have hreserve := W.touched h (quiet_reserve)
            split
            · exact W.keeps hreserve (.push (a := a.reserve.2) hk hc (not_not.1 ho) hentry message.data _ a.spare hle)
            · exact W.closeStream hreserve _
          · exact W.closeStream h _
      split
      next b hb =>
        rw [hb] at hpush
        exact W.keeps hpush (.tally _ id fun n => Word.saturatingAdd 64 n 1)
      next b hb =>
        rw [hb] at hpush
        exact hpush

lemma handleMessage (hspent : O → a.state ≠ .connected → Spent a.socket) (message : Message) :
    I (a.handleMessage message) := by
  unfold Association.handleMessage
  split
  · exact h
  next hrun =>
    split
    · exact W.closeStream h _
    split
    · split
      · exact W.closeStream h _
      · exact W.handleDcep h (by simpa using hrun) hspent _ _
    split
    · refine W.acceptMessage ?_ message
      have hb := W.keeps h (.activate message.streamId)
      split
      · exact W.activateDeclared hb _
      · exact hb
    · exact W.closeStream h _

lemma handleSocketEvent (event : SocketEvent) : I (a.handleSocketEvent event).2 := by
  cases event with
  | sendPacket packet capacity =>
    have hreserve := W.touched h (quiet_reserve)
    rw [Association.handleSocketEvent]
    split
    · exact W.abortAssociation h
    split
    · exact W.keeps hreserve (.packet packet capacity)
    · exact W.abortAssociation hreserve
  | onClosed => exact W.keeps h .halt
  | onAborted => exact W.keeps h .halt
  | onStreamsResetFailed streams => exact foldl (I := I) (fun h s => W.keeps h (.fail s)) h streams
  | onStreamsResetPerformed streams => exact foldl (I := I) (fun h s => W.keeps h (.perform s)) h streams
  | onIncomingStreamReset streams =>
    rw [Association.handleSocketEvent]
    split
    · exact W.keeps h .resetAll
    · exact foldl (I := I) (fun h s => W.keeps h (.report s)) h streams
  | onLifecycleEnd id =>
    rw [Association.handleSocketEvent]
    split
    · exact h
    · exact W.touched h ⟨rfl, fun hd => hd, .refl⟩
  | onOther => exact h

end

lemma drainLoop (n : ℕ) (h : I a) : I (drainLoop n a) := by
  induction n generalizing a with
  | zero => exact W.touched h ⟨rfl, id, .refl⟩
  | succ n ih =>
    have hvisited := W.visitDeclared (W.visitInstallation (W.keeps h .sweep))
    unfold Association.drainLoop
    generalize Association.visitDeclared (Association.visitInstallation (visitResetAll a)) = b at hvisited
    rcases hpoll : b.pollSocketEvent with ⟨event, b1⟩
    have h1 : I b1 := by
      cases hpoll
      exact W.touched hvisited ⟨rfl, id, .single (.pollEvent _)⟩
    have hevent : I (b1.drainEvent event).2 := by
      cases event with
      | none => exact h1
      | some event => exact W.handleSocketEvent h1 event
    dsimp only
    split
    next b2 hb =>
      rw [hb] at hevent
      exact W.touched hevent ⟨rfl, id, .refl⟩
    next b2 hb =>
      rw [hb] at hevent
      have hnext : I b2.nextMessage.2 ∧ ∀ m, b2.nextMessage.1 = some m → O →
          b2.nextMessage.2.state ≠ .connected → Spent b2.nextMessage.2.socket := by
        rw [nextMessage]
        split
        · exact ⟨hevent, nofun⟩
        · refine ⟨W.touched hevent ⟨rfl, id, .single (.getNextMessage _)⟩, fun m hm ho hs => ?_⟩
          exact W.orderly ho hevent b2.socket .refl (Option.isSome_iff_exists.2 ⟨m, hm⟩) hs
      split
      next message b3 hm =>
        rw [hm] at hnext
        exact ih (W.handleMessage hnext.1 (hnext.2 message rfl) message)
      next b3 hm =>
        rw [hm] at hnext
        split
        · exact ih hnext.1
        split
        · exact hnext.1
        · exact W.keeps hnext.1 .complete

section

variable (h : I a)

include h

lemma drainSocket : I a.drainSocket := W.drainLoop _ (W.touched h ⟨rfl, id, .refl⟩)

lemma openAdmission (now : Nanos) (config : DataChannelConfig) :
    Lets I a (fun s => a.Vacant O s ∧ config.id.getD s = s) (a.openAdmission now config) := by
  have hreserve := W.touched h (quiet_reserve)
  unfold Association.openAdmission
  dsimp only
  split
  · exact .error h
  next hrun =>
    split
    · exact .error h
    next hk =>
      split
      · exact .error h
      next s hs =>
        split
        · exact .error h
        split
        · exact .error h
        split
        · exact .error h
        next hfree =>
          split
          · exact .error h
          split
          · exact .error hreserve
          split
          · exact .error hreserve
          next ℓ b hb =>
            obtain ⟨hnext, ⟨⟩⟩ := allocateChannelLifetime_some hb
            simp only [not_or, Bool.not_eq_true, Option.isSome_eq_false_iff, Option.isNone_iff_eq_none]
              at hrun hk hfree
            have hvacant : a.Vacant O s := ⟨hk, hfree.2.2, hfree.1, fun _ => .inl hfree.2.1⟩
            have hid : config.id.getD s = s := by
              cases hid : config.id with
              | none => rfl
              | some id =>
                rw [hid] at hs
                exact Option.some.inj hs
            have hskip := W.keeps h (.skip hnext)
            obtain ⟨socket, later, hreach, heq⟩ := exists_prepared
              { a.reserve.2 with nextChannelLifetime := a.followingLifetime } s config.priority now
              (decide (a.state = .connected))
            have hreach : Reaches a.socket socket := .head (.reserve _) hreach
            erw [heq]
            split
            · exact .ok hrun.1 ⟨hvacant, hid⟩ hnext hreach
            split
            next hsent =>
              cases (congrArg Prod.snd hsent)
              refine .error (W.touched hskip ?_)
              exact ⟨rfl, id, hreach.tail (.send ..)⟩
            next hsent =>
              cases (congrArg Prod.snd hsent)
              exact .ok hrun.1 ⟨hvacant, hid⟩ hnext (hreach.tail (.send ..))

lemma openChannel (now : Nanos) (config : DataChannelConfig) : I (a.openChannel now config).2 := by
  have hlets := W.openAdmission h now config
  unfold Association.openChannel
  generalize a.openAdmission now config = r at hlets ⊢
  cases hlets with
  | error hrefused => exact hrefused
  | @ok s socket later hrun hs hnext hreach =>
    obtain ⟨hvacant, hid⟩ := hs
    dsimp only
    have hnew (state : ChannelState) : Channel.New a
        { lifetime := a.nextChannelLifetime, id := config.id.getD s, stream := s, config := config, state := state } :=
      ⟨rfl, hnext, hid, rfl, rfl, rfl⟩
    split
    · exact W.keeps h (.accept hrun (.inl rfl) (hnew .opened) rfl hvacant _ ⟨rfl, id, hreach⟩)
    have hdeclared := W.keeps h (.declare hrun (hnew .opening) rfl hvacant (Native.spare socket))
    split
    · exact W.touched hdeclared ⟨rfl, id, hreach⟩
    · apply W.drainSocket
      exact W.touched hdeclared ⟨rfl, id, hreach⟩

lemma installAdmission (config : DataChannelConfig) :
    Lets I a (fun s => a.pendingInstallations.get? s = none ∧
      ((a.channels.get? s).isSome → (a.resetting.get? s).isSome)) (a.installAdmission config) := by
  have hreserve := W.touched h (quiet_reserve)
  unfold Association.installAdmission
  split
  · exact .error h
  next hrun =>
    split
    · exact .error h
    next s _ =>
      split
      · exact .error h
      next hfree =>
        split
        · exact .error h
        split
        · exact .error hreserve
        split
        · exact .error hreserve
        next ℓ b hb =>
          obtain ⟨hnext, ⟨⟩⟩ := allocateChannelLifetime_some hb
          simp only [not_or, not_and, Bool.not_eq_true, Option.isSome_eq_false_iff, Option.isNone_iff_eq_none]
            at hrun hfree
          have hs : (a.channels.get? s).isSome → (a.resetting.get? s).isSome := fun hc =>
            Option.isSome_iff_ne_none.2 (hfree.2.2.2.2 hc)
          exact .ok hrun.1 ⟨hfree.2.2.1, hs⟩ hnext (.single (.reserve _))

variable (now : Nanos)

lemma install (config : DataChannelConfig) : I (a.install now config).2 := by
  have hlets := W.installAdmission h config
  unfold Association.install
  generalize a.installAdmission config = r at hlets ⊢
  cases hlets with
  | error hrefused => exact hrefused
  | @ok s socket later hrun hs hnext hreach =>
    have hstaged := W.keeps h (.stage hrun
      (c := { lifetime := a.nextChannelLifetime, id := s, stream := s, config := config, state := .opening })
      ⟨rfl, hnext, rfl, rfl, rfl, rfl⟩ rfl hs.1 hs.2 (Native.spare (Native.advanceTime socket (now - a.origin))))
    refine W.keeps ?_ (.activate s)
    exact W.touched hstaged ⟨rfl, id, hreach.tail (.advanceTime ..)⟩

lemma resetNow (s : StreamId) : I ((a.advanceTime now).beginReset s).2.drainSocket :=
  W.drainSocket (W.keeps (W.touched h (quiet_advanceTime a now)) (.reset s))

lemma cancelInstallation (installation : DataChannelInstallation) : I (a.cancelInstallation now installation).2 := by
  unfold Association.cancelInstallation
  dsimp only
  split
  · exact h
  split
  · exact W.keeps h (.discard _ false)
  split
  · exact W.resetNow h now _
  · exact h

lemma sendAdmission (channel : DataChannelId) (message : DataMessage) : I (a.sendAdmission now channel message).2 := by
  have hreserve := W.touched h (quiet_reserve)
  unfold Association.sendAdmission
  split
  · exact h
  next entry _ =>
    split
    · exact h
    split
    · exact h
    split
    · exact h
    split
    · exact hreserve
    split
    · exact hreserve
    have hsend := W.touched (W.touched hreserve (quiet_advanceTime _ now)) (quiet_sendOn _ entry.stream
      (frame message).1 (frame message).2 (sendOptions entry.config a.nextLifecycle))
    split
    next hsent =>
      rw [hsent] at hsend
      exact hsend
    next hsent =>
      rw [hsent] at hsend
      exact hsend

lemma send (channel : DataChannelId) (message : DataMessage) : I (a.send now channel message).2 := by
  have h' := W.sendAdmission h now channel message
  unfold Association.send
  split
  next hb =>
    rw [hb] at h'
    exact h'
  next s ℓ b hb =>
    rw [hb] at h'
    apply W.drainSocket
    refine W.keeps ?_ (.tally s (fun n => Word.saturatingAdd 64 n 1) id)
    exact W.touched h' ⟨rfl, id, .refl⟩

lemma closeChannel (id : DataChannelId) : I (a.closeChannel now id).2 := by
  have h' := W.keeps h (.discard id true)
  unfold Association.closeChannel
  dsimp only
  split
  · exact h'
  · exact W.resetNow h' now id

lemma handleInput (packet : List UInt8) : I (a.handleInput now packet) := by
  unfold Association.handleInput
  split
  · exact h
  · apply W.drainSocket
    exact W.touched h ⟨rfl, id, (Relation.ReflTransGen.single (.advanceTime ..)).tail (.handleInput ..)⟩

lemma connect : I (a.connect now) := by
  unfold Association.connect
  split
  · exact h
  · apply W.drainSocket
    exact W.touched h ⟨rfl, id, (Relation.ReflTransGen.single (.advanceTime ..)).tail (.connect _)⟩

end

lemma pollLoop (n : ℕ) (h : I a) : I (pollLoop n a).2 := by
  induction n generalizing a with
  | zero => exact h
  | succ n ih =>
    unfold Association.pollLoop
    split
    · exact h
    next hevents =>
      dsimp only
      split
      next heligible => exact W.keeps h (.deliver hevents heligible)
      next heligible => exact ih (W.keeps h (.pop hevents heligible))

lemma pollEvent (h : I a) (now : Nanos) : I (a.pollEvent now).2 := by
  unfold Association.pollEvent
  extract_lets b c
  have hdrained : I b := by
    unfold b
    split
    · exact h
    · exact W.enforceShutdownDeadline (W.drainSocket (W.touched h (quiet_advanceTime a now))) now
  apply W.pollLoop
  unfold c
  split
  · exact W.retirePending _ hdrained
  · exact hdrained

lemma beginShutdown (h : I a) (now deadline : Nanos) : I (a.beginShutdown now deadline) := by
  unfold Association.beginShutdown
  split
  · exact h
  apply W.enforceShutdownDeadline
  apply W.drainSocket
  exact W.touched h
    ⟨rfl, fun _ => rfl, (Relation.ReflTransGen.single (.advanceTime ..)).tail (.shutdown _)⟩

end Closing

end Withstands

inductive Op
  | connect (now : Nanos)
  | openChannel (now : Nanos) (config : DataChannelConfig)
  | install (now : Nanos) (config : DataChannelConfig)
  | cancelInstallation (now : Nanos) (installation : DataChannelInstallation)
  | send (now : Nanos) (channel : DataChannelId) (message : DataMessage)
  | closeChannel (now : Nanos) (id : DataChannelId)
  | handleInput (now : Nanos) (packet : List UInt8)
  | pollEvent (now : Nanos)
  | pollPacket
  | beginShutdown (now deadline : Nanos)
  | abort

def step (a : Association σ) : Op → Association σ
  | .connect now => a.connect now
  | .openChannel now config => (a.openChannel now config).2
  | .install now config => (a.install now config).2
  | .cancelInstallation now installation => (a.cancelInstallation now installation).2
  | .send now channel message => (a.send now channel message).2
  | .closeChannel now id => (a.closeChannel now id).2
  | .handleInput now packet => a.handleInput now packet
  | .pollEvent now => (a.pollEvent now).2
  | .pollPacket => a.pollPacket.2
  | .beginShutdown now deadline => a.beginShutdown now deadline
  | .abort => a.abort

def machine (σ : Type) [Native σ] : Machine (Association σ) Op where
  init a := ∃ facts limits acceptedAt context socket, new facts limits acceptedAt context socket = some a
  guard _ _ := True
  step := step

namespace Withstands

variable {G I : Association σ → Prop}

lemma step (W : Withstands O (fun _ => True) I) (h : I a) (op : Op) : I (a.step op) := by
  cases op with
  | connect now => exact W.connect h now
  | openChannel now config => exact W.openChannel h now config
  | install now config => exact W.install h now config
  | cancelInstallation now installation => exact W.cancelInstallation h now installation
  | send now channel message => exact W.send h now channel message
  | closeChannel now id => exact W.closeChannel h now id
  | handleInput now packet => exact W.handleInput h now packet
  | pollEvent now => exact W.pollEvent h now
  | pollPacket => exact W.keeps h .poll
  | beginShutdown now deadline => exact W.beginShutdown h now deadline
  | abort => exact W.keeps h .abort

theorem reachable (W : Withstands O (fun _ => True) I)
    (hinit : ∀ {facts limits acceptedAt context socket a}, new facts limits acceptedAt context socket = some a → I a)
    (h : (machine σ).Reachable a) : I a := by
  refine h.invariant ?_ ?_
  · rintro a ⟨facts, limits, acceptedAt, context, socket, hnew⟩
    exact hinit hnew
  · intro a op ha _
    exact W.step ha op

lemma and (W : Withstands O (fun _ => True) G) (W' : Withstands O G I) :
    Withstands O (fun _ => True) fun a => G a ∧ I a where
  orderly ho _ h := W.orderly ho h.1
  act _ h ha := ⟨W.act trivial h.1 ha, W'.act h.1 h.2 ha⟩

end Withstands

end Association

end Pulsebeam.Sctp
