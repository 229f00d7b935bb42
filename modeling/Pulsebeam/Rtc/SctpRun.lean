import Pulsebeam.Rtc.SctpOrder

/-! What the association does keeps the order of its events, one function after the other, and so does every run. -/

namespace Pulsebeam.Sctp

open Option List Lib

variable {σ : Type} {cursor t : StreamId} {s : StreamId}

lemma le_of_firstFrom {α : Type} {m : OrdMap StreamId α} {v : α} (hs : m.get? s = some v)
    (hle : cursor ≤ s) : ∃ t, firstFrom m cursor = some t ∧ t ≤ s := by
  have hmem : s ∈ m.keys := OrdMap.mem_keys.2 ⟨v, hs⟩
  have hsorted : m.keys.Pairwise (· < ·) := pairwise_map.2 m.sorted
  rw [firstFrom]
  generalize m.keys = l at hmem hsorted
  induction l with
  | nil => cases hmem
  | cons t l ih =>
    rw [find?_cons]
    split
    · refine ⟨t, rfl, ?_⟩
      rcases mem_cons.1 hmem with rfl | hmem
      · exact le_refl _
      · exact ((pairwise_cons.1 hsorted).1 s hmem).le
    next hlt =>
      refine ih ?_ (pairwise_cons.1 hsorted).2
      rcases mem_cons.1 hmem with rfl | hmem
      · exact absurd hle (of_decide_eq_false hlt)
      · exact hmem

lemma following_le (h : s < t) : ∃ k, following s = some k ∧ k ≤ t := by
  have hst : s.val < t.val := h
  have hlt : s.val + 1 < 65536 := by omega
  exact ⟨⟨s.val + 1, hlt⟩, dif_pos hlt, hst⟩

namespace Association

variable {a b : Association σ} {s : StreamId} {c : Channel} {q : QueuedEvent} {rest : List QueuedEvent} {spare : ℕ}

lemma Inv.wanes {x : Option StreamId} (h : Inv x a) (hw : Wanes ∅ a b) (hb : b.stopped = false) : Inv x b := by
  obtain ⟨_, ls, hlog, hr⟩ := hw
  exact h.retires (hr hb) hlog

lemma nextToReset_le (hs : a.nextToReset cursor = some s) (hc : a.channels.get? t = some c) (hle : cursor ≤ t) :
    s ≤ t := by
  obtain ⟨u, hu, hut⟩ := le_of_firstFrom hc hle
  have hmin := (min?_eq_some_iff.1 hs).2 u (by simp [hu])
  exact hmin.trans hut

lemma eligible_delivery {id : DataChannelId} (hd : q.event.IsDelivery id) :
    a.eligible q = true ↔ a.stopped = false ∧ a.resetAllCursor = none ∧
      ∃ c, a.channels.get? id = some c ∧ c.lifetime = q.lifetime ∧ c.state = .opened := by
  have hmatch : a.eligible q = (!a.stopped && a.resetAllCursor.isNone &&
      (a.channel id).any fun c => decide (c.lifetime = q.lifetime) && decide (c.state = .opened)) := by
    unfold eligible
    rcases hd with hd | hd <;> cases he : q.event <;> rw [he] at hd <;> cases hd <;> rfl
  rw [hmatch]
  simp [channel, Option.any_eq_true, and_assoc]

lemma pollPacket_sound (h : Sound a) : Sound a.pollPacket.2 := by
  unfold pollPacket
  split
  · exact h
  · exact h.same (by constructor <;> rfl)

lemma new_sound {facts : SctpSessionFacts} {limits : ConnectionLimits} {acceptedAt : Nanos} {context : Context} {socket : σ}
    (h : new facts limits acceptedAt context socket = some a) : Sound a := by
  unfold new at h
  split at h
  · cases h
  cases h
  refine ⟨?_, fun _ => ?_⟩
  · intro before ℓ e hpre
    exact absurd (prefix_nil.1 hpre) (by simp)
  · have htable (i : Bool) (s : StreamId) (c : Channel)
        (hc : ((if i then ∅ else ∅ : OrdMap StreamId Channel)).get? s = some c) : False := by
      cases i <;> cases hc
    exact
      { keyed := nofun
        waiting := nofun
        silent := fun i s c hc => (htable i s c hc).elim
        issued := fun i s c hc => (htable i s c hc).elim
        distinct := fun i j s t c d hc => (htable i s c hc).elim
        idle := nofun
        swept := nofun
        announced := nofun
        queued := nofun
        led := fun pre q id hpre => absurd (prefix_nil.1 hpre) (by simp)
        ended := nofun }

lemma Sound.popped (h : Sound a) (hq : a.events = q :: rest) (log : List Entry)
    (hlog : ∀ entry ∈ log, entry = .delivered q.lifetime q.event)
    (hkeep : a.stopped = false → ∀ id, q.event.IsOpened id →
      .delivered q.lifetime q.event ∈ log ∨ a.resetAllCursor.isSome ∨ a.NotOpened q.lifetime)
    (hrun : a.stopped = false) : Inv none { a.popEvent q rest with history := a.history ++ log } :=
  ((h.2 hrun).pop hq log hlog (hkeep hrun)).same (by constructor <;> rfl)

lemma Sound.deliver (h : Sound a) (hq : a.events = q :: rest) (helig : a.eligible q = true) :
    Sound { a.popEvent q rest with history := a.history ++ [.delivered q.lifetime q.event] } := by
  refine ⟨?_, h.popped hq _ (fun _ => mem_singleton.1) fun _ _ _ => .inl (mem_singleton_self _)⟩
  by_cases hn : q.event.Notice
  · exact h.1.notice q.lifetime hn
  obtain ⟨id, hd⟩ := not_forall_not.1 hn
  obtain ⟨hrun, hk, c, hc, hℓ, ho⟩ := (eligible_delivery hd).1 helig
  have hinv := h.2 hrun
  refine h.1.delivered (fun id' hm => ?_) fun hmem => ?_
  · have hfirst : [] ++ [q] <+: a.events := by simp [hq]
    rcases hinv.led [] q id' hfirst hm with hsome | hno | ⟨_, hnil, _⟩ | hann
    · exact absurd (hk ▸ hsome) nofun
    · exact absurd ho (hno id c hc hℓ)
    · cases hnil
    · exact hann
  · have hclosing := (hinv.ended _ hmem).2 true id c hc hℓ
    exact absurd (ho.symm.trans hclosing) nofun

lemma Sound.drop (h : Sound a) (hq : a.events = q :: rest) (helig : ¬a.eligible q = true) :
    Sound (a.popEvent q rest) := by
  refine ⟨h.1, fun hrun => ?_⟩
  refine (h.popped hq [] (fun _ => nofun) (fun hrun id hopen => .inr ?_) hrun).same
    ⟨rfl, rfl, rfl, rfl, rfl, rfl, rfl, (append_nil _).symm⟩
  cases hk : a.resetAllCursor with
  | some _ => exact .inl rfl
  | none =>
    -- the channel that has the lifetime is on the event's stream, where it is not open
    refine .inr fun s c hc hℓ ho => helig ((eligible_delivery (.inl hopen)).2 ⟨hrun, hk, c, ?_, hℓ, ho⟩)
    obtain ⟨_, hlive⟩ := (h.2 hrun).queued q (hq ▸ mem_cons_self) id (.inl hopen)
    exact (hlive true s c hc hℓ).2 ▸ hc

lemma Inv.admitted (h : Inv none a) (hnew : Channel.New a c) (hk : a.resetAllCursor = none)
    (hreset : a.resetting.get? c.stream = none) (spare : ℕ) : Inv (some c.stream) (a.admitted c spare) := by
  obtain ⟨hinv, hfresh, hlive⟩ := h.allocate hnew.issued
  rw [← hnew.lifetime] at hfresh hlive
  have hplace := hinv.place hk hreset hnew.id rfl hnew.silent hfresh
    (fun t d hd => ⟨hd, hlive false t d hd⟩) fun t d _ hd => hlive true t d hd
  exact hplace.same (by constructor <;> rfl)

lemma pushed_sound {entry : Channel} (h : Sound a) (hk : a.resetAllCursor = none) (hc : a.channels.get? s = some c)
    (ho : c.state = .opened) (hentry : a.channels.get? c.id = some entry) {message : DataMessage} {retained : ℕ}
    (hle : a.queuedInboundPayloadBytes + retained ≤ a.maxBufferedBytes) :
    Sound { a with
      queuedInboundPayloadBytes := a.queuedInboundPayloadBytes + retained
      events := a.events ++ [⟨entry.lifetime, .message c.id message, retained⟩]
      books := (a.books.commit a.events.length 1 spare).pushBack a.events.length
      inbound_le := hle } := by
  refine ⟨h.1, fun hrun => ?_⟩
  rw [(h.keyed hrun s c hc).1] at hentry ⊢
  cases hc.symm.trans hentry
  exact ((h.2 hrun).pushMessage hk hc ho message retained).same (by constructor <;> rfl)

lemma staged_sound (h : Sound a) (hrun : a.stopped = false) (hnew : Channel.New a c) (ho : c.state = .opening) :
    Sound (a.staged c spare) := by
  refine ⟨h.1, fun _ => ?_⟩
  obtain ⟨hinv, hfresh, hlive⟩ := (h.2 hrun).allocate hnew.issued
  rw [← hnew.lifetime] at hfresh hlive
  exact (hinv.stage hnew.id rfl ho hnew.silent hfresh hlive).same (by constructor <;> rfl)

variable [Native σ]

lemma Quiet.same (h : Quiet a b) : Same a b :=
  ⟨congrArg Core.channels h.core, congrArg Core.pending h.core, congrArg Core.resetting h.core, congrArg Core.events h.core,
    congrArg Core.cursor h.core, congrArg Core.lifetimes h.core, congrArg Core.stopped h.core, congrArg Core.history h.core⟩

lemma emitOpened_sound (hord : Ordered a.history) (hrun : a.stopped = false) (h : Inv (some s) a)
    (hc : a.channels.get? s = some c) (ho : c.state = .opened) (hsilent : c.openedEmitted = false) :
    Sound (a.emitOpened s) := by
  obtain ⟨hid, _⟩ := h.keyed s c hc
  have ended {b : Association σ} (hstop : b.stopped = true) (hlog : b.history = a.history) : Sound b :=
    ⟨hlog ▸ hord, fun hb => absurd (hb.symm.trans hstop) nofun⟩
  unfold emitOpened
  rw [show a.channel s = some c from hc]
  dsimp only
  rw [hsilent, if_neg Bool.false_ne_true, hid]
  have hmark : Wanes ∅ a (a.onChannel s fun c => { c with openedEmitted := true, openedAt := some a.now }) := by
    refine onChannel_wanes s fun d hd => ⟨rfl, rfl, rfl, .inr ⟨rfl, fun hop => ?_⟩⟩
    cases hc.symm.trans hd
    exact absurd (ho.symm.trans hop) nofun
  have hget : (a.onChannel s fun c => { c with openedEmitted := true, openedAt := some a.now }).channel s =
      some { c with openedEmitted := true, openedAt := some a.now } := by
    rw [channel, onChannel, OrdMap.get?_modify, if_pos rfl, hc]
    rfl
  unfold pushNotice
  rw [hget]
  dsimp only
  split
  · exact ended rfl rfl
  split
  · refine ⟨by simpa [closing, onChannel] using hord, fun _ => ?_⟩
    have hspend := (hmark.trans (reserve_wanes _)).trans (onChannel_wanes s
      (f := fun c => { c with reservedEvents := c.reservedEvents - 1 }) fun _ _ => ⟨rfl, rfl, rfl, .inr ⟨rfl, fun _ => rfl⟩⟩)
    have hlast : (((a.channels.modify s fun c => { c with openedEmitted := true, openedAt := some a.now }).modify s
        fun c => { c with reservedEvents := c.reservedEvents - 1 })).get? s =
          some { c with openedEmitted := true, openedAt := some a.now, reservedEvents := c.reservedEvents - 1 } := by
      rw [OrdMap.get?_modify, if_pos rfl, OrdMap.get?_modify, if_pos rfl, hc]
      rfl
    refine ((h.wanes hspend hrun).pushOpened hlast ho { c.config with id := some s }).same ?_
    exact ⟨rfl, rfl, rfl, rfl, rfl, rfl, rfl, append_nil _⟩
  · exact ended rfl rfl

lemma emitOpened_ended (hord : Ordered a.history) (hstop : a.stopped = true) (s : StreamId) : Sound (a.emitOpened s) := by
  obtain ⟨_, hstop', hlog, _⟩ := emitOpened_frame a s
  exact ⟨hlog ▸ hord, fun hrun => absurd (hrun.symm.trans (hstop' hstop)) nofun⟩

lemma activateInstallation_sound (h : Sound a) (s : StreamId) : Sound (a.activateInstallation s) := by
  unfold activateInstallation
  split
  · exact h
  next hready =>
    simp only [not_or, Bool.not_eq_true, isSome_eq_false_iff, isNone_iff_eq_none] at hready
    obtain ⟨hrun, _, hk, _, hreset⟩ := hready
    split
    · exact h.wanes (discardInstallation_wanes a s true)
    split
    · exact h
    next c hc =>
      have hinv := h.2 hrun
      obtain ⟨hid, hstream, hstate⟩ := hinv.waiting s c hc
      have hfresh : a.Fresh c.lifetime := hinv.fresh_of_opening (i := false) hc hstate
      have hsilent := hinv.silent false s c hc hstate
      have hplace : Inv (some s) { a with
          channels := a.channels.insert s { c with state := .opened }
          pendingInstallations := a.pendingInstallations.erase s } := by
        refine hinv.place hk hreset hid hstream hsilent hfresh ?_ ?_
        · intro t d hd
          rw [OrdMap.get?_erase] at hd
          split at hd
          · cases hd
          next hts => exact ⟨hd, fun heq => hts (hinv.distinct false false t s d c hd hc heq).2⟩
        · intro t d _ hd heq
          cases (hinv.distinct true false t s d c hd hc heq).1
      exact emitOpened_sound h.1 hrun (hplace.same (by constructor <;> rfl)) OrdMap.get?_insert_self rfl
        hsilent

lemma reopened_sound (h : Sound a) (hk : a.resetAllCursor = none) (hc : a.channels.get? s = some c)
    (hstate : c.state = .opening) : Sound ((a.onChannel s ({ · with state := .opened })).emitOpened s) := by
  by_cases hstop : a.stopped = true
  · exact emitOpened_ended (a := a.onChannel s _) h.1 hstop s
  have hrun : a.stopped = false := Bool.eq_false_iff.2 hstop
  have hinv := h.2 hrun
  obtain ⟨hid, hstream⟩ := hinv.keyed s c hc
  have hinsert : a.channels.modify s ({ · with state := .opened }) = a.channels.insert s { c with state := .opened } := by
    rw [OrdMap.modify, hc]
  have hreset : a.resetting.get? s = none := by
    by_contra hsome
    have hshut := hinv.idle s (isSome_iff_ne_none.2 hsome) c hc
    exact absurd (hstate.symm.trans hshut) nofun
  have hfresh : a.Fresh c.lifetime := hinv.fresh_of_opening (i := true) hc hstate
  have hsilent := hinv.silent true s c hc hstate
  have hplace : Inv (some s) { a with channels := a.channels.insert s { c with state := .opened } } := by
    refine hinv.place hk hreset hid hstream hsilent hfresh ?_ ?_
    · intro t d hd
      exact ⟨hd, fun heq => absurd (hinv.distinct false true t s d c hd hc heq).1 nofun⟩
    · intro t d hts hd heq
      exact hts (hinv.distinct true true t s d c hd hc heq).2
  have hinv' : Inv _ (a.onChannel s _) := hplace.same ⟨hinsert, rfl, rfl, rfl, rfl, rfl, rfl, rfl⟩
  refine emitOpened_sound (c := { c with state := .opened }) h.1 hrun hinv' ?_ rfl hsilent
  rw [onChannel, hinsert]
  exact OrdMap.get?_insert_self

lemma rejectDeclared_sound (h : Sound a) : Sound (a.rejectDeclared s) := by
  cases hrun : a.stopped with
  | true => exact h.ended hrun (rejectDeclared_marks a (Set.mem_univ s) fun _ _ => Set.mem_univ _)
  | false => exact h.wanes (rejectDeclared_wanes a (h.keyed hrun) s)

lemma visitResetAll_sound (h : Sound a) : Sound a.visitResetAll := by
  unfold visitResetAll
  split
  · exact h
  next cursor hcursor =>
    split
    next hnone =>
      refine ⟨h.1, fun hrun => (h.2 hrun).sweep none fun s c hc ho => ?_⟩
      obtain ⟨t, ht, _⟩ := le_of_firstFrom hc ((h.2 hrun).swept cursor hcursor s c hc ho)
      simp [nextToReset, ht] at hnone
    next s hs =>
      have hdiscard : Wanes ∅ a _ := discardInstallation_wanes a s true
      have h1 := h.wanes hdiscard
      dsimp only
      generalize a.discardInstallation s true = a1 at hdiscard h1
      have hreset : ∃ a2, (if (a1.channels.get? s).isSome ∨ (a1.resetting.get? s).isSome then a1.incomingReset s else a1) = a2 ∧
          Wanes ∅ a1 a2 ∧ (a2.stopped = false → a2.Shut s) := by
        refine ⟨_, rfl, ?_⟩
        split
        · obtain ⟨hwanes, hshut⟩ := incomingReset_spec h1.keyed
          exact ⟨hwanes, fun hrun => hshut hrun ((h1.2 (hwanes.running hrun)).idle s)⟩
        next hnone =>
          refine ⟨.refl a1, fun _ => shut_of_none ?_⟩
          simpa using (not_or.1 hnone).1
      obtain ⟨a2, heq, hwanes, hshut⟩ := hreset
      rw [heq]
      have h2 := h1.wanes hwanes
      have hall := hdiscard.trans hwanes
      refine ⟨h2.1, fun hrun => (h2.2 hrun).sweep _ fun t c hc ho => ?_⟩
      obtain ⟨d, hd, hf⟩ := hall.channels hrun hc
      have hle := nextToReset_le hs hd ((h.2 (hall.running hrun)).swept cursor hcursor t d hd (hf.opened ho))
      refine following_le (lt_of_le_of_ne hle ?_)
      rintro rfl
      exact absurd (ho.symm.trans (hshut hrun c hc)) nofun

lemma completeLoop_sound {n : ℕ} (h : Sound a) : Sound (completeLoop n a) := by
  induction n generalizing a with
  | zero => exact h.same (by constructor <;> rfl)
  | succ n ih =>
    unfold completeLoop
    split
    · exact h
    next s _ _ =>
      have hready : Sound { a with readyResets := a.readyResets.erase s } := h.same (by constructor <;> rfl)
      have hpush := hready.wanes (pushResetOutcome_wanes _ s true)
      have hactive := activateInstallation_sound (hpush.wanes (finishReset_wanes _ s)) s
      exact ih (hactive.same (by constructor <;> rfl))

lemma accept_sound {d : Association σ} (h : Sound b) (hnew : Channel.New b c) (ho : c.state = .opened)
    {O : Prop} (hv : b.Vacant O c.stream) (hq : Quiet (b.admitted c spare) d) : Sound (d.emitOpened c.stream) := by
  have hord : Ordered d.history := hq.same.history ▸ h.1
  by_cases hstop : d.stopped = true
  · exact emitOpened_ended hord hstop _
  have hrun : d.stopped = false := Bool.eq_false_iff.2 hstop
  have hb : b.stopped = false := (congrArg Core.stopped hq.core).symm.trans hrun
  have hinv := ((h.2 hb).admitted hnew hv.cursor hv.resetting spare).same hq.same
  refine emitOpened_sound hord hrun hinv ?_ ho hnew.silent
  rw [hq.same.channels]
  exact OrdMap.get?_insert_self

lemma sound_withstands : Withstands False (fun _ => True) (Sound (σ := σ)) where
  orderly ho := ho.elim
  act {a b} _ h ha := by
    cases ha with
    | touch hq => exact h.same hq.same
    | tally => exact h.wanes (onChannel_wanes _ fun _ _ => ⟨rfl, rfl, rfl, .inr ⟨rfl, fun _ => rfl⟩⟩)
    | skip hnext => exact ⟨h.1, fun hrun => ((h.2 hrun).allocate hnext).1⟩
    | discard s notify => exact h.wanes (discardInstallation_wanes _ s notify)
    | activate s => exact activateInstallation_sound h s
    | reopen hk hc ho => exact reopened_sound h hk hc ho
    | reject => exact rejectDeclared_sound h
    | reset s => exact h.wanes (beginReset_spec _ h.keyed s).1
    | report => exact h.wanes (reportIncoming_wanes h.keyed)
    | perform => exact h.wanes performReset_wanes
    | fail s => exact h.wanes (failReset_wanes _ s)
    | resetAll =>
      -- a reset of all streams starts from the first one
      have hswept (hrun : a.stopped = false) : Inv none { a with resetAllCursor := some 0 } :=
        (h.2 hrun).sweep _ fun s _ _ _ => ⟨0, rfl, Fin.zero_le s⟩
      exact ⟨h.1, fun hrun => (hswept hrun).same (by constructor <;> rfl)⟩
    | sweep => exact visitResetAll_sound h
    | complete => exact completeLoop_sound (h.same (by constructor <;> rfl))
    | halt => exact h.wanes (closeAllChannels_wanes.halt rfl rfl)
    | clear | packet => exact h.same (by constructor <;> rfl)
    | poll => exact pollPacket_sound h
    | push hk hc ho hentry _ _ _ hle => exact pushed_sound h hk hc ho hentry hle
    | pop hq helig => exact h.drop hq helig
    | deliver hq helig => exact h.deliver hq helig
    | accept _ hb hnew ho hv _ hq =>
      refine accept_sound ?_ hnew ho hv hq
      rcases hb with rfl | ⟨s, rfl⟩
      · exact h
      · exact activateInstallation_sound h s
    | declare hrun hnew ho hv spare =>
      refine ⟨h.1, fun _ => ((h.2 hrun).admitted hnew hv.cursor hv.resetting spare).complete fun d hd hopen => ?_⟩
      cases OrdMap.get?_insert_self.symm.trans hd
      exact absurd (ho.symm.trans hopen) nofun
    | stage hrun hnew ho => exact staged_sound h hrun hnew ho
    | abort =>
      refine ⟨?_, nofun⟩
      rw [abort]
      split <;> exact h.1

/-- Deliveries are in order: a message comes after the opening of its lifetime on the same channel, and neither comes after
the end of the lifetime was queued. -/
theorem deliveries_in_lifetime_order (a : Association σ) (h : (machine σ).Reachable a) (before : List Entry) (ℓ : ℕ)
    (e : DataChannelEvent) (hpre : before ++ [.delivered ℓ e] <+: a.history) :
    (∀ id, e.IsMessage id → ∃ e', .delivered ℓ e' ∈ before ∧ e'.IsOpened id) ∧
      ∀ id, e.IsDelivery id → .closedQueued ℓ ∉ before := by
  exact (sound_withstands.reachable new_sound h).1 before ℓ e hpre

def chat : DataChannelConfig := ⟨some 1, "chat", "", true, .reliable, 256, true⟩

/-- A socket that does what the packets tell it. One that is `steady` stays connected. -/
structure Script where
  steady : Bool := true
  connected : Bool := true
  messages : List Message := []
  events : List SocketEvent := []

def Script.input (socket : Script) : List UInt8 → Script
  | [1] => { socket with connected := socket.steady }
  | [2] => { socket with messages := socket.messages ++ [⟨1, dcepPpid, encodeDcepOpen chat, 12⟩] }
  | [3] => { socket with connected := true }
  | [4] => { socket with events := socket.events ++ replicate 255 .onOther ++ [.onIncomingStreamReset []] }
  | [5] => { socket with events := socket.events ++ [.onStreamsResetPerformed [1]] }
  | packet => { socket with messages := socket.messages ++ [⟨1, textPpid, packet, packet.length⟩] }

instance : Native Script where
  state socket := if socket.connected then .connected else .shuttingDown
  getMetrics _ := some ⟨16, 16⟩
  pollEvent socket := (socket.events.head?, { socket with events := socket.events.tail })
  getNextMessage socket := (socket.messages.head?, { socket with messages := socket.messages.tail })
  send socket _ _ _ _ := (.ok (), socket)
  resetStreams socket _ := (.ok (), socket)
  setStreamPriority socket _ _ := socket
  handleInput := Script.input
  advanceTime socket _ := socket
  connect socket := socket
  shutdown socket := socket
  close socket := socket
  reserve socket := (true, socket)
  spare _ := 0

def started : Association Script := (new ⟨false, none, false⟩ ⟨1000, 1000⟩ 0 (Vector.replicate 32 0) {}).get rfl

lemma reachable_run (ops : List Op) : (machine Script).Reachable (ops.foldl step started) :=
  .run (.init ⟨_, _, _, _, _, (some_get _).symm⟩) (Machine.admits_of_forall (fun _ _ => trivial) started ops)

def talk : List Op :=
  [.openChannel 0 chat, .handleInput 1 [104, 105], .pollEvent 2, .pollEvent 2, .handleInput 3 [111, 107], .closeChannel 4 1,
    .pollEvent 5]

theorem deliveries_in_talk :
    (talk.foldl step started).history =
        [.delivered 1 (.opened 1 chat), .delivered 1 (.message 1 (.text [104, 105])), .closedQueued 1,
          .delivered 1 (.closed 1)] ∧
      ∃ e', .delivered 1 e' ∈ [Entry.delivered 1 (.opened 1 chat)] ∧ e'.IsOpened 1 := by
  refine ⟨by decide +kernel, ?_⟩
  exact (deliveries_in_lifetime_order _ (reachable_run talk) [.delivered 1 _] 1 (.message 1 (.text [104, 105]))
    (by decide +kernel)).1 1 rfl

/-- While the association runs no two channels share a lifetime, those that are open have been announced, and those whose
end is queued are closing. -/
theorem lifetimes_tracked (a : Association σ) (h : (machine σ).Reachable a) (hrun : a.stopped = false) : Inv none a :=
  (sound_withstands.reachable new_sound h).2 hrun

theorem lifetimes_tracked_in_talk : Inv none (talk.foldl step started) :=
  lifetimes_tracked _ (reachable_run talk) (by decide +kernel)

end Association

end Pulsebeam.Sctp
