import Pulsebeam.Rtc.Sctp

/-! What closing work can do to an association. Channels and installations go away or start to close, only notices are
queued, and a lifetime is closed in the queue only when its channel closes. -/

namespace Pulsebeam.Sctp

open Lib

variable {σ : Type}

namespace DataChannelEvent

def IsOpened (id : DataChannelId) : DataChannelEvent → Prop
  | .opened id' _ => id' = id
  | _ => False

def IsMessage (id : DataChannelId) : DataChannelEvent → Prop
  | .message id' _ => id' = id
  | _ => False

def IsDelivery (id : DataChannelId) (e : DataChannelEvent) : Prop := e.IsOpened id ∨ e.IsMessage id

def Notice (e : DataChannelEvent) : Prop := ∀ id, ¬e.IsDelivery id

lemma notice_installationFailed (i : DataChannelInstallation) : (installationFailed i).Notice := by
  rintro id (h | h) <;> exact h

lemma notice_closed (id : DataChannelId) : (closed id).Notice := by
  rintro id (h | h) <;> exact h

lemma notice_resetOutcome (id : DataChannelId) (success : Bool) :
    (if success then resetComplete id else resetFailed id).Notice := by
  cases success <;> rintro id (h | h) <;> exact h

end DataChannelEvent

structure Channel.Fades (c c' : Channel) : Prop where
  lifetime : c'.lifetime = c.lifetime
  id : c'.id = c.id
  stream : c'.stream = c.stream
  state : c'.state = .closing ∨ c'.state = c.state ∧ (c.state = .opening → c'.openedEmitted = c.openedEmitted)

namespace Channel.Fades

variable {c c' c'' : Channel}

lemma refl (c : Channel) : c.Fades c := ⟨rfl, rfl, rfl, .inr ⟨rfl, fun _ => rfl⟩⟩

variable (h : c.Fades c')

include h

lemma trans (h' : c'.Fades c'') : c.Fades c'' where
  lifetime := h'.lifetime.trans h.lifetime
  id := h'.id.trans h.id
  stream := h'.stream.trans h.stream
  state := by
    rcases h'.state with hc | ⟨hs, he⟩
    · exact .inl hc
    rcases h.state with hc | ⟨hs', he'⟩
    · exact .inl (hs.trans hc)
    · exact .inr ⟨hs.trans hs', fun ho => (he (hs'.trans ho)).trans (he' ho)⟩

lemma closing (hc : c.state = .closing) : c'.state = .closing := by
  rcases h.state with hc' | ⟨hs, _⟩
  · exact hc'
  · exact hs.trans hc

lemma opened (ho : c'.state = .opened) : c.state = .opened := by
  rcases h.state with hc | ⟨hs, _⟩
  · exact absurd (ho.symm.trans hc) nofun
  · exact hs.symm.trans ho

lemma opening (ho : c'.state = .opening) : c.state = .opening ∧ c'.openedEmitted = c.openedEmitted := by
  rcases h.state with hc | ⟨hs, he⟩
  · exact absurd (ho.symm.trans hc) nofun
  · have hs := hs.symm.trans ho
    exact ⟨hs, he hs⟩

end Channel.Fades

namespace Association

def Shut (a : Association σ) (s : StreamId) : Prop := ∀ c, a.channels.get? s = some c → c.state = .closing

structure Same (a b : Association σ) : Prop where
  channels : b.channels = a.channels
  pending : b.pendingInstallations = a.pendingInstallations
  resetting : b.resetting = a.resetting
  events : b.events = a.events
  cursor : b.resetAllCursor = a.resetAllCursor
  lifetimes : b.nextChannelLifetime = a.nextChannelLifetime
  stopped : b.stopped = a.stopped
  history : b.history = a.history

structure Retires (X : Set StreamId) (a b : Association σ) (ls : List ℕ) : Prop where
  channels : ∀ s c', b.channels.get? s = some c' → ∃ c, a.channels.get? s = some c ∧ c.Fades c'
  pending : ∀ s c, b.pendingInstallations.get? s = some c → a.pendingInstallations.get? s = some c
  closes : ∀ ℓ ∈ ls, ∃ s c, a.channels.get? s = some c ∧ c.lifetime = ℓ ∧ (s ∈ X ∨ b.Shut s)
  resetting : ∀ s, (b.resetting.get? s).isSome → (a.resetting.get? s).isSome ∨ s ∈ X ∨ b.Shut s
  events : ∃ es, b.events = a.events ++ es ∧ ∀ q ∈ es, q.event.Notice
  cursor : b.resetAllCursor = a.resetAllCursor
  lifetimes : b.nextChannelLifetime = a.nextChannelLifetime

namespace Retires

variable {X Y : Set StreamId} {a b c : Association σ} {ls ks : List ℕ} {s : StreamId}

lemma shut (h : Retires X a b ls) (hs : a.Shut s) : b.Shut s := by
  intro c' hc'
  obtain ⟨c, hc, hf⟩ := h.channels s c' hc'
  exact hf.closing (hs c hc)

lemma of_same (h : Same a b) : Retires X a b [] where
  channels s c hc := ⟨c, h.channels ▸ hc, .refl c⟩
  pending s c hc := h.pending ▸ hc
  closes := nofun
  resetting s hs := .inl (h.resetting ▸ hs)
  events := ⟨[], by simpa using h.events, nofun⟩
  cursor := h.cursor
  lifetimes := h.lifetimes

lemma refl (X : Set StreamId) (a : Association σ) : Retires X a a [] := of_same (by constructor <;> rfl)

lemma mono (h : Retires X a b ls) (hXY : X ⊆ Y) : Retires Y a b ls := by
  refine { h with
    closes := fun ℓ hℓ => ?_
    resetting := fun s hs => (h.resetting s hs).imp_right (Or.imp_left (@hXY s)) }
  obtain ⟨s, c, hc, hl, hs⟩ := h.closes ℓ hℓ
  exact ⟨s, c, hc, hl, hs.imp_left (@hXY s)⟩

lemma trans (h : Retires X a b ls) (h' : Retires X b c ks) : Retires X a c (ls ++ ks) where
  channels s c' hc' := by
    obtain ⟨c1, hc1, hf'⟩ := h'.channels s c' hc'
    obtain ⟨c0, hc0, hf⟩ := h.channels s c1 hc1
    exact ⟨c0, hc0, hf.trans hf'⟩
  pending s c hc := h.pending s c (h'.pending s c hc)
  closes ℓ hℓ := by
    rcases List.mem_append.1 hℓ with hℓ | hℓ
    · obtain ⟨s, c0, hc0, hl, hs⟩ := h.closes ℓ hℓ
      exact ⟨s, c0, hc0, hl, hs.imp_right h'.shut⟩
    obtain ⟨s, c1, hc1, hl, hs⟩ := h'.closes ℓ hℓ
    obtain ⟨c0, hc0, hf⟩ := h.channels s c1 hc1
    exact ⟨s, c0, hc0, hf.lifetime.symm.trans hl, hs⟩
  resetting s hs := by
    rcases h'.resetting s hs with hs | hs
    · exact (h.resetting s hs).imp_right (Or.imp_right h'.shut)
    · exact .inr hs
  events := by
    obtain ⟨es, hes, hn⟩ := h.events
    obtain ⟨es', hes', hn'⟩ := h'.events
    refine ⟨es ++ es', by rw [hes', hes, List.append_assoc], ?_⟩
    intro q hq
    exact (List.mem_append.1 hq).elim (hn q) (hn' q)
  cursor := h'.cursor.trans h.cursor
  lifetimes := h'.lifetimes.trans h.lifetimes

lemma settle (h : Retires X a b ls) (hX : ∀ s ∈ X, b.Shut s) : Retires ∅ a b ls := by
  refine { h with
    closes := fun ℓ hℓ => ?_
    resetting := fun s hs => (h.resetting s hs).imp_right fun hs => .inr (hs.elim (hX s) id) }
  obtain ⟨s, c, hc, hl, hs⟩ := h.closes ℓ hℓ
  exact ⟨s, c, hc, hl, .inr (hs.elim (hX s) id)⟩

end Retires

def Wanes (X : Set StreamId) (a b : Association σ) : Prop :=
  (a.stopped = true → b.stopped = true) ∧
    ∃ ls : List ℕ, b.history = a.history ++ ls.map .closedQueued ∧ (b.stopped = false → Retires X a b ls)

namespace Wanes

variable {X Y : Set StreamId} {a b c : Association σ} {s : StreamId}

lemma mono (h : Wanes X a b) (hXY : X ⊆ Y) : Wanes Y a b := by
  obtain ⟨hstop, ls, hlog, hr⟩ := h
  exact ⟨hstop, ls, hlog, fun hb => (hr hb).mono hXY⟩

lemma running (h : Wanes X a b) (hb : b.stopped = false) : a.stopped = false := by
  by_contra ha
  rw [h.1 (Bool.not_eq_false _ ▸ ha)] at hb
  cases hb

lemma trans (h : Wanes X a b) (h' : Wanes X b c) : Wanes X a c := by
  obtain ⟨hstop, ls, hlog, hr⟩ := h
  obtain ⟨hstop', ks, hlog', hr'⟩ := id h'
  refine ⟨fun ha => hstop' (hstop ha), ls ++ ks, ?_, fun hc => (hr (h'.running hc)).trans (hr' hc)⟩
  rw [hlog', hlog, List.map_append, List.append_assoc]

lemma of_retires (hstop : a.stopped = true → b.stopped = true) (hlog : b.history = a.history)
    (h : b.stopped = false → Retires X a b []) : Wanes X a b := ⟨hstop, [], by simpa using hlog, h⟩

lemma of_same (h : Same a b) : Wanes X a b := .of_retires (fun ha => h.stopped.trans ha) h.history fun _ => .of_same h

lemma refl (a : Association σ) : Wanes X a a := of_same (by constructor <;> rfl)

section

variable (h : Wanes X a b)

include h

lemma halt (hc : c.stopped = true) (hlog : c.history = b.history) : Wanes Y a c := by
  obtain ⟨_, ls, hlog', _⟩ := h
  refine ⟨fun _ => hc, ls, hlog.trans hlog', fun hc' => ?_⟩
  rw [hc] at hc'
  cases hc'

lemma settle (hX : b.stopped = false → ∀ s ∈ X, b.Shut s) : Wanes ∅ a b := by
  obtain ⟨hstop, ls, hlog, hr⟩ := h
  exact ⟨hstop, ls, hlog, fun hb => (hr hb).settle (hX hb)⟩

lemma shut (hb : b.stopped = false) (hs : a.Shut s) : b.Shut s := by
  obtain ⟨_, _, _, hr⟩ := h
  exact (hr hb).shut hs

lemma cursor (hb : b.stopped = false) : b.resetAllCursor = a.resetAllCursor := by
  obtain ⟨_, _, _, hr⟩ := h
  exact (hr hb).cursor

lemma channels (hb : b.stopped = false) {c' : Channel} (hc' : b.channels.get? s = some c') :
    ∃ c, a.channels.get? s = some c ∧ c.Fades c' := by
  obtain ⟨_, _, _, hr⟩ := h
  exact (hr hb).channels s c' hc'

end

lemma foldl {f : Association σ → StreamId → Association σ} (hf : ∀ a s, Wanes X a (f a s)) (l : List StreamId)
    (a : Association σ) : Wanes X a (l.foldl f a) := by
  induction l generalizing a with
  | nil => exact refl a
  | cons s l ih => exact (hf a s).trans (ih _)

end Wanes

variable {X : Set StreamId} {a b : Association σ} {s : StreamId}

lemma onChannel_wanes (s : StreamId) {f : Channel → Channel} (hf : ∀ c, a.channels.get? s = some c → c.Fades (f c)) :
    Wanes X a (a.onChannel s f) := by
  refine .of_retires id rfl fun _ => ?_
  refine { Retires.refl X a with channels := fun s' c' hc' => ?_, closes := nofun, resetting := fun _ hs => .inl hs }
  rw [onChannel, OrdMap.get?_modify] at hc'
  split at hc'
  next heq =>
    obtain ⟨c, hc, rfl⟩ := Option.map_eq_some_iff.1 hc'
    exact ⟨c, heq ▸ hc, hf c hc⟩
  · exact ⟨c', hc', .refl c'⟩

lemma eraseChannel_wanes : Wanes X a { a with channels := a.channels.erase s } := by
  refine .of_retires id rfl fun _ => ?_
  refine { Retires.refl X a with
    channels := fun s' c' hc' => ⟨c', ?_, .refl c'⟩, closes := nofun, resetting := fun _ hs => .inl hs }
  have herase : (a.channels.erase s).get? s' = some c' := hc'
  rw [OrdMap.get?_erase] at herase
  split at herase
  · cases herase
  · exact herase

lemma removeChannel_wanes (a : Association σ) (s : StreamId) : Wanes X a (a.removeChannel s) :=
  (eraseChannel_wanes).trans (.of_same (by constructor <;> rfl))

lemma resetting_wanes {r : OrdMap StreamId ResetState}
    (hr : ∀ s, (r.get? s).isSome → (a.resetting.get? s).isSome ∨ s ∈ X) : Wanes X a { a with resetting := r } := by
  refine .of_retires id rfl fun _ => ?_
  exact { Retires.refl X a with resetting := fun s hs => (hr s hs).imp_right .inl }

lemma finishReset_wanes (a : Association σ) (s : StreamId) : Wanes X a (a.finishReset s) := by
  have hreset : Wanes X (a.removeChannel s) { a.removeChannel s with resetting := a.resetting.erase s } := by
    refine resetting_wanes fun t ht => .inl ?_
    rw [OrdMap.get?_erase] at ht
    split at ht
    · cases ht
    · exact ht
  exact ((removeChannel_wanes a s).trans hreset).trans (.of_same (by constructor <;> rfl))

lemma onReset_wanes (a : Association σ) (s : StreamId) (f : ResetState → ResetState) : Wanes X a (a.onReset s f) := by
  refine resetting_wanes fun s' hs' => .inl ?_
  rw [OrdMap.get?_modify] at hs'
  split at hs'
  next heq => simpa [heq] using hs'
  · exact hs'

lemma insertReset_wanes (a : Association σ) (s : StreamId) (reset : ResetState) :
    Wanes {s} a { a with resetting := a.resetting.insert s reset } := by
  refine resetting_wanes fun s' hs' => ?_
  by_cases heq : s' = s
  · exact .inr heq
  · rw [OrdMap.get?_insert_of_ne heq] at hs'
    exact .inl hs'

lemma pushEvent_wanes {q : QueuedEvent} (hq : q.event.Notice) : Wanes X a { a with events := a.events ++ [q] } := by
  refine .of_retires id rfl fun _ => ?_
  refine { Retires.refl X a with events := ⟨[q], rfl, ?_⟩ }
  intro q' hq'
  rw [List.mem_singleton.1 hq']
  exact hq

lemma logClosed_wanes {c : Channel} {ℓ : ℕ} (hs : s ∈ X) (hc : a.channels.get? s = some c)
    (hℓ : c.lifetime = ℓ) : Wanes X a { a with history := a.history ++ [.closedQueued ℓ] } := by
  refine ⟨id, [ℓ], rfl, fun _ => ?_⟩
  exact { Retires.refl X a with
    closes := fun ℓ' hℓ' => ⟨s, c, hc, hℓ.trans (List.mem_singleton.1 hℓ').symm, .inl hs⟩ }

lemma erasePending_wanes : Wanes X a { a with pendingInstallations := a.pendingInstallations.erase s } := by
  refine .of_retires id rfl fun _ => ?_
  refine { Retires.refl X a with pending := fun s' c hc => ?_ }
  have herase : (a.pendingInstallations.erase s).get? s' = some c := hc
  rw [OrdMap.get?_erase] at herase
  split at herase
  · cases herase
  · exact herase

lemma discardInstallation_wanes (a : Association σ) (s : StreamId) (notify : Bool) :
    Wanes X a (a.discardInstallation s notify) := by
  unfold discardInstallation
  split
  · exact .refl a
  next c _ =>
    cases notify with
    | false => exact (erasePending_wanes).trans (.of_same (by constructor <;> rfl))
    | true =>
      exact ((erasePending_wanes).trans
        (pushEvent_wanes
          (DataChannelEvent.notice_installationFailed _))).trans
        (.of_same (by constructor <;> rfl))

lemma retirePendingLoop_wanes (n : ℕ) (a : Association σ) : Wanes X a (retirePendingLoop n a) := by
  induction n generalizing a with
  | zero =>
    rw [retirePendingLoop]
    split
    · exact .of_same (by constructor <;> rfl)
    · exact .refl a
  | succ n ih =>
    rw [retirePendingLoop]
    split
    · exact .of_same (by constructor <;> rfl)
    next s _ => exact (discardInstallation_wanes a s true).trans (ih _)

lemma queueResetCompletion_wanes (a : Association σ) (s : StreamId) : Wanes X a (a.queueResetCompletion s) := by
  rw [queueResetCompletion]
  split
  · exact .of_same (by constructor <;> rfl)
  · exact .refl a

lemma performReset_wanes : Wanes X a (a.performReset s) := by
  rw [performReset]
  split
  · refine .trans ?_ (queueResetCompletion_wanes _ s)
    exact (onReset_wanes a s _).trans (.of_same (by constructor <;> rfl))
  · exact .refl a

def Keyed (a : Association σ) : Prop := ∀ s c, a.channels.get? s = some c → c.id = s ∧ c.stream = s

lemma shut_onChannel (a : Association σ) (s : StreamId) : (a.onChannel s ({ · with state := .closing })).Shut s := by
  intro c hc
  rw [onChannel, OrdMap.get?_modify, if_pos rfl] at hc
  obtain ⟨c', _, rfl⟩ := Option.map_eq_some_iff.1 hc
  rfl

lemma Keyed.onChannel (ha : a.Keyed) (s : StreamId) : (a.onChannel s ({ · with state := .closing })).Keyed := by
  intro s' c hc
  rw [Association.onChannel, OrdMap.get?_modify] at hc
  split at hc
  next heq =>
    obtain ⟨c', hc', rfl⟩ := Option.map_eq_some_iff.1 hc
    exact heq ▸ ha s c' hc'
  · exact ha s' c hc

lemma shut_of_none (h : a.channels.get? s = none) : a.Shut s := fun _ hc => absurd (h.symm.trans hc) nofun

variable [Native σ]

lemma reserve_wanes (a : Association σ) : Wanes X a a.reserve.2 := .of_same (by constructor <;> rfl)

lemma fundReset_wanes : Wanes X a a.fundReset := .of_same (by constructor <;> rfl)

lemma resetStreams_wanes (a : Association σ) (streams : List StreamId) : Wanes X a (a.resetStreams streams).2 :=
  .of_same (by constructor <;> rfl)

lemma collapse_wanes (h : Wanes X a b) : Wanes X a b.collapse := h.halt rfl rfl

lemma pushNotice_wanes {id : DataChannelId} {e : DataChannelEvent} (he : e.Notice) (hX : id ∈ X ∨ ∀ ℓ, closing ℓ e = []) :
    Wanes X a (a.pushNotice id e) := by
  unfold pushNotice
  split
  · exact .refl a
  next entry hentry =>
    split
    · exact collapse_wanes (.refl a)
    split
    · have hstep : Wanes X a (a.reserve.2.onChannel id fun c => { c with reservedEvents := c.reservedEvents - 1 }) :=
        (reserve_wanes a).trans (onChannel_wanes id fun c _ => ⟨rfl, rfl, rfl, .inr ⟨rfl, fun _ => rfl⟩⟩)
      have hpush := hstep.trans (pushEvent_wanes (q := ⟨entry.lifetime, e, 0⟩) he)
      have hget : (a.channels.modify id fun c => { c with reservedEvents := c.reservedEvents - 1 }).get? id =
          some { entry with reservedEvents := entry.reservedEvents - 1 } := by
        rw [OrdMap.get?_modify, if_pos rfl, show a.channels.get? id = some entry from hentry]
        rfl
      have hnil (hnil : closing entry.lifetime e = []) : a.history = a.history ++ closing entry.lifetime e := by
        rw [hnil, List.append_nil]
      rcases hX with hX | hX
      · cases e with
        | closed id' => exact (hpush.trans (logClosed_wanes hX hget rfl)).trans (.of_same (by constructor <;> rfl))
        | _ => exact hpush.trans (.of_same ⟨rfl, rfl, rfl, rfl, rfl, rfl, rfl, (hnil rfl).symm⟩)
      · exact hpush.trans (.of_same ⟨rfl, rfl, rfl, rfl, rfl, rfl, rfl, (hnil (hX _)).symm⟩)
    · exact collapse_wanes (reserve_wanes a)

lemma emitClosed_wanes (a : Association σ) (s : StreamId) (hX : ∀ c, a.channels.get? s = some c → c.id ∈ X) :
    Wanes X a (a.emitClosed s) := by
  unfold emitClosed
  split
  · exact .refl a
  next c hc =>
    split
    · exact .refl a
    refine .trans ?_ (pushNotice_wanes (DataChannelEvent.notice_closed c.id) (.inl (hX c hc)))
    exact (onChannel_wanes s (f := Channel.markClosed) fun c _ => ⟨rfl, rfl, rfl, .inr ⟨rfl, fun _ => rfl⟩⟩).trans
      (.of_same (by constructor <;> rfl))

lemma closeAllChannels_wanes : Wanes Set.univ a a.closeAllChannels := by
  exact (retirePendingLoop_wanes _ a).trans
    (.foldl (fun a s => emitClosed_wanes a s fun _ _ => Set.mem_univ _) _ _)

lemma abortAssociation_wanes : Wanes X a a.abortAssociation := by
  have hquiet : Wanes Set.univ a (clearPackets { a with socket := Native.close a.socket }) :=
    .of_same (by constructor <;> rfl)
  exact (hquiet.trans (closeAllChannels_wanes)).halt rfl rfl

section

variable (a : Association σ)

lemma pushResetOutcome_wanes (s : StreamId) (success : Bool) : Wanes X a (a.pushResetOutcome s success) := by
  rw [pushResetOutcome]
  have hn := DataChannelEvent.notice_resetOutcome s success
  split
  · refine pushNotice_wanes hn (.inr fun ℓ => ?_)
    cases success <;> rfl
  split
  · exact ((onReset_wanes a s _).trans (pushEvent_wanes hn)).trans (.of_same (by constructor <;> rfl))
  · exact .refl a

lemma failReset_wanes (s : StreamId) : Wanes X a (a.failReset s) := by
  unfold failReset
  split
  · exact .refl a
  split
  · exact .refl a
  have hmark := onReset_wanes (X := X) a s ({ · with failed := true })
  have hready : Wanes X (a.onReset s ({ · with failed := true }))
      { a.onReset s _ with
        readyResets := (a.onReset s ({ · with failed := true })).readyResets.erase s
        log := a.log ++ [Mark.failed s] } :=
    .of_same (by constructor <;> rfl)
  exact ((hmark.trans hready).trans (pushResetOutcome_wanes _ s false)).trans (discardInstallation_wanes _ s true)

lemma rejectDeclared_marks (hs : s ∈ X)
    (hX : ∀ c, a.channels.get? s = some c → c.id ∈ X) : Wanes X a (a.rejectDeclared s) := by
  refine ((emitClosed_wanes a s hX).trans ((insertReset_wanes _ s {}).mono (Set.singleton_subset_iff.2 hs))).trans ?_
  exact ((failReset_wanes _ s).trans (removeChannel_wanes _ s)).trans (.of_same (by constructor <;> rfl))

lemma rejectDeclared_wanes (ha : a.Keyed) (s : StreamId) : Wanes ∅ a (a.rejectDeclared s) := by
  refine (rejectDeclared_marks a (Set.mem_singleton s) fun c hc => (ha s c hc).1).settle ?_
  rintro _ s' rfl
  exact shut_of_none OrdMap.get?_erase_self

lemma startReset_wanes (ha : a.Keyed) (hs : a.Shut s) (reserved : Bool) : Wanes ∅ a (a.startReset s reserved).2 := by
  have hclosed : Wanes {s} a _ := emitClosed_wanes a s fun c hc => (ha s c hc).1
  have settled {b : Association σ} (h : Wanes {s} a b) : Wanes ∅ a b := by
    refine h.settle ?_
    rintro hb s' rfl
    exact h.shut hb hs
  rw [startReset]
  split
  · exact settled hclosed
  have hreset := (hclosed.trans (insertReset_wanes _ s
    { incoming := (a.emitClosed s).resetAllCursor.isSome, notificationReserved := reserved })).trans (resetStreams_wanes _ [s])
  dsimp only
  split
  · exact settled hreset
  · exact settled (hreset.trans (failReset_wanes _ s))

lemma beginReset_spec (ha : a.stopped = false → a.Keyed) (s : StreamId) :
    Wanes ∅ a (a.beginReset s).2 ∧
      ((a.beginReset s).2.stopped = false → ((a.resetting.get? s).isSome → a.Shut s) → (a.beginReset s).2.Shut s) := by
  unfold beginReset
  split
  next hstop => exact ⟨.refl a, fun hrun => absurd (hrun.symm.trans hstop) nofun⟩
  next hrun =>
    have ha := ha (Bool.eq_false_iff.2 hrun)
    split
    next hreset => exact ⟨.refl a, fun _ hs => hs (hreset ▸ rfl)⟩
    split
    next c hc =>
      split
      · exact ⟨rejectDeclared_wanes a ha s, fun _ _ => shut_of_none OrdMap.get?_erase_self⟩
      have hclosing := onChannel_wanes (X := ∅) (a := a) s (f := ({ · with state := .closing }))
        fun c _ => ⟨rfl, rfl, rfl, .inl rfl⟩
      have hstart := startReset_wanes _ (ha.onChannel s) (shut_onChannel a s) false
      exact ⟨hclosing.trans hstart, fun hrun _ => hstart.shut hrun (shut_onChannel a s)⟩
    next hc =>
      split
      · have hstart := startReset_wanes a.fundReset ha (shut_of_none hc) true
        exact ⟨(fundReset_wanes).trans hstart, fun hrun _ => hstart.shut hrun (shut_of_none hc)⟩
      · exact ⟨(reserve_wanes a).trans (abortAssociation_wanes), nofun⟩

end

lemma incomingReset_spec (ha : a.stopped = false → a.Keyed) :
    Wanes ∅ a (a.incomingReset s) ∧
      ((a.incomingReset s).stopped = false → ((a.resetting.get? s).isSome → a.Shut s) → (a.incomingReset s).Shut s) := by
  rw [incomingReset]
  obtain ⟨hbegin, hshut⟩ := beginReset_spec a ha s
  split
  · have hqueue := (onReset_wanes (X := ∅) (a.beginReset s).2 s ({ · with incoming := true })).trans
      (queueResetCompletion_wanes _ s)
    exact ⟨hbegin.trans hqueue, fun hrun hs => hqueue.shut hrun (hshut (hqueue.running hrun) hs)⟩
  · exact ⟨hbegin, hshut⟩

lemma reportIncoming_wanes (ha : a.stopped = false → a.Keyed) : Wanes ∅ a (a.reportIncoming s) :=
  (incomingReset_spec ha).1.trans (.of_same (by constructor <;> rfl))

end Association

end Pulsebeam.Sctp
