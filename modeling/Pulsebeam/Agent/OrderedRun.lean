import Pulsebeam.Agent.OrderedCursor
import Pulsebeam.Agent.TopicsRun

/-! Runs of an ordered subscriber: what the application is told of one track. -/

namespace Pulsebeam.Agent

open Pulsebeam.Lib Cursor List Option OrdMap

namespace SubscriberState

variable {s s' : SubscriberState} {id : String}

def cursor (s : SubscriberState) (id : String) : Option ℕ := (s.ordered.get? id).bind (·.nextSequence)

def Sound (s : SubscriberState) : Prop := ∀ ⦃id d⦄, s.ordered.get? id = some d → d.Sound id

def Fades (s s' : SubscriberState) : Prop :=
  ∀ ⦃id d'⦄, s'.ordered.get? id = some d' → d' = {} ∨ ∃ d, s.ordered.get? id = some d ∧ (d' = d ∨ d' = d.clearPending)

lemma sound_default : Sound {} := nofun

lemma Sound.fades (h : s.Sound) (hf : Fades s s') : s'.Sound := by
  intro id d' hd'
  rcases hf hd' with rfl | ⟨d, hd, rfl | rfl⟩
  · exact OrderedDelivery.sound_default
  · exact h hd
  · exact (h hd).clearPending

lemma Sound.getD (h : s.Sound) (id : String) : ((s.ordered.get? id).getD {}).Sound id := by
  cases hd : s.ordered.get? id with
  | none => exact OrderedDelivery.sound_default
  | some d => exact h hd

lemma cursor_getD (s : SubscriberState) (id : String) : ((s.ordered.get? id).getD {}).nextSequence = s.cursor id := by
  unfold cursor
  cases s.ordered.get? id with
  | none => rfl
  | some d => rfl

def put (s : SubscriberState) (id : String) (d : OrderedDelivery) : SubscriberState :=
  { s with ordered := s.ordered.insert id d }

lemma Sound.put (h : s.Sound) {d : OrderedDelivery} (hd : d.Sound id) : (s.put id d).Sound := by
  intro j d' hd'
  rw [SubscriberState.put, get?_insert] at hd'
  split at hd'
  next heq =>
    cases hd'
    exact heq ▸ hd
  · exact h hd'

lemma cursor_put (s : SubscriberState) (id j : String) (d : OrderedDelivery) :
    (s.put id d).cursor j = if j = id then d.nextSequence else s.cursor j := by
  rw [cursor, put, get?_insert]
  split <;> rfl

end SubscriberState

namespace Topics

variable {t t' t'' : Topics} {sub : TopicSubscriber} {id : String} {es : List Event} {source : String} {ended : Bool}
  {generation : Generation} {channel : ChannelId} {e : Event} {participant : String} {s : TopicSubscriber} {n : ℕ}

lemma cursor_eq (t : Topics) (sub : TopicSubscriber) (id : String) :
    t.cursor sub id = (t.subscribers.get? sub).bind (·.cursor id) := by
  unfold cursor
  cases t.subscribers.get? sub with
  | none => rfl
  | some s => rfl

def item (sub : TopicSubscriber) (id : String) : Event → Option Item
  | .message m => if (⟨m.topic, m.mode⟩ : TopicKey) = sub ∧ m.dataTrackId = id then some (.deliver m.sequence) else none
  | .recoveryGap s i _ expected available => if s = sub ∧ i = id then some (.gap expected available) else none
  | _ => none

def stream (t : Topics) (sub : TopicSubscriber) (id : String) : List Item := t.trace.filterMap (item sub id)

lemma item_of_silent (h : e.Silent) : item sub id e = none := by
  cases e with
  | message => exact h.elim
  | recoveryGap => exact h.elim
  | _ => rfl

lemma stream_of_silent (ht : t'.trace = t.trace ++ es) (hes : ∀ e ∈ es, e.Silent) :
    t'.stream sub id = t.stream sub id := by
  have hnone : es.filterMap (item sub id) = [] := filterMap_eq_nil_iff.2 fun e he => item_of_silent (hes e he)
  rw [stream, ht, filterMap_append, hnone, append_nil, stream]

def Sound (t : Topics) : Prop := ∀ ⦃s st⦄, t.subscribers.get? s = some st → st.Sound

def Routed (t : Topics) : Prop :=
  ∀ ⦃a⦄, t.active = some a → ∀ ⦃c r⦄, a.channels.get? c = some r → ∃ source, a.channelSources.get? c = some source

structure Quiet (sub : TopicSubscriber) (id : String) (t t' : Topics) : Prop where
  sound : t.Sound → t'.Sound
  routed : t.Routed → t'.Routed
  stream : t'.stream sub id = t.stream sub id
  cursor : t'.cursor sub id = t.cursor sub id

lemma Quiet.refl (t : Topics) : Quiet sub id t t := ⟨fun h => h, fun h => h, rfl, rfl⟩

lemma Quiet.trans (h : Quiet sub id t t') (h' : Quiet sub id t' t'') : Quiet sub id t t'' :=
  ⟨fun hs => h'.sound (h.sound hs), fun hr => h'.routed (h.routed hr), h'.stream.trans h.stream, h'.cursor.trans h.cursor⟩

lemma quiet_of_beside (h : Beside t t') : Quiet sub id t t' := by
  obtain ⟨es, ht, hes⟩ := h.trace
  refine ⟨fun hs => ?_, fun hr => ?_, stream_of_silent ht hes, ?_⟩
  · unfold Sound
    rw [h.subscribers]
    exact hs
  · unfold Routed
    rw [h.active]
    exact hr
  · rw [cursor_eq, cursor_eq, h.subscribers]

lemma Quiet.of_subscribers (hsub : ∀ ⦃s st'⦄, t'.subscribers.get? s = some st' →
      st' = {} ∨ ∃ st, t.subscribers.get? s = some st ∧ SubscriberState.Fades st st')
    (hcursor : (t'.subscribers.get? sub).bind (·.cursor id) = (t.subscribers.get? sub).bind (·.cursor id))
    (hr : t.Routed → t'.Routed) (ht : t'.trace = t.trace ++ es) (hes : ∀ e ∈ es, e.Silent) :
    Quiet sub id t t' := by
  refine ⟨fun hs => ?_, hr, stream_of_silent ht hes, ?_⟩
  · intro s st' hst'
    rcases hsub hst' with rfl | ⟨st, hst, hf⟩
    · exact SubscriberState.sound_default
    · exact (hs hst).fades hf
  · rw [cursor_eq, cursor_eq, hcursor]

lemma Quiet.of_active (hs : t'.subscribers = t.subscribers) (hr : t.Routed → t'.Routed) (ht : t'.trace = t.trace) :
    Quiet sub id t t' := by
  refine ⟨fun h => ?_, hr, congrArg _ ht, by rw [cursor_eq, cursor_eq, hs]⟩
  unfold Sound
  rw [hs]
  exact h

lemma modify_quiet {f : SubscriberState → SubscriberState} (hf : ∀ st, SubscriberState.Fades st (f st))
    (hcursor : s = sub → ∀ st, (f st).cursor id = st.cursor id) :
    Quiet sub id t { t with subscribers := t.subscribers.modify s f } := by
  refine .of_subscribers ?_ ?_ (fun hr => hr) (append_nil _).symm (by simp)
  · intro s' st' hst'
    rw [get?_modify] at hst'
    split at hst'
    next heq =>
      subst heq
      obtain ⟨st, hst, rfl⟩ := map_eq_some_iff.1 hst'
      exact .inr ⟨st, hst, hf st⟩
    · exact .inr ⟨st', hst', fun _ _ hd => .inr ⟨_, hd, .inl rfl⟩⟩
  · rw [get?_modify]
    split
    next heq =>
      subst heq
      cases t.subscribers.get? sub with
      | none => rfl
      | some st => exact hcursor rfl st
    · rfl

lemma erase_fades {s : SubscriberState} :
    SubscriberState.Fades s ⟨s.latest.erase source, s.lossy.erase source, s.ordered.erase source⟩ := by
  intro id d' hd'
  rw [get?_erase] at hd'
  split at hd'
  · cases hd'
  · exact .inr ⟨d', hd', .inl rfl⟩

lemma erase_cursor {s : SubscriberState} (h : id ≠ source) :
    SubscriberState.cursor ⟨s.latest.erase source, s.lossy.erase source, s.ordered.erase source⟩ id = s.cursor id := by
  rw [SubscriberState.cursor, get?_erase_of_ne h, SubscriberState.cursor]

lemma endSource_quiet (h : s = sub → id ≠ source) : Quiet sub id t (t.endSource s source) :=
  modify_quiet (fun _ => erase_fades) fun hs _ => erase_cursor (h hs)

lemma detachSubscriber_quiet (h : ended = true → s = sub → id ≠ source) :
    Quiet sub id t (t.detachSubscriber s source ended) := by
  refine modify_quiet (fun st => ?_) fun hs st => ?_
  · cases ended with
    | true => exact erase_fades
    | false =>
      intro id d' hd'
      rw [if_neg Bool.false_ne_true, get?_modify] at hd'
      split at hd'
      next heq =>
        subst heq
        obtain ⟨d, hd, rfl⟩ := map_eq_some_iff.1 hd'
        exact .inr ⟨d, hd, .inr rfl⟩
      · exact .inr ⟨d', hd', .inl rfl⟩
  · cases ended with
    | true => exact erase_cursor (h rfl hs)
    | false =>
      rw [SubscriberState.cursor, if_neg Bool.false_ne_true, get?_modify, SubscriberState.cursor]
      split
      next heq =>
        subst heq
        cases st.ordered.get? id with
        | none => rfl
        | some d => rfl
      · rfl

lemma ensureOrdered_quiet : Quiet sub id t (t.ensureOrdered s source) := by
  refine modify_quiet (fun st => ?_) fun _ st => ?_
  · intro id d' hd'
    rw [get?_insert] at hd'
    split at hd'
    next heq =>
      subst heq
      cases hd'
      cases hd : st.ordered.get? id with
      | none => exact .inl rfl
      | some d => exact .inr ⟨d, rfl, .inl rfl⟩
    · exact .inr ⟨d', hd', .inl rfl⟩
  · have hput := st.cursor_put source id ((st.ordered.get? source).getD {})
    refine hput.trans ?_
    split
    next heq => rw [heq, st.cursor_getD]
    · rfl

lemma routed_of_active_eq_none (h : t.active = none) : t.Routed := by
  intro a ha
  cases h.symm.trans ha

lemma allDrops_silent {l : List (TopicPublisher × PublisherState)} {reason : TopicDropReason} :
    ∀ e ∈ l.flatMap fun e => e.2.drops e.1 reason, e.Silent := by
  intro e he
  obtain ⟨x, _, hx⟩ := mem_flatMap.1 he
  exact drops_silent e hx

lemma unbind_quiet : Quiet sub id t (t.unbind .transportReplaced) := by
  have hget : ∀ s, (t.unbind .transportReplaced).subscribers.get? s =
      (t.subscribers.get? s).map fun st => ⟨∅, ∅, st.ordered.mapValues fun _ d => d.clearPending⟩ :=
    fun s => get?_mapValues
  refine .of_subscribers ?_ ?_ (fun _ => routed_of_active_eq_none rfl) rfl allDrops_silent
  · intro s st' hst'
    rw [hget] at hst'
    obtain ⟨st, hst, rfl⟩ := map_eq_some_iff.1 hst'
    refine .inr ⟨st, hst, fun id d' hd' => ?_⟩
    rw [get?_mapValues] at hd'
    obtain ⟨d, hd, rfl⟩ := map_eq_some_iff.1 hd'
    exact .inr ⟨d, hd, .inr rfl⟩
  · rw [hget]
    cases t.subscribers.get? sub with
    | none => rfl
    | some st =>
      change ((st.ordered.mapValues _).get? id).bind _ = (st.ordered.get? id).bind _
      rw [get?_mapValues]
      cases st.ordered.get? id with
      | none => rfl
      | some d => rfl

lemma bindNative_quiet : Quiet sub id t (t.bindNative generation participant) := by
  refine unbind_quiet.trans (.of_active rfl (fun _ => ?_) rfl)
  intro a ha c r hc
  cases ha
  cases hc

lemma get?_ensureAll {κ α : Type} [LinearOrder κ] (m : OrdMap κ α) (ks : List κ) (a : α) (k : κ) :
    (ensureAll m ks a).get? k = (m.get? k).or (if k ∈ ks then some a else none) := by
  induction ks generalizing m with
  | nil => simp [ensureAll]
  | cons k' ks ih =>
    have hstep : ensureAll m (k' :: ks) a = ensureAll _ ks a := rfl
    rw [hstep, ih, get?_insert]
    by_cases hk : k = k'
    · subst hk
      cases m.get? k <;> simp
    · simp [hk]

lemma reconcile_quiet {r : TopicRegistrations} (h : (t.subscribers.get? sub).isSome → sub ∈ r.subscribers) :
    Quiet sub id t (t.reconcile r) := by
  have hget : ∀ s, (t.reconcile r).subscribers.get? s =
      ((t.subscribers.retain fun s _ => s ∈ r.subscribers).get? s).or _ :=
    fun s => get?_ensureAll ..
  refine .of_subscribers ?_ ?_ (fun hr => ?_) rfl allDrops_silent
  · intro s st' hst'
    rw [hget, or_eq_some_iff] at hst'
    rcases hst' with hst' | ⟨_, hst'⟩
    · exact .inr ⟨st', (get?_retain.1 hst').1, fun _ _ hd => .inr ⟨_, hd, .inl rfl⟩⟩
    split at hst'
    · exact .inl (Option.some.inj hst').symm
    · cases hst'
  · rw [hget]
    cases hst : t.subscribers.get? sub with
    | none =>
      have hret : (t.subscribers.retain fun s _ => s ∈ r.subscribers).get? sub = none := by
        by_contra hne
        obtain ⟨st, hst'⟩ := ne_none_iff_exists'.1 hne
        cases hst.symm.trans (get?_retain.1 hst').1
      rw [hret]
      split <;> rfl
    | some st =>
      have hmem : sub ∈ r.subscribers := h (by rw [hst]; rfl)
      rw [get?_retain.2 ⟨hst, decide_eq_true hmem⟩]
      rfl
  · intro a ha c reg hc
    obtain ⟨a0, ha0, rfl⟩ := map_eq_some_iff.1 ha
    exact hr ha0 (get?_retain.1 hc).1

lemma activeIn_eq_some {a : ActiveTopics} (h : t.activeIn generation = some a) : t.active = some a :=
  (filter_eq_some_iff.1 h).1

lemma unbindGeneration_quiet : Quiet sub id t (t.unbindGeneration generation .transportReplaced) := by
  unfold unbindGeneration
  split
  · exact .refl t
  · exact unbind_quiet

lemma suspendSource_quiet : Quiet sub id t (t.suspendSource generation channel) := by
  unfold suspendSource
  split
  · exact .refl t
  next a ha =>
    refine .of_active rfl (fun hr => ?_) rfl
    intro a' ha' c r hc
    cases ha'
    exact hr (activeIn_eq_some ha) hc

lemma installSource_quiet (source : TopicSource) : Quiet sub id t (t.installSource generation source) := by
  unfold installSource
  split
  next a mode ha _ =>
    dsimp only
    have hinstalled : Quiet sub id t { t with
        active := some { a with
          suspended := a.suspended.erase source.channel
          channels := a.channels.insert source.channel source.registration
          channelSources := a.channelSources.insert source.channel source.trackId }
        catalog := t.catalog.insert source.trackId ⟨source.label, mode, source.participantExternalId,
          source.participantId == a.canonicalParticipantId⟩ } := by
      refine .of_active rfl (fun hr => ?_) rfl
      intro a' ha' c r hc
      cases ha'
      rw [get?_insert] at hc ⊢
      split at hc
      next heq => exact ⟨_, if_pos heq⟩
      next hne =>
        rw [if_neg hne]
        exact hr (activeIn_eq_some ha) hc
    split
    · refine hinstalled.trans (quiet_of_beside ?_)
      refine Beside.trans ?_ (dispatchPublisher_beside _ _)
      exact .of_eq rfl rfl rfl rfl
    split
    · exact (hinstalled.trans (ensureOrdered_quiet)).trans (quiet_of_beside (emitAuxiliary_beside _ _ _ _ _))
    · exact hinstalled
  · exact .refl t

lemma releaseSource_quiet {registration : Option TopicChannel} {source : Option String}
    (h : ended = true → registration = some (.subscriber sub) → source ≠ some id) :
    Quiet sub id t (t.releaseSource registration source ended) := by
  unfold releaseSource
  split
  · exact .refl t
  next source =>
    have hcatalog : Quiet sub id t { t with catalog := t.catalog.erase source } := .of_active rfl (fun hr => hr) rfl
    split
    · refine hcatalog.trans (detachSubscriber_quiet fun hend hs hid => ?_)
      exact h hend (by rw [hs]) (by rw [hid])
    · exact hcatalog

lemma detachSource_quiet
    (h : ended = true → ∀ a, t.active = some a → a.channels.get? channel = some (.subscriber sub) →
      a.channelSources.get? channel ≠ some id) : Quiet sub id t (t.detachSource generation channel ended) := by
  unfold detachSource
  split
  · exact .refl t
  next a ha =>
    have ha := activeIn_eq_some ha
    dsimp only
    have hdetached : Quiet sub id t { t with active := some { a with
        suspended := a.suspended.erase channel
        channels := a.channels.erase channel
        channelSources := a.channelSources.erase channel } } := by
      refine .of_active rfl (fun hr => ?_) rfl
      intro a' ha' c r hc
      cases ha'
      rw [get?_erase] at hc ⊢
      split at hc
      · cases hc
      next hne =>
        rw [if_neg hne]
        exact hr ha hc
    refine (hdetached.trans (releaseSource_quiet fun hend hreg => h hend a ha hreg)).trans ?_
    split
    · exact quiet_of_beside (resetPublisher_beside _ _)
    · exact .refl _

lemma channelClosed_quiet (hr : t.Routed) : Quiet sub id t (t.channelClosed generation channel).1 := by
  unfold channelClosed
  split
  · exact .refl t
  next a ha =>
    split
    · exact .refl t
    next registration hreg =>
      split
      · refine (detachSource_quiet fun hend => ?_).trans (quiet_of_beside (recordChannelFailure_beside _ _ _))
        cases hend
      next hnone =>
        -- A channel without a source would take the cursors of its subscriber with it.
        obtain ⟨source, hsource⟩ := hr (activeIn_eq_some ha) hreg
        exact absurd (by rw [hsource]; rfl) hnone

structure Reading (sub : TopicSubscriber) (id : String) (t : Topics) : Prop where
  sound : t.Sound
  routed : t.Routed
  follows : Follows (t.stream sub id) (t.cursor sub id)

lemma Quiet.reading (h : Quiet sub id t t') (hr : Reading sub id t) : Reading sub id t' := by
  refine ⟨h.sound hr.sound, h.routed hr.routed, ?_⟩
  rw [h.stream, h.cursor]
  exact hr.follows

section Message

variable {s : TopicSubscriber} {st : SubscriberState} {j : String} {d : OrderedDelivery} {messages : List WireMessage}
  {body : Body} {r : Received} {gap : Option (ℕ × ℕ)} {binding : CatalogBinding}

lemma cursor_setSubscriber (st : SubscriberState) :
    (t.setSubscriber s st).cursor sub id = if sub = s then st.cursor id else t.cursor sub id := by
  rw [cursor_eq, cursor_eq, setSubscriber, get?_insert]
  split <;> rfl

lemma Sound.setSubscriber (h : t.Sound) (hst : st.Sound) : (t.setSubscriber s st).Sound := by
  intro s' st' hst'
  rw [Topics.setSubscriber, get?_insert] at hst'
  split at hst'
  · cases hst'
    exact hst
  · exact h hst'

lemma setSubscriber_quiet (hst : t.subscribers.get? s = some st) {st' : SubscriberState} (hsound : st.Sound → st'.Sound)
    (hcursor : s = sub → st'.cursor id = st.cursor id) : Quiet sub id t (t.setSubscriber s st') := by
  refine ⟨fun h => h.setSubscriber (hsound (h hst)), fun hr => hr, rfl, ?_⟩
  rw [cursor_setSubscriber]
  split
  next heq =>
    subst heq
    rw [hcursor rfl, cursor_eq, hst]
    rfl
  · rfl

lemma deliver_stream (hs : s ≠ sub) : (t.deliver s binding messages).stream sub id = t.stream sub id := by
  have hnone : (messages.map fun m => Event.message ⟨s.topic, s.mode, m.dataTrackId, m.sequence, binding.participantId,
      m.payload⟩).filterMap (item sub id) = [] := by
    apply filterMap_eq_nil_iff.2
    intro e he
    obtain ⟨m, _, rfl⟩ := mem_map.1 he
    exact if_neg fun h => hs h.1
  exact (filterMap_append ..).trans (by rw [hnone, append_nil]; rfl)

lemma deliver_quiet (hs : s ≠ sub) : Quiet sub id t (t.deliver s binding messages) :=
  ⟨fun h => h, fun h => h, deliver_stream hs, rfl⟩

lemma filterMap_told (htrack : ∀ m ∈ messages, m.dataTrackId = j) :
    ((gap.toList.map fun g => Event.recoveryGap s j participant g.1 g.2) ++ messages.map fun m =>
        Event.message ⟨s.topic, s.mode, m.dataTrackId, m.sequence, participant, m.payload⟩).filterMap (item sub id) =
      if s = sub ∧ j = id then (gap.toList.map fun g => .gap g.1 g.2) ++ deliveries messages else [] := by
  have hitem : ∀ m ∈ messages, item sub id (.message ⟨s.topic, s.mode, m.dataTrackId, m.sequence, participant, m.payload⟩) =
      if s = sub ∧ j = id then some (.deliver m.sequence) else none := by
    intro m hm
    rw [← htrack m hm]
    rfl
  rw [filterMap_append, filterMap_map, filterMap_map]
  split
  next heq =>
    congr 1
    · rw [← filterMap_eq_map]
      exact filterMap_congr fun g _ => if_pos heq
    · rw [deliveries, ← filterMap_eq_map]
      exact filterMap_congr fun m hm => (hitem m hm).trans (if_pos heq)
  next hne =>
    refine append_eq_nil_iff.2 ⟨?_, ?_⟩
    · exact filterMap_eq_nil_iff.2 fun g _ => if_neg hne
    · exact filterMap_eq_nil_iff.2 fun m hm => (hitem m hm).trans (if_neg hne)

lemma Reading.advance (h : Reading sub id t) (hst : t.subscribers.get? s = some st)
    (ha : Advances j (st.cursor j) d gap messages) (participant : String) :
    Reading sub id ((t.setSubscriber s (st.put j d)).pushAll
      ((gap.toList.map fun g => .recoveryGap s j participant g.1 g.2) ++ messages.map fun m =>
        .message ⟨s.topic, s.mode, m.dataTrackId, m.sequence, participant, m.payload⟩)) := by
  refine ⟨h.sound.setSubscriber ((h.sound hst).put ha.sound), h.routed, ?_⟩
  have hcursor : (t.setSubscriber s (st.put j d)).cursor sub id =
      if s = sub ∧ j = id then d.nextSequence else t.cursor sub id := by
    rw [cursor_setSubscriber, st.cursor_put]
    by_cases hs : sub = s
    · subst hs
      by_cases hj : id = j
      · simp [hj]
      · simp [hj, Ne.symm hj, cursor_eq, hst]
    · simp [hs, Ne.symm hs]
  have hstream : (t.trace ++ ((gap.toList.map fun g => Event.recoveryGap s j participant g.1 g.2) ++ messages.map fun m =>
        Event.message ⟨s.topic, s.mode, m.dataTrackId, m.sequence, participant, m.payload⟩)).filterMap (item sub id) =
      t.stream sub id ++ if s = sub ∧ j = id then (gap.toList.map fun g => .gap g.1 g.2) ++ deliveries messages else [] := by
    rw [filterMap_append, filterMap_told ha.track]
    rfl
  change Follows (List.filterMap _ _) _
  refine hstream ▸ hcursor ▸ ?_
  by_cases heq : s = sub ∧ j = id
  · obtain ⟨rfl, rfl⟩ := heq
    have hf := h.follows
    rw [cursor_eq, hst] at hf
    rw [if_pos ⟨rfl, rfl⟩, if_pos ⟨rfl, rfl⟩, ← append_assoc]
    exact ha.follows hf
  · rw [if_neg heq, if_neg heq, append_nil]
    exact h.follows

lemma Reading.handleOrdered (h : Reading sub id t) (hst : t.subscribers.get? s = some st) (hfits : body.Fits)
    (hlast : ∀ m, body = .message m → m.sequence ≠ Word.max 64) (generation : Generation) (channel : ChannelId)
    (binding : CatalogBinding) : Reading sub id (t.handleOrdered generation channel s st binding body).1 := by
  have hsound := (h.sound hst).getD body.dataTrackId
  unfold Topics.handleOrdered
  dsimp only
  split
  · refine (setSubscriber_quiet hst (fun hs => hs.put hsound) fun _ => ?_).reading h
    refine (st.cursor_put _ id _).trans ?_
    split
    next heq => rw [heq, st.cursor_getD]
    · rfl
  next d' result gap hrec =>
    have ha := hsound.receive_advances rfl hfits hlast hrec
    rw [st.cursor_getD] at ha
    have hread := h.advance hst ha binding.participantId
    have htold : Reading sub id (((t.setSubscriber s (st.put body.dataTrackId d')).reportGap s body.dataTrackId binding
        gap).deliver s binding result.messages) := by
      cases gap with
      | none => exact hread
      | some g =>
        unfold Topics.pushAll at hread
        rw [← append_assoc] at hread
        exact hread
    cases result.nackFrom with
    | none => exact htold
    | some fromSequence => exact (quiet_of_beside (emitAuxiliary_beside _ _ _ _ _)).reading htold

lemma Reading.handleSubscriber (hmode : sub.mode = .ordered) (h : Reading sub id t) (hfits : body.Fits)
    (hlast : ∀ m, body = .message m → m.sequence ≠ Word.max 64) (generation : Generation) (channel : ChannelId)
    (s : TopicSubscriber) : Reading sub id (t.handleSubscriber generation channel s body).1 := by
  have hne : s.mode ≠ .ordered → s ≠ sub := fun hs heq => hs (heq ▸ hmode)
  unfold Topics.handleSubscriber
  dsimp only
  split
  next binding st _ hst =>
    split
    next hs _ =>
      have hs := hne (by rw [hs]; decide)
      split
      · refine (deliver_quiet hs).reading ?_
        refine Quiet.reading (setSubscriber_quiet hst ?_ fun heq => absurd heq hs) h
        exact fun h => h
      · exact h
    next hs _ =>
      have hs := hne (by rw [hs]; decide)
      have hset : ∀ lossy, Reading sub id (t.setSubscriber s { st with lossy := lossy }) := by
        intro lossy
        refine Quiet.reading (setSubscriber_quiet hst ?_ fun heq => absurd heq hs) h
        exact fun h => h
      split
      · exact (deliver_quiet hs).reading (hset _)
      · exact hset _
    · exact h.handleOrdered hst hfits hlast generation channel binding
    · exact h
  · exact h

lemma decodeBounded_eq_ok (h : r.decodeBounded = .ok body) :
    r.body = some body ∧ ∀ m, body = .message m → m.sequence ≠ Word.max 64 := by
  unfold Received.decodeBounded at h
  split at h
  · cases h
  split at h
  · cases h
  next b hb =>
    split at h
    · cases h
    split at h
    next m =>
      split at h
      · cases h
      split at h
      · cases h
      next hne =>
        cases h
        refine ⟨hb, fun m' hm' => ?_⟩
        cases hm'
        exact hne
    next hother =>
      cases h
      exact ⟨hb, fun m hm => absurd hm (hother m)⟩

lemma Reading.handleMessage (hmode : sub.mode = .ordered) (h : Reading sub id t)
    (hfits : ∀ body, r.body = some body → body.Fits) (generation : Generation) (channel : ChannelId) :
    Reading sub id (t.handleMessage generation channel r).1 := by
  unfold Topics.handleMessage
  split
  · exact h
  split
  · exact h
  next registration _ =>
    split
    · exact h
    next body hbody =>
      obtain ⟨hb, hlast⟩ := decodeBounded_eq_ok hbody
      split
      · exact h
      split
      · split
        · exact h
        split
        · exact h
        · exact (quiet_of_beside (emitAll_beside _ _ _ _ _)).reading h
      · exact h.handleSubscriber hmode (hfits body hb) hlast generation channel _

end Message

/-- The subscriber and its source are kept: the source does not end, and transports are only replaced. -/
def Keeps (sub : TopicSubscriber) (id : String) (t : Topics) : Op → Prop
  | .reconcile r => (t.subscribers.get? sub).isSome → sub ∈ r.subscribers
  | .unbindGeneration _ reason => reason = .transportReplaced
  | .endSession => False
  | .endSource s source => s = sub → id ≠ source
  | .detachSource _ channel ended => ended = true → ∀ a, t.active = some a →
      a.channels.get? channel = some (.subscriber sub) → a.channelSources.get? channel ≠ some id
  | .handleMessage _ _ r => ∀ body, r.body = some body → body.Fits
  | _ => True

def orderedMachine (sub : TopicSubscriber) (id : String) : Machine Topics Op where
  init t := t = {}
  guard := Keeps sub id
  step := apply

lemma Reading.apply (hmode : sub.mode = .ordered) (h : Reading sub id t) {op : Op} (hg : Keeps sub id t op) :
    Reading sub id (t.apply op) := by
  cases op with
  | handleMessage g c r => exact h.handleMessage hmode hg g c
  | reconcile r => exact (reconcile_quiet hg).reading h
  | bindNative g p => exact (bindNative_quiet).reading h
  | unbindGeneration g reason =>
    obtain rfl : reason = .transportReplaced := hg
    exact (unbindGeneration_quiet).reading h
  | endSession => exact hg.elim
  | installSource g source => exact (installSource_quiet source).reading h
  | endSource s source => exact (endSource_quiet hg).reading h
  | suspendSource g c => exact (suspendSource_quiet).reading h
  | detachSource g c ended => exact (detachSource_quiet hg).reading h
  | channelClosed g c => exact (channelClosed_quiet h.routed).reading h
  | acceptRegistrations r =>
    refine Quiet.reading (quiet_of_beside ?_) h
    exact .of_eq rfl rfl rfl rfl
  | probeRemotePublishers => exact (quiet_of_beside t.probeRemotePublishers_beside).reading h
  | send s => exact (quiet_of_beside (t.sendOwned_beside s none)).reading h
  | beginDataSend s => exact (quiet_of_beside (t.beginDataSend_beside s)).reading h
  | progressDataSends i f c => exact (quiet_of_beside (t.progressDataSends_beside i f c)).reading h
  | expireDataSend timer => exact (quiet_of_beside (t.expireDataSend_beside timer)).reading h
  | handleSent o g c => exact (quiet_of_beside (t.handleSent_beside o g c)).reading h
  | handleSendFailed o g c m => exact (quiet_of_beside (t.handleSendFailed_beside o g c m)).reading h
  | drawId =>
    refine Quiet.reading (quiet_of_beside ?_) h
    exact .of_eq rfl rfl rfl rfl

lemma reading (hmode : sub.mode = .ordered) (h : (orderedMachine sub id).Reachable t) : Reading sub id t := by
  refine h.invariant ?_ fun t op ht hg => ht.apply hmode hg
  rintro _ rfl
  refine ⟨nofun, nofun, ?_⟩
  exact .start

def delivery (sub : TopicSubscriber) (id : String) : Event → Option ℕ
  | .message m => if (⟨m.topic, m.mode⟩ : TopicKey) = sub ∧ m.dataTrackId = id then some m.sequence else none
  | _ => none

lemma number?_item : (item sub id e).bind Item.number? = delivery sub id e := by
  cases e with
  | message m =>
    simp only [item, delivery]
    split <;> rfl
  | recoveryGap s i p x a =>
    simp only [item]
    split <;> rfl
  | _ => rfl

lemma delivered_stream (es : List Event) : delivered (es.filterMap (item sub id)) = es.filterMap (delivery sub id) := by
  rw [delivered, filterMap_filterMap]
  exact filterMap_congr fun e _ => number?_item

lemma item_of_delivery (h : delivery sub id e = some n) : item sub id e = some (.deliver n) := by
  cases e with
  | message m =>
    simp only [delivery] at h
    split at h
    next heq =>
      cases h
      exact if_pos heq
    · cases h
  | _ => cases h

lemma gap_of_covered (h : Covered (es.filterMap (item sub id)) n) :
    ∃ participant expected available, .recoveryGap sub id participant expected available ∈ es ∧
      expected ≤ n ∧ n < available := by
  obtain ⟨x, a, hmem, hx, ha⟩ := h
  obtain ⟨e, he, hitem⟩ := mem_filterMap.1 hmem
  cases e with
  | recoveryGap s i p x' a' =>
    simp only [item] at hitem
    split at hitem
    next heq =>
      obtain ⟨rfl, rfl⟩ := heq
      cases hitem
      exact ⟨p, x, a, he, hx, ha⟩
    · cases hitem
  | message m =>
    simp only [item] at hitem
    split at hitem <;> cases hitem
  | _ => cases hitem

/-- However frames of the track are lost, repeated or reordered, and however often its source or the transport is replaced,
its messages are delivered in order, and numbers that are skipped are announced before the next delivery. -/
theorem ordered_delivery_announces_gaps (hmode : sub.mode = .ordered) (h : (orderedMachine sub id).Reachable t) :
    (t.trace.filterMap (delivery sub id)).Pairwise (· < ·) ∧
    (∀ pre mid post x y s u, t.trace = pre ++ x :: (mid ++ y :: post) → delivery sub id x = some s →
      delivery sub id y = some u → (∀ e ∈ mid, delivery sub id e = none) → ∀ n, s < n → n < u →
        ∃ participant expected available, .recoveryGap sub id participant expected available ∈ mid ∧
          expected ≤ n ∧ n < available) ∧
    ∀ st d, t.subscribers.get? sub = some st → st.ordered.get? id = some d →
      (∀ k m, d.pending.get? k = some m → m.sequence = k ∧ ∃ next, d.nextSequence = some next ∧ next < k) ∧
        d.pending.size ≤ topicReorderCapacity := by
  obtain ⟨hsound, _, hfollows⟩ := reading hmode h
  refine ⟨?_, ?_, ?_⟩
  · rw [← delivered_stream]
    exact hfollows.increasing
  · intro pre mid post x y s u htrace hx hy hmid
    have hstream : t.stream sub id = pre.filterMap (item sub id) ++
        .deliver s :: (mid.filterMap (item sub id) ++ .deliver u :: post.filterMap (item sub id)) := by
      rw [stream, htrace]
      simp [item_of_delivery hx, item_of_delivery hy]
    rw [hstream] at hfollows
    intro n hs hu
    refine gap_of_covered (hfollows.covered ?_ n hs hu)
    rw [delivered_stream]
    exact filterMap_eq_nil_iff.2 hmid
  · intro st d hst hd
    have hs := hsound hst hd
    refine ⟨fun k m hk => ?_, hs.size⟩
    cases hnext : d.nextSequence with
    | none =>
      rw [hs.unplaced hnext] at hk
      cases hk
    | some next => exact ⟨(hs.buffered hnext).number hk, next, rfl, (hs.buffered hnext).above hk⟩

def listener : TopicSubscriber := ⟨"chat", .ordered⟩

def track : TopicSource where
  channel := 1
  registration := .subscriber listener
  trackId := "d1"
  participantId := "p2"
  participantExternalId := "ext2"
  label := "chat"
  delivery := some .ordered

def frame (body : Body) : Op := .handleMessage 1 1 ⟨16, some body⟩

def lossy : List Op :=
  [.reconcile ⟨[], [listener]⟩, .bindNative 1 "p1", .installSource 1 track, frame (.frontier "d1" 5),
    frame (.message ⟨"d1", 5, []⟩), frame (.message ⟨"d1", 7, []⟩), .bindNative 1 "p1", .installSource 1 track,
    frame (.floor "d1" 7), frame (.message ⟨"d1", 7, []⟩)]

theorem ordered_delivery_announces_gaps_lossy :
    (orderedMachine listener "d1").Reachable (lossy.foldl apply {}) ∧
      (lossy.foldl apply {}).trace.filterMap (delivery listener "d1") = [5, 7] ∧
      ((lossy.foldl apply {}).trace.filterMap (delivery listener "d1")).Pairwise (· < ·) := by
  have hreach : (orderedMachine listener "d1").Reachable (lossy.foldl apply {}) := by
    refine Machine.Reachable.run (.init rfl) ?_
    simp [lossy, Machine.Admits, orderedMachine, Keeps, frame, Body.Fits, Word.max]
  exact ⟨hreach, by decide +kernel, (ordered_delivery_announces_gaps rfl hreach).1⟩

end Topics

end Pulsebeam.Agent
