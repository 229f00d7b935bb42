import Pulsebeam.Agent.OrderedRun

/-! What a publisher has published, read off the trace, and what its history keeps of it. -/

namespace Pulsebeam.Agent

open Pulsebeam.Lib List Option OrdMap Nat

def admitted (p : TopicPublisher) : Option WireMessage → List Event → List WireMessage
  | _, [] => []
  | _, .queued _ m :: es => admitted p (some m) es
  | some m, .sendAdmitted q _ _ _ :: es => if q = p then m :: admitted p none es else admitted p none es
  | last, _ :: es => admitted p last es

def carry : Option WireMessage → List Event → Option WireMessage
  | last, [] => last
  | _, .queued _ m :: es => carry (some m) es
  | _, .sendAdmitted .. :: es => carry none es
  | last, _ :: es => carry last es

def published (n : ℕ) (all : List WireMessage) : List WireMessage := all.drop (all.length - n)

def Event.Plain : Event → Prop
  | .queued .. => False
  | .sendAdmitted .. => False
  | _ => True

section Trace

variable {p : TopicPublisher} {es es' : List Event} {last : Option WireMessage}

lemma admitted_append : admitted p last (es ++ es') = admitted p last es ++ admitted p (carry last es) es' := by
  induction es generalizing last with
  | nil => cases last <;> rfl
  | cons e es ih =>
    cases e with
    | sendAdmitted q o id n =>
      cases last with
      | none => exact ih
      | some m =>
        simp only [cons_append, admitted, carry]
        split
        · rw [ih, cons_append]
        · exact ih
    | _ => exact ih

lemma carry_append : carry last (es ++ es') = carry (carry last es) es' := by
  induction es generalizing last with
  | nil => rfl
  | cons e es ih => cases e <;> exact ih

lemma plain_trace (h : ∀ e ∈ es, e.Plain) : admitted p last es = [] ∧ carry last es = last := by
  induction es with
  | nil => cases last <;> exact ⟨rfl, rfl⟩
  | cons e es ih =>
    have hrest := ih fun e' he' => h e' (mem_cons_of_mem _ he')
    have he := h e mem_cons_self
    cases e with
    | queued => exact he.elim
    | sendAdmitted => exact he.elim
    | _ => cases last <;> exact hrest

end Trace

lemma length_published {n : ℕ} {all : List WireMessage} (h : n ≤ all.length) : (published n all).length = n := by
  rw [published, length_drop]
  omega

lemma published_concat (n : ℕ) (all : List WireMessage) (m : WireMessage) :
    published (n + 1) (all ++ [m]) = published n all ++ [m] := by
  rw [published, List.length_append, List.length_singleton, Nat.add_sub_add_right]
  exact List.drop_append_of_le_length (Nat.sub_le _ _)

structure PublisherState.Keeps (p : TopicPublisher) (all : List WireMessage) (s : PublisherState) : Prop where
  length : s.nextSequence ≤ all.length
  fits : s.nextSequence ≤ Word.max 64
  number : ∀ i (m : WireMessage), (published s.nextSequence all)[i]? = some m → m.sequence = i ∧
    s.dataTrackId = some m.dataTrackId
  history : p.mode = .ordered → s.history = (published s.nextSequence all).drop (s.nextSequence - topicHistoryCapacity)

namespace PublisherState.Keeps

variable {p : TopicPublisher} {all : List WireMessage} {s s' : PublisherState}

lemma of_new (hn : s.nextSequence = 0) (hh : s.history = []) : s.Keeps p all := by
  have hnil : published s.nextSequence all = [] := by
    rw [hn, published, Nat.sub_zero, List.drop_length]
  refine ⟨by omega, by omega, fun i m hm => ?_, fun _ => ?_⟩
  · rw [hnil] at hm
    cases hm
  · rw [hnil, hh, drop_nil]

lemma congr (h : s.Keeps p all) (hn : s'.nextSequence = s.nextSequence) (hid : s'.dataTrackId = s.dataTrackId)
    (hh : s'.history = s.history) : s'.Keeps p all := by
  refine ⟨hn ▸ h.length, hn ▸ h.fits, ?_, ?_⟩
  · rw [hn, hid]
    exact h.number
  · rw [hn, hh]
    exact h.history

lemma enqueue (h : s.Keeps p all) {m : WireMessage} (hm : m.sequence = s.nextSequence)
    (hid : s.dataTrackId = some m.dataTrackId) (hlt : s.nextSequence < Word.max 64) (admission : Option OperationId) :
    (s.enqueue p.mode m admission).Keeps p (all ++ [m]) := by
  have hnext : (s.enqueue p.mode m admission).nextSequence = s.nextSequence + 1 := min_eq_left hlt
  have hlen := length_published h.length
  refine ⟨?_, ?_, fun i m' hm' => ?_, fun hmode => ?_⟩
  · rw [hnext, length_append]
    exact succ_le_succ h.length
  · rw [hnext]
    exact hlt
  · rw [hnext, published_concat, getElem?_append] at hm'
    split at hm'
    · exact h.number i m' hm'
    have hi : i - (published s.nextSequence all).length = 0 := by
      by_contra hne
      obtain ⟨k, hk⟩ := exists_eq_succ_of_ne_zero hne
      rw [hk] at hm'
      cases hm'
    rw [hi] at hm'
    cases hm'
    exact ⟨by omega, hid⟩
  · have hhistory := h.history hmode
    have hsize : s.history.length = min s.nextSequence topicHistoryCapacity := by
      rw [hhistory, length_drop]
      omega
    have hkept : (if s.history.length = topicHistoryCapacity then s.history.tail else s.history) =
        (published s.nextSequence all).drop (s.nextSequence + 1 - topicHistoryCapacity) := by
      generalize topicHistoryCapacity = n at hhistory hsize ⊢
      split
      next hfull =>
        rw [hhistory, tail_drop, show s.nextSequence - n + 1 = s.nextSequence + 1 - n by omega]
      next hroom => rw [hhistory, show s.nextSequence - n = s.nextSequence + 1 - n by omega]
    have henqueue : (s.enqueue p.mode m admission).history =
        (if s.history.length = topicHistoryCapacity then s.history.tail else s.history) ++ [m] := if_pos hmode
    have hpos : 0 < topicHistoryCapacity := by decide
    rw [henqueue, hkept, hnext, published_concat, drop_append_of_le_length (by omega)]

end PublisherState.Keeps

namespace Topics

variable {p : TopicPublisher} {t t' : Topics} {es : List Event} {s : PublisherState} {q : TopicPublisher}

structure Record (p : TopicPublisher) (state : Option PublisherState) (trace : List Event) : Prop where
  told : carry none trace = none
  keeps : ∀ s, state = some s → s.Keeps p (admitted p none trace)

def Publishes (p : TopicPublisher) (t : Topics) : Prop := Record p (t.publishers.get? p) t.trace

lemma Publishes.step (h : t.Publishes p) (ht : t'.trace = t.trace ++ es) (hes : ∀ e ∈ es, e.Plain)
    (hs : ∀ s', t'.publishers.get? p = some s' → (∃ s, t.publishers.get? p = some s ∧ s'.nextSequence = s.nextSequence ∧
      s'.dataTrackId = s.dataTrackId ∧ s'.history = s.history) ∨ s'.nextSequence = 0 ∧ s'.history = []) :
    t'.Publishes p := by
  obtain ⟨hnone, hcarry⟩ := @plain_trace p es none hes
  rw [Publishes, ht]
  refine ⟨?_, fun s' hs' => ?_⟩
  · rw [carry_append, h.told, hcarry]
  · rw [admitted_append, h.told, hnone, append_nil]
    rcases hs s' hs' with ⟨s, hget, hn, hid, hh⟩ | ⟨hn, hh⟩
    · exact (h.keeps s hget).congr hn hid hh
    · exact .of_new hn hh

lemma Publishes.pushAll (h : t.Publishes p) (hes : ∀ e ∈ es, e.Plain) : (t.pushAll es).Publishes p :=
  h.step rfl hes fun s hs => .inl ⟨s, hs, rfl, rfl, rfl⟩

lemma Publishes.push (h : t.Publishes p) {e : Event} (he : e.Plain) : (t.push e).Publishes p :=
  h.pushAll (by simpa using he)

lemma Publishes.foldl {α : Type} {f : Topics → α → Topics} (hf : ∀ t a, t.Publishes p → (f t a).Publishes p) (l : List α)
    (h : t.Publishes p) : (l.foldl f t).Publishes p := by
  induction l generalizing t with
  | nil => exact h
  | cons a l ih => exact ih (hf t a h)

section

variable (h : t.Publishes p)

include h

lemma Publishes.modify (q : TopicPublisher) {f : PublisherState → PublisherState}
    (hf : ∀ s, (f s).nextSequence = s.nextSequence ∧ (f s).dataTrackId = s.dataTrackId ∧ (f s).history = s.history) :
    Publishes p { t with publishers := t.publishers.modify q f } := by
  refine h.step (append_nil _).symm nofun fun s' hs' => .inl ?_
  rw [get?_modify] at hs'
  split at hs'
  next hpq =>
    obtain ⟨s, hs, rfl⟩ := map_eq_some_iff.1 hs'
    exact ⟨s, hpq ▸ hs, hf s⟩
  · exact ⟨s', hs', rfl, rfl, rfl⟩

lemma Publishes.insert (q : TopicPublisher)
    (hs : (∃ s0, t.publishers.get? q = some s0 ∧ s.nextSequence = s0.nextSequence ∧ s.dataTrackId = s0.dataTrackId ∧
      s.history = s0.history) ∨ s.nextSequence = 0 ∧ s.history = []) :
    Publishes p { t with publishers := t.publishers.insert q s } := by
  refine h.step (append_nil _).symm nofun fun s' hs' => ?_
  rw [get?_insert] at hs'
  split at hs'
  next hpq =>
    cases hs'
    exact hpq ▸ hs
  · exact .inl ⟨s', hs', rfl, rfl, rfl⟩

lemma Publishes.dispatchDataSend (ticket : OperationId) : (t.dispatchDataSend ticket).Publishes p := by
  unfold Topics.dispatchDataSend
  split
  · exact h
  split
  · exact h
  · refine Publishes.push ?_ (by exact trivial)
    exact h

lemma Publishes.finishDataSend (ticket : OperationId) (error : Option DataSendFailure) :
    (t.finishDataSend ticket error).Publishes p := by
  unfold Topics.finishDataSend
  split
  · exact h
  next a _ =>
    have hforget : Publishes p { t with
        publishers := t.publishers.modify a.publisher (·.forget ticket) } :=
      h.modify a.publisher fun _ => ⟨rfl, rfl, rfl⟩
    refine Publishes.push ?_ (by exact trivial)
    split
    · exact hforget.push (by exact trivial)
    · exact hforget

lemma Publishes.finishAll (tickets : List OperationId) (error : DataSendFailure) :
    (t.finishAll tickets error).Publishes p := .foldl (fun _ ticket h => h.finishDataSend ticket _) tickets h

lemma Publishes.dispatchPublisher (q : TopicPublisher) : (t.dispatchPublisher q).Publishes p := by
  unfold Topics.dispatchPublisher
  split
  next channel active state _ _ hstate =>
    split
    · exact h
    split
    · exact h
    next next queue _ =>
      have hsent : Publishes p { t with
          ids := t.ids + 1
          publishers := t.publishers.insert q { state with
            queue := queue, pending := some ⟨t.ids, active.generation, channel, next.admission⟩ } } :=
        h.insert q (.inl ⟨state, hstate, rfl, rfl, rfl⟩)
      refine Publishes.push ?_ (by exact trivial)
      split
      · exact hsent.dispatchDataSend _
      · exact hsent
  · exact h

lemma Publishes.emitAuxiliary (generation : Generation) (channel : ChannelId)
    (registration : TopicChannel) (body : Body) : (t.emitAuxiliary generation channel registration body).Publishes p := by
  unfold Topics.emitAuxiliary
  split
  · exact h
  · refine Publishes.push ?_ (by exact trivial)
    exact h

lemma Publishes.recordChannelFailure (channel : TopicChannel) (message : String) :
    (t.recordChannelFailure channel message).Publishes p := by
  refine Publishes.push ?_ (by exact trivial)
  cases channel with
  | publisher q => exact h.finishAll _ _
  | subscriber s => exact h

end

lemma drops_plain {reason : TopicDropReason} : ∀ e ∈ s.drops q reason, e.Plain := by
  intro e he
  rw [eq_of_mem_replicate he]
  trivial

lemma enqueue_admitted (p q : TopicPublisher) (state : PublisherState) (message : WireMessage) (admission : Option OperationId) :
    carry none (t.enqueue q state message admission).trace = none ∧
      admitted p none (t.enqueue q state message admission).trace =
        admitted p none t.trace ++ if q = p then [message] else [] := by
  obtain ⟨o, es, htrace, hes⟩ : ∃ o es, (t.enqueue q state message admission).trace = t.trace ++
      (.queued admission message :: (es ++ [.sendAdmitted q o message.dataTrackId message.sequence])) ∧ ∀ e ∈ es, e.Plain := by
    unfold Topics.enqueue
    split
    · exact ⟨t.ids, [.sendDropped q .superseded], by simp [recordAdmission, recordDrop, Topics.push], by simp [Event.Plain]⟩
    · exact ⟨t.ids, [], by simp [recordAdmission, Topics.push], nofun⟩
  obtain ⟨hnone, hcarry⟩ := @plain_trace p es _ hes
  rw [htrace, carry_append, carry, carry_append, admitted_append, admitted, admitted_append, hnone, hcarry, nil_append, admitted]
  exact ⟨rfl, rfl⟩

lemma dispatchPublisher_trace (t : Topics) (q : TopicPublisher) :
    ∃ es, (t.dispatchPublisher q).trace = t.trace ++ es ∧ ∀ e ∈ es, e.Plain := by
  unfold Topics.dispatchPublisher
  split
  · split
    · exact ⟨[], (append_nil _).symm, nofun⟩
    split
    · exact ⟨[], (append_nil _).symm, nofun⟩
    dsimp only [Topics.push]
    split
    · unfold Topics.dispatchDataSend
      split
      · exact ⟨_, rfl, by simp [Event.Plain]⟩
      split
      · exact ⟨_, rfl, by simp [Event.Plain]⟩
      · exact ⟨_, append_assoc _ _ _, by simp [Event.Plain]⟩
    · exact ⟨_, rfl, by simp [Event.Plain]⟩
  · exact ⟨[], (append_nil _).symm, nofun⟩

-- what a publisher admits, and so what `publishedBy` replays, is the payload it was given
lemma sendOwned_admitted {send : TopicSend} {admission : Option OperationId} (p : TopicPublisher)
    (h : t.sendOwned send admission = (t', .ok ())) : ∃ m, m.payload = send.payload ∧
      admitted p none t'.trace = admitted p none t.trace ++ if send.publisher = p then [m] else [] := by
  unfold Topics.sendOwned at h
  dsimp only at h
  repeat (split at h; · cases h)
  cases h
  obtain ⟨es, htrace, hes⟩ := dispatchPublisher_trace (t.enqueue send.publisher _ _ admission) send.publisher
  obtain ⟨htold, hadmitted⟩ := @enqueue_admitted t p send.publisher _ _ admission
  exact ⟨_, rfl, by rw [htrace, admitted_append, htold, (plain_trace hes).1, append_nil, hadmitted]⟩

section

variable (h : t.Publishes p)

include h

lemma Publishes.enqueue {state : PublisherState} (hstate : t.publishers.get? q = some state)
    {message : WireMessage} (hm : message.sequence = state.nextSequence)
    (hid : state.dataTrackId = some message.dataTrackId) (hlast : state.nextSequence ≠ Word.max 64)
    (admission : Option OperationId) : (t.enqueue q state message admission).Publishes p := by
  have hpublishers : (t.enqueue q state message admission).publishers =
      t.publishers.insert q (state.enqueue q.mode message admission) := by
    unfold Topics.enqueue
    split <;> rfl
  obtain ⟨htold, hadmitted⟩ := @enqueue_admitted t p q state message admission
  refine ⟨htold, fun s hs => ?_⟩
  rw [hpublishers, get?_insert] at hs
  rw [hadmitted]
  split at hs
  next hpq =>
    subst hpq
    cases hs
    rw [if_pos rfl]
    have hkeeps := h.keeps state hstate
    exact hkeeps.enqueue hm hid (lt_of_le_of_ne hkeeps.fits hlast) admission
  next hpq =>
    rw [if_neg (Ne.symm hpq), append_nil]
    exact h.keeps s hs

lemma Publishes.sendOwned (send : TopicSend) (admission : Option OperationId) :
    (t.sendOwned send admission).1.Publishes p := by
  have hdrop (reason : TopicDropReason) : (t.recordDrop send.publisher reason).Publishes p := h.push (by exact trivial)
  unfold Topics.sendOwned
  dsimp only
  split
  · exact hdrop _
  split
  · exact hdrop _
  split
  · exact hdrop _
  split
  · exact hdrop _
  next state hstate =>
    split
    · exact hdrop _
    next id hid =>
      split
      · exact hdrop _
      next hlast =>
        split
        · exact hdrop _
        · apply Publishes.dispatchPublisher
          exact h.enqueue hstate rfl (filter_eq_some_iff.1 hid).1 hlast admission

lemma Publishes.sent {send : TopicSend} {admission : Option OperationId} {r : Except TopicError Unit}
    (hsend : t.sendOwned send admission = (t', r)) : t'.Publishes p := by
  have hsent := h.sendOwned send admission
  rw [hsend] at hsent
  exact hsent

lemma Publishes.progressDataSend (intent failure connected : Bool) (ticket : OperationId) :
    (t.progressDataSend intent failure connected ticket).Publishes p := by
  unfold Topics.progressDataSend
  split
  · exact h
  split
  · exact h.finishDataSend _ _
  dsimp only
  split
  · exact h
  split
  · exact h
  split
  next heq =>
    refine Publishes.sent ?_ heq
    exact h
  next heq =>
    apply Publishes.finishDataSend
    refine Publishes.sent ?_ heq
    exact h

lemma Publishes.progressDataSends (intent failure connected : Bool) :
    (t.progressDataSends intent failure connected).Publishes p := by
  apply Publishes.finishAll
  exact .foldl (fun _ ticket h => h.progressDataSend intent failure connected ticket) _ h

lemma Publishes.handleSent (operation : OperationId) (generation : Generation) (channel : ChannelId) :
    (t.handleSent operation generation channel).1.Publishes p := by
  unfold Topics.handleSent
  split
  · exact h
  split
  · exact h
  next q _ =>
    have hsent := h.modify q (f := fun s => { s with pending := none }) fun _ => ⟨rfl, rfl, rfl⟩
    apply Publishes.dispatchPublisher
    split
    · exact hsent.finishDataSend _ _
    · exact hsent

lemma Publishes.handleSendFailed (operation : OperationId) (generation : Generation)
    (channel : ChannelId) (message : String) : (t.handleSendFailed operation generation channel message).1.Publishes p := by
  unfold Topics.handleSendFailed
  split
  · apply Publishes.recordChannelFailure
    exact h
  split
  · exact h
  next q _ =>
    have hsent := h.modify q (f := fun s => { s with pending := none }) fun _ => ⟨rfl, rfl, rfl⟩
    apply Publishes.dispatchPublisher
    apply Publishes.recordChannelFailure
    exact (hsent.finishAll _ _).push (by exact trivial)

lemma Publishes.expireDataSend (timer : TimerId) : (t.expireDataSend timer).Publishes p := by
  unfold Topics.expireDataSend
  split
  · exact h
  · exact h.finishDataSend _ _

lemma Publishes.bindPublisher (q : TopicPublisher) (trackId : String) : (t.bindPublisher q trackId).Publishes p := by
  apply h.insert
  cases hq : t.publishers.get? q with
  | none =>
    right
    exact ⟨rfl, rfl⟩
  | some s =>
    split
    · exact .inl ⟨s, rfl, rfl, rfl, rfl⟩
    · exact .inr ⟨rfl, rfl⟩

lemma Publishes.installSource (generation : Generation) (source : TopicSource) :
    (t.installSource generation source).Publishes p := by
  unfold Topics.installSource
  split
  · dsimp only
    split
    · apply Publishes.dispatchPublisher
      apply Publishes.bindPublisher
      exact h
    split
    · apply Publishes.emitAuxiliary
      exact h
    · exact h
  · exact h

lemma Publishes.resetPublisher (q : TopicPublisher) : (t.resetPublisher q).Publishes p := by
  unfold Topics.resetPublisher
  split
  · exact h
  next state _ =>
    have herased : Publishes p { t with publishers := t.publishers.erase q } := by
      refine h.step (append_nil _).symm nofun fun s hs => .inl ⟨s, ?_, rfl, rfl, rfl⟩
      rw [get?_erase] at hs
      split at hs
      · cases hs
      · exact hs
    refine Publishes.insert ?_ q (.inr ⟨rfl, rfl⟩)
    refine Publishes.pushAll ?_ (drops_plain)
    exact herased.finishAll _ _

lemma Publishes.detachSource (generation : Generation) (channel : ChannelId) (ended : Bool) :
    (t.detachSource generation channel ended).Publishes p := by
  unfold Topics.detachSource
  split
  · exact h
  next active _ =>
    dsimp only
    have hreleased : Publishes p (releaseSource { t with active := some { active with
        suspended := active.suspended.erase channel
        channels := active.channels.erase channel
        channelSources := active.channelSources.erase channel } } (active.channels.get? channel)
        (active.channelSources.get? channel) ended) := by
      unfold releaseSource
      split
      · exact h
      split
      · exact h
      · exact h
    split
    · exact hreleased.resetPublisher _
    · exact hreleased

lemma Publishes.unbind (reason : TopicDropReason) : (t.unbind reason).Publishes p := by
  refine h.step rfl (fun e he => ?_) fun s hs => .inr ?_
  · obtain ⟨entry, -, he⟩ := mem_flatMap.1 he
    exact drops_plain e he
  · change (t.publishers.mapValues fun _ _ => ({} : PublisherState)).get? p = some s at hs
    rw [get?_mapValues] at hs
    obtain ⟨s0, -, rfl⟩ := map_eq_some_iff.1 hs
    exact ⟨rfl, rfl⟩

lemma Publishes.reconcile (r : TopicRegistrations) : (t.reconcile r).Publishes p := by
  refine h.step rfl (fun e he => ?_) fun s hs => ?_
  · obtain ⟨entry, -, he⟩ := mem_flatMap.1 he
    exact drops_plain e he
  · change (ensureAll _ _ _).get? p = some s at hs
    rw [get?_ensureAll, or_eq_some_iff] at hs
    rcases hs with hs | ⟨-, hs⟩
    · exact .inl ⟨s, (get?_retain.1 hs).1, rfl, rfl, rfl⟩
    split at hs
    · cases hs
      exact .inr ⟨rfl, rfl⟩
    · cases hs

lemma Publishes.channelClosed (generation : Generation) (channel : ChannelId) :
    (t.channelClosed generation channel).1.Publishes p := by
  unfold Topics.channelClosed
  split
  · exact h
  split
  · exact h
  next registration _ =>
    split
    · exact (h.detachSource generation channel false).recordChannelFailure _ _
    apply Publishes.recordChannelFailure
    cases registration with
    | publisher q =>
      dsimp only
      split
      · exact h
      refine Publishes.insert ?_ q (.inr ⟨rfl, rfl⟩)
      refine Publishes.pushAll ?_ (drops_plain)
      exact h
    | subscriber s => exact h

lemma Publishes.emitAll (generation : Generation) (channel : ChannelId) (registration : TopicChannel)
    (bodies : List Body) : (t.emitAll generation channel registration bodies).Publishes p :=
  .foldl (fun _ body h => h.emitAuxiliary generation channel registration body) bodies h

lemma Publishes.deliver (s : TopicSubscriber) (binding : CatalogBinding) (messages : List WireMessage) :
    (t.deliver s binding messages).Publishes p := by
  refine h.pushAll fun e he => ?_
  obtain ⟨m, -, rfl⟩ := mem_map.1 he
  trivial

lemma Publishes.handleOrdered (generation : Generation) (channel : ChannelId) (s : TopicSubscriber)
    (state : SubscriberState) (binding : CatalogBinding) (body : Body) :
    (t.handleOrdered generation channel s state binding body).1.Publishes p := by
  unfold Topics.handleOrdered
  dsimp only
  split
  · exact h
  next delivery result gap _ =>
    have hgap : Publishes p ((t.setSubscriber s { state with
        ordered := state.ordered.insert body.dataTrackId delivery }).reportGap s body.dataTrackId binding gap) := by
      cases gap with
      | none => exact h
      | some g =>
        refine Publishes.push ?_ (by exact trivial)
        exact h
    have htold := hgap.deliver s binding result.messages
    split
    · exact htold.emitAuxiliary _ _ _ _
    · exact htold

lemma Publishes.handleSubscriber (generation : Generation) (channel : ChannelId) (s : TopicSubscriber)
    (body : Body) : (t.handleSubscriber generation channel s body).1.Publishes p := by
  unfold Topics.handleSubscriber
  dsimp only
  split
  next binding state _ _ =>
    split
    · split
      · apply Publishes.deliver
        exact h
      · exact h
    · split
      · apply Publishes.deliver
        exact h
      · exact h
    · exact h.handleOrdered generation channel s state binding _
    · exact h
  · exact h

lemma Publishes.handleMessage (generation : Generation) (channel : ChannelId) (r : Received) :
    (t.handleMessage generation channel r).1.Publishes p := by
  unfold Topics.handleMessage
  split
  · exact h
  split
  · exact h
  split
  · exact h
  split
  · exact h
  split
  · split
    · exact h
    split
    · exact h
    · exact h.emitAll _ _ _ _
  · exact h.handleSubscriber _ _ _ _

end

def machine : Machine Topics Op where
  init t := t = {}
  guard _ _ := True
  step := apply

lemma publishes (h : machine.Reachable t) : t.Publishes p := by
  refine h.invariant ?_ ?_
  · rintro _ rfl
    exact ⟨rfl, nofun⟩
  · intro t op h _
    cases op with
    | acceptRegistrations r => exact h
    | reconcile r => exact h.reconcile r
    | bindNative g id => exact h.unbind _
    | unbindGeneration g reason =>
      change (t.unbindGeneration g reason).Publishes p
      unfold Topics.unbindGeneration
      split
      · exact h
      · exact h.unbind _
    | endSession => exact h.unbind _
    | installSource g source => exact h.installSource g source
    | endSource s source => exact h
    | suspendSource g c =>
      change (t.suspendSource g c).Publishes p
      unfold Topics.suspendSource
      split <;> exact h
    | detachSource g c ended => exact h.detachSource g c ended
    | probeRemotePublishers =>
      change t.probeRemotePublishers.Publishes p
      unfold Topics.probeRemotePublishers
      split
      · exact h
      · exact .foldl (fun _ x h => h.emitAuxiliary _ _ _ _) _ h
    | channelClosed g c => exact h.channelClosed g c
    | send s => exact h.sendOwned s none
    | beginDataSend s => exact Publishes.push h (by exact trivial)
    | progressDataSends intent failure connected => exact h.progressDataSends intent failure connected
    | expireDataSend timer => exact h.expireDataSend timer
    | handleSent o g c => exact h.handleSent o g c
    | handleSendFailed o g c m => exact h.handleSendFailed o g c m
    | handleMessage g c r => exact h.handleMessage g c r
    | drawId => exact h

end Topics

end Pulsebeam.Agent
