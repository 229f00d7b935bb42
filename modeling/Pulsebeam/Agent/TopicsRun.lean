import Pulsebeam.Agent.Topics
import Pulsebeam.Lib.Run

/-! The operations on the topics, and those that leave the subscribers alone. -/

namespace Pulsebeam.Agent

open Pulsebeam.Lib

namespace Topics

inductive Op
  | acceptRegistrations (registrations : TopicRegistrations)
  | reconcile (registrations : TopicRegistrations)
  | bindNative (generation : Generation) (canonicalParticipantId : String)
  | unbindGeneration (generation : Generation) (reason : TopicDropReason)
  | endSession
  | installSource (generation : Generation) (source : TopicSource)
  | endSource (subscriber : TopicSubscriber) (source : String)
  | suspendSource (generation : Generation) (channel : ChannelId)
  | detachSource (generation : Generation) (channel : ChannelId) (sourceEnded : Bool)
  | probeRemotePublishers
  | channelClosed (generation : Generation) (channel : ChannelId)
  | send (send : TopicSend)
  | beginDataSend (send : TopicSend)
  | progressDataSends (connectedIntent terminalFailure connected : Bool)
  | expireDataSend (timer : TimerId)
  | handleSent (operation : OperationId) (generation : Generation) (channel : ChannelId)
  | handleSendFailed (operation : OperationId) (generation : Generation) (channel : ChannelId) (message : String)
  | handleMessage (generation : Generation) (channel : ChannelId) (received : Received)
  /-- The rest of the agent takes an identifier. -/
  | drawId

def apply (t : Topics) : Op → Topics
  | .acceptRegistrations r => t.acceptRegistrations r
  | .reconcile r => t.reconcile r
  | .bindNative g id => t.bindNative g id
  | .unbindGeneration g reason => t.unbindGeneration g reason
  | .endSession => t.endSession
  | .installSource g source => t.installSource g source
  | .endSource s source => t.endSource s source
  | .suspendSource g c => t.suspendSource g c
  | .detachSource g c ended => t.detachSource g c ended
  | .probeRemotePublishers => t.probeRemotePublishers
  | .channelClosed g c => (t.channelClosed g c).1
  | .send s => (t.send s).1
  | .beginDataSend s => t.beginDataSend s
  | .progressDataSends intent failure connected => t.progressDataSends intent failure connected
  | .expireDataSend timer => t.expireDataSend timer
  | .handleSent o g c => (t.handleSent o g c).1
  | .handleSendFailed o g c m => (t.handleSendFailed o g c m).1
  | .handleMessage g c r => (t.handleMessage g c r).1
  | .drawId => { t with ids := t.ids + 1 }

end Topics

def Event.Silent : Event → Prop
  | .message _ => False
  | .recoveryGap .. => False
  | _ => True

structure Beside (t t' : Topics) : Prop where
  subscribers : t'.subscribers = t.subscribers
  active : t'.active = t.active
  catalog : t'.catalog = t.catalog
  trace : ∃ es, t'.trace = t.trace ++ es ∧ ∀ e ∈ es, e.Silent

namespace Beside

variable {t t' t'' : Topics}

lemma refl (t : Topics) : Beside t t := ⟨rfl, rfl, rfl, [], (List.append_nil _).symm, by simp⟩

lemma trans (h : Beside t t') (h' : Beside t' t'') : Beside t t'' := by
  obtain ⟨es, hes, hs⟩ := h.trace
  obtain ⟨es', hes', hs'⟩ := h'.trace
  refine ⟨h'.subscribers.trans h.subscribers, h'.active.trans h.active, h'.catalog.trans h.catalog, es ++ es', ?_, ?_⟩
  · rw [hes', hes, List.append_assoc]
  · intro e he
    exact (List.mem_append.1 he).elim (hs e) (hs' e)

lemma of_eq (hs : t'.subscribers = t.subscribers) (ha : t'.active = t.active) (hc : t'.catalog = t.catalog)
    (ht : t'.trace = t.trace) : Beside t t' :=
  ⟨hs, ha, hc, [], by rw [ht, List.append_nil], by simp⟩

lemma pushAll (t : Topics) {es : List Event} (hs : ∀ e ∈ es, e.Silent) : Beside t (t.pushAll es) :=
  ⟨rfl, rfl, rfl, es, rfl, hs⟩

lemma push (h : Beside t t') {e : Event} (he : e.Silent) : Beside t (t'.push e) :=
  h.trans (pushAll t' (by simpa using he))

lemma foldl {α : Type} {f : Topics → α → Topics} (hf : ∀ t a, Beside t (f t a)) (l : List α) (t : Topics) :
    Beside t (l.foldl f t) := by
  induction l generalizing t with
  | nil => exact refl t
  | cons a l ih => exact (hf t a).trans (ih _)

end Beside

namespace Topics

variable (t : Topics)

lemma dispatchDataSend_beside (ticket : OperationId) : Beside t (t.dispatchDataSend ticket) := by
  unfold dispatchDataSend
  split
  · exact .refl t
  split
  · exact .refl t
  · exact ⟨rfl, rfl, rfl, [_], rfl, by simp [Event.Silent]⟩

lemma finishDataSend_beside (ticket : OperationId) (error : Option DataSendFailure) :
    Beside t (t.finishDataSend ticket error) := by
  unfold finishDataSend
  split
  · exact .refl t
  refine Beside.push ?_ trivial
  split
  · refine Beside.push ?_ trivial
    exact .of_eq rfl rfl rfl rfl
  · exact .of_eq rfl rfl rfl rfl

lemma finishAll_beside (tickets : List OperationId) (error : DataSendFailure) : Beside t (t.finishAll tickets error) :=
  .foldl (fun t ticket => t.finishDataSend_beside ticket _) tickets t

lemma failPublisherSends_beside (publisher : TopicPublisher) (error : DataSendFailure) :
    Beside t (t.failPublisherSends publisher error) :=
  t.finishAll_beside _ error

lemma expireDataSend_beside (timer : TimerId) : Beside t (t.expireDataSend timer) := by
  unfold expireDataSend
  split
  · exact .refl t
  · exact t.finishDataSend_beside _ _

lemma beginDataSend_beside (send : TopicSend) : Beside t (t.beginDataSend send) :=
  ⟨rfl, rfl, rfl, [_], rfl, by simp [Event.Silent]⟩

lemma dispatchPublisher_beside (publisher : TopicPublisher) : Beside t (t.dispatchPublisher publisher) := by
  unfold dispatchPublisher
  split
  · split
    · exact .refl t
    split
    · exact .refl t
    refine Beside.push ?_ trivial
    split
    · refine Beside.trans ?_ (dispatchDataSend_beside _ _)
      exact .of_eq rfl rfl rfl rfl
    · exact .of_eq rfl rfl rfl rfl
  · exact .refl t

lemma emitAuxiliary_beside (generation : Generation) (channel : ChannelId) (registration : TopicChannel) (body : Body) :
    Beside t (t.emitAuxiliary generation channel registration body) := by
  unfold emitAuxiliary
  split
  · exact .refl t
  · exact ⟨rfl, rfl, rfl, [_], rfl, by simp [Event.Silent]⟩

lemma recordChannelFailure_beside (channel : TopicChannel) (message : String) :
    Beside t (t.recordChannelFailure channel message) := by
  refine Beside.push ?_ trivial
  split
  · exact t.failPublisherSends_beside _ _
  · exact .refl t

lemma recordAdmission_beside (publisher : TopicPublisher) (message : WireMessage) :
    Beside t (t.recordAdmission publisher message) := by
  refine Beside.push ?_ trivial
  exact .of_eq rfl rfl rfl rfl

lemma enqueue_beside (publisher : TopicPublisher) (state : PublisherState) (message : WireMessage)
    (admission : Option OperationId) : Beside t (t.enqueue publisher state message admission) := by
  refine Beside.trans ?_ (recordAdmission_beside _ _ _)
  split
  · refine Beside.push ?_ trivial
    refine Beside.push ?_ trivial
    exact .of_eq rfl rfl rfl rfl
  · refine Beside.push ?_ trivial
    exact .of_eq rfl rfl rfl rfl

lemma sendOwned_beside (send : TopicSend) (admission : Option OperationId) : Beside t (t.sendOwned send admission).1 := by
  unfold sendOwned
  dsimp only
  repeat' split
  any_goals exact Beside.push (.refl t) trivial
  exact (t.enqueue_beside ..).trans (dispatchPublisher_beside _ _)

lemma drops_silent {s : PublisherState} {publisher : TopicPublisher} {reason : TopicDropReason} :
    ∀ e ∈ s.drops publisher reason, e.Silent := by
  intro e he
  rw [List.eq_of_mem_replicate he]
  trivial

lemma handleSent_beside (operation : OperationId) (generation : Generation) (channel : ChannelId) :
    Beside t (t.handleSent operation generation channel).1 := by
  unfold handleSent
  split
  · exact .of_eq rfl rfl rfl rfl
  split
  · exact .refl t
  refine Beside.trans ?_ (dispatchPublisher_beside _ _)
  split
  · refine Beside.trans ?_ (finishDataSend_beside _ _ _)
    exact .of_eq rfl rfl rfl rfl
  · exact .of_eq rfl rfl rfl rfl

lemma handleSendFailed_beside (operation : OperationId) (generation : Generation) (channel : ChannelId)
    (message : String) : Beside t (t.handleSendFailed operation generation channel message).1 := by
  unfold handleSendFailed
  split
  · refine Beside.trans ?_ (recordChannelFailure_beside _ _ _)
    exact .of_eq rfl rfl rfl rfl
  split
  · exact .refl t
  refine Beside.trans ?_ (dispatchPublisher_beside _ _)
  refine Beside.trans ?_ (recordChannelFailure_beside _ _ _)
  refine Beside.push ?_ trivial
  refine Beside.trans ?_ (failPublisherSends_beside _ _ _)
  exact .of_eq rfl rfl rfl rfl

lemma progressDataSend_beside (intent failure connected : Bool) (ticket : OperationId) :
    Beside t (t.progressDataSend intent failure connected ticket) := by
  unfold progressDataSend
  split
  · exact .refl t
  split
  · exact t.finishDataSend_beside _ _
  dsimp only
  split
  · exact .of_eq rfl rfl rfl rfl
  split
  · exact .of_eq rfl rfl rfl rfl
  split
  next heq =>
    refine Beside.trans ?_ (heq ▸ sendOwned_beside _ _ _)
    exact .of_eq rfl rfl rfl rfl
  next heq =>
    refine Beside.trans ?_ (finishDataSend_beside _ _ _)
    refine Beside.trans ?_ (heq ▸ sendOwned_beside _ _ _)
    exact .of_eq rfl rfl rfl rfl

lemma progressDataSends_beside (intent failure connected : Bool) :
    Beside t (t.progressDataSends intent failure connected) := by
  refine Beside.trans ?_ (finishAll_beside _ _ _)
  exact .foldl (fun t ticket => t.progressDataSend_beside intent failure connected ticket) _ t

lemma emitAll_beside (generation : Generation) (channel : ChannelId) (registration : TopicChannel)
    (bodies : List Body) : Beside t (t.emitAll generation channel registration bodies) :=
  .foldl (fun t body => t.emitAuxiliary_beside generation channel registration body) bodies t

lemma probeRemotePublishers_beside : Beside t t.probeRemotePublishers := by
  unfold probeRemotePublishers
  split
  · exact .refl t
  · exact .foldl (fun t _ => t.emitAuxiliary_beside _ _ _ _) _ t

lemma resetPublisher_beside (publisher : TopicPublisher) : Beside t (t.resetPublisher publisher) := by
  unfold resetPublisher
  split
  · exact .refl t
  next state _ =>
    have hfailed : Beside t (failPublisherSends { t with publishers := t.publishers.erase publisher } publisher
        .channelFailed) := by
      refine Beside.trans ?_ (failPublisherSends_beside _ _ _)
      exact .of_eq rfl rfl rfl rfl
    exact (hfailed.trans (.pushAll _ (drops_silent))).trans (.of_eq rfl rfl rfl rfl)

end Topics

end Pulsebeam.Agent
