import Pulsebeam.Feedback.Window

/-! Packets of one path are never observed on another. -/

namespace Pulsebeam.Feedback

open Pulsebeam.Lib

namespace Sender

variable {s s' : Sender} {e e' : SentEntry} {id : SentPacketId} {acks : SentPacketId → Prop} {edges : Prop}

section Severed

structure Severed (b : SentPacketId) (s : Sender) : Prop where
  known : b ≤ s.nextSentId
  live : ∀ id e, s.entry id = some e → e.acknowledgment.isTerminal = false → b ≤ id
  named : ∀ id, s.Named id → b ≤ id
  told : ∀ o ∈ s.observations, b ≤ o.sentId

variable {b : SentPacketId}

lemma Named.back (h : Follows s s') (hn : s'.Named id) : s.Named id := by
  obtain ⟨lane, q, hq, hf⟩ := hn
  exact ⟨lane, q, (h.resolve lane q).symm.trans hq, fun hl => h.oldestFeedback ▸ hf hl⟩

lemma Severed.micro (hb : Severed b s) (h : Micro acks edges s s') : Severed b s' where
  known := h.follows.nextSentId.symm ▸ hb.known
  live := by
    intro id e' he' ht'
    obtain ⟨e, he, ht⟩ := h.follows.entry_back he'
    apply hb.live id e he
    by_contra hn
    rw [ht.terminal (by simpa using hn)] at ht'
    exact hn ht'
  named := fun id hn => hb.named id (hn.back h.follows)
  told := by
    intro o ho
    rcases h.observed ho with ⟨y, hy, hid⟩ | ⟨e, he, hlive | ⟨hn, -⟩⟩
    · exact hid ▸ hb.told y hy
    · exact hb.live _ e he hlive
    · exact hb.named _ hn

lemma Severed.chore (hb : Severed b s) (h : Chore s s') : Severed b s' := by
  cases h with
  | requeue | oldest => exact ⟨hb.known, hb.live, hb.named, hb.told⟩
  | @confirm id rest hwork =>
    have hb1 : Severed b { s with missing := rest } := ⟨hb.known, hb.live, hb.named, hb.told⟩
    exact hb1.micro (confirm_micro hwork id)
  | @reclaim _ space =>
    refine ⟨hb.known, hb.live, ?_, hb.told⟩
    rintro id ⟨lane, q, hq, hf⟩
    refine hb.named id ⟨lane, q, ?_, hf⟩
    cases lane with
    | feedback => exact hq
    | inSpace sp =>
      obtain ⟨⟨st, hst, hl⟩, he⟩ := lookupPacket_eq_some.1 hq
      exact lookupPacket_eq_some.2 ⟨⟨st, lookup_erase_sub hst, hl⟩, he⟩

lemma Severed.commit {context : SendCommit} (hb : Severed b s) (hw : Windowed s) (h : Commits s s' context) :
    Severed b s' where
  known := h.nextSentId ▸ Nat.le_succ_of_le hb.known
  live := by
    intro id e he ht
    rcases h.entry_cases hw he with ⟨rfl, -⟩ | ⟨-, he⟩
    · exact hb.known
    · exact hb.live id e he ht
  named := by
    intro id hn
    obtain ⟨lane, q, hq, hf⟩ := hn
    rcases h.resolve hw hq hf with rfl | ⟨hq, hf⟩
    · exact hb.known
    · exact hb.named id ⟨lane, q, hq, hf⟩
  told := h.lists.observations ▸ hb.told

lemma severed_switch {epoch : Epoch} {available : Bool} (hw : Windowed s) (hs : s.switches epoch available = true)
    (h : Switches s s' epoch available) (hb : b ≤ s.nextSentId) : Severed b s' where
  known := h.nextSentId ▸ hb
  live := by
    intro id e he ht
    rw [h.terminal hw hs (entry_eq_some.1 he).1] at ht
    cases ht
  named := by
    rintro id ⟨lane, q, hq, hf⟩
    cases lane with
    | feedback =>
      obtain ⟨floor, hfloor, -⟩ := hf rfl
      rw [h.oldestFeedback] at hfloor
      cases hfloor
    | inSpace sp =>
      rw [Sender.resolve, h.lookupPacket] at hq
      cases hq
  told := by
    intro o ho
    rw [observations, h.feedback, h.synthetic] at ho
    cases ho

lemma Severed.apply (hb : Severed b s) (hw : Windowed s) (op : SenderOp) : Severed b (s.apply op) := by
  rcases apply_cases with ⟨context, -, h⟩ | ⟨-, h⟩
  · exact hb.commit hw h
  cases h with
  | tidy h =>
    refine ⟨h.nextSentId ▸ hb.known, fun id e he => hb.live id e (h.entry id ▸ he), ?_, fun o ho => ?_⟩
    · rintro id ⟨lane, q, hq, hf⟩
      refine hb.named id ⟨lane, q, ?_, fun hl => h.oldestFeedback ▸ hf hl⟩
      cases lane with
      | feedback =>
        have hx := feedbackSentId_eq_some.1 hq
        rw [h.feedbackIndex, slot, h.config] at hx
        exact feedbackSentId_eq_some.2 hx
      | inSpace sp => exact h.lookupPacket hq
    · rcases h.lists with hl | ⟨hf, hs⟩
      · exact hb.told o (hl.observations ▸ ho)
      · rw [observations, hf, hs] at ho
        cases ho
  | blank h =>
    refine ⟨h.nextSentId ▸ hb.known, fun id e he => ?_, fun id hn => ?_, fun o ho => ?_⟩
    · rw [h.entry] at he
      cases he
    · obtain ⟨lane, q, hq, -⟩ := hn
      rw [h.resolve] at hq
      cases hq
    · rw [observations, h.feedback, h.synthetic] at ho
      cases ho
  | report batch room h => exact h ▸ (processFeedback_steps s batch room).keep (fun _ _ h hb => Severed.micro hb h) hb
  | expiry h => exact h.keep (fun _ _ h hb => Severed.micro hb h) (fun _ _ h hb => Severed.chore hb h) hb
  | switch epoch available hs h => exact severed_switch hw hs h hb.known

lemma Severed.foldl (hb : Severed b s) (hw : Windowed s) (ops : List SenderOp) : Severed b (ops.foldl Sender.apply s) := by
  induction ops generalizing s with
  | nil => exact hb
  | cons op ops ih => exact ih (hb.apply hw op) (hw.apply op)

end Severed

lemma processFeedback_foreign {batch : SendFeedback} {room : Room} (h : s.activeEpoch ≠ some batch.pathEpoch) :
    ∃ c r, s.processFeedback batch room = { s with counters := c, room := r } := by
  rcases processFeedback_cases s batch room with heq | ⟨c, heq⟩ | ⟨hE, -⟩
  · exact ⟨s.counters, s.room, heq⟩
  · exact ⟨c, room, heq⟩
  · exact absurd hE h

end Sender

structure Traced where
  sender : Sender
  epochs : List Epoch

namespace Traced

open Sender

def apply (t : Traced) (op : SenderOp) : Traced :=
  ⟨t.sender.apply op, t.epochs ++ (t.sender.committed op).toList.map (·.pathEpoch)⟩

def machine (config : SenderConfig) : Machine Traced SenderOp where
  init t := config.validate = true ∧ t = ⟨unfunded config, []⟩
  guard _ _ := True
  step := apply

variable {t : Traced} {acks : SentPacketId → Prop} {edges : Prop}

structure OnEpoch (s : Sender) (epochs : List Epoch) : Prop where
  windowed : Windowed s
  length : epochs.length = s.nextSentId
  entry : ∀ id e, s.entry id = some e → epochs[id]? = some e.pathEpoch
  told : ∀ o ∈ s.observations, ∃ epoch, s.activeEpoch = some epoch ∧ epochs[o.sentId]? = some epoch

variable {s s' : Sender} {epochs : List Epoch} {config : SenderConfig}

section

variable (ho : OnEpoch s epochs)

include ho

lemma OnEpoch.micro (h : Micro acks edges s s') : OnEpoch s' epochs where
  windowed := ho.windowed.follows h.follows
  length := ho.length.trans h.follows.nextSentId.symm
  entry := by
    intro id e' he'
    obtain ⟨e, he, ht⟩ := h.follows.entry_back he'
    rw [ht.kin.pathEpoch]
    exact ho.entry id e he
  told := by
    intro o hmem
    rw [h.follows.activeEpoch]
    rcases h.observed hmem with ⟨y, hy, hid⟩ | ⟨e, he, hwhy⟩
    · exact hid ▸ ho.told y hy
    refine ⟨e.pathEpoch, ?_, ho.entry _ e he⟩
    rcases hwhy with hlive | ⟨-, hp⟩
    · exact ho.windowed.live _ e (entry_eq_some.1 he).1 hlive
    obtain ⟨x, hx, ha⟩ := hp
    cases he.symm.trans hx
    exact ha

lemma OnEpoch.chore (h : Chore s s') : OnEpoch s' epochs := by
  have hw := ho.windowed.chore h
  cases h with
  | requeue | reclaim | oldest => exact ⟨hw, ho.length, ho.entry, ho.told⟩
  | @confirm id rest hwork =>
    have ho1 : OnEpoch { s with missing := rest } epochs :=
      ⟨ho.windowed.same { Shape.refl s with } rfl rfl, ho.length, ho.entry, ho.told⟩
    exact ho1.micro (confirm_micro hwork id)

lemma OnEpoch.commit {context : SendCommit} (h : Commits s s' context) :
    OnEpoch s' (epochs ++ [context.pathEpoch]) where
  windowed := h.windowed ho.windowed
  length := by rw [List.length_append, ho.length, h.nextSentId, List.length_singleton]
  entry := by
    intro id e he
    rcases h.entry_cases ho.windowed he with ⟨rfl, rfl⟩ | ⟨-, he⟩
    · rw [← ho.length, List.getElem?_concat_length]
      rfl
    have hlt := ho.windowed.known _ e (entry_eq_some.1 he).1
    rw [(entry_eq_some.1 he).2, ← ho.length] at hlt
    rw [List.getElem?_append_left hlt]
    exact ho.entry id e he
  told := by
    intro o hmem
    obtain ⟨epoch, ha, hep⟩ := ho.told o (h.lists.observations ▸ hmem)
    refine ⟨epoch, h.activeEpoch.trans ha, ?_⟩
    rw [List.getElem?_append_left (List.getElem?_eq_some_iff.1 hep).1, hep]

lemma OnEpoch.change (h : Change s s') (hw : Windowed s') : OnEpoch s' epochs := by
  cases h with
  | tidy h =>
    refine ⟨hw, ho.length.trans h.nextSentId.symm, fun id e he => ho.entry id e (h.entry id ▸ he), fun o hmem => ?_⟩
    rw [h.activeEpoch]
    rcases h.lists with hl | ⟨hf, hs⟩
    · exact ho.told o (hl.observations ▸ hmem)
    · rw [observations, hf, hs] at hmem
      cases hmem
  | blank h =>
    refine ⟨hw, ho.length.trans h.nextSentId.symm, fun id e he => ?_, fun o hmem => ?_⟩
    · rw [h.entry] at he
      cases he
    · rw [observations, h.feedback, h.synthetic] at hmem
      cases hmem
  | report batch room h => exact h ▸ (processFeedback_steps s batch room).keep (fun _ _ h ho => OnEpoch.micro ho h) ho
  | expiry h => exact h.keep (fun _ _ h ho => OnEpoch.micro ho h) (fun _ _ h ho => OnEpoch.chore ho h) ho
  | switch epoch available hs h =>
    refine ⟨hw, ho.length.trans h.nextSentId.symm, fun id e' he' => ?_, fun o hmem => ?_⟩
    · obtain ⟨hi, hid⟩ := entry_eq_some.1 he'
      obtain ⟨e, he, ht⟩ := rel_some_right (hi ▸ h.entryAt _)
      have heid : e.id = id := ht.kin.id.symm.trans hid
      rw [ht.kin.pathEpoch]
      exact ho.entry id e (heid ▸ ho.windowed.entry he)
    · rw [observations, h.feedback, h.synthetic] at hmem
      cases hmem

end

lemma onEpoch (h : (machine config).Reachable t) : OnEpoch t.sender t.epochs := by
  refine h.invariant (I := fun t => OnEpoch t.sender t.epochs) ?_ fun t op ho _ => ?_
  · rintro t ⟨hvalid, rfl⟩
    exact ⟨windowed_unfunded hvalid, rfl, nofun, nofun⟩
  · change OnEpoch (t.sender.apply op) (t.epochs ++ (t.sender.committed op).toList.map (·.pathEpoch))
    rcases apply_cases with ⟨context, hc, h⟩ | ⟨hc, h⟩
    · rw [hc]
      exact ho.commit h
    · rw [hc]
      simpa using ho.change h (ho.windowed.apply op)

lemma activeEpoch_apply (s : Sender) (op : SenderOp) :
    (s.apply op).activeEpoch = s.activeEpoch ∨ (s.apply op).observations = [] := by
  rcases apply_cases with ⟨context, -, h⟩ | ⟨-, h⟩
  · exact .inl h.activeEpoch
  cases h with
  | tidy h => exact .inl h.activeEpoch
  | blank h => exact .inr (by rw [observations, h.feedback, h.synthetic]; rfl)
  | report batch room h => exact .inl (h ▸ (processFeedback_steps s batch room).follows.activeEpoch)
  | expiry h =>
    refine .inl (h.keep (fun _ _ h hs => h.follows.activeEpoch.trans hs)
      (fun _ _ h hs => ?_) rfl)
    cases h with
    | requeue | reclaim | oldest => exact hs
    | confirm hwork => exact (confirm_micro hwork _).follows.activeEpoch.trans hs
  | switch epoch available hs h => exact .inr (by rw [observations, h.feedback, h.synthetic]; rfl)

/-- In every run what is observed was committed on the path active then, a report for another path is only counted, and
after the path has changed no packet committed before is observed again. -/
theorem observations_isolated (h : (machine config).Reachable t) :
    t.epochs.length = t.sender.nextSentId ∧
    (∀ o ∈ t.sender.observations, ∃ epoch, t.sender.activeEpoch = some epoch ∧ t.epochs[o.sentId]? = some epoch) ∧
    (∀ op, (t.sender.apply op).activeEpoch = t.sender.activeEpoch ∨ (t.sender.apply op).observations = []) ∧
    (∀ batch room, t.sender.activeEpoch ≠ some batch.pathEpoch →
      ∃ c r, t.sender.processFeedback batch room = { t.sender with counters := c, room := r }) ∧
    ∀ epoch available (ops : List SenderOp), t.sender.switches epoch available = true →
      ∀ o ∈ (ops.foldl Sender.apply (t.sender.setAvailability epoch available)).observations,
        t.sender.nextSentId ≤ o.sentId := by
  have ho := onEpoch h
  refine ⟨ho.length, ho.told, activeEpoch_apply t.sender, fun batch room hne => processFeedback_foreign hne,
    fun epoch available ops hs => ?_⟩
  have hw := ho.windowed
  have hsev := severed_switch hw hs (setAvailability_switches hs) le_rfl
  exact (hsev.foldl (hw.setAvailability epoch available) ops).told

def handoverOps : List SenderOp := [.prepareFeedbackProfile .continuous true, .setAvailability 1 true] ++ leakCommit 0 1

def handover : Traced := handoverOps.foldl apply ⟨unfunded leakConfig, []⟩

def arrivalOps : List SenderOp :=
  [.processFeedback ⟨1, 1, .continuous 1 0 0 [⟨true, none, none, none⟩]⟩ grantAll,
    .prepareCommit ⟨2, 100, 2, ⟨0, 2, some 2, 0⟩⟩ true, .commitPreflighted ⟨2, 100, 2, ⟨0, 2, some 2, 0⟩⟩ true,
    .processFeedback ⟨3, 2, .continuous 2 0 1 [⟨true, none, none, none⟩]⟩ grantAll]

theorem observations_isolated_handover :
    (machine leakConfig).Reachable handover ∧
      (arrivalOps.foldl Sender.apply (handover.sender.setAvailability 2 true)).observations.map (·.sentId) = [1] ∧
      ∀ o ∈ (arrivalOps.foldl Sender.apply (handover.sender.setAvailability 2 true)).observations,
        handover.sender.nextSentId ≤ o.sentId := by
  have h : (machine leakConfig).Reachable handover :=
    Machine.Reachable.run (.init ⟨by decide, rfl⟩)
      (Machine.admits_of_forall (fun _ _ => trivial) _ handoverOps)
  exact ⟨h, by decide +kernel, (observations_isolated h).2.2.2.2 2 true arrivalOps (by decide +kernel)⟩

end Traced

end Pulsebeam.Feedback
