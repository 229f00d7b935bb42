import Pulsebeam.Feedback.Acked

/-! Runs of the sender with everything that has been observed. -/

namespace Pulsebeam.Feedback

open Pulsebeam.Lib

namespace Sender

variable {s s' : Sender} {e e' : SentEntry} {id : SentPacketId} {ret ret' : List SentObservation}

section Small

def Small (s s' : Sender) : Prop := Micro (fun _ => True) True s s' ∨ Chore s s'

section

variable (h : Small s s')

include h

lemma Small.not_exhausted (hx : s'.inputs.exhausted = false) : s.inputs.exhausted = false :=
  h.elim (fun h => not_exhausted_of_steps (.single h) hx) fun h => h.not_exhausted hx

lemma Small.told (hw : Windowed s) (hx : s'.inputs.exhausted = false) (ht : Told ret s) :
    Told ret s' := h.elim (fun h => h.told hw hx ht) fun h => h.told hw hx ht

lemma Small.windowed (hw : Windowed s) : Windowed s' :=
  h.elim (fun h => hw.follows h.follows) hw.chore

lemma Small.order (hx : s'.inputs.exhausted = false) (ht : Told ret s) (id : SentPacketId) :
    Orders id (ret ++ s.observations) (ret ++ s'.observations) := by
  rcases h with h | h
  · exact h.order hx ht id
  cases h with
  | requeue | reclaim | oldest => exact .refl ..
  | @confirm x rest hwork =>
    have ht1 : Told ret { s with missing := rest } := ht.congr ⟨rfl, rfl⟩ rfl fun _ => rfl
    exact (confirm_micro hwork x).order hx ht1 id

lemma Small.length_observations (hx : s'.inputs.exhausted = false) :
    s.observations.length ≤ s'.observations.length := by
  rcases h with h | h
  · exact h.length_observations hx
  cases h with
  | requeue | reclaim | oldest => exact le_rfl
  | @confirm x rest hwork => exact (@confirm_micro s rest hwork x).length_observations hx

end

abbrev Smalls : Sender → Sender → Prop := Relation.ReflTransGen Small

lemma Smalls.told (h : Smalls s s') (hx : s'.inputs.exhausted = false) (hw : Windowed s) (ht : Told ret s) :
    Windowed s' ∧ Told ret s' := by
  induction h with
  | refl => exact ⟨hw, ht⟩
  | tail _ h ih =>
    obtain ⟨hw, ht⟩ := ih (h.not_exhausted hx)
    exact ⟨h.windowed hw, h.told hw hx ht⟩

lemma Smalls.length_observations (h : Smalls s s') (hx : s'.inputs.exhausted = false) :
    s.observations.length ≤ s'.observations.length := by
  induction h with
  | refl => exact le_rfl
  | tail _ h ih => exact (ih (h.not_exhausted hx)).trans (h.length_observations hx)

lemma Steps.smalls (h : Steps (fun _ => True) True s s') : Smalls s s' := by
  induction h with
  | refl => exact .refl
  | tail _ h ih => exact ih.tail (.inl h)

lemma Expires.smalls (h : Expires s s') : Smalls s s' := by
  induction h with
  | refl => exact .refl
  | tail _ h ih => exact ih.tail (h.imp_left fun h => h.mono (fun _ h => h.elim) fun h => h.elim)

end Small

section Change

variable (hl : ret' ++ s'.observations = ret ++ s.observations)

include hl

lemma Tallied.tidy (ht : Told ret s) (h : Tidies s s') : Told ret' s' :=
  ht.calm hl h.nextSentId fun x y hy => ⟨y, h.entry x ▸ hy, fun h => h, fun h => h, rfl⟩

lemma Tallied.blank (ht : Told ret s) (h : Blanks s s') : Told ret' s' := by
  refine ht.calm hl h.nextSentId fun x y hy => ?_
  rw [h.entry] at hy
  cases hy

lemma Tallied.switch {epoch : Epoch} {available : Bool} (ht : Told ret s) (hw : Windowed s)
    (h : Switches s s' epoch available) : Told ret' s' := by
  refine ht.calm hl h.nextSentId fun x y hy => ?_
  obtain ⟨hat, rfl⟩ := entry_eq_some.1 hy
  rcases h.written _ y hat with hat | ⟨e, he, hlive, rfl⟩
  · exact ⟨y, hw.entry hat, fun h => h, fun h => h, rfl⟩
  refine ⟨e, hw.entry he, fun h => absurd h (not_settled_of_live hlive), fun hlost => ?_, rfl⟩
  rw [hlost] at hlive
  cases hlive

lemma Acked.tidy (ha : Acked ret s) (h : Tidies s s') : Acked ret' s' := by
  refine ha.frame hl (fun lane q id hr _ => ?_) (fun lane n hn => ?_) fun sp st' q id g hst' hlook hg => ?_
  · cases lane with
    | feedback =>
      have hx := feedbackSentId_eq_some.1 hr.resolve
      rw [h.feedbackIndex, slot, h.config] at hx
      exact ⟨⟨h.mode ▸ hr.carries, feedbackSentId_eq_some.2 hx, fun hl => h.oldestFeedback ▸ hr.floor hl⟩,
        h.highestFeedbackAcked, fun e he => h.entry id ▸ he⟩
    | inSpace sp =>
      have hlook := h.lookupPacket hr.resolve
      refine ⟨⟨h.mode ▸ hr.carries, hlook, fun h => by cases h⟩, ?_, fun e he => h.entry id ▸ he⟩
      obtain ⟨⟨st', hst', hin⟩, -⟩ := lookupPacket_eq_some.1 hr.resolve
      rcases h.spaces sp st' hst' with ⟨-, hempty, -⟩ | ⟨st, hst, -, hedge, -⟩
      · rw [hempty] at hin
        cases hin
      · rw [laneEdge_of_lookup hst', laneEdge_of_lookup hst, hedge]
  · cases lane with
    | feedback => exact h.highestFeedbackAcked.symm.trans hn
    | inSpace sp =>
      obtain ⟨st', hst', hedge'⟩ := lookup_of_laneEdge hn
      rcases h.spaces sp st' hst' with ⟨-, -, hnone⟩ | ⟨st, hst, -, hedge, -⟩
      · rw [hnone] at hedge'
        cases hedge'
      · rw [laneEdge_of_lookup hst, ← hedge, hedge']
  · rw [h.activeEpoch]
    obtain ⟨⟨st1, hst1, hin⟩, -⟩ := lookupPacket_eq_some.1 hlook
    cases hst'.symm.trans hst1
    rcases h.spaces sp st' hst' with ⟨-, hempty, -⟩ | ⟨st, hst, -, -, hgen⟩
    · rw [hempty] at hin
      cases hin
    · exact ha.generation sp st q id g hst (h.lookupPacket hlook) (hgen ▸ hg)

lemma Acked.blank (ha : Acked ret s) (h : Blanks s s') : Acked ret' s' := by
  refine ha.unreachable hl (fun lane q id hr => ?_) (fun sp q => h.resolve (.inSpace sp) q) fun lane n hn => ?_
  · have hres := hr.resolve
    rw [h.resolve] at hres
    cases hres
  · cases lane with
    | feedback =>
      rcases h.highestFeedbackAcked with heq | hnone
      · exact heq.symm.trans hn
      · exact absurd (hnone.symm.trans hn) (by simp)
    | inSpace sp =>
      obtain ⟨st, hst, hedge⟩ := lookup_of_laneEdge hn
      rcases h.spaces with heq | hempty
      · rw [laneEdge_of_lookup (heq ▸ hst), hedge]
      · rw [hempty] at hst
        cases hst

lemma Acked.switch {epoch : Epoch} {available : Bool} (ha : Acked ret s) (h : Switches s s' epoch available) :
    Acked ret' s' := by
  refine ha.unreachable hl (fun lane q id hr => ?_) h.lookupPacket fun lane n hn => ?_
  · cases lane with
    | feedback =>
      obtain ⟨floor, hfloor, -⟩ := hr.floor rfl
      rw [h.oldestFeedback] at hfloor
      cases hfloor
    | inSpace sp =>
      have hres : s'.lookupPacket sp q = some id := hr.resolve
      rw [h.lookupPacket] at hres
      cases hres
  · cases lane with
    | feedback => exact absurd (h.highestFeedbackAcked.symm.trans hn) (by simp)
    | inSpace sp =>
      obtain ⟨st', hst', hedge⟩ := lookup_of_laneEdge hn
      obtain ⟨st, hst, hf⟩ := rel_some_right (hst' ▸ h.spaces sp)
      rw [laneEdge_of_lookup hst, hf.edge n hedge]

end Change

end Sender

structure Watched where
  sender : Sender
  returned : List SentObservation

namespace Watched

open Sender

variable {w : Watched} {op : SenderOp} {config : SenderConfig}

def observed (w : Watched) : List SentObservation := w.returned ++ w.sender.observations

def apply (w : Watched) (op : SenderOp) : Watched where
  sender := w.sender.apply op
  returned := w.returned ++ if (w.sender.apply op).observations.isEmpty then w.sender.observations else []

def machine (config : SenderConfig) : Machine Watched SenderOp where
  init w := config.validate = true ∧ w = ⟨unfunded config, []⟩
  guard w op := (w.sender.apply op).inputs.exhausted = false
  step := apply

instance (config : SenderConfig) (w : Watched) (op : SenderOp) : Decidable ((machine config).guard w op) :=
  inferInstanceAs (Decidable (_ = _))

structure Kept (w : Watched) : Prop where
  windowed : Windowed w.sender
  told : Told w.returned w.sender
  acked : Acked w.returned w.sender

lemma observed_of_same (h : (w.sender.apply op).observations = w.sender.observations ∨
    (w.sender.apply op).observations = []) :
    (w.apply op).returned ++ (w.sender.apply op).observations = w.returned ++ w.sender.observations := by
  simp only [apply]
  rcases h with h | h
  · cases hl : w.sender.observations <;> simp [h, hl]
  · simp [h]

lemma returned_of_smalls (h : Smalls w.sender (w.sender.apply op)) (hx : (w.sender.apply op).inputs.exhausted = false) :
    (w.apply op).returned = w.returned := by
  have hlen := h.length_observations hx
  simp only [apply]
  split
  next hempty =>
    rw [List.isEmpty_iff.1 hempty] at hlen
    rw [List.eq_nil_of_length_eq_zero (Nat.le_zero.1 hlen), List.append_nil]
  · exact List.append_nil _

lemma emptied {s' : Sender} (hf : s'.inputs.feedback = []) (hs : s'.inputs.synthetic = []) : s'.observations = [] := by
  rw [observations, hf, hs, List.append_nil]

lemma apply_observations (s : Sender) (op : SenderOp) :
    Smalls s (s.apply op) ∨ (s.apply op).observations = s.observations ∨ (s.apply op).observations = [] := by
  rcases apply_cases with ⟨context, -, h⟩ | ⟨-, h⟩
  · exact .inr (.inl h.lists.observations)
  cases h with
  | tidy h => exact .inr (h.lists.imp (fun h => h.observations) fun h => emptied h.1 h.2)
  | blank h => exact .inr (.inr (emptied h.feedback h.synthetic))
  | report batch room h => exact .inl (h ▸ (processFeedback_steps s batch room).smalls)
  | expiry h => exact .inl h.smalls
  | switch epoch available hs h => exact .inr (.inr (emptied h.feedback h.synthetic))

lemma Kept.apply (hk : Kept w) (hx : (w.sender.apply op).inputs.exhausted = false) : Kept (w.apply op) := by
  have hw := hk.windowed.apply op
  have hsmall : Smalls w.sender (w.sender.apply op) → Acked w.returned (w.sender.apply op) → Kept (w.apply op) := by
    intro hs ha
    have hret := returned_of_smalls hs hx
    exact ⟨hw, hret.symm ▸ (hs.told hx hk.windowed hk.told).2, hret.symm ▸ ha⟩
  rcases apply_cases with ⟨context, -, h⟩ | ⟨-, h⟩
  · have hl := observed_of_same (w := w) (.inl h.lists.observations)
    have hl' : (w.apply op).returned ++ (w.sender.apply op).observations =
        w.returned ++ (w.sender.apply op).observations := by rw [hl, h.lists.observations]
    exact ⟨hw, (hk.told.commit hk.windowed h).calm hl' rfl fun _ y hy => ⟨y, hy, fun h => h, fun h => h, rfl⟩,
      (hk.acked.commit hk.windowed hk.told h).frame hl' (fun lane q id hr _ => ⟨hr, rfl, fun _ he => he⟩)
        (fun _ _ h => h) (hk.acked.commit hk.windowed hk.told h).generation⟩
  cases h with
  | tidy h =>
    have hl := observed_of_same (h.lists.imp (fun h => h.observations) fun h => emptied h.1 h.2)
    exact ⟨hw, hk.told.tidy hl h, hk.acked.tidy hl h⟩
  | blank h =>
    have hl := observed_of_same (.inr (emptied h.feedback h.synthetic))
    exact ⟨hw, hk.told.blank hl h, hk.acked.blank hl h⟩
  | report batch room h =>
    refine hsmall (h ▸ (processFeedback_steps w.sender batch room).smalls) ?_
    rw [h] at hx ⊢
    exact hk.acked.processFeedback hk.windowed hx
  | expiry h => exact hsmall h.smalls (hk.acked.expires h hx)
  | switch epoch available hs h =>
    have hl := observed_of_same (.inr (emptied h.feedback h.synthetic))
    exact ⟨hw, hk.told.switch hl hk.windowed h, hk.acked.switch hl h⟩

lemma kept (h : (machine config).Reachable w) : Kept w := by
  refine h.invariant ?_ fun w op hk hx => hk.apply hx
  rintro w ⟨hvalid, rfl⟩
  refine ⟨windowed_unfunded hvalid, ?_, ?_⟩
  · exact ⟨fun _ h => (by cases h), fun _ h => (by cases h), fun _ => Nat.zero_le _, fun _ => Nat.zero_le _,
      fun _ => Nat.zero_le _, fun _ h => (by cases h), fun _ _ h => (by cases h), fun _ _ h => (by cases h),
      fun _ _ h => (by cases h), fun _ _ h => (by cases h)⟩
  · refine ⟨⟨fun _ => Nat.zero_le _, fun _ _ _ _ h => (by cases h)⟩, fun lane h hh => ?_, fun _ _ _ _ _ h => (by cases h)⟩
    cases lane <;> cases hh

/-- In every run each packet is observed at most once as received, lost, acknowledged, lost for the first time and
recovered, a receipt after the loss and a recovery after the first report of it. -/
theorem observed_once (h : (machine config).Reachable w) :
    (∀ id, tally (·.received) id w.observed ≤ 1 ∧ tally (·.lost) id w.observed ≤ 1 ∧
      tally (·.newlyAcked) id w.observed ≤ 1 ∧ tally (·.reportedLostForTheFirstTime) id w.observed ≤ 1 ∧
      tally (·.recovered) id w.observed ≤ 1) ∧
    (∀ op, Smalls w.sender (w.sender.apply op) ∨ (w.sender.apply op).observations = w.sender.observations ∨
      (w.sender.apply op).observations = []) ∧
    ∀ s s', Smalls w.sender s → Small s s' → s'.inputs.exhausted = false → ∀ id,
      (tally (·.lost) id (w.returned ++ s.observations) < tally (·.lost) id (w.returned ++ s'.observations) →
        tally (·.received) id (w.returned ++ s.observations) = 0) ∧
      (tally (·.recovered) id (w.returned ++ s.observations) < tally (·.recovered) id (w.returned ++ s'.observations) →
        0 < tally (·.reportedLostForTheFirstTime) id (w.returned ++ s.observations)) := by
  have hk := kept h
  refine ⟨fun id => ⟨hk.told.received id, hk.told.lost id, hk.acked.marked.once id, hk.told.reported id, ?_⟩,
    apply_observations w.sender, fun s s' hs hstep hx id => ?_⟩
  · exact (tally_le_of_imp hk.told.receipts).trans (hk.told.received id)
  · exact hstep.order hx (hs.told (hstep.not_exhausted hx) hk.windowed hk.told).2 id

def recoveryOps : List SenderOp :=
  [.prepareFeedbackProfile .independent true, .setAvailability 1 true,
    .prepareCommit ⟨0, 100, 1, ⟨0, 1, none, 0⟩⟩ true, .commitPreflighted ⟨0, 100, 1, ⟨0, 1, none, 0⟩⟩ true,
    .prepareCommit ⟨0, 100, 1, ⟨0, 2, none, 0⟩⟩ true, .commitPreflighted ⟨0, 100, 1, ⟨0, 2, none, 0⟩⟩ true,
    .processFeedback ⟨1, 1, .independent [⟨0, 1, 0, [noStatus, ⟨true, none, none, none⟩]⟩]⟩ grantAll,
    .clearObservations,
    .processFeedback ⟨2, 1, .independent [⟨0, 1, 1, [⟨true, none, none, none⟩, ⟨true, none, none, none⟩]⟩]⟩ grantAll]

def recovery : Watched := recoveryOps.foldl apply ⟨unfunded leakConfig, []⟩

theorem observed_once_recovery :
    (machine leakConfig).Reachable recovery ∧
      recovery.observed.map (fun o => (o.sentId, o.received, o.newlyAcked, o.reportedLostForTheFirstTime, o.recovered)) =
        [(0, false, true, true, false), (1, true, true, false, false), (0, true, false, false, true)] ∧
      tally (·.received) 0 recovery.observed ≤ 1 := by
  have hg : (machine leakConfig).Admits ⟨unfunded leakConfig, []⟩ recoveryOps := by decide +kernel
  have h : (machine leakConfig).Reachable recovery := Machine.Reachable.run (.init ⟨by decide, rfl⟩) hg
  exact ⟨h, by decide +kernel, ((observed_once h).1 0).1⟩

end Watched

end Pulsebeam.Feedback
