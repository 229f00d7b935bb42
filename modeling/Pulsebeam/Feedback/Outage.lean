import Pulsebeam.Feedback.Window

/-! Which continuous reports a sender of consecutive packets takes in after an outage. -/

namespace Pulsebeam.Feedback

open Pulsebeam.Lib List Option Nat

namespace Sender

variable {s s' : Sender} {e e' : SentEntry} {id : SentPacketId} {acks : SentPacketId → Prop} {edges : Prop} {q : ℕ}

section Consecutive

structure Consecutive (floor newest : ℕ) (s : Sender) : Prop where
  le : floor ≤ newest
  last : s.newestFeedback = some newest
  span : newest + 1 - floor ≤ s.config.capacity
  covered : ∀ q, floor ≤ q → q ≤ newest → ∃ id e, s.feedbackSentId q = some id ∧ s.entry id = some e ∧
    s.activeEpoch = some e.pathEpoch ∧ s.nextSentId = id + (newest - q) + 1
  entries : ∀ i e q, s.entryAt i = some e → e.feedbackSequence = some q → floor ≤ q →
    s.nextSentId = e.id + (newest - q) + 1
  index : ∀ (j : ℕ) x, s.feedbackIndex[j]? = some (some x) → floor ≤ x.sequence →
    s.nextSentId = x.sentId + (newest - x.sequence) + 1

def Numbered (s : Sender) : Prop :=
  ∀ i e q, s.entryAt i = some e → e.feedbackSequence = some q → ∃ n, s.newestFeedback = some n ∧ q ≤ n

variable {floor newest : ℕ} {context : SendCommit}

lemma Tidies.preserves (h : Tidies s s') : Preserves s s' := by
  refine { h with entryAt := fun i => ?_ }
  rw [entryAt, entryAt, h.entries]
  exact rel_refl .refl

lemma Consecutive.preserves (he : Consecutive floor newest s) (h : Preserves s s') : Consecutive floor newest s' where
  le := he.le
  last := h.newestFeedback.trans he.last
  span := h.config.symm ▸ he.span
  covered := by
    intro q hf hn
    obtain ⟨id, e, hid, hent, ha, hal⟩ := he.covered q hf hn
    obtain ⟨hat, heid⟩ := entry_eq_some.1 hent
    obtain ⟨e', he', ht⟩ := rel_some_left (hat ▸ h.entryAt _)
    refine ⟨id, e', ?_, ?_, by rw [h.activeEpoch, ht.kin.pathEpoch, ha], h.nextSentId.trans hal⟩
    · rw [feedbackSentId_eq_some, h.feedbackIndex, slot, h.config]
      exact feedbackSentId_eq_some.1 hid
    · rw [entry_eq_some, slot, h.config]
      exact ⟨he', ht.kin.id.trans heid⟩
  entries := by
    intro i e' q hi hq hf
    obtain ⟨e, hi, ht⟩ := rel_some_right (hi ▸ h.entryAt i)
    rw [h.nextSentId, ht.kin.id]
    exact he.entries i e q hi (ht.kin.feedbackSequence ▸ hq) hf
  index := by
    intro j x hx hf
    rw [h.nextSentId]
    exact he.index j x (h.feedbackIndex ▸ hx) hf

lemma Consecutive.follows (he : Consecutive floor newest s) (h : Follows s s') : Consecutive floor newest s' :=
  he.preserves h.toPreserves

lemma Numbered.preserves (hn : Numbered s) (h : Preserves s s') : Numbered s' := by
  intro i e' q hi hq
  obtain ⟨e, hi, ht⟩ := rel_some_right (hi ▸ h.entryAt i)
  rw [h.newestFeedback]
  exact hn i e q hi (ht.kin.feedbackSequence ▸ hq)

lemma Numbered.commit (hn : Numbered s) (hw : Windowed s) (h : Commits s s' context) : Numbered s' := by
  intro i e q hi hq
  rw [h.newestFeedback]
  rw [h.entryAt hw] at hi
  split at hi
  · cases hi
    change context.identity.feedbackSequence = some q at hq
    exact ⟨q, by rw [hq]; rfl, le_rfl⟩
  · rw [← h.newestFeedback]
    exact h.newest (hn i e q hi hq)

lemma Consecutive.evicted (he : Consecutive floor newest s) (hf : floor ≤ q) (hq : q ≤ newest)
    (hal : s.nextSentId = id + (newest - q) + 1) (hslot : s.slot id = s.slot s.nextSentId) :
    q = floor ∧ newest + 1 - floor = s.config.capacity := by
  have hmod : id % s.config.capacity = s.nextSentId % s.config.capacity := hslot
  have hge : s.nextSentId ≥ id := by omega
  have hdvd := (modEq_iff_dvd' hge).1 hmod
  have hle := le_of_dvd (by omega) hdvd
  have := he.span
  omega

section Commit

variable {floor' : ℕ} (he : Consecutive floor newest s) (h : Commits s s' context) (hfl : s.oldestFeedback = some floor)
  (hfs : context.identity.feedbackSequence = some (newest + 1)) (hfl' : s'.oldestFeedback = some floor')

include he h hfl hfs hfl'

lemma Consecutive.floor_le : floor ≤ floor' := by
  rcases h.floor floor' hfl' with ⟨o, ho, hle⟩ | ho
  · rw [hfl] at ho
    cases ho
    exact hle
  rw [hfs] at ho
  cases ho
  exact le_succ_of_le he.le

variable (hw : Windowed s)

include hw

lemma Consecutive.le_next : floor' ≤ newest + 1 := by
  rcases h.found floor' hfl' with ho | ⟨j, x, hx, rfl⟩ | ho
  · rw [hfl] at ho
    cases ho
    exact le_succ_of_le he.le
  · obtain ⟨-, ⟨n, hn, hxn⟩, -⟩ := hw.index j x hx
    rw [he.last] at hn
    cases hn
    exact le_succ_of_le hxn
  · rw [hfs] at ho
    cases ho
    exact le_rfl

lemma Consecutive.stays (hq : floor' ≤ q) (hqn : q ≤ newest) (hid : s.feedbackSentId q = some id)
    (hent : s.entry id = some e) (hal : s.nextSentId = id + (newest - q) + 1) : s.slot id ≠ s.slot s.nextSentId := by
  intro hslot
  have hrise := he.floor_le h hfl hfs hfl'
  obtain ⟨rfl, -⟩ := he.evicted (hrise.trans hq) hqn hal hslot
  obtain rfl : floor' = q := le_antisymm hq hrise
  have hseq := (hw.index _ _ (feedbackSentId_eq_some.1 hid)).2.2 e hent
  have hpassed := h.passed floor' e hfl' (hslot ▸ (entry_eq_some.1 hent).1) hseq
  rw [hfs] at hpassed
  cases hpassed
  omega

lemma Consecutive.covered_commit (hq : floor' ≤ q) (hqn : q ≤ newest + 1) :
    ∃ id e, s'.feedbackSentId q = some id ∧ s'.entry id = some e ∧ s'.activeEpoch = some e.pathEpoch ∧
      s'.nextSentId = id + (newest + 1 - q) + 1 := by
  rcases lt_or_ge newest q with hlt | hge
  · obtain rfl : q = newest + 1 := by omega
    exact ⟨s.nextSentId, commitEntry context s.nextSentId, h.feedbackSentId_new hw hfs, h.entry_new hw,
      h.activeEpoch.trans h.valid.active, by rw [h.nextSentId]; omega⟩
  obtain ⟨id, e, hid, hent, ha, hal⟩ := he.covered q ((he.floor_le h hfl hfs hfl').trans hq) hge
  have hne := he.stays h hfl hfs hfl' hw hq hge hid hent hal
  obtain ⟨hat, heid⟩ := entry_eq_some.1 hent
  refine ⟨id, e, ?_, ?_, h.activeEpoch.trans ha, ?_⟩
  · rw [feedbackSentId_eq_some, h.slot]
    refine h.kept _ _ (feedbackSentId_eq_some.1 hid) (fun p hp hidp => hne ?_) fun q' hq' hslot => hne ?_
    · change id = p.id at hidp
      rw [hidp]
      exact hw.ring _ p hp
    · rw [hfs] at hq'
      cases hq'
      have hmod : (newest + 1) % s.config.capacity = q % s.config.capacity := hslot
      obtain ⟨k, hk⟩ := (modEq_iff_dvd' (by omega : q ≤ newest + 1)).1 hmod.symm
      have hidn : s.nextSentId = id + s.config.capacity * k := by omega
      rw [slot, slot, hidn, add_mul_mod_self_left]
  · rw [entry_eq_some, h.slot, h.entryAt hw, if_neg hne]
    exact ⟨hat, heid⟩
  · rw [h.nextSentId]
    omega

lemma Consecutive.commit (hnum : Numbered s) : Consecutive floor' (newest + 1) s' := by
  have hrise := he.floor_le h hfl hfs hfl'
  refine ⟨he.le_next h hfl hfs hfl' hw, by rw [h.newestFeedback, hfs]; rfl, ?_,
    fun q hf hq => he.covered_commit h hfl hfs hfl' hw hf hq, fun i e q hi hq hf => ?_, fun j x hx hf => ?_⟩
  · rw [h.config]
    have hspan := he.span
    by_contra hbig
    obtain rfl : floor' = floor := by omega
    obtain ⟨id, e, hid, hent, -, hal⟩ := he.covered floor' le_rfl he.le
    refine he.stays h hfl hfs hfl' hw le_rfl he.le hid hent hal ?_
    have hcapacity : newest - floor' + 1 = s.config.capacity := by
      have := he.le
      omega
    have hidn : s.nextSentId = id + s.config.capacity := by omega
    rw [slot, slot, hidn, add_mod_right]
  · rw [h.nextSentId]
    rw [h.entryAt hw] at hi
    split at hi
    · cases hi
      change context.identity.feedbackSequence = some q at hq
      rw [hfs] at hq
      cases hq
      change s.nextSentId + 1 = s.nextSentId + (newest + 1 - (newest + 1)) + 1
      omega
    · have hal := he.entries i e q hi hq (hrise.trans hf)
      obtain ⟨n, hn, hqn⟩ := hnum i e q hi hq
      rw [he.last] at hn
      cases hn
      omega
  · rw [h.nextSentId]
    rcases h.index j x hx with hx | ⟨hq, hid⟩
    · have hal := he.index j x hx (hrise.trans hf)
      obtain ⟨-, ⟨n, hn, hxn⟩, -⟩ := hw.index j x hx
      rw [he.last] at hn
      cases hn
      omega
    · rw [hfs] at hq
      have := Option.some.inj hq
      rw [hid]
      omega

end Commit

lemma Commits.consecutive (h : Commits s s' context) (hw : Windowed s) (hnum : Numbered s)
    (hfl : s.oldestFeedback = none) {floor' : ℕ} (hfl' : s'.oldestFeedback = some floor') :
    Consecutive floor' floor' s' := by
  have hfs : context.identity.feedbackSequence = some floor' := by
    rcases h.floor floor' hfl' with ⟨o, ho, -⟩ | ho
    · rw [hfl] at ho
      cases ho
    · exact ho
  have hnewer : ∀ n, s.newestFeedback = some n → n < floor' := fun n hn => h.valid.newer floor' n hfs hn
  refine ⟨le_rfl, by rw [h.newestFeedback, hfs]; rfl, ?_, fun q hf hq => ?_, fun i e q hi hq hf => ?_,
    fun j x hx hf => ?_⟩
  · have := hw.capacity
    rw [h.config]
    omega
  · obtain rfl := le_antisymm hq hf
    exact ⟨s.nextSentId, commitEntry context s.nextSentId, h.feedbackSentId_new hw hfs, h.entry_new hw,
      h.activeEpoch.trans h.valid.active, by rw [h.nextSentId]; omega⟩
  · rw [h.nextSentId]
    rw [h.entryAt hw] at hi
    split at hi
    · cases hi
      change s.nextSentId + 1 = s.nextSentId + (floor' - q) + 1
      omega
    · obtain ⟨n, hn, hqn⟩ := hnum i e q hi hq
      exact absurd (hnewer n hn) (not_lt.2 (hf.trans hqn))
  · rw [h.nextSentId]
    rcases h.index j x hx with hx | ⟨-, hid⟩
    · obtain ⟨-, ⟨n, hn, hxn⟩, -⟩ := hw.index j x hx
      exact absurd (hnewer n hn) (not_lt.2 (hf.trans hxn))
    · rw [hid]
      omega

end Consecutive

section Heard

section

variable (s : Sender) (id : SentPacketId)

@[simp] lemma heard_addDuplicate : s.addDuplicate.heard = s.heard := rfl

@[simp] lemma heard_retireFromFlight : (s.retireFromFlight id).heard = s.heard :=
  heard_of_apart (apart_retireFromFlight s id)

lemma heard_pushObservation (sample : SentObservation) : (s.pushObservation sample).heard = s.heard := by
  unfold pushObservation
  split
  · split <;> rfl
  · rfl

@[simp] lemma heard_emit (received acked : Bool) (origin : Option LossOrigin) :
    (s.emit id received acked origin).heard = s.heard := by
  unfold emit emitObserved
  split
  · rfl
  split
  · rfl
  · dsimp only
    split <;> split <;> first | rfl | exact heard_pushObservation ..

@[simp] lemma heard_setLost (origin : LossOrigin) : (s.setLost id origin).heard = s.heard := by
  unfold setLost
  split
  · rfl
  split
  · rfl
  · rw [heard_emit]
    exact heard_of_apart ((apart_eraseKey ..).trans (apart_updateEntry ..))

@[simp] lemma heard_markLost (origin : LossOrigin) : (s.markLost id origin).1.heard = s.heard := by
  unfold markLost
  split
  · rfl
  split
  · rfl
  unfold markLostUnbudgeted
  cases origin with
  | reordering => exact heard_setLost ..
  | historyExpiry =>
    dsimp only
    split
    · rfl
    · exact (heard_setLost ..).trans (heard_retireFromFlight ..)

@[simp] lemma heard_setReceived (acked : Bool) (arrival : Option ReceiverTime) (ecn : Option Ecn)
    (receivedAt : Duration) : (s.setReceived id acked arrival ecn receivedAt).heard = s.heard :=
  heard_of_apart (apart_setReceived ..)

@[simp] lemma heard_setMissing (now : Duration) : (s.setMissing id now).heard = s.heard :=
  heard_of_apart (apart_setMissing ..)

@[simp] lemma heard_takeMissingSince (receivedAt : Duration) : (s.takeMissingSince id receivedAt).heard = s.heard :=
  heard_of_apart (apart_takeMissingSince ..)

@[simp] lemma heard_observeWindow (receivedAt since : Duration) :
    (s.observeWindow receivedAt since).heard = s.heard := rfl

lemma heard_anchorMissing (edge : ReceiptEdge) (receivedAt : Duration) :
    (s.anchorMissing edge receivedAt).heard = s.heard :=
  heard_of_apart (apart_foldl (fun s id => apart_anchorEntry s edge receivedAt id) _ s)

lemma heard_noteTiming (prior : ℕ) (receivedAt : Duration) (hold : Option Duration) :
    (s.noteTiming prior receivedAt hold).heard = s.heard := by
  unfold noteTiming
  dsimp only
  split <;> rfl

lemma heard_noteContinuous (reference generation : ℤ) (fresh : Bool) :
    (s.noteContinuous reference generation fresh).heard = s.heard := by
  unfold noteContinuous
  dsimp only
  split <;> split <;> rfl

end

variable {epoch : Epoch} {receivedAt : Duration} {status : SendStatus}

lemma heard_advanceEntry (he : s.entry id = some e) (hp : e.pathEpoch = epoch) :
    (s.advanceEntry (some id) epoch status receivedAt).heard = s.heard := by
  unfold advanceEntry
  simp only [he, hp, ne_eq, not_true_eq_false, if_false]
  split
  · exact heard_markLost ..
  have hslot : (if !status.received && e.acknowledgment == .pending then s.reserveMissingSlot else (s, true)).1.heard =
      s.heard := by split <;> rfl
  revert hslot
  generalize (if !status.received && e.acknowledgment == .pending then s.reserveMissingSlot else _) = slot
  intro hslot
  split
  · exact hslot
  split
  · split
    · split <;> simp [hslot]
    · simp [hslot]
  · split <;> simp [hslot]

lemma heard_rejectReplayedTerminalReceipt (s : Sender) (sentId : Option SentPacketId) (epoch : Epoch)
    (receivedAt : Duration) (reportIsNew : Bool) :
    (s.rejectReplayedTerminalReceipt sentId epoch receivedAt reportIsNew).1.heard = s.heard := by
  unfold rejectReplayedTerminalReceipt
  split
  · rfl
  split
  · dsimp only
    split <;> simp
  · rfl

lemma heard_recover (he : s.entry id = some e) (hp : e.pathEpoch = epoch) (status : SendStatus)
    (receivedAt : Duration) : (s.recover (some id) epoch status receivedAt).heard = s.heard := by
  unfold recover
  simp only [he, hp, ne_eq, not_true_eq_false, if_false]
  split
  · split <;> simp
  split
  · have hmark : (if s.overdue e receivedAt then s.markLost id .reordering else (s, true)).1.heard = s.heard := by
      split
      · exact heard_markLost ..
      · rfl
    revert hmark
    generalize (if s.overdue e receivedAt then s.markLost id .reordering else _) = mark
    intro hmark
    split <;> simp [hmark]
  · split <;> simp
  · rfl
  · rfl
  · simp

variable {floor newest : ℕ} {r : Span} {statuses : List SendStatus} {edge : ℕ} {generation reference : ℤ} {base : ℕ}
  {room : Room}

section

variable (he : Consecutive floor newest s) (hE : s.activeEpoch = some epoch) (hf : floor ≤ q) (hq : q ≤ newest)

include he hE hf hq

lemma Consecutive.resolved : ∃ id e, s.feedbackSentId q = some id ∧ s.entry id = some e ∧ e.pathEpoch = epoch := by
  obtain ⟨id, e, hid, hent, ha, -⟩ := he.covered q hf hq
  rw [hE] at ha
  exact ⟨id, e, hid, hent, (Option.some.inj ha).symm⟩

lemma Consecutive.unresolved : s.unresolved .feedback epoch q = false := by
  obtain ⟨id, e, hid, hent, hp⟩ := he.resolved hE hf hq
  have hr : s.resolve .feedback q = some id := hid
  simp [Sender.unresolved, resolveEntry, hr, hent, hp]

lemma Consecutive.heard_advance (base : ℕ) (statuses : List SendStatus) (receivedAt : Duration) :
    (advanceContinuous base statuses epoch receivedAt s q).heard = s.heard := by
  obtain ⟨id, e, hid, hent, hp⟩ := he.resolved hE hf hq
  unfold advanceContinuous
  split
  · rw [hid]
    exact heard_advanceEntry hent hp
  · simp [hid]

end

lemma Consecutive.heard_settle (he : Consecutive r.floor newest s) (hE : s.activeEpoch = some epoch)
    (receivedAt : Duration) (reportIsNew : Bool) {x : ℕ × SendStatus} (hx : x.1 ≤ newest) :
    (settleStatus .feedback r epoch receivedAt reportIsNew s x).heard = s.heard := by
  unfold settleStatus
  split
  · rfl
  next hf =>
    obtain ⟨id, e, hid, hent, hp⟩ := he.resolved hE (not_lt.1 hf) hx
    have hr : s.resolve .feedback x.1 = some id := hid
    have hreject := heard_rejectReplayedTerminalReceipt s (some id) epoch receivedAt reportIsNew
    have hq := rejectReplayedTerminalReceipt_quiet s (some id) epoch receivedAt reportIsNew
    obtain ⟨e', hent', ht⟩ := hq.follows.entry hent
    simp only [hr]
    split
    · exact heard_setMissing ..
    split
    · split
      · exact hreject
      · rw [heard_recover hent' (ht.kin.pathEpoch.trans hp)]
        exact hreject
    · rfl

lemma heard_foldl_of {α : Type*} {P : Sender → Prop} {f : Sender → α → Sender} {l : List α}
    (hf : ∀ s, ∀ x ∈ l, P s → P (f s x) ∧ (f s x).heard = s.heard) (hs : P s) :
    P (l.foldl f s) ∧ (l.foldl f s).heard = s.heard := by
  induction l generalizing s with
  | nil => exact ⟨hs, rfl⟩
  | cons x l ih =>
    obtain ⟨hp, heq⟩ := hf s x mem_cons_self hs
    obtain ⟨hp', heq'⟩ := ih (fun s x hx => hf s x (mem_cons_of_mem _ hx)) hp
    exact ⟨hp', heq'.trans heq⟩

section

variable (he : Consecutive r.floor newest s)

include he

lemma Consecutive.advanceEdge (hl : Listens .feedback r.floor epoch s)
    (hold : r.oldEdge = s.highestFeedbackAcked) (hw : r.Within newest) (hedge : r.receivedEdge = some edge)
    (hg : GapsOnPath .feedback r edge s) (hin : r.start ≤ edge → edge - r.start < s.config.maxFeedbackStatuses)
    (receivedAt : Duration) :
    Follows s (s.advanceContinuousEdge r.base r.statuses edge epoch receivedAt) ∧
      (s.advanceContinuousEdge r.base r.statuses edge epoch receivedAt).heard = s.heard ∧
      (s.advanceContinuousEdge r.base r.statuses edge epoch receivedAt).highestFeedbackAcked =
        if r.start ≤ edge then some edge else s.highestFeedbackAcked := by
  obtain ⟨-, hfe, -, hle⟩ := receivedEdge_bounds hw hedge
  have hen : edge ≤ newest := hle.trans hw.newest
  have hstart : edgeStart (s.oldestFeedback.getD r.base) s.highestFeedbackAcked = r.start := by
    rw [hl.floor rfl, Span.start, hold]
    rfl
  unfold advanceContinuousEdge
  rw [hstart]
  by_cases hst : r.start ≤ edge
  · rw [if_neg (by simp; omega), he.unresolved hl.epoch hfe hen, if_pos hst]
    have hq := anchorMissing_quiet s (.feedback edge) receivedAt
    have hstep : ∀ t, ∀ q ∈ inclusive r.start edge, Follows s t →
        Follows s (advanceContinuous r.base r.statuses epoch receivedAt t q) ∧
          (advanceContinuous r.base r.statuses epoch receivedAt t q).heard = t.heard := by
      intro t q hq hfol
      have hlt := hl.follows hfol
      obtain ⟨hqs, hqe⟩ := mem_inclusive.1 hq
      have hfq := (floor_le_start r).trans hqs
      obtain ⟨id, e, hid, -, -⟩ := (he.follows hfol).resolved hlt.epoch hfq (hqe.trans hen)
      have hadv : Steps _ False t _ :=
        ((advanceContinuous_passes hlt (hg.follows hfol) receivedAt hfq hqs hqe).1 id hid).steps
      exact ⟨hfol.trans hadv.follows, (he.follows hfol).heard_advance hlt.epoch hfq (hqe.trans hen) _ _ _⟩
    obtain ⟨hfol, hsame⟩ := heard_foldl_of hstep hq.follows
    have hset : ∀ t : Sender, Follows t { t with highestFeedbackAcked := some edge } := fun t =>
      (.edge t edge trivial : Micro (fun _ => True) True t _).follows
    exact ⟨hfol.trans (hset _), hsame.trans (heard_anchorMissing ..), rfl⟩
  · rw [if_pos (by simp; omega), if_neg hst]
    exact ⟨.refl s, rfl, rfl⟩

lemma Consecutive.rejected (hE : s.activeEpoch = some epoch)
    (hw : r.Within newest) (hfar : ∀ edge, r.receivedEdge = some edge → r.start ≤ edge →
      edge - r.start < s.config.maxFeedbackStatuses) : s.rejectedStatuses .feedback epoch r = none := by
  have hnone : ∀ l : List ℕ, (∀ q ∈ l, r.floor ≤ q ∧ q ≤ newest) →
      (l.filter (s.unresolved .feedback epoch)).length = 0 := by
    intro l hall
    rw [length_eq_zero_iff, filter_eq_nil_iff]
    intro q hq
    simp [he.unresolved hE (hall q hq).1 (hall q hq).2]
  have hnew := hw.newest
  have hlast := hw.last
  have hreported := hnone (inclusive (max r.base r.floor) r.lastReported) fun q hq => by
    rw [mem_inclusive] at hq
    omega
  unfold rejectedStatuses
  rw [hreported]
  split
  · rfl
  cases hedge : r.receivedEdge with
  | none => simp
  | some edge =>
    have hadvance := hnone (List.range' r.start (min r.base (Word.saturatingAdd 64 edge 1) - r.start)) fun q hq => by
      rw [mem_range'_1] at hq
      have := floor_le_start r
      omega
    rw [if_neg]
    · simp [hadvance]
    have := hfar edge hedge
    simp only [any_some, Bool.and_eq_true, decide_eq_true_eq, not_and, not_le]
    exact this

lemma Consecutive.heard_settleStatuses (hl : Listens .feedback r.floor epoch s)
    (hw : r.Within newest) (receivedAt : Duration) (reportIsNew : Bool) :
    (s.settleStatuses .feedback r epoch receivedAt reportIsNew).heard = s.heard := by
  refine (heard_foldl_of (P := Follows s) ?_ (.refl s)).2
  intro t x hx hfol
  have hlt := hl.follows hfol
  have hq := settleStatus_quiet hlt receivedAt reportIsNew x
  refine ⟨hfol.trans hq.follows, (he.follows hfol).heard_settle hlt.epoch receivedAt reportIsNew ?_⟩
  obtain ⟨i, hi, hxi⟩ := mem_numbered.1 hx
  have hlt := (List.getElem?_eq_some_iff.1 hi).1
  have hnew := hw.newest
  have hlast := hw.last
  rw [← hxi, Word.saturatingAdd]
  omega

lemma Consecutive.accept (hl : Listens .feedback r.floor epoch s) (hold : r.oldEdge = s.highestFeedbackAcked)
    (hw : r.Within newest)
    (hin : ∀ edge, r.receivedEdge = some edge → r.start ≤ edge → edge - r.start < s.config.maxFeedbackStatuses)
    (reference generation : ℤ) (receivedAt : Duration) :
    (s.acceptContinuous r reference generation epoch receivedAt).heard = s.heard ∧
      (s.acceptContinuous r reference generation epoch receivedAt).highestFeedbackAcked =
        (r.receivedEdge.filter fun edge => decide (r.start ≤ edge)).or s.highestFeedbackAcked := by
  have hrej := he.rejected hl.epoch hw hin
  unfold acceptContinuous
  simp only [hrej]
  generalize (!r.statuses.isEmpty && _ && _) = fresh
  generalize (s.feedbackGeneration.all _) = reportIsNew
  have hn := noteContinuous_still s reference generation fresh
  cases hedge : r.receivedEdge with
  | none =>
    have hq := settleStatuses_quiet (hl.follows hn.follows) receivedAt reportIsNew
    constructor
    · rw [(he.follows hn.follows).heard_settleStatuses (hl.follows hn.follows) hw, heard_noteContinuous]
    · exact (Steps.edges_eq hq).2.trans hn.highestFeedbackAcked
  | some edge =>
    obtain ⟨hfol, hheard, hhigh⟩ := (he.follows hn.follows).advanceEdge (hl.follows hn.follows)
      (hold.trans hn.highestFeedbackAcked.symm) hw hedge ((gapsOnPath hl.epoch hw hrej hedge).follows hn.follows)
      (hn.follows.config.symm ▸ hin edge hedge) receivedAt
    have hall := hn.follows.trans hfol
    have hq : Quiet _ _ := (settleStatuses_quiet (hl.follows hall) receivedAt reportIsNew).trans
      (anchorMissing_quiet _ (.feedback edge) receivedAt)
    constructor
    · rw [heard_anchorMissing, (he.follows hall).heard_settleStatuses (hl.follows hall) hw, hheard, heard_noteContinuous]
    · rw [(Steps.edges_eq hq).2, hhigh, hn.highestFeedbackAcked, filter_some]
      simp only [decide_eq_true_eq]
      split <;> rfl

end

lemma heard_addUnknown {count : ℕ} (hcount : 0 < count) (hroom : s.counters.unknownFeedback < Word.max 64) :
    (s.addUnknown count).heard ≠ s.heard := by
  intro h
  have hu : Word.saturatingAdd 64 s.counters.unknownFeedback count = s.counters.unknownFeedback := congrArg Prod.fst h
  rw [Word.saturatingAdd] at hu
  omega

lemma heard_accept_far (hne : r.statuses ≠ []) (hedge : r.receivedEdge = some edge) (hst : r.start ≤ edge)
    (hfar : s.config.maxFeedbackStatuses ≤ edge - r.start) (hroom : s.counters.unknownFeedback < Word.max 64)
    (reference generation : ℤ) (receivedAt : Duration) :
    (s.acceptContinuous r reference generation epoch receivedAt).heard ≠ s.heard := by
  have hrej : s.rejectedStatuses .feedback epoch r = some r.statuses.length := by
    unfold rejectedStatuses
    rw [if_neg (by simpa using hne), if_pos (by simp [hedge, hst, hfar])]
  unfold acceptContinuous
  rw [hrej]
  exact heard_addUnknown (length_pos_iff.2 hne) hroom

lemma numbered_append (base : ℕ) (l l' : List SendStatus) :
    numbered base (l ++ l') = numbered base l ++
      (l'.zipIdx l.length).map fun x => (Word.saturatingAdd 64 base x.2, x.1) := by
  simp [numbered, zipIdx_append]

lemma receivedEdge_append (floor : ℕ) {before after : List SendStatus}
    (hrec : status.received = true) (hafter : ∀ x ∈ after, x.received = false)
    (htop : base + before.length ≤ Word.max 64) :
    receivedEdge base floor (before ++ status :: after) =
      if floor ≤ base + before.length then some (base + before.length) else none := by
  have hsat : Word.saturatingAdd 64 base before.length = base + before.length := by
    rw [Word.saturatingAdd]
    omega
  have htail : ((after.zipIdx (before.length + 1)).map fun x => (Word.saturatingAdd 64 base x.2, x.1)).filter
      (fun x => decide (floor ≤ x.1) && x.2.received) = [] := by
    rw [filter_eq_nil_iff]
    intro x hx
    obtain ⟨y, hy, rfl⟩ := mem_map.1 hx
    simp [hafter y.1 (fst_mem_of_mem_zipIdx hy)]
  have hhead : ¬ floor ≤ base + before.length →
      (numbered base before).filter (fun x => decide (floor ≤ x.1) && x.2.received) = [] := by
    intro hlow
    rw [filter_eq_nil_iff]
    intro x hx
    obtain ⟨i, hi, hxi⟩ := mem_numbered.1 hx
    have hlt := (List.getElem?_eq_some_iff.1 hi).1
    have hbelow : x.1 < floor := by
      rw [← hxi, Word.saturatingAdd]
      omega
    simp [hbelow]
  unfold receivedEdge
  rw [numbered_append, zipIdx_cons, map_cons, filter_append, filter_cons, htail]
  simp only [hsat, hrec, Bool.and_true, decide_eq_true_eq]
  split
  · simp
  next hlow => simp [hhead hlow]

section Newest

variable {base : ℕ} {before after : List SendStatus} {status : SendStatus} {receivedAt : Duration}
  (hcover : base + (before.length + after.length) = newest) (htop : newest < 2 ^ 64)
  (hreorder : before.length + after.length ≤ s.config.maxAckReordering)

include hcover htop hreorder

lemma spanOf_newest (hfl : floor ≤ newest) (status : SendStatus) (old : Option ℕ) :
    s.spanOf base floor newest old (before ++ status :: after) =
      .inr ⟨base, floor, newest, old, before ++ status :: after⟩ := by
  have hlen : (before ++ status :: after).length - 1 = before.length + after.length := by simp
  unfold spanOf
  rw [if_neg (by omega), hlen, checkedAdd, hcover, if_pos htop]
  dsimp only
  rw [if_neg (by simp; omega), if_neg (by omega)]

lemma Consecutive.processContinuous (he : Consecutive floor newest s) (hE : s.activeEpoch = some epoch)
    (hfl : s.oldestFeedback = some floor) (hrec : status.received = true) (hafter : ∀ x ∈ after, x.received = false)
    (hstatuses : 0 < s.config.maxFeedbackStatuses) (hroom : s.counters.unknownFeedback < Word.max 64)
    (reference generation : ℤ) :
    ((s.processContinuous base reference generation (before ++ status :: after) epoch receivedAt).heard = s.heard ∧
      (s.processContinuous base reference generation (before ++ status :: after) epoch receivedAt).highestFeedbackAcked =
        some (base + before.length)) ↔
    s.highestFeedbackAcked = some (base + before.length) ∨
      edgeStart floor s.highestFeedbackAcked ≤ base + before.length ∧
        base + before.length < edgeStart floor s.highestFeedbackAcked + s.config.maxFeedbackStatuses := by
  have hspan := spanOf_newest hcover htop hreorder he.le status s.highestFeedbackAcked
  have hw := (spanOf_inr hspan).1
  have hl : Listens .feedback floor epoch s := ⟨hE, fun _ => hfl⟩
  have hmax : base + before.length ≤ Word.max 64 := le_sub_one_of_lt (by omega)
  have hedge : Span.receivedEdge ⟨base, floor, newest, s.highestFeedbackAcked, before ++ status :: after⟩ = _ :=
    receivedEdge_append floor hrec hafter hmax
  have hfloor : floor ≤ edgeStart floor s.highestFeedbackAcked := floor_le_start ⟨base, floor, newest, _, []⟩
  unfold Sender.processContinuous
  rw [he.last, hfl]
  dsimp only
  rw [hspan]
  split at hedge
  next hin =>
    by_cases hfar : edgeStart floor s.highestFeedbackAcked ≤ base + before.length ∧
        s.config.maxFeedbackStatuses ≤ base + before.length - edgeStart floor s.highestFeedbackAcked
    · refine iff_of_false (fun h => heard_accept_far (by simp) hedge hfar.1 hfar.2 hroom reference generation receivedAt h.1) ?_
      rintro (h | h)
      · rw [h, edgeStart, elim_some, Word.saturatingAdd] at hfar
        generalize Word.max 64 = top at hmax hfar
        omega
      · omega
    · obtain ⟨hheard, hhigh⟩ := he.accept hl rfl hw (fun edge h h1 => by
        cases hedge.symm.trans h
        exact not_le.1 fun h2 => hfar ⟨h1, h2⟩) reference generation receivedAt
      rw [hheard, hhigh, hedge, filter_some]
      split
      next hst =>
        have hst : edgeStart floor s.highestFeedbackAcked ≤ base + before.length := of_decide_eq_true hst
        exact iff_of_true ⟨rfl, rfl⟩ (.inr ⟨hst, by omega⟩)
      next hst =>
        constructor
        · exact fun h => .inl h.2
        · rintro (h | h)
          · exact ⟨rfl, h⟩
          · exact absurd (decide_eq_true h.1) hst
  next hlow =>
    obtain ⟨hheard, hhigh⟩ := he.accept hl rfl hw (fun edge h => by cases hedge.symm.trans h) reference generation receivedAt
    rw [hheard, hhigh, hedge]
    dsimp only at hlow
    constructor
    · exact fun h => .inl h.2
    · rintro (h | h)
      · exact ⟨rfl, h⟩
      · omega

end Newest

lemma processFeedback_invalid (hex : s.inputs.exhausted = false)
    (hE : s.activeEpoch = some epoch) (hne : statuses ≠ []) (hbad : ¬ statuses.all validStatus = true)
    (hroom : s.counters.unknownFeedback < Word.max 64) :
    (s.processFeedback ⟨receivedAt, epoch, .continuous base reference generation statuses⟩ room).heard ≠ s.heard := by
  unfold processFeedback
  simp only [hex, hE, Bool.false_eq_true, if_false, ne_eq, not_true_eq_false]
  rw [if_pos]
  · exact heard_addUnknown (length_pos_iff.2 hne) hroom
  · simp [validReport, hbad]

lemma processFeedback_valid (hex : s.inputs.exhausted = false)
    (hm : s.mode = some .continuous) (hE : s.activeEpoch = some epoch)
    (hlen : statuses.length ≤ s.config.maxFeedbackStatuses) (hgood : statuses.all validStatus = true)
    {next after : Sender}
    (hnext : next = { s with room := room }.processContinuous base reference generation statuses epoch receivedAt)
    (hafter : after = s.processFeedback ⟨receivedAt, epoch, .continuous base reference generation statuses⟩ room) :
    after.heard = next.heard ∧ after.highestFeedbackAcked = next.highestFeedbackAcked := by
  have heq : after = (next.applyReorderingWindow receivedAt).noteTiming s.inputs.feedback.length receivedAt
      (next.continuousHold s.inputs.feedback.length base statuses) := by
    rw [hafter, processFeedback, if_neg (by simp [hex])]
    rw [if_neg (by simp), if_neg (by simp [hE]), if_neg, hnext]
    · rfl
    · simp only [hm, validReport, hgood, Bool.not_true, Bool.or_false]
      exact fun h => absurd (of_decide_eq_true h) (not_lt.2 hlen)
  rw [heq, heard_noteTiming, heard_of_apart (apart_applyReorderingWindow ..), (noteTiming_still _ _ _ _).highestFeedbackAcked,
    (applyReorderingWindow_edges _ _).2]
  exact ⟨rfl, rfl⟩

end Heard

end Sender

structure Logged where
  sender : Sender
  log : List SendCommit

namespace Logged

open Sender

def apply (t : Logged) (op : SenderOp) : Logged := ⟨t.sender.apply op, t.log ++ (t.sender.committed op).toList⟩

def machine (config : SenderConfig) : Machine Logged SenderOp where
  init t := config.validate = true ∧ t = ⟨unfunded config, []⟩
  guard _ _ := True
  step := apply

def sequences (log : List SendCommit) (epoch : Epoch) : List (Option ℕ) :=
  (log.filter fun context => context.pathEpoch == epoch).map (·.identity.feedbackSequence)

lemma sequences_append (log : List SendCommit) (context : SendCommit) :
    sequences (log ++ [context]) context.pathEpoch =
      sequences log context.pathEpoch ++ [context.identity.feedbackSequence] := by
  simp [sequences]

variable {s s' : Sender} {log : List SendCommit} {t : Logged} {config : SenderConfig} {context : SendCommit}

structure Steady (s : Sender) (log : List SendCommit) : Prop where
  windowed : Windowed s
  numbered : Numbered s
  mode : s.oldestFeedback ≠ none → s.mode = some .continuous
  last : ∀ epoch, s.activeEpoch = some epoch → s.oldestFeedback ≠ none →
    (sequences log epoch).getLast? = some s.newestFeedback
  consecutive : ∀ epoch floor a n, s.activeEpoch = some epoch → s.oldestFeedback = some floor →
    sequences log epoch = (List.range' a (n + 1)).map some → Consecutive floor (a + n) s

lemma Steady.preserves (hs : Steady s log) (h : Preserves s s') (hw : Windowed s') : Steady s' log where
  windowed := hw
  numbered := hs.numbered.preserves h
  mode := fun ho => h.mode.trans (hs.mode (h.oldestFeedback ▸ ho))
  last := by
    intro epoch hE ho
    rw [h.newestFeedback]
    exact hs.last epoch (h.activeEpoch ▸ hE) (h.oldestFeedback ▸ ho)
  consecutive := fun epoch floor a n hE ho hseq =>
    (hs.consecutive epoch floor a n (h.activeEpoch ▸ hE) (h.oldestFeedback ▸ ho) hseq).preserves h

lemma steady_of_none (hw : Windowed s) (hn : Numbered s) (ho : s.oldestFeedback = none) : Steady s log where
  windowed := hw
  numbered := hn
  mode := fun h => absurd ho h
  last := fun _ _ h => absurd ho h
  consecutive := by
    intro epoch floor a n _ hfl
    rw [ho] at hfl
    cases hfl

lemma Steady.numbered_commit (hs : Steady s log) (h : Commits s s' context)
    (ho : s'.oldestFeedback ≠ none) : s.mode = some .continuous ∧ ∃ q, context.identity.feedbackSequence = some q := by
  obtain ⟨o', ho'⟩ := ne_none_iff_exists'.1 ho
  rcases h.valid.mode with hm | ⟨hm, hfs⟩
  · exact hm
  rcases h.floor o' ho' with ⟨o, hold, -⟩ | hnew
  · have hc := hs.mode (by simp [hold])
    rw [hm] at hc
    cases hc
  · rw [hfs] at hnew
    cases hnew

lemma Steady.commit (hs : Steady s log) (h : Commits s s' context) : Steady s' (log ++ [context]) where
  windowed := h.windowed hs.windowed
  numbered := hs.numbered.commit hs.windowed h
  mode := fun ho => h.mode.trans (hs.numbered_commit h ho).1
  last := by
    intro epoch hE ho
    rw [h.activeEpoch, h.valid.active] at hE
    cases hE
    obtain ⟨q, hq⟩ := (hs.numbered_commit h ho).2
    rw [sequences_append, getLast?_concat, h.newestFeedback, hq]
    rfl
  consecutive := by
    intro epoch floor' a n hE hfl' hseq
    rw [h.activeEpoch, h.valid.active] at hE
    cases hE
    rw [sequences_append, range'_concat, map_append] at hseq
    obtain ⟨hlog, hfs⟩ := append_inj' hseq rfl
    have hfs : context.identity.feedbackSequence = some (a + n) := by simpa using hfs
    cases hfl : s.oldestFeedback with
    | none =>
      have hnew := h.consecutive hs.windowed hs.numbered hfl hfl'
      have hlast := hnew.last
      rw [h.newestFeedback, hfs] at hlast
      cases hlast
      exact hnew
    | some floor =>
      have hlast := hs.last _ h.valid.active (by simp [hfl])
      rw [hlog] at hlast
      cases n with
      | zero => cases hlast
      | succ n => exact (hs.consecutive _ floor a n h.valid.active hfl hlog).commit h hfl hfs hfl' hs.windowed hs.numbered

lemma Steady.change (hs : Steady s log) (h : Change s s') (hw : Windowed s') : Steady s' log := by
  cases h with
  | tidy h => exact hs.preserves h.preserves hw
  | blank h =>
    refine steady_of_none hw (fun i e q hi => ?_) ?_
    · rw [h.entryAt] at hi
      cases hi
    · rcases h.oldestFeedback with ho | ⟨hm, ho⟩
      · exact ho
      rw [ho]
      by_contra hne
      have := hs.mode hne
      rw [hm] at this
      cases this
  | report batch room h => exact hs.preserves (h ▸ (processFeedback_steps s batch room).follows.toPreserves) hw
  | expiry h =>
    refine h.keep (P := fun s => Steady s log) (fun _ _ h hs => ?_) (fun _ _ h hs => ?_) hs
    · exact hs.preserves h.follows.toPreserves (hs.windowed.follows h.follows)
    · exact hs.preserves h.preserves (hs.windowed.chore h)
  | switch epoch available hsw h =>
    refine steady_of_none hw (fun i e' q hi hq => ?_) h.oldestFeedback
    obtain ⟨e, he, ht⟩ := rel_some_right (hi ▸ h.entryAt i)
    rw [h.newestFeedback]
    exact hs.numbered i e q he (ht.kin.feedbackSequence ▸ hq)

lemma steady (h : (machine config).Reachable t) : Steady t.sender t.log := by
  refine h.invariant (I := fun t => Steady t.sender t.log) ?_ fun t op hs _ => ?_
  · rintro t ⟨hvalid, rfl⟩
    exact steady_of_none (windowed_unfunded hvalid) nofun rfl
  · change Steady (t.sender.apply op) (t.log ++ (t.sender.committed op).toList)
    rcases apply_cases with ⟨context, hc, h⟩ | ⟨hc, h⟩
    · rw [hc]
      exact hs.commit h
    · rw [hc]
      simpa using hs.change h (hs.windowed.apply op)

/-- A report on the newest packets of a path numbered one after the other is taken in exactly if it is well formed,
something was committed since the availability last changed, and it is not too far ahead of the edge. -/
theorem report_heard_iff (h : (machine config).Reachable t)
    (hex : t.sender.inputs.exhausted = false) (hmode : t.sender.mode = some .continuous) {epoch : Epoch}
    (hE : t.sender.activeEpoch = some epoch) {a n : ℕ}
    (hseq : sequences t.log epoch = (List.range' a (n + 1)).map some) (htop : a + n < 2 ^ 64) {base : ℕ}
    {before after : List SendStatus} {status : SendStatus} (hcover : base + (before.length + after.length) = a + n)
    (hrec : status.received = true) (hafter : ∀ x ∈ after, x.received = false)
    (hlen : before.length + after.length + 1 ≤ t.sender.config.maxFeedbackStatuses)
    (hreorder : before.length + after.length ≤ t.sender.config.maxAckReordering)
    (hroom : t.sender.counters.unknownFeedback < Word.max 64) (reference generation : ℤ) (receivedAt : Duration)
    (room : Room) :
    let s' := t.sender.processFeedback
      ⟨receivedAt, epoch, .continuous base reference generation (before ++ status :: after)⟩ room
    (s'.heard = t.sender.heard ∧ s'.highestFeedbackAcked = some (base + before.length)) ↔
      (before ++ status :: after).all validStatus = true ∧ ∃ floor, t.sender.oldestFeedback = some floor ∧
        (t.sender.highestFeedbackAcked = some (base + before.length) ∨
          edgeStart floor t.sender.highestFeedbackAcked ≤ base + before.length ∧
            base + before.length <
              edgeStart floor t.sender.highestFeedbackAcked + t.sender.config.maxFeedbackStatuses) := by
  intro s'
  have hs := steady h
  by_cases hgood : (before ++ status :: after).all validStatus = true
  · have hlen' : (before ++ status :: after).length ≤ t.sender.config.maxFeedbackStatuses := by
      simp only [length_append]
      omega
    obtain ⟨hheard, hhigh⟩ := processFeedback_valid hex hmode hE hlen' hgood rfl (rfl : s' = _)
    rw [hheard, hhigh]
    -- The allocator's answers are no part of what is counted.
    have hpre : Preserves t.sender { t.sender with room := room } :=
      { Preserves.refl t.sender with }
    have hsame : t.sender.heard = { t.sender with room := room }.heard := rfl
    have hedge : t.sender.highestFeedbackAcked = { t.sender with room := room }.highestFeedbackAcked := rfl
    revert hpre hsame hedge
    generalize ({ t.sender with room := room } : Sender) = s0
    intro hpre hsame hedge
    have hroom0 : s0.counters.unknownFeedback < Word.max 64 := by
      rw [show s0.counters.unknownFeedback = t.sender.counters.unknownFeedback from (congrArg Prod.fst hsame).symm]
      exact hroom
    rw [hsame, hedge, ← hpre.oldestFeedback, ← hpre.config]
    cases hfl : s0.oldestFeedback with
    | none =>
      refine iff_of_false (fun hboth => ?_) (by simp)
      have hcounted : s0.processContinuous base reference generation (before ++ status :: after) epoch receivedAt =
          s0.addUnknown (before ++ status :: after).length := by
        unfold Sender.processContinuous
        rw [hfl]
        cases s0.newestFeedback <;> rfl
      rw [hcounted] at hboth
      exact heard_addUnknown (length_pos_iff.2 (by simp)) hroom0 hboth.1
    | some floor =>
      have he := hs.consecutive epoch floor a n hE (hpre.oldestFeedback ▸ hfl) hseq
      simp only [hgood, true_and, Option.some.injEq, exists_eq_left']
      exact (he.preserves hpre).processContinuous hcover htop (hpre.config.symm ▸ hreorder) (hpre.activeEpoch.trans hE) hfl
        hrec hafter (hpre.config.symm ▸ lt_of_lt_of_le (succ_pos _) hlen) hroom0 reference generation
  · refine iff_of_false (fun hboth => ?_) fun hboth => hgood hboth.1
    exact processFeedback_invalid hex hE (by simp) hgood hroom hboth.1

def receipt : SendStatus := ⟨true, none, none, none⟩

def promptOps : List SenderOp := [.prepareFeedbackProfile .continuous true, .setAvailability 1 true] ++ leakCommit 0 1

def prompt : Logged := promptOps.foldl apply ⟨unfunded leakConfig, []⟩

theorem report_heard_prompt :
    (machine leakConfig).Reachable prompt ∧ prompt.sender.oldestFeedback = some 1 ∧
      (prompt.sender.processFeedback ⟨1, 1, .continuous 1 0 0 [receipt]⟩ grantAll).highestFeedbackAcked = some 1 := by
  have h : (machine leakConfig).Reachable prompt :=
    Machine.Reachable.run (.init ⟨by decide, rfl⟩)
      (Machine.admits_of_forall (fun _ _ => trivial) _ promptOps)
  have hiff := report_heard_iff h (by decide +kernel) (by decide +kernel) (by decide +kernel : _ = some 1)
    (by decide +kernel : sequences prompt.log 1 = (List.range' 1 _).map some) (by decide)
    (by decide : 1 + (([] : List SendStatus).length + ([] : List SendStatus).length) = 1 + 0) (rfl : receipt.received = true)
    nofun (by decide +kernel) (by decide +kernel) (by decide +kernel) 0 0 1 grantAll
  exact ⟨h, by decide +kernel, (hiff.2 ⟨by decide, 1, by decide +kernel, .inr ⟨by decide +kernel, by decide +kernel⟩⟩).2⟩

def outageConfig : SenderConfig := ⟨8, 10, 2, 100, 2, 5, 50⟩

def outageOps : List SenderOp :=
  [.prepareFeedbackProfile .continuous true, .setAvailability 1 true] ++
    leakCommit 0 1 ++ leakCommit 0 2 ++ leakCommit 0 3 ++ leakCommit 0 4

def outage : Logged := outageOps.foldl apply ⟨unfunded outageConfig, []⟩

theorem outage_deafens :
    (machine outageConfig).Reachable outage ∧ outage.sender.inputs.exhausted = false ∧
      outage.sender.mode = some .continuous ∧ outage.sender.activeEpoch = some 1 ∧
      sequences outage.log 1 = [some 1, some 2, some 3, some 4] ∧ outage.sender.feedbackGeneration = none ∧
      [receipt, receipt].length ≤ outage.sender.config.maxFeedbackStatuses ∧
      outage.sender.heard = (0, 0) ∧
      (outage.sender.processFeedback ⟨1, 1, .continuous 3 0 0 [receipt, receipt]⟩ grantAll).heard = (2, 0) ∧
      (outage.sender.processFeedback ⟨1, 1, .continuous 3 0 0 [receipt, receipt]⟩ grantAll).highestFeedbackAcked = none := by
  refine ⟨?_, by decide +kernel⟩
  exact Machine.Reachable.run (.init ⟨by decide, rfl⟩)
    (Machine.admits_of_forall (fun _ _ => trivial) _ outageOps)

end Logged

end Pulsebeam.Feedback
