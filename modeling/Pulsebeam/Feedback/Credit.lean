import Pulsebeam.Feedback.Settling

/-! Between two calls: what ties the entries in flight to the indexes by which reports reach them. -/

namespace Pulsebeam.Feedback.Sender

open Pulsebeam.Lib

variable {s s' s'' : Sender} {e e' : SentEntry} {id : SentPacketId}

structure Placed (s : Sender) (e : SentEntry) : Prop where
  epoch : s.activeEpoch = some e.pathEpoch
  continuous : s.mode = some .continuous →
    ∃ q o, e.feedbackSequence = some q ∧ s.feedbackSentId q = some e.id ∧ s.oldestFeedback = some o ∧ o ≤ q
  independent : s.mode = some .independent → ∀ st, s.spaces.lookup e.space = some st →
    st.bySequence.entries.isEmpty = false →
      st.bySequence.lookup e.packetSequence = some e.id ∧ st.firstSequence ≤ e.packetSequence

structure Beyond (s : Sender) (e : SentEntry) : Prop where
  continuous : s.mode = some .continuous → ∀ h q, s.highestFeedbackAcked = some h → e.feedbackSequence = some q → h < q
  independent : s.mode = some .independent → ∀ st h, s.spaces.lookup e.space = some st →
    st.highestAckedSequence = some h → h < e.packetSequence

structure Books (s : Sender) : Prop extends Led s where
  numbered : ∀ e q, some e ∈ s.entries → e.feedbackSequence = some q → ∃ n, s.newestFeedback = some n ∧ q ≤ n
  distinct : ∀ e e' q, some e ∈ s.entries → some e' ∈ s.entries → e.feedbackSequence = some q →
    e'.feedbackSequence = some q → e.id = e'.id
  index : ∀ x, some x ∈ s.feedbackIndex → ∀ e, some e ∈ s.entries → e.id = x.sentId → e.feedbackSequence = some x.sequence
  oldest : ∀ o, s.oldestFeedback = some o → ∃ n, s.newestFeedback = some n ∧ o ≤ n
  highest : ∀ h, s.highestFeedbackAcked = some h → ∃ n, s.newestFeedback = some n ∧ h ≤ n
  placed : ∀ e, s.InFlight e → s.Placed e
  calm : ∀ e, s.InFlight e → e.anchored = false

structure AtRest (s : Sender) : Prop extends Books s where
  ahead : ∀ e, s.InFlight e → s.Beyond e ∨ s.Stuck e

structure Open (epoch : Epoch) (now : Duration) (s : Sender) : Prop extends AtRest s where
  steady : s.Steady
  funded : s.Funded now
  active : s.activeEpoch = some epoch

lemma Frame.placed (h : Frame s s') (hk : e.Kin e') (hp : s.Placed e) : s'.Placed e' := by
  refine ⟨?_, fun hm => ?_, fun hm st hst hne => ?_⟩
  · rw [h.activeEpoch, hp.epoch, hk.pathEpoch]
  · obtain ⟨q, o, hq, hid, ho, hle⟩ := hp.continuous (h.mode ▸ hm)
    exact ⟨q, o, hk.feedbackSequence.trans hq, by rw [h.feedbackSentId, hid, hk.id], h.oldestFeedback.trans ho, hle⟩
  · rw [h.spaces, hk.space] at hst
    obtain ⟨hl, hf⟩ := hp.independent (h.mode ▸ hm) st hst hne
    rw [hk.packetSequence, hk.id]
    exact ⟨hl, hf⟩

lemma Frame.beyond (h : Frame s s') (hk : e.Kin e') (hb : s.Beyond e) : s'.Beyond e' := by
  refine ⟨fun hm hi q hhi hq => ?_, fun hm st hi hst hhi => ?_⟩
  · exact hb.continuous (h.mode ▸ hm) hi q (h.highestFeedbackAcked ▸ hhi) (hk.feedbackSequence ▸ hq)
  · rw [h.spaces, hk.space] at hst
    rw [hk.packetSequence]
    exact hb.independent (h.mode ▸ hm) st hi hst hhi

lemma Books.keeps (hb : Books s) (h : Keeps s s') : Books s' where
  toLed := h.led
  numbered := by
    intro e' q he' hq
    obtain ⟨e, he, hk⟩ := h.kin e' he'
    rw [h.newestFeedback]
    exact hb.numbered e q he (hk.feedbackSequence ▸ hq)
  distinct := by
    intro e1 e2 q he1 he2 hq1 hq2
    obtain ⟨x1, hx1, hk1⟩ := h.kin e1 he1
    obtain ⟨x2, hx2, hk2⟩ := h.kin e2 he2
    rw [hk1.id, hk2.id]
    exact hb.distinct x1 x2 q hx1 hx2 (hk1.feedbackSequence ▸ hq1) (hk2.feedbackSequence ▸ hq2)
  index := by
    intro x hx e' he' hid
    obtain ⟨e, he, hk⟩ := h.kin e' he'
    rw [hk.feedbackSequence]
    exact hb.index x (h.feedbackIndex ▸ hx) e he (hk.id ▸ hid)
  oldest := by
    rw [h.oldestFeedback, h.newestFeedback]
    exact hb.oldest
  highest := by
    rw [h.highestFeedbackAcked, h.newestFeedback]
    exact hb.highest
  placed := by
    intro e' he'
    obtain ⟨e, he, hc⟩ := h.flight e' he'
    exact h.toFrame.placed hc.kin (hb.placed e he)
  calm := h.calm hb.calm

structure Alike (s s' : Sender) : Prop extends Fixed s s' where
  entries : s'.entries = s.entries
  bytesInFlight : s'.bytesInFlight = s.bytesInFlight
  inputs : s'.inputs.bytesInFlight = s.inputs.bytesInFlight

lemma Alike.inFlight (h : Alike s s') : s'.InFlight e ↔ s.InFlight e := by rw [InFlight, InFlight, h.entries]

lemma Alike.led (h : Alike s s') (hl : Led s) : Led s' where
  credit := by
    rw [inFlightBytes, h.entries, h.bytesInFlight]
    exact hl.credit
  inputs := by rw [h.inputs, h.bytesInFlight, hl.inputs]
  terminal := h.entries ▸ hl.terminal
  ring := by
    intro i e he
    rw [slot, h.config]
    apply hl.ring i e
    rwa [entryAt, h.entries] at he

lemma Books.transfer (hb : Books s) (h : Alike s s')
    (hhighest : ∀ hi, s'.highestFeedbackAcked = some hi → ∃ n, s.newestFeedback = some n ∧ hi ≤ n)
    (hspaces : ∀ e, s.InFlight e → s.mode = some .independent → ∀ st, s'.spaces.lookup e.space = some st →
      st.bySequence.entries.isEmpty = false →
        st.bySequence.lookup e.packetSequence = some e.id ∧ st.firstSequence ≤ e.packetSequence) : Books s' where
  toLed := h.led hb.toLed
  numbered := by
    rw [h.entries, h.newestFeedback]
    exact hb.numbered
  distinct := h.entries ▸ hb.distinct
  index := by
    rw [h.entries, h.feedbackIndex]
    exact hb.index
  oldest := by
    rw [h.oldestFeedback, h.newestFeedback]
    exact hb.oldest
  highest := by
    rw [h.newestFeedback]
    exact hhighest
  placed := by
    intro e he
    have hp := hb.placed e (h.inFlight.1 he)
    refine ⟨h.activeEpoch.trans hp.epoch, fun hm => ?_, fun hm => hspaces e (h.inFlight.1 he) (h.mode ▸ hm)⟩
    rw [h.oldestFeedback]
    simp only [feedbackSentId, indexAt, slot, h.config, h.feedbackIndex]
    exact hp.continuous (h.mode ▸ hm)
  calm := fun e he => hb.calm e (h.inFlight.1 he)

lemma AtRest.transfer (hr : AtRest s) (h : Alike s s') (hhighest : s'.highestFeedbackAcked = s.highestFeedbackAcked)
    (hspaces : ∀ sp st', s'.spaces.lookup sp = some st' →
      (st'.bySequence.entries.isEmpty = true ∧ st'.highestAckedSequence = none) ∨
        ∃ st, s.spaces.lookup sp = some st ∧ st'.bySequence = st.bySequence ∧ st'.firstSequence = st.firstSequence ∧
          st'.highestAckedSequence = st.highestAckedSequence)
    (hstuck : ∀ e, s.Stuck e → s'.Stuck e) : AtRest s' where
  toBooks := by
    refine hr.toBooks.transfer h (hhighest ▸ hr.highest) fun e he hm st' hst' hne => ?_
    rcases hspaces _ _ hst' with ⟨hemp, -⟩ | ⟨st, hst, hby, hfirst, -⟩
    · rw [hne] at hemp
      cases hemp
    · rw [hby, hfirst]
      exact (hr.placed e he).independent hm st hst (hby ▸ hne)
  ahead := by
    intro e he
    rcases hr.ahead e (h.inFlight.1 he) with hb | hs
    · refine .inl ⟨?_, fun hm st' hi hst' hhi => ?_⟩
      · rw [h.mode, hhighest]
        exact hb.continuous
      · rcases hspaces _ _ hst' with ⟨-, hnone⟩ | ⟨st, hst, -, -, heq⟩
        · rw [hnone] at hhi
          cases hhi
        · exact hb.independent (h.mode ▸ hm) st hi hst (heq ▸ hhi)
    · exact .inr (hstuck e hs)

lemma AtRest.keeps (hr : AtRest s) (h : Keeps s s') : AtRest s' where
  toBooks := hr.toBooks.keeps h
  ahead := by
    intro e' he'
    obtain ⟨e, he, hc⟩ := h.flight e' he'
    exact (hr.ahead e he).imp (h.toFrame.beyond hc.kin) fun hs => h.stuck hs hc

lemma Open.keeps {epoch : Epoch} {now : Duration} (ho : Open epoch now s) (h : Keeps s s') : Open epoch now s' :=
  ⟨ho.toAtRest.keeps h, h.toFrame.steady ho.steady, h.funded ho.funded, h.activeEpoch.trans ho.active⟩

section Report

variable {epoch : Epoch} {now : Duration} {newest edge : ℕ} {statuses : List SendStatus} {old : Option ℕ} {q : ℕ}
  {r : Span} {base floor : ℕ}

structure Span.Within (r : Span) (newest : ℕ) : Prop where
  last : r.lastReported = r.base + (r.statuses.length - 1)
  bounded : r.lastReported ≤ Word.max 64
  newest : r.lastReported ≤ newest

lemma receivedEdge_bounds (hw : r.Within newest) (h : r.receivedEdge = some edge) :
    r.statuses.isEmpty = false ∧ r.floor ≤ edge ∧ r.base ≤ edge ∧ edge ≤ r.lastReported := by
  obtain ⟨x, hx, rfl⟩ := Option.map_eq_some_iff.1 h
  obtain ⟨hmem, hc⟩ := List.mem_filter.1 (List.mem_of_getLast? hx)
  obtain ⟨y, hy, rfl⟩ := List.mem_map.1 hmem
  have hlt : y.2 < r.statuses.length := by
    have := List.mem_zipIdx hy
    omega
  have hlast := hw.last
  have hb := hw.bounded
  refine ⟨?_, by simpa using (Bool.and_eq_true_iff.1 hc).1, ?_, ?_⟩
  · cases hs : r.statuses with
    | nil => simp [hs] at hlt
    | cons => rfl
  all_goals
    simp only [Word.saturatingAdd]
    omega

lemma rejectedStatuses_none {lane : Lane} (hw : r.Within newest) (h : s.rejectedStatuses lane epoch r = none)
    (hedge : r.receivedEdge = some edge) :
    (r.start ≤ edge → edge - r.start < s.config.maxFeedbackStatuses) ∧ s.unresolved lane epoch edge = false := by
  obtain ⟨hne, hfl, hbase, hlast⟩ := receivedEdge_bounds hw hedge
  simp only [rejectedStatuses, hne, Bool.false_eq_true, if_false, hedge, Option.any_some, Bool.and_eq_true,
    decide_eq_true_eq] at h
  split at h
  · cases h
  next hnot =>
    refine ⟨fun hst => by_contra fun hc => hnot ⟨hst, not_lt.1 hc⟩, ?_⟩
    simp only [ite_eq_right_iff, reduceCtorEq, imp_false, not_not] at h
    have hempty := List.eq_nil_of_length_eq_zero (Nat.eq_zero_of_add_eq_zero_right h)
    have := List.filter_eq_nil_iff.1 hempty edge (mem_inclusive.2 ⟨max_le hbase hfl, hlast⟩)
    simpa using this

lemma spanOf_inl (h : Led s) (hs : s.spanOf base floor newest old statuses = .inl s') : Keeps s s' := by
  unfold spanOf at hs
  split at hs
  · cases hs
    exact counters_settles h _
  split at hs
  · cases hs
    exact counters_settles h _
  split at hs
  · cases hs
    exact counters_settles h _
  split at hs
  · cases hs
    exact counters_settles h _
  · cases hs

lemma spanOf_inr (hs : s.spanOf base floor newest old statuses = .inr r) :
    r.Within newest ∧ r.floor = floor ∧ r.oldEdge = old := by
  unfold spanOf at hs
  split at hs
  · cases hs
  split at hs
  · cases hs
  next lastReported hlast =>
    split at hs
    · cases hs
    next hnew =>
      split at hs
      · cases hs
      cases hs
      simp only [checkedAdd] at hlast
      split at hlast
      next hlt =>
        cases hlast
        refine ⟨⟨rfl, Nat.le_sub_one_of_lt hlt, ?_⟩, rfl, rfl⟩
        simp only [Bool.or_eq_true, decide_eq_true_eq, not_or, not_lt] at hnew
        exact hnew.2
      · cases hlast

section Continuous

lemma Open.ready_feedback (ho : Open epoch now s) (hm : s.mode = some .continuous) {floor : ℕ}
    (hfl : s.oldestFeedback = some floor) : Ready .feedback floor epoch now s.highestFeedbackAcked s where
  led := ho.toLed
  steady := ho.steady
  funded := ho.funded
  epoch := fun e he => Option.some.inj ((ho.placed e he).epoch.symm.trans ho.active)
  found := by
    intro e q he hq
    obtain ⟨q', o, hq', hid, ho', hle⟩ := (ho.placed e he).continuous hm
    obtain rfl : q' = q := Option.some.inj (hq'.symm.trans hq)
    obtain rfl : o = floor := Option.some.inj (ho'.symm.trans hfl)
    exact ⟨hid, hle⟩
  sound := by
    intro q id e hid he
    obtain ⟨x, hx, rfl⟩ := Option.map_eq_some_iff.1 hid
    obtain ⟨hx, hseq⟩ := Option.filter_eq_some_iff.1 hx
    have hmem : some x ∈ s.feedbackIndex := List.mem_iff_getElem?.2 ⟨_, Option.join_eq_some_iff.1 hx⟩
    obtain rfl : x.sequence = q := eq_of_beq hseq
    exact ho.index x hmem e (mem_of_entry he) (entry_eq_some.1 he).2
  calm := ho.calm
  behind := by
    intro q o hold hq e he hn
    rcases ho.ahead e he with hb | hs
    · exact absurd (hb.continuous hm o q hold hn) (not_lt.2 hq)
    · exact hs

lemma noteContinuous_keeps (h : Led s) (reference generation : ℤ) (fresh : Bool) :
    Keeps s (s.noteContinuous reference generation fresh) := by
  unfold noteContinuous
  dsimp only
  split <;> split <;>
    exact .idle h { Frame.refl s with } rfl rfl rfl rfl

lemma noteContinuous_unresolved {reference generation : ℤ} {fresh : Bool} :
    (s.noteContinuous reference generation fresh).unresolved .feedback epoch q = s.unresolved .feedback epoch q := by
  unfold noteContinuous
  dsimp only
  split <;> split <;> rfl

variable (ho : Open epoch now s)

include ho

variable (hm : s.mode = some .continuous)

include hm

lemma Open.setHighest
    (hn : ∃ n, s.newestFeedback = some n ∧ edge ≤ n) (hp : ∀ q ≤ edge, Passed .feedback q s) :
    Open epoch now { s with highestFeedbackAcked := some edge } where
  toBooks := ho.toBooks.transfer ⟨{ Fixed.refl s with }, rfl, rfl, rfl⟩
    (fun h hh => by cases hh; exact hn) fun e he => (ho.placed e he).independent
  ahead := by
    intro e he
    obtain ⟨q, -, hq, -⟩ := (ho.placed e he).continuous hm
    by_cases hle : q ≤ edge
    · have hs := hp q hle e he hq
      exact .inr ⟨hs.pending, hs.starved, hs.exhausted⟩
    refine .inl ⟨fun _ h q' hh hq' => ?_, fun hi => by rw [hm] at hi; cases hi⟩
    cases hh
    cases hq.symm.trans hq'
    exact not_le.1 hle
  steady := ho.steady
  funded := ho.funded
  active := ho.active

section

variable {r : Span} (hfl : s.oldestFeedback = some r.floor) (hn : s.newestFeedback = some newest)
  (hold : r.oldEdge = s.highestFeedbackAcked) (hw : r.Within newest)

include hfl hn hold hw

lemma Open.advanceContinuousEdge (hedge : r.receivedEdge = some edge)
    (hcount : r.start ≤ edge → edge - r.start < s.config.maxFeedbackStatuses)
    (hres : s.unresolved .feedback epoch edge = false) :
    Open epoch now (s.advanceContinuousEdge r.base r.statuses edge epoch now) ∧
      (s.advanceContinuousEdge r.base r.statuses edge epoch now).mode = some .continuous ∧
      (s.advanceContinuousEdge r.base r.statuses edge epoch now).oldestFeedback = some r.floor ∧
      (∀ q o, r.oldEdge = some o → q ≤ o →
        Passed .feedback q (s.advanceContinuousEdge r.base r.statuses edge epoch now)) ∧
      ∀ q ≤ edge, Passed .feedback q (s.advanceContinuousEdge r.base r.statuses edge epoch now) := by
  have hr := ho.ready_feedback hm hfl
  have hstart : edgeStart (s.oldestFeedback.getD r.base) s.highestFeedbackAcked = r.start := by
    rw [hfl, Span.start, hold]
    rfl
  unfold Sender.advanceContinuousEdge
  rw [hstart]
  by_cases hlt : edge < r.start
  · simp only [hlt]
    refine ⟨ho, hm, hfl, hold ▸ hr.behind, fun q hq e he hqe => ?_⟩
    obtain ⟨o, ho', hqo⟩ := lt_edgeStart (hr.found e q he hqe).2 (hq.trans_lt hlt)
    exact hr.behind q o (hold ▸ ho') hqo e he hqe
  · have hnot : ¬ s.config.maxFeedbackStatuses ≤ edge - r.start := not_le.2 (hcount (not_lt.1 hlt))
    simp only [hlt, hnot, hres]
    obtain ⟨hk, hp⟩ := advance_passed (fun _ q ht => advanceContinuous_passed ht)
      hr.toTracked hr.behind
    rw [← hold] at hk hp
    have ho' := (ho.keeps hk).setHighest (hk.mode.trans hm)
      ⟨newest, hk.newestFeedback.trans hn, (receivedEdge_bounds hw hedge).2.2.2.trans hw.newest⟩ hp
    refine ⟨ho', hk.mode.trans hm, hk.oldestFeedback.trans hfl, fun q o ho hq e he hqe => ?_, fun q hq e he hqe => ?_⟩
    · have hs := (hr.behind q o (hold ▸ ho) hq).settles hk e he hqe
      exact ⟨hs.pending, hs.starved, hs.exhausted⟩
    · have hs := hp q hq e he hqe
      exact ⟨hs.pending, hs.starved, hs.exhausted⟩

lemma Open.acceptContinuous (reference generation : ℤ) :
    Open epoch now (s.acceptContinuous r reference generation epoch now) := by
  unfold Sender.acceptContinuous
  cases hrej : s.rejectedStatuses .feedback epoch r with
  | some count => exact ho.keeps (counters_settles ho.toLed _)
  | none =>
    dsimp only
    generalize (!r.statuses.isEmpty && _ && _) = fresh
    have hk := noteContinuous_keeps ho.toLed reference generation fresh
    generalize (s.feedbackGeneration.all _) = reportIsNew
    have ho1 := ho.keeps hk
    have hr1 : Ready .feedback r.floor epoch now r.oldEdge _ := hold ▸ (ho.ready_feedback hm hfl).keeps hk
    cases hedge : r.receivedEdge with
    | none => exact ho1.keeps (settleStatuses_keeps hr1 reportIsNew)
    | some edge =>
      obtain ⟨hcount, hres⟩ := rejectedStatuses_none hw hrej hedge
      obtain ⟨ho2, hm2, hfl2, hbehind, hp⟩ := ho1.advanceContinuousEdge (hk.mode.trans hm) (hk.oldestFeedback.trans hfl)
        (hk.newestFeedback.trans hn) (hold.trans hk.highestFeedbackAcked.symm) hw hedge (hk.config ▸ hcount)
        ((noteContinuous_unresolved).trans hres)
      have hr2 : Ready .feedback r.floor epoch now r.oldEdge _ :=
        ⟨(ho2.ready_feedback hm2 hfl2).toTracked, ho2.calm, hbehind⟩
      have hk2 := settleStatuses_keeps hr2 reportIsNew
      have ho3 := ho2.keeps hk2
      exact ho3.keeps (@anchorMissing_keeps _ .feedback _ _ ho3.toLed fun q hq => (hp q hq).settles hk2)

end

lemma Open.processContinuous (base : ℕ)
    (reference generation : ℤ) (statuses : List SendStatus) :
    Open epoch now (s.processContinuous base reference generation statuses epoch now) := by
  unfold Sender.processContinuous
  split
  next newest floor hn hfl =>
    cases hs : s.spanOf base floor newest s.highestFeedbackAcked statuses with
    | inl s' => exact ho.keeps (spanOf_inl ho.toLed hs)
    | inr r =>
      obtain ⟨hw, rfl, hold⟩ := spanOf_inr hs
      exact ho.acceptContinuous hm hfl hn hold hw reference generation
  · exact ho.keeps (counters_settles ho.toLed _)

end Continuous

section Independent

def Serves (s : Sender) (space : SpaceId) (floor : ℕ) : Prop :=
  ∃ st, s.spaces.lookup space = some st ∧ st.bySequence.entries.isEmpty = false ∧ st.firstSequence = floor

variable {space : SpaceId} {floor : ℕ} {st : SpaceHistory}

lemma Lane.number_inSpace (h : Lane.number (.inSpace space) e = some q) : e.space = space ∧ e.packetSequence = q := by
  simp only [Lane.number] at h
  split at h
  next hsp => exact ⟨hsp, Option.some.inj h⟩
  · cases h

lemma Open.tracked_space (ho : Open epoch now s) (hm : s.mode = some .independent) (hsv : s.Serves space floor) :
    Tracked (.inSpace space) floor epoch now s where
  led := ho.toLed
  steady := ho.steady
  funded := ho.funded
  epoch := fun e he => Option.some.inj ((ho.placed e he).epoch.symm.trans ho.active)
  found := by
    intro e q he hq
    obtain ⟨rfl, rfl⟩ := Lane.number_inSpace hq
    obtain ⟨st, hst, hne, rfl⟩ := hsv
    obtain ⟨hid, hle⟩ := (ho.placed e he).independent hm st hst hne
    exact ⟨lookupPacket_eq_some.2 ⟨⟨st, hst, hid⟩, e, ho.toLed.entry he.1, rfl, rfl⟩, hle⟩
  sound := by
    intro q id e hid he
    obtain ⟨-, x, hx, rfl, rfl⟩ := lookupPacket_eq_some.1 hid
    rw [he] at hx
    cases hx
    exact if_pos rfl

lemma Open.passed_space (ho : Open epoch now s) (hm : s.mode = some .independent) {h : ℕ}
    (hst : s.spaces.lookup space = some st) (hh : st.highestAckedSequence = some h) :
    ∀ q ≤ h, Passed (.inSpace space) q s := by
  intro q hq e he hn
  obtain ⟨rfl, rfl⟩ := Lane.number_inSpace hn
  rcases ho.ahead e he with hb | hs
  · exact absurd (hb.independent hm st h hst hh) (not_lt.2 hq)
  · exact hs

lemma Passed.updateSpace {lane : Lane} (hp : Passed lane q s) (f : SpaceHistory → SpaceHistory) :
    Passed lane q (s.updateSpace space f) := by
  unfold Sender.updateSpace
  split
  · exact hp
  · exact fun e he hn => ⟨(hp e he hn).pending, (hp e he hn).starved, (hp e he hn).exhausted⟩

lemma Serves.updateSpace (hsv : s.Serves space floor) (f : SpaceHistory → SpaceHistory)
    (hf : ∀ st, (f st).bySequence = st.bySequence ∧ (f st).firstSequence = st.firstSequence) :
    (s.updateSpace space f).Serves space floor := by
  obtain ⟨st, hst, hne, hfl⟩ := hsv
  unfold Sender.updateSpace
  rw [hst]
  exact ⟨f st, AList.lookup_insert _, by rw [(hf st).1, hne], (hf st).2.trans hfl⟩

lemma updateSpace_mode (f : SpaceHistory → SpaceHistory) : (s.updateSpace space f).mode = s.mode := by
  unfold Sender.updateSpace
  split <;> rfl

lemma lookup_insert_cases {spaces : AList fun _ : SpaceId => SpaceHistory} {st' : SpaceHistory} {sp : SpaceId}
    (h : (spaces.insert space st).lookup sp = some st') : sp = space ∧ st' = st ∨ spaces.lookup sp = some st' := by
  by_cases hsp : sp = space
  · subst hsp
    rw [AList.lookup_insert] at h
    exact .inl ⟨rfl, (Option.some.inj h).symm⟩
  · rw [AList.lookup_insert_ne hsp] at h
    exact .inr h

lemma Open.updateSpace (ho : Open epoch now s) (f : SpaceHistory → SpaceHistory)
    (hf : ∀ st, (f st).bySequence = st.bySequence ∧ (f st).firstSequence = st.firstSequence)
    (hp : ∀ st h, s.spaces.lookup space = some st → (f st).highestAckedSequence = some h →
      ∀ q ≤ h, Passed (.inSpace space) q s) :
    Open epoch now (s.updateSpace space f) := by
  unfold Sender.updateSpace
  cases hst : s.spaces.lookup space with
  | none => exact ho
  | some st =>
    refine ⟨⟨ho.toBooks.transfer ⟨{ Fixed.refl s with }, rfl, rfl, rfl⟩ ho.highest ?_, ?_⟩, ho.steady, ho.funded, ho.active⟩
    · intro e he hm st' hst' hne
      rcases lookup_insert_cases hst' with ⟨hsp, rfl⟩ | hst'
      · rw [(hf st).1, (hf st).2]
        rw [(hf st).1] at hne
        exact (ho.placed e he).independent hm st (hsp ▸ hst) hne
      · exact (ho.placed e he).independent hm st' hst' hne
    · intro e he
      by_cases hpast : ∃ h, e.space = space ∧ (f st).highestAckedSequence = some h ∧ e.packetSequence ≤ h
      · obtain ⟨h, hsp, hh, hle⟩ := hpast
        have hs := hp st h hst hh e.packetSequence hle e he (if_pos hsp)
        exact .inr ⟨hs.pending, hs.starved, hs.exhausted⟩
      rcases ho.ahead e he with hb | hs
      · refine .inl ⟨hb.continuous, fun hm st' h hst' hh => ?_⟩
        rcases lookup_insert_cases hst' with ⟨hsp, rfl⟩ | hst'
        · exact not_le.1 fun hle => hpast ⟨h, hsp, hh, hle⟩
        · exact hb.independent hm st' h hst' hh
      · exact .inr ⟨hs.pending, hs.starved, hs.exhausted⟩

structure Reporting (space : SpaceId) (r : Span) (epoch : Epoch) (now : Duration) (s : Sender) : Prop
    extends Open epoch now s where
  mode : s.mode = some .independent
  serves : s.Serves space r.floor
  behind : ∀ q o, r.oldEdge = some o → q ≤ o → Passed (.inSpace space) q s

variable {r : Span}

section

variable (h : Reporting space r epoch now s)

include h

lemma Reporting.keeps (hk : Keeps s s') : Reporting space r epoch now s' where
  toOpen := h.toOpen.keeps hk
  mode := hk.mode.trans h.mode
  serves := by
    rw [Serves, hk.spaces]
    exact h.serves
  behind := fun q o ho hq => (h.behind q o ho hq).settles hk

lemma Reporting.ready : Ready (.inSpace space) r.floor epoch now r.oldEdge s :=
  ⟨h.toOpen.tracked_space h.mode h.serves, h.calm, h.behind⟩

lemma Reporting.updateSpace (f : SpaceHistory → SpaceHistory)
    (hf : ∀ st, (f st).bySequence = st.bySequence ∧ (f st).firstSequence = st.firstSequence)
    (hp : ∀ st h, s.spaces.lookup space = some st → (f st).highestAckedSequence = some h →
      ∀ q ≤ h, Passed (.inSpace space) q s) :
    Reporting space r epoch now (s.updateSpace space f) where
  toOpen := h.toOpen.updateSpace f hf hp
  mode := (updateSpace_mode f).trans h.mode
  serves := h.serves.updateSpace f hf
  behind := fun q o ho hq => (h.behind q o ho hq).updateSpace f

lemma Reporting.advanceIndependentEdge :
    Reporting space r epoch now (s.advanceIndependentEdge space r epoch now) ∧
      ∀ edge, r.receivedEdge = some edge →
        ∀ q ≤ edge, Passed (.inSpace space) q (s.advanceIndependentEdge space r epoch now) := by
  have hr := h.ready
  unfold Sender.advanceIndependentEdge
  cases hedge : r.receivedEdge with
  | none => exact ⟨h, nofun⟩
  | some edge =>
    dsimp only
    split
    · obtain ⟨hk, hp⟩ := advance_passed (fun _ q ht => advanceIndependent_passed ht) hr.toTracked
        hr.behind
      refine ⟨(h.keeps hk).updateSpace _ (fun _ => ⟨rfl, rfl⟩) fun st hi _ hh => ?_, fun edge' he q hq => ?_⟩
      · cases hh
        exact hp
      · cases he
        exact (hp q hq).updateSpace _
    next hlt =>
      refine ⟨h, fun edge' he q hq e hfl hn => ?_⟩
      cases he
      obtain ⟨o, ho, hqo⟩ := lt_edgeStart (hr.found e q hfl hn).2 (hq.trans_lt (not_le.1 hlt))
      exact h.behind q o ho hqo e hfl hn

lemma Reporting.noteIndependent (timestamp : ℤ) (fresh : Bool) :
    Reporting space r epoch now (s.noteIndependent space epoch timestamp fresh) ∧
      ∀ q, Passed (.inSpace space) q s → Passed (.inSpace space) q (s.noteIndependent space epoch timestamp fresh) := by
  have hk : Keeps s { s with inputs :=
      { s.inputs with freshNetworkFeedback := s.inputs.freshNetworkFeedback || fresh } } :=
    .idle h.toLed { Frame.refl s with } rfl rfl rfl rfl
  have h1 := h.keeps hk
  refine ⟨h1.updateSpace _ (fun st => ?_) fun st hi hst hh => ?_, fun q hp => (hp.settles hk).updateSpace _⟩
  · split <;> exact ⟨rfl, rfl⟩
  · refine h1.toOpen.passed_space h1.mode hst ?_
    split at hh
    · exact hh
    · exact hh

lemma Reporting.acceptIndependent (timestamp : ℤ) (reportIsNew : Bool)
    (hold : Option Duration) :
    Open epoch now (s.acceptIndependent space r timestamp reportIsNew epoch now hold).1 ∧
      (s.acceptIndependent space r timestamp reportIsNew epoch now hold).1.mode = some .independent := by
  unfold Sender.acceptIndependent
  dsimp only
  generalize ((s.hasLive _ r now || _) && _) = fresh
  cases s.rejectedStatuses _ epoch r with
  | some count => exact ⟨h.toOpen.keeps (counters_settles h.toLed _), h.mode⟩
  | none =>
    have h1 : Reporting space r epoch now (if r.statuses.isEmpty then s else s.advanceIndependentEdge space r epoch now) ∧
        ∀ edge, r.receivedEdge = some edge → ∀ q ≤ edge, Passed (.inSpace space) q
          (if r.statuses.isEmpty then s else s.advanceIndependentEdge space r epoch now) := by
      split
      next hne =>
        refine ⟨h, fun edge hedge => ?_⟩
        simp [Span.receivedEdge, Sender.receivedEdge, numbered, List.isEmpty_iff.1 hne] at hedge
      · exact h.advanceIndependentEdge
    revert h1
    rintro ⟨h1, hp1⟩
    obtain ⟨h2, hp2⟩ := h1.noteIndependent timestamp fresh
    have hk := settleStatuses_keeps h2.ready reportIsNew
    have h3 := h2.keeps hk
    cases hedge : r.receivedEdge with
    | none => exact ⟨h3.toOpen, h3.mode⟩
    | some edge =>
      have ha : Keeps _ _ := @anchorMissing_keeps _ _ _ now h3.toLed fun q hq =>
        (hp2 q (hp1 edge hedge q hq)).settles hk
      exact ⟨h3.toOpen.keeps ha, ha.mode.trans h3.mode⟩

end

lemma Open.processIndependentReport {acc : Sender × Option Duration} (ho : Open epoch now acc.1)
    (hm : acc.1.mode = some .independent) (report : IndependentReport) :
    Open epoch now (Sender.processIndependentReport epoch now acc report).1 ∧
      (Sender.processIndependentReport epoch now acc report).1.mode = some .independent := by
  obtain ⟨s, hold⟩ := acc
  unfold Sender.processIndependentReport
  dsimp only at ho hm ⊢
  split
  · exact ⟨ho.keeps (counters_settles ho.toLed _), hm⟩
  next state hst =>
    split
    · exact ⟨ho.keeps (counters_settles ho.toLed _), hm⟩
    next hne =>
      cases hs : s.spanOf report.base state.firstSequence state.newestSequence state.highestAckedSequence
          report.statuses with
      | inl s' =>
        have hk := spanOf_inl ho.toLed hs
        exact ⟨ho.keeps hk, hk.mode.trans hm⟩
      | inr r =>
        obtain ⟨-, hfl, hold'⟩ := spanOf_inr hs
        refine Reporting.acceptIndependent ⟨ho, hm, ⟨state, hst, by simpa using hne, hfl.symm⟩, ?_⟩ _ _ _
        rw [hold']
        exact fun q o ho' hq => ho.passed_space hm hst ho' q hq

lemma Open.processIndependent (ho : Open epoch now s) (hm : s.mode = some .independent)
    (reports : List IndependentReport) : Open epoch now (s.processIndependent reports epoch now).1 := by
  unfold Sender.processIndependent
  suffices h : ∀ acc : Sender × Option Duration, Open epoch now acc.1 → acc.1.mode = some .independent →
      Open epoch now (reports.foldl _ acc).1 from h _ ho hm
  induction reports with
  | nil => exact fun acc ho _ => ho
  | cons report reports ih =>
    intro acc ho hm
    obtain ⟨ho', hm'⟩ := ho.processIndependentReport hm report
    exact ih _ ho' hm'

end Independent

end Report

end Pulsebeam.Feedback.Sender
