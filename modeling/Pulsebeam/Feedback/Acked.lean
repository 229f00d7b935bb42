import Pulsebeam.Feedback.Observed

/-! Every packet is acknowledged at most once. -/

namespace Pulsebeam.Feedback

open Pulsebeam.Lib

namespace Sender

variable {s s' s0 : Sender} {e e' : SentEntry} {id x : SentPacketId} {acks : SentPacketId → Prop} {edges : Prop}
  {ret : List SentObservation} {lane lane' : Lane} {q q' n edge : ℕ} {r : Span} {sp : SpaceId} {received : Bool}

section Count

def ackCount (ret : List SentObservation) (s : Sender) (id : SentPacketId) : ℕ :=
  tally (·.newlyAcked) id (ret ++ s.observations)

lemma ackCount_sameLists (h : SameLists s s') : ackCount ret s' id = ackCount ret s id := by
  rw [ackCount, ackCount, h.observations]

lemma Speaks.ackCount {e1 : SentEntry} {o : Outcome} (h : Speaks s s' x e e1 o) :
    ackCount ret s' id = ackCount ret s id + if x = id ∧ o.newlyAcked = true then 1 else 0 := by
  have hid : (observe s.mode e1 o).1.sentId = x := h.same
  rw [Sender.ackCount, tally_pushed h.pushed, hid]
  rfl

lemma Micro.ackCount_le (h : Micro acks edges s s') (hx : s'.inputs.exhausted = false) (hid : ¬ acks id) :
    ackCount ret s' id ≤ ackCount ret s id := by
  rcases h.utters hx with hc | ⟨l, last, hl, hlast, rfl⟩ | ⟨x, e, e1, o, hs, hack⟩
  · exact (ackCount_sameLists hc.lists).le
  · have hne : last.sentId ≠ id := fun h => hid (h ▸ hlast)
    simp only [ackCount, observations, hl, tally_append, tally_singleton, hne]
    exact le_rfl
  rw [hs.ackCount, if_neg]
  · exact le_rfl
  · rintro ⟨rfl, ha⟩
    exact hid (hack ha)

lemma Micro.ackCount_le_succ (h : Micro acks edges s s') (hx : s'.inputs.exhausted = false) :
    ackCount ret s' id ≤ ackCount ret s id + 1 := by
  rcases h.utters hx with hc | ⟨l, last, hl, hlast, rfl⟩ | ⟨x, e, e1, o, hs, -⟩
  · exact (ackCount_sameLists hc.lists).trans_le (Nat.le_succ _)
  · simp only [ackCount, observations, hl, tally_append, tally_singleton]
    split <;> split <;> omega
  · rw [hs.ackCount]
    split <;> omega

lemma Micro.settled (h : Micro acks edges s s') (hx : s'.inputs.exhausted = false) (he : s'.entry id = some e') :
    ∃ e, s.entry id = some e ∧ (e.Settled → e'.Settled) := by
  rcases h.utters hx with hc | ⟨l, last, -, -, rfl⟩ | ⟨x, e, e1, o, hs, -⟩
  · obtain ⟨e, he, hs, -⟩ := hc.entry id e' he
    exact ⟨e, he, hs⟩
  · exact ⟨e', he, fun h => h⟩
  rcases hs.entry id e' he with ⟨rfl, rfl⟩ | ⟨-, he⟩
  · exact ⟨e, hs.found, hs.settled⟩
  · exact ⟨e', he, fun h => h⟩

lemma Acks.receives (h : Acks id true s s') (hx : s'.inputs.exhausted = false) :
    ackCount ret s' id ≤ ackCount ret s id ∨
      (∃ e, s.entry id = some e ∧ ¬ e.Settled) ∧ ∀ e', s'.entry id = some e' → e'.Settled := by
  cases h with
  | none => exact .inl le_rfl
  | receipt arrival ecn t hn hp =>
    rcases setReceived_cases s id true arrival ecn t with h | ⟨e, hopen, b, hw, -, ht⟩
    · exact .inl (ackCount_sameLists h.toSameLists).le
    refine .inr ⟨⟨e, hw.found, ?_⟩, fun e' he' => ?_⟩
    · rcases hopen with hlive | hlate
      · exact not_settled_of_live hlive
      · exact fun hs => hs.2 hlate
    · rw [hw.entry_self] at he'
      cases he'
      refine ⟨?_, fun hm => hm.2 rfl⟩
      by_cases hlost : e.acknowledgment = .lost
      · simp [hlost, Acknowledgment.isTerminal]
      · simp [hlost, Acknowledgment.isTerminal]
  | gap h => cases h

lemma Acks.retained (h : Acks id received s s') : s' = s ∨ ∃ e, s.entry id = some e := by
  cases h with
  | none => exact .inl rfl
  | receipt _ _ _ _ hp => exact .inr (hp.imp fun _ h => h.1)
  | gap _ _ hp => exact .inr (hp.imp fun _ h => h.1)

end Count

section Reach

def Carries : Option FeedbackMode → Lane → Prop
  | some .continuous, .feedback => True
  | some .independent, .inSpace _ => True
  | _, _ => False

structure Reaches (s : Sender) (lane : Lane) (q : ℕ) (id : SentPacketId) : Prop where
  carries : Carries s.mode lane
  resolve : s.resolve lane q = some id
  floor : lane = .feedback → ∃ floor, s.oldestFeedback = some floor ∧ floor ≤ q

def laneEdge (s : Sender) : Lane → Option ℕ
  | .feedback => s.highestFeedbackAcked
  | .inSpace space => (s.spaces.lookup space).bind (·.highestAckedSequence)

lemma laneEdge_of_lookup {st : SpaceHistory} (h : s.spaces.lookup sp = some st) :
    s.laneEdge (.inSpace sp) = st.highestAckedSequence := by
  rw [laneEdge, h, Option.bind_some]

lemma lookup_of_laneEdge (h : s.laneEdge (.inSpace sp) = some q) :
    ∃ st, s.spaces.lookup sp = some st ∧ st.highestAckedSequence = some q := Option.bind_eq_some_iff.1 h

lemma Reaches.back (h : Reaches s' lane q id) (hf : Follows s s') : Reaches s lane q id :=
  ⟨hf.mode ▸ h.carries, hf.resolve lane q ▸ h.resolve, fun hl => hf.oldestFeedback ▸ h.floor hl⟩

lemma Reaches.unique (hw : Windowed s) (he : s.entry id = some e) (h : Reaches s lane q id)
    (h' : Reaches s lane' q' id) : lane = lane' ∧ q = q' := by
  have hcarry := h.carries
  have hcarry' := h'.carries
  cases lane with
  | feedback =>
    cases lane' with
    | feedback =>
      have h1 := (hw.index _ _ (feedbackSentId_eq_some.1 h.resolve)).2.2 e he
      have h2 := (hw.index _ _ (feedbackSentId_eq_some.1 h'.resolve)).2.2 e he
      exact ⟨rfl, Option.some.inj (h1.symm.trans h2)⟩
    | inSpace sp =>
      cases hm : s.mode with
      | none => simp [hm, Carries] at hcarry
      | some mode => cases mode <;> simp [hm, Carries] at hcarry hcarry'
  | inSpace sp =>
    cases lane' with
    | feedback =>
      cases hm : s.mode with
      | none => simp [hm, Carries] at hcarry
      | some mode => cases mode <;> simp [hm, Carries] at hcarry hcarry'
    | inSpace sp' =>
      obtain ⟨-, x, hx, hsp, hq⟩ := lookupPacket_eq_some.1 h.resolve
      obtain ⟨-, y, hy, hsp', hq'⟩ := lookupPacket_eq_some.1 h'.resolve
      cases hx.symm.trans hy
      exact ⟨by rw [← hsp, ← hsp'], hq.symm.trans hq'⟩

end Reach

section Marks

structure Marked (ret : List SentObservation) (mark : Lane → ℕ → Prop) (s : Sender) : Prop where
  once : ∀ id, ackCount ret s id ≤ 1
  passed : ∀ lane q id, s.Reaches lane q id → 0 < ackCount ret s id →
    mark lane q ∧ (q = Word.max 64 → ∀ e, s.entry id = some e → e.Settled)

variable {mark mark' : Lane → ℕ → Prop}

lemma Marked.mono (hm : Marked ret mark s) (h : ∀ lane q, mark lane q → mark' lane q) : Marked ret mark' s :=
  ⟨hm.once, fun lane q id hr hpos => (hm.passed lane q id hr hpos).imp_left (h lane q)⟩

lemma not_exhausted_of_steps (h : Steps acks edges s s') (hx : s'.inputs.exhausted = false) :
    s.inputs.exhausted = false := by
  by_contra hn
  rw [h.follows.exhausted (by simpa using hn)] at hx
  cases hx

lemma Marked.quiet (hm : Marked ret mark s) (h : Quiet s s') (hx : s'.inputs.exhausted = false) :
    Marked ret mark s' := by
  induction h with
  | refl => exact hm
  | tail h h1 ih =>
    have hm := ih (not_exhausted_of_steps (.single h1) hx)
    have hle : ∀ id, ackCount ret _ id ≤ ackCount ret _ id := fun id => h1.ackCount_le hx fun h => h
    refine ⟨fun id => (hle id).trans (hm.once id), fun lane q id hr hpos => ?_⟩
    obtain ⟨hmark, hset⟩ := hm.passed lane q id (hr.back h1.follows) (hpos.trans_le (hle id))
    refine ⟨hmark, fun hq e' he' => ?_⟩
    obtain ⟨e, he, hs⟩ := h1.settled hx he'
    exact hs (hset hq e he)

def sweepMark (s0 : Sender) (lane : Lane) (edge n : ℕ) (lane' : Lane) (q : ℕ) : Prop :=
  (lane' = lane → q < n ∨ q = Word.max 64 ∧ edge = Word.max 64) ∧
    (lane' ≠ lane → ∃ h, s0.laneEdge lane' = some h ∧ q ≤ h)

lemma sweepMark_succ (h : sweepMark s0 lane edge n lane' q) : sweepMark s0 lane edge (n + 1) lane' q :=
  ⟨fun hl => (h.1 hl).imp_left Nat.lt_succ_of_lt, h.2⟩

lemma Marked.pass (hm : Marked ret (sweepMark s0 lane edge n) s) (hw : Windowed s) (hr : s.Reaches lane n id)
    (hlast : n = Word.max 64 → received = true) (h : Advances id received s s') (hx : s'.inputs.exhausted = false) :
    Marked ret (sweepMark s0 lane edge (n + 1)) s' := by
  obtain ⟨s1, hq, ha⟩ := h
  have hmicro : Micro (· = id) False s1 s' := ha.micro
  have hx1 := not_exhausted_of_steps (.single hmicro) hx
  have hm1 := hm.quiet hq hx1
  have hw1 := hw.steps hq
  have hr1 : s1.Reaches lane n id :=
    ⟨hq.follows.mode.symm ▸ hr.carries, (hq.follows.resolve lane n).trans hr.resolve,
      fun hl => hq.follows.oldestFeedback.symm ▸ hr.floor hl⟩
  have hother : ∀ x, x ≠ id → ackCount ret s' x ≤ ackCount ret s1 x := fun x hne => hmicro.ackCount_le hx hne
  -- Only the last number can have been acknowledged before.
  have hdone : 0 < ackCount ret s1 id → received = true ∧ n = Word.max 64 ∧ ∀ e, s1.entry id = some e → e.Settled := by
    intro hpos
    obtain ⟨hmark, hset⟩ := hm1.passed lane n id hr1 hpos
    rcases hmark.1 rfl with hlt | ⟨hmax, -⟩
    · exact absurd hlt (lt_irrefl n)
    · exact ⟨hlast hmax, hmax, hset hmax⟩
  have hrec : received = true → ackCount ret s' id ≤ ackCount ret s1 id ∨
      (∃ e, s1.entry id = some e ∧ ¬ e.Settled) ∧ ∀ e', s'.entry id = some e' → e'.Settled := by
    rintro rfl
    exact ha.receives hx
  have hagain : 0 < ackCount ret s1 id → ackCount ret s' id ≤ ackCount ret s1 id := by
    intro hpos
    obtain ⟨rfl, -, hset⟩ := hdone hpos
    rcases hrec rfl with hle | ⟨⟨e, he, hopen⟩, -⟩
    · exact hle
    · exact absurd (hset e he) hopen
  constructor
  · intro x
    by_cases hne : x = id
    · subst hne
      by_cases hpos : 0 < ackCount ret s1 x
      · exact (hagain hpos).trans (hm1.once x)
      · have hsucc : ackCount ret s' x ≤ ackCount ret s1 x + 1 := hmicro.ackCount_le_succ hx
        omega
    · exact (hother x hne).trans (hm1.once x)
  · intro lane' q x hreach hpos
    have hreach1 := hreach.back hmicro.follows
    have hkeep : 0 < ackCount ret s1 x → sweepMark s0 lane edge (n + 1) lane' q ∧
        (q = Word.max 64 → ∀ e', s'.entry x = some e' → e'.Settled) := by
      intro hpos1
      obtain ⟨hmark, hset⟩ := hm1.passed lane' q x hreach1 hpos1
      refine ⟨sweepMark_succ hmark, fun hq e' he' => ?_⟩
      obtain ⟨e, he, hs⟩ := hmicro.settled hx he'
      exact hs (hset hq e he)
    by_cases hne : x = id
    · subst hne
      by_cases hpos1 : 0 < ackCount ret s1 x
      · exact hkeep hpos1
      rcases ha.retained with rfl | ⟨e, he⟩
      · exact absurd hpos hpos1
      obtain ⟨rfl, rfl⟩ := hreach1.unique hw1 he hr1
      refine ⟨⟨fun _ => .inl (Nat.lt_succ_self q), fun h => absurd rfl h⟩, fun hmax => ?_⟩
      rcases hrec (hlast hmax) with hle | ⟨-, hset⟩
      · omega
      · exact hset
    · exact hkeep (hpos.trans_le (hother x hne))

lemma Marked.passes (hedge : r.receives edge = true) (hmax : edge ≤ Word.max 64) {k : ℕ}
    (h : Passes lane r (List.range' n k) s s') (hk : n + k = edge + 1)
    (hfl : lane = .feedback → s.oldestFeedback = some r.floor) (hn : r.floor ≤ n) (hcarry : Carries s.mode lane)
    (hw : Windowed s) (hx : s'.inputs.exhausted = false) (hm : Marked ret (sweepMark s0 lane edge n) s) :
    Marked ret (sweepMark s0 lane edge (edge + 1)) s' := by
  induction k generalizing n s with
  | zero =>
    cases h
    rwa [show edge + 1 = n by omega]
  | succ k ih =>
    cases h with
    | @cons _ _ _ s1 _ ha hnone hrest =>
      have hx1 := not_exhausted_of_steps (hrest.steps : Steps _ False s1 s') hx
      have hstep : Steps (fun _ => True) False s s1 ∧ Marked ret (sweepMark s0 lane edge (n + 1)) s1 := by
        cases hr : s.resolve lane n with
        | none =>
          exact ⟨(hnone hr).steps, (hm.quiet (hnone hr) hx1).mono fun _ _ => sweepMark_succ⟩
        | some id =>
          refine ⟨(ha id hr).steps, hm.pass hw ⟨hcarry, hr, fun hl => ⟨r.floor, hfl hl, hn⟩⟩ (fun hlast => ?_)
            (ha id hr) hx1⟩
          rwa [show n = edge by omega]
      obtain ⟨hsteps, hm1⟩ := hstep
      have hf := hsteps.follows
      exact ih hrest (by omega) (fun hl => hf.oldestFeedback.trans (hfl hl)) (by omega) (hf.mode.symm ▸ hcarry)
        (hw.steps hsteps) hm1

end Marks

section Acked

structure Acked (ret : List SentObservation) (s : Sender) : Prop where
  marked : Marked ret (fun lane q => ∃ h, s.laneEdge lane = some h ∧ q ≤ h) s
  bounded : ∀ lane h, s.laneEdge lane = some h → h ≤ Word.max 64
  generation : ∀ sp st q id g, s.spaces.lookup sp = some st → s.lookupPacket sp q = some id →
    st.lastReportGeneration = some g → s.activeEpoch = some g.1

lemma laneEdge_congr (hs : s'.spaces = s.spaces) (hf : s'.highestFeedbackAcked = s.highestFeedbackAcked) (lane : Lane) :
    s'.laneEdge lane = s.laneEdge lane := by
  cases lane with
  | feedback => exact hf
  | inSpace sp => rw [laneEdge, laneEdge, hs]

lemma Acked.quiet (ha : Acked ret s) (h : Quiet s s') (hx : s'.inputs.exhausted = false) : Acked ret s' := by
  obtain ⟨hs, hf⟩ := Steps.edges_eq h
  have hedge := laneEdge_congr hs hf
  have hfol := Steps.follows h
  refine ⟨(ha.marked.quiet h hx).mono fun lane q hmark => ?_, fun lane h he => ha.bounded lane h (hedge lane ▸ he),
    fun sp st q id g hst hl hg => ?_⟩
  · rwa [hedge]
  · rw [hfol.activeEpoch]
    exact ha.generation sp st q id g (hs ▸ hst) (hfol.lookupPacket sp q ▸ hl) hg

lemma Sweep.marked (h : Sweep lane r edge s s') (ha : Acked ret s) (hold : r.oldEdge = s.laneEdge lane)
    (hfl : lane = .feedback → s.oldestFeedback = some r.floor) (hcarry : Carries s.mode lane) (hw : Windowed s)
    (hx : s'.inputs.exhausted = false) :
    Marked ret (sweepMark s lane edge (edge + 1)) s' ∧ edge ≤ Word.max 64 := by
  obtain ⟨newest, hwithin⟩ := h.within
  obtain ⟨status, hst, hrec⟩ := statusAt_receivedEdge hwithin h.received
  have hmax : edge ≤ Word.max 64 := by
    obtain ⟨-, -, -, hle⟩ := receivedEdge_bounds hwithin h.received
    have := hwithin.bounded
    omega
  have hreceives : r.receives edge = true := by rw [Span.receives, hst, Option.any_some, hrec]
  obtain ⟨s1, hq, hp⟩ := h.passes
  have hx1 := not_exhausted_of_steps (hp.steps : Steps _ False s1 s') hx
  have hstart := h.start
  have hinit : Marked ret (sweepMark s lane edge r.start) s1 := by
    refine (ha.marked.quiet hq hx1).mono fun lane' q hmark => ⟨?_, fun _ => hmark⟩
    rintro rfl
    obtain ⟨h, hh, hqh⟩ := hmark
    have hb := ha.bounded lane' h hh
    have hle : min (h + 1) (Word.max 64) ≤ r.start := by
      rw [Span.start, hold, hh]
      exact le_max_right _ _
    omega
  have hf := Steps.follows hq
  have hlen : r.start + (edge + 1 - r.start) = edge + 1 := by omega
  exact ⟨hinit.passes hreceives hmax hp hlen (fun hl => hf.oldestFeedback.trans (hfl hl)) (floor_le_start r)
    (hf.mode.symm ▸ hcarry) (hw.steps hq) hx, hmax⟩

lemma Acked.sweep {s1 : Sender} (ha : Acked ret s) (h : Sweep lane r edge s s1) (hold : r.oldEdge = s.laneEdge lane)
    (hfl : lane = .feedback → s.oldestFeedback = some r.floor) (hcarry : Carries s.mode lane) (hw : Windowed s)
    (hfol : Follows s1 s') (hl : SameLists s1 s') (he : ∀ id, s'.entry id = s1.entry id)
    (hx : s'.inputs.exhausted = false) (hedge : s'.laneEdge lane = some edge)
    (hother : ∀ lane', lane' ≠ lane → s'.laneEdge lane' = s1.laneEdge lane')
    (hgen : ∀ sp st', s'.spaces.lookup sp = some st' → ∃ st, s1.spaces.lookup sp = some st ∧
      st'.lastReportGeneration = st.lastReportGeneration) : Acked ret s' := by
  have hx1 : s1.inputs.exhausted = false := by
    by_contra hn
    rw [hfol.exhausted (by simpa using hn)] at hx
    cases hx
  obtain ⟨hm, hmax⟩ := h.marked ha hold hfl hcarry hw hx1
  obtain ⟨hs, hf⟩ := (h.steps : Steps _ False s s1).edges_eq
  have hfol1 := (h.steps : Steps _ False s s1).follows
  have hlane := laneEdge_congr hs hf
  refine ⟨⟨fun id => ?_, fun lane' q id hr hpos => ?_⟩, fun lane' h he => ?_, fun sp st' q id g hst' hlook hg => ?_⟩
  · rw [ackCount_sameLists hl]
    exact hm.once id
  · rw [ackCount_sameLists hl] at hpos
    obtain ⟨hmark, hset⟩ := hm.passed lane' q id (hr.back hfol) hpos
    refine ⟨?_, fun hq e h => hset hq e (he id ▸ h)⟩
    by_cases hl : lane' = lane
    · subst hl
      refine ⟨edge, hedge, ?_⟩
      rcases hmark.1 rfl with hlt | ⟨hq, hE⟩
      · exact Nat.lt_succ_iff.1 hlt
      · exact (hq.trans hE.symm).le
    · obtain ⟨h, hh, hle⟩ := hmark.2 hl
      exact ⟨h, by rw [hother lane' hl, hlane, hh], hle⟩
  · by_cases hl : lane' = lane
    · subst hl
      cases hedge.symm.trans he
      exact hmax
    · rw [hother lane' hl, hlane] at he
      exact ha.bounded lane' h he
  · obtain ⟨st, hst, hsame⟩ := hgen sp st' hst'
    rw [hfol.activeEpoch, hfol1.activeEpoch]
    refine ha.generation sp st q id g (hs ▸ hst) ?_ (hsame ▸ hg)
    rw [← hfol1.lookupPacket, ← hfol.lookupPacket, hlook]

variable {epoch : Epoch} {space : SpaceId} {f : SpaceHistory → SpaceHistory} {ret' : List SentObservation}
  {receivedAt : Duration} {batch : SendFeedback}

lemma Acked.processContinuous (ha : Acked ret s) (hw : Windowed s) (hE : s.activeEpoch = some epoch)
    (hmode : s.mode = some .continuous) {base : ℕ} {reference generation : ℤ} {statuses : List SendStatus}
    (hx : (s.processContinuous base reference generation statuses epoch receivedAt).inputs.exhausted = false) :
    Acked ret (s.processContinuous base reference generation statuses epoch receivedAt) := by
  rcases processContinuous_cases hE with
    hq | ⟨r, edge, s1, hfl, hold, hsweep, hq⟩
  · exact ha.quiet hq hx
  have hfol : Follows s1 { s1 with highestFeedbackAcked := some edge } :=
    (Micro.edge s1 edge trivial : Micro (fun _ => True) True s1 _).follows
  have ha2 := ha.sweep hsweep hold (fun _ => hfl) (by rw [hmode]; trivial) hw hfol ⟨rfl, rfl⟩ (fun _ => rfl)
    (not_exhausted_of_steps hq hx) rfl (fun lane' hne => ?_) fun sp st' h => ⟨st', h, rfl⟩
  · exact ha2.quiet hq hx
  cases lane' with
  | feedback => exact absurd rfl hne
  | inSpace sp => rfl

lemma updateSpace_lookup_cases {st' : SpaceHistory} (h : (s.updateSpace space f).spaces.lookup sp = some st') :
    ∃ st, s.spaces.lookup sp = some st ∧ st' = if sp = space then f st else st := by
  exact rel_some_right (h ▸ updateSpace_rel s space f sp)

lemma updateSpace_frame (f : SpaceHistory → SpaceHistory) :
    SameLists s (s.updateSpace space f) ∧ (∀ id, (s.updateSpace space f).entry id = s.entry id) ∧
      (s.updateSpace space f).highestFeedbackAcked = s.highestFeedbackAcked := by
  unfold updateSpace
  split <;> exact ⟨⟨rfl, rfl⟩, fun _ => rfl, rfl⟩

lemma laneEdge_updateSpace (hf : lane = .inSpace space → ∀ st, (f st).highestAckedSequence = st.highestAckedSequence) :
    (s.updateSpace space f).laneEdge lane = s.laneEdge lane := by
  cases lane with
  | feedback => exact (updateSpace_frame f).2.2
  | inSpace sp =>
    have hr := updateSpace_rel s space f sp
    change ((s.updateSpace space f).spaces.lookup sp).bind _ = (s.spaces.lookup sp).bind _
    revert hr
    generalize (s.updateSpace space f).spaces.lookup sp = o'
    generalize s.spaces.lookup sp = o
    intro hr
    cases hr with
    | none => rfl
    | some h =>
      rw [h]
      split
      next hsp => exact hf (hsp ▸ rfl) _
      · rfl

section

variable (ha : Acked ret s)

include ha

lemma Acked.noteIndependent (hE : s.activeEpoch = some epoch) (space : SpaceId) (timestamp : ℤ)
    (fresh : Bool) : Acked ret (s.noteIndependent space epoch timestamp fresh) := by
  have hfol := Steps.follows (noteIndependent_steps s space epoch timestamp fresh)
  have hf : ∀ st : SpaceHistory,
      (if st.lastReportGeneration.all fun g => g.1 != epoch || decide (g.2 ≤ timestamp) then
        { st with lastReportGeneration := some (epoch, timestamp) } else st).highestAckedSequence =
        st.highestAckedSequence := by
    intro st
    split <;> rfl
  have hedge : ∀ lane, (s.noteIndependent space epoch timestamp fresh).laneEdge lane = s.laneEdge lane :=
    fun lane => (laneEdge_updateSpace fun _ => hf).trans (laneEdge_congr rfl rfl lane)
  obtain ⟨hl, he, -⟩ := updateSpace_frame
    fun st => if st.lastReportGeneration.all fun g => g.1 != epoch || decide (g.2 ≤ timestamp) then
      { st with lastReportGeneration := some _ } else st
  have hlists : SameLists s (s.noteIndependent space epoch timestamp fresh) := ⟨hl.feedback, hl.synthetic⟩
  refine ⟨⟨fun id => ?_, fun lane q id hr hpos => ?_⟩, fun lane h hh => ha.bounded lane h (hedge lane ▸ hh),
    fun sp st' q id g hst' hlook hg => ?_⟩
  · rw [ackCount_sameLists hlists]
    exact ha.marked.once id
  · rw [ackCount_sameLists hlists] at hpos
    obtain ⟨hmark, hset⟩ := ha.marked.passed lane q id (hr.back hfol) hpos
    exact ⟨by rwa [hedge], fun hq e h => hset hq e ((he id).symm.trans h)⟩
  rw [hfol.activeEpoch]
  obtain ⟨st, hst, rfl⟩ := updateSpace_lookup_cases hst'
  have hold : st.lastReportGeneration = some g → s.activeEpoch = some g.1 :=
    ha.generation sp st q id g hst (hfol.lookupPacket sp q ▸ hlook)
  split_ifs at hg with h1 h2
  · cases hg
    exact hE
  · exact hold hg
  · exact hold hg

lemma Acked.swept {state : SpaceHistory} {s1 : Sender} (hw : Windowed s)
    (hmode : s.mode = some .independent) (hst : s.spaces.lookup space = some state)
    (hold : r.oldEdge = state.highestAckedSequence) (h : Swept space r s s1) (hx : s1.inputs.exhausted = false) :
    Acked ret s1 := by
  cases h with
  | none => exact ha
  | @sweep edge s1 hsweep =>
    obtain ⟨hl, he, -⟩ := updateSpace_frame fun st => { st with highestAckedSequence := some edge }
    have hst1 : s1.spaces.lookup space = some state := (hsweep.steps : Steps _ False s s1).edges_eq.1.symm ▸ hst
    refine ha.sweep hsweep ?_ nofun (by rw [hmode]; trivial) hw (raiseEdge_micro).follows
      hl he hx ?_ (fun lane' hne => laneEdge_updateSpace fun h => absurd h hne) fun sp st' hst' => ?_
    · rw [hold, laneEdge, hst]
      rfl
    · change ((s1.raiseEdge space edge).spaces.lookup space).bind _ = some edge
      rw [raiseEdge, updateSpace, hst1]
      rw [AList.lookup_insert]
      rfl
    · obtain ⟨st, hst, rfl⟩ := updateSpace_lookup_cases hst'
      refine ⟨st, hst, ?_⟩
      split <;> rfl

lemma Acked.processIndependentReport {hold : Option Duration} {report : IndependentReport}
    (hw : Windowed s) (hE : s.activeEpoch = some epoch) (hmode : s.mode = some .independent)
    (hx : (Sender.processIndependentReport epoch receivedAt (s, hold) report).1.inputs.exhausted = false) :
    Acked ret (Sender.processIndependentReport epoch receivedAt (s, hold) report).1 := by
  rcases processIndependentReport_cases hE with
    hq | ⟨state, r, fresh, s1, hst, hedge, hswept, hq⟩
  · exact ha.quiet hq hx
  have hx2 := not_exhausted_of_steps hq hx
  have hx1 := not_exhausted_of_steps (noteIndependent_steps s1 report.space epoch report.generation fresh) hx2
  have ha1 := ha.swept hw hmode hst hedge hswept hx1
  exact (ha1.noteIndependent (hswept.steps.follows.activeEpoch.trans hE) report.space report.generation fresh).quiet
    hq hx

lemma Acked.applyReport (hw : Windowed s) (hE : s.activeEpoch = some batch.pathEpoch)
    (hmode : matchesMode s.mode batch.report = true) (hx : (s.applyReport batch).1.inputs.exhausted = false) :
    Acked ret (s.applyReport batch).1 := by
  unfold Sender.applyReport at hx ⊢
  cases hr : batch.report with
  | continuous base reference generation statuses =>
    rw [hr] at hx hmode
    refine ha.processContinuous hw hE ?_ hx
    cases hm : s.mode with
    | none => simp [hm, matchesMode] at hmode
    | some mode => cases mode <;> simp [hm, matchesMode] at hmode ⊢
  | independent reports =>
    rw [hr] at hx hmode
    have hm : s.mode = some .independent := by
      cases hm : s.mode with
      | none => simp [hm, matchesMode] at hmode
      | some mode => cases mode <;> simp [hm, matchesMode] at hmode ⊢
    refine (processIndependent_keep (P := fun t => Windowed t ∧ t.mode = some .independent ∧
      (t.inputs.exhausted = false → Acked ret t)) (fun t hold report hE ht => ?_) reports hE ⟨hw, hm, fun _ => ha⟩).2.2 hx
    have hsteps := processIndependentReport_steps hE batch.receivedAt hold report
    refine ⟨ht.1.steps hsteps, hsteps.follows.mode.trans ht.2.1, fun hx => ?_⟩
    exact (ht.2.2 (not_exhausted_of_steps hsteps hx)).processIndependentReport ht.1 hE ht.2.1 hx

lemma Acked.processFeedback (hw : Windowed s) {room : Room}
    (hx : (s.processFeedback batch room).inputs.exhausted = false) : Acked ret (s.processFeedback batch room) := by
  have hroom : Quiet s { s with room := room } := (room_still room).quiet
  rcases processFeedback_cases s batch room with h | ⟨c, h⟩ | ⟨hE, hmode, prior, hold, h⟩
  · rwa [h]
  · rw [h] at hx ⊢
    exact ha.quiet (hroom.tail (.still (counters_still c) rfl)) hx
  rw [h] at hx ⊢
  have hq : Quiet (Sender.applyReport { s with room := room } batch).1 _ :=
    (Relation.ReflTransGen.single (.window _ batch.receivedAt)).trans
      (noteTiming_still _ prior batch.receivedAt hold).quiet
  have hx1 := not_exhausted_of_steps hq hx
  have hx0 := not_exhausted_of_steps (applyReport_steps (s := { s with room := room }) batch hE) hx1
  exact ((ha.quiet hroom hx0).applyReport (hw.steps hroom) hE hmode hx1).quiet hq hx

lemma Acked.frame
    (hlist : ret' ++ s'.observations = ret ++ s.observations)
    (hr : ∀ lane q id, Reaches s' lane q id → 0 < ackCount ret s id → Reaches s lane q id ∧
      s'.laneEdge lane = s.laneEdge lane ∧ ∀ e, s'.entry id = some e → s.entry id = some e)
    (hb : ∀ lane h, s'.laneEdge lane = some h → s.laneEdge lane = some h)
    (hgen : ∀ sp st q id g, s'.spaces.lookup sp = some st → s'.lookupPacket sp q = some id →
      st.lastReportGeneration = some g → s'.activeEpoch = some g.1) : Acked ret' s' := by
  have hcount : ∀ id, ackCount ret' s' id = ackCount ret s id := fun id => by rw [ackCount, ackCount, hlist]
  refine ⟨⟨fun id => (hcount id).trans_le (ha.marked.once id), fun lane q id hreach hpos => ?_⟩,
    fun lane h hh => ha.bounded lane h (hb lane h hh), hgen⟩
  rw [hcount] at hpos
  obtain ⟨hreach, hedge, hent⟩ := hr lane q id hreach hpos
  obtain ⟨⟨h, hh, hle⟩, hset⟩ := ha.marked.passed lane q id hreach hpos
  exact ⟨⟨h, hedge.trans hh, hle⟩, fun hq e he => hset hq e (hent e he)⟩

lemma Acked.chore (h : Chore s s') (hx : s'.inputs.exhausted = false) : Acked ret s' := by
  have hkeep (missing work oldest) :
      Acked ret { s with missing := missing, lossWork := work, oldestSentId := oldest } :=
    ha.frame rfl (fun lane q id hr _ => ⟨⟨hr.carries, hr.resolve, hr.floor⟩, laneEdge_congr rfl rfl lane,
      fun _ he => he⟩) (fun lane h hh => laneEdge_congr rfl rfl lane ▸ hh) ha.generation
  cases h with
  | requeue | oldest => exact hkeep _ _ _
  | @confirm id rest hwork => exact (hkeep rest _ _).quiet (.single (confirm_micro hwork id)) hx
  | @reclaim deadline space =>
    refine ha.frame rfl (fun lane q id hr _ => ?_) (fun lane h hh => ?_) fun sp st q id g hst hl hg => ?_
    · cases lane with
      | feedback => exact ⟨⟨hr.carries, hr.resolve, hr.floor⟩, rfl, fun _ he => he⟩
      | inSpace sp =>
        obtain ⟨⟨st, hst, hl⟩, he⟩ := lookupPacket_eq_some.1 hr.resolve
        have hst0 : s.spaces.lookup sp = some st := lookup_erase_sub hst
        refine ⟨⟨hr.carries, lookupPacket_eq_some.2 ⟨⟨st, hst0, hl⟩, he⟩, hr.floor⟩, ?_, fun _ he => he⟩
        rw [laneEdge_of_lookup hst0]
        exact laneEdge_of_lookup hst
    · cases lane with
      | feedback => exact hh
      | inSpace sp =>
        obtain ⟨st, hst, hst'⟩ := lookup_of_laneEdge hh
        rw [laneEdge_of_lookup (lookup_erase_sub hst), hst']
    · obtain ⟨⟨st', hst', hlook⟩, he⟩ := lookupPacket_eq_some.1 hl
      exact ha.generation sp st q id g (lookup_erase_sub hst)
        (lookupPacket_eq_some.2 ⟨⟨st', lookup_erase_sub hst', hlook⟩, he⟩) hg

end

lemma Chore.not_exhausted (h : Chore s s') (hx : s'.inputs.exhausted = false) : s.inputs.exhausted = false := by
  cases h with
  | requeue | reclaim | oldest => exact hx
  | @confirm id rest hwork =>
    have h : Quiet { s with missing := rest } _ := .single (confirm_micro hwork id)
    have hx1 := not_exhausted_of_steps h hx
    exact hx1

lemma Acked.expires (ha : Acked ret s) (h : Expires s s') (hx : s'.inputs.exhausted = false) : Acked ret s' := by
  induction h with
  | refl => exact ha
  | tail _ h ih =>
    rcases h with h | h
    · exact (ih (not_exhausted_of_steps (.single h) hx)).quiet (.single h) hx
    · exact (ih (h.not_exhausted hx)).chore h hx

lemma Acked.commit {context : SendCommit} (ha : Acked ret s) (hw : Windowed s) (ht : Told ret s)
    (h : Commits s s' context) : Acked ret s' := by
  have hnew : ackCount ret s s.nextSentId = 0 := ht.next _
  refine ha.frame (by rw [h.lists.observations]) (fun lane q id hr hpos => ?_) (fun lane n hn => ?_)
    fun sp st' q id g hst' hl hg => ?_
  · have hne : id ≠ s.nextSentId := by
      rintro rfl
      omega
    obtain ⟨hres, hfl⟩ := (h.resolve hw hr.resolve hr.floor).resolve_left hne
    refine ⟨⟨h.mode ▸ hr.carries, hres, hfl⟩, ?_, fun e he => ((h.entry_cases hw he).resolve_left fun h => hne h.1).2⟩
    cases lane with
    | feedback => exact h.highestFeedbackAcked
    | inSpace sp =>
      obtain ⟨⟨st', hst', -⟩, -⟩ := lookupPacket_eq_some.1 hr.resolve
      obtain ⟨st, st1, hst, hthin, rfl⟩ := h.space hst'
      rw [laneEdge_of_lookup hst', laneEdge_of_lookup hst]
      split
      · have hown : (st1.lastReportGeneration.any fun generation => generation.1 != context.pathEpoch) = false := by
          cases hg : st1.lastReportGeneration with
          | none => rfl
          | some g =>
            have hactive := ha.generation sp st q id g hst hres (hthin.lastReportGeneration ▸ hg)
            rw [h.valid.active] at hactive
            simp [Option.some.inj hactive]
        simp only [spaceAfterCommit, hown]
        exact hthin.highestAckedSequence
      · exact hthin.highestAckedSequence
  · cases lane with
    | feedback => exact h.highestFeedbackAcked.symm.trans hn
    | inSpace sp =>
      obtain ⟨st', hst', hedge⟩ := lookup_of_laneEdge hn
      obtain ⟨st, st1, hst, hthin, rfl⟩ := h.space hst'
      rw [laneEdge_of_lookup hst, ← hthin.highestAckedSequence]
      split at hedge
      · simp only [spaceAfterCommit] at hedge
        split at hedge
        · cases hedge
        · exact hedge
      · exact hedge
  · rw [h.activeEpoch]
    obtain ⟨st, st1, hst, hthin, rfl⟩ := h.space hst'
    split at hg
    · simp only [spaceAfterCommit] at hg
      split at hg
      · cases hg
      next hown =>
        rw [hg] at hown
        simp only [Option.any_some, bne_iff_ne, not_not] at hown
        rw [hown]
        exact h.valid.active
    next hsp =>
      have hres' : s'.resolve (.inSpace sp) _ = some _ := hl
      rcases h.resolve hw hres' nofun with rfl | ⟨hres, -⟩
      · obtain ⟨-, e, he, hes, -⟩ := lookupPacket_eq_some.1 hl
        rw [h.entry_new hw] at he
        cases he
        exact absurd hes.symm hsp
      · exact ha.generation sp st q id g hst hres (hthin.lastReportGeneration ▸ hg)

lemma Acked.unreachable (ha : Acked ret s) (hlist : ret' ++ s'.observations = ret ++ s.observations)
    (hr : ∀ lane q id, ¬ Reaches s' lane q id) (hlook : ∀ sp q, s'.lookupPacket sp q = none)
    (hb : ∀ lane h, s'.laneEdge lane = some h → s.laneEdge lane = some h) : Acked ret' s' := by
  refine ha.frame hlist (fun lane q id h => absurd h (hr lane q id)) hb fun sp st q id g _ hl => ?_
  rw [hlook] at hl
  cases hl

end Acked

end Sender

end Pulsebeam.Feedback
