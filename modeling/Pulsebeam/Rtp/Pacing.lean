import Pulsebeam.Rtp.Truncation

/-! Output timestamps along a slot's emissions: never behind the frontier, and ahead of everything at a burst. -/

namespace Pulsebeam.Rtp

open Pulsebeam.Lib List Option Word Nat OrdSet

abbrev Emission.seq (e : Emission) : ℕ := e.packet.seqNo

abbrev Emission.ts (e : Emission) : ℕ := e.packet.rtpTs.ticks

def AdvancesAt (log : List Emission) (j : ℕ) (hj : j < log.length) : Prop :=
  ∀ i, ∀ h : i < j, (log[i]).seq < (log[j]).seq

def Paced (log : List Emission) : Prop :=
  ∀ j, ∀ hj : j < log.length, ∀ i, ∀ h : i < j,
    (AdvancesAt log i (h.trans hj) → AdvancesAt log j hj → (log[i]).ts ≤ (log[j]).ts) ∧
      ((log[j]).opensBurst = true → (log[i]).ts < (log[j]).ts)

instance (log : List Emission) (j : ℕ) (hj : j < log.length) : Decidable (AdvancesAt log j hj) :=
  inferInstanceAs (Decidable (∀ i, ∀ _ : i < j, _))

instance (log : List Emission) : Decidable (Paced log) := by
  delta Paced
  infer_instance

lemma paced_nil : Paced [] := fun j hj => absurd hj (not_lt_zero j)

lemma Paced.snoc {log : List Emission} {e : Emission} (h : Paced log)
    (hadv : (∀ f ∈ log, f.seq < e.seq) → ∀ f ∈ log, f.ts ≤ e.ts)
    (hburst : e.opensBurst = true → ∀ f ∈ log, f.ts < e.ts) : Paced (log ++ [e]) := by
  intro j hj i hij
  rw [length_append, length_singleton] at hj
  have hi : i < log.length := by omega
  rw [getElem_append_left hi]
  by_cases hlast : j < log.length
  · rw [getElem_append_left hlast]
    obtain ⟨h1, h2⟩ := h j hlast i hij
    refine ⟨fun hai haj => h1 (fun k hk => ?_) (fun k hk => ?_), h2⟩
    · have := hai k hk
      rwa [getElem_append_left hi, getElem_append_left (by omega)] at this
    · have := haj k hk
      rwa [getElem_append_left hlast, getElem_append_left (by omega)] at this
  · obtain rfl : j = log.length := by omega
    rw [getElem_append_right le_rfl]
    simp only [Nat.sub_self]
    refine ⟨fun _ haj => hadv (fun f hf => ?_) _ (getElem_mem hi), fun hb => hburst hb _ (getElem_mem hi)⟩
    obtain ⟨k, hk, rfl⟩ := mem_iff_getElem.1 hf
    have := haj k hk
    rw [getElem_append_left hk] at this
    simpa using this

/-- A well framed stream whose timestamps do not go back along its numbers. -/
structure InTimeOrder (P : RtpPacket → Prop) : Prop extends WellFramed P where
  ordered : ∀ p q, P p → P q → p.seqNo ≤ q.seqNo → p.ticks ≤ q.ticks

namespace Switcher

structure Frontier (s : Switcher) (log : List Emission) (last m : ℕ) : Prop where
  lastOutput : s.lastOutput = some last
  maxOutputTs : s.maxOutputTs = some m
  epoch : s.timeline.epoch.isSome = true
  clock : s.timeline.maxOutputTs = m
  le : ∀ e ∈ log, e.seq ≤ last ∧ e.ts ≤ m
  attained : ∃ e ∈ log, e.seq = last
  attainedTs : ∃ e ∈ log, e.ts = m

structure TsInv (s : Switcher) (log : List Emission) : Prop where
  paced : Paced log
  frontier : (log = [] ∧ s.lastOutput = none ∧ s.maxOutputTs = none ∧ s.timeline.epoch = none) ∨
    ∃ last m, s.Frontier log last m

variable {s s' : Switcher} {log : List Emission} {last : ℕ} {out : RtpPacket} {l : List ℕ} {pkt : RtpPacket}

lemma TsInv.congr (h : TsInv s log) (s' : Switcher) (hl : s'.lastOutput = s.lastOutput) (hm : s'.maxOutputTs = s.maxOutputTs)
    (he : s'.timeline.epoch = s.timeline.epoch) (ht : s'.timeline.maxOutputTs = s.timeline.maxOutputTs) :
    TsInv s' log := by
  refine ⟨h.paced, ?_⟩
  rcases h.frontier with ⟨h1, h2, h3, h4⟩ | ⟨last, m, hf⟩
  · exact .inl ⟨h1, hl.trans h2, hm.trans h3, he.trans h4⟩
  · exact .inr ⟨last, m, hl.trans hf.lastOutput, hm.trans hf.maxOutputTs, by rw [he]; exact hf.epoch, ht.trans hf.clock,
      hf.le, hf.attained, hf.attainedTs⟩

lemma TsInv.retains (h : TsInv s log) (hr : Retains s s') : TsInv s' log :=
  h.congr s' hr.lastOutput hr.maxOutputTs (congrArg _ hr.timeline) (congrArg _ hr.timeline)

lemma TsInv.frontier_of_last (h : TsInv s log) (hl : s.lastOutput = some last) : ∃ m, s.Frontier log last m := by
  rcases h.frontier with ⟨_, h2, _⟩ | ⟨last', m, hf⟩
  · rw [hl] at h2
    cases h2
  · obtain rfl := Option.some.inj (hl.symm.trans hf.lastOutput)
    exact ⟨m, hf⟩

lemma TsInv.emitted {a b : ℕ} {o : Bool} (h : TsInv s log) (he : Emitted s pkt a b s' out)
    (hts : ∀ last m, s.Frontier log last m → a ≤ last ∨ m ≤ b) (ho : o = true → ∀ last m, s.Frontier log last m → m < b) :
    TsInv s' (log ++ [⟨out, o⟩]) := by
  have hseq : out.seqNo = a := he.applied.seqNo
  have hticks : out.rtpTs.ticks = b := he.applied.ticks
  rcases h.frontier with ⟨hnil, hl, hm, hep⟩ | ⟨last, m, hf⟩
  · subst hnil
    refine ⟨h.paced.snoc (fun _ f hf => absurd hf not_mem_nil) (fun _ f hf => absurd hf not_mem_nil),
      .inr ⟨a, b, ?_, ?_, he.applied.epoch, ?_, fun e he' => ?_, ⟨⟨out, o⟩, by simp, hseq⟩, ⟨out, o⟩, by simp, hticks⟩⟩
    · rw [he.lastOutput, hl, maxNoted, getD_none, max_self]
    · rw [he.maxOutputTs, hm, maxNoted, getD_none, max_self]
    · rw [he.applied.maxOutputTs, if_pos hep]
    rw [nil_append, mem_singleton] at he'
    rw [he']
    exact ⟨hseq.le, hticks.le⟩
  · have hne : s.timeline.epoch ≠ none := isSome_iff_ne_none.1 hf.epoch
    refine ⟨h.paced.snoc (fun hadv f hfl => ?_) (fun hb f hfl => ?_), .inr ⟨max last a, max m b, ?_, ?_, he.applied.epoch, ?_,
      fun e he' => ?_, ?_, ?_⟩⟩
    · rcases hts last m hf with hle | hle
      · obtain ⟨g, hg, hgl⟩ := hf.attained
        have := hadv g hg
        rw [hgl] at this
        change last < out.seqNo at this
        omega
      · change f.ts ≤ out.rtpTs.ticks
        rw [hticks]
        exact (hf.le f hfl).2.trans hle
    · change f.ts < out.rtpTs.ticks
      rw [hticks]
      exact (hf.le f hfl).2.trans_lt (ho hb last m hf)
    · rw [he.lastOutput, hf.lastOutput]
      rfl
    · rw [he.maxOutputTs, hf.maxOutputTs]
      rfl
    · rw [he.applied.maxOutputTs, if_neg hne, hf.clock]
    · rcases mem_append.1 he' with he' | he'
      · have := hf.le e he'
        omega
      rw [mem_singleton.1 he']
      change out.seqNo ≤ _ ∧ out.rtpTs.ticks ≤ _
      omega
    · rcases le_total a last with hle | hle
      · obtain ⟨g, hg, hgl⟩ := hf.attained
        exact ⟨g, mem_append_left _ hg, by rw [hgl, max_eq_left hle]⟩
      · exact ⟨⟨out, o⟩, by simp, by rw [max_eq_right hle]; exact hseq⟩
    · rcases le_total b m with hle | hle
      · obtain ⟨g, hg, hgm⟩ := hf.attainedTs
        exact ⟨g, mem_append_left _ hg, by rw [hgm, max_eq_left hle]⟩
      · exact ⟨⟨out, o⟩, by simp, by rw [max_eq_right hle]; exact hticks⟩

lemma TsInv.filled (h : TsInv s log) {m : ℕ} (hf : s.Frontier log last m) (hl : s'.lastOutput = s.lastOutput)
    (hm : s'.maxOutputTs = s.maxOutputTs) (hep : s'.timeline = s.timeline) (hseq : out.seqNo ≤ last)
    (hts : out.rtpTs.ticks ≤ m) : TsInv s' (log ++ [⟨out, false⟩]) := by
  obtain ⟨g, hg, hgl⟩ := hf.attained
  obtain ⟨k, hk, hkm⟩ := hf.attainedTs
  refine ⟨h.paced.snoc (fun hadv f hfl => ?_) nofun, .inr ⟨last, m, hl.trans hf.lastOutput,
    hm.trans hf.maxOutputTs, by rw [hep]; exact hf.epoch, by rw [hep]; exact hf.clock, fun e he => ?_,
    ⟨g, mem_append_left _ hg, hgl⟩, k, mem_append_left _ hk, hkm⟩⟩
  · have := hadv g hg
    change g.seq < out.seqNo at this
    omega
  rcases mem_append.1 he with he | he
  · exact hf.le e he
  · rw [mem_singleton.1 he]
    exact ⟨hseq, hts⟩

lemma plain_append (l l' : List RtpPacket) : plain (l ++ l') = plain l ++ plain l' := map_append

lemma wrappingAdd_mono {a b base : ℕ} (hab : a ≤ b) (hb : b < 2 ^ 62) (ha : Word.wrappingAdd 64 a base < 2 ^ 62) :
    Word.wrappingAdd 64 a base ≤ Word.wrappingAdd 64 b base := by
  rw [wrappingAdd_eq_mod] at *
  rw [wrappingAdd_eq_mod]
  omega

section Behind

/-- Something as late in the stream as number `x` is already out. -/
def Reached (P : RtpPacket → Prop) (tsBase : ℕ) (s : Switcher) (x : ℕ) : Prop :=
  ∃ p, P p ∧ x ≤ p.seqNo ∧ ∃ m, s.maxOutputTs = some m ∧ Word.wrappingAdd 64 p.ticks tsBase ≤ m

variable {P : RtpPacket → Prop} {S : Streams} {base m x : ℕ}

lemma Reached.ticks_le (hP : InTimeOrder P) (hpkt : P pkt) (h : s.Reached P base pkt.seqNo) (hm : s.maxOutputTs = some m)
    (hr : Word.wrappingAdd 64 pkt.ticks base < 2 ^ 62) : Word.wrappingAdd 64 pkt.ticks base ≤ m := by
  obtain ⟨p, hp, hle, m', hm', hpm⟩ := h
  obtain rfl := Option.some.inj (hm.symm.trans hm')
  exact (wrappingAdd_mono (hP.ordered pkt p hpkt hp hle) (hP.ticks p hp) hr).trans hpm

lemma Emitted.reached {a b : ℕ} (he : Emitted s pkt a b s' out) (h : s.Reached P base x) : s'.Reached P base x := by
  obtain ⟨p, hp, hle, m, hm, hpm⟩ := h
  refine ⟨p, hp, hle, _, he.maxOutputTs, hpm.trans ?_⟩
  rw [hm]
  exact le_max_left _ _

/-- Every gap that a late packet may still fill lies behind the frontier, in number and in time. -/
structure Behind (S : Streams) (s : Switcher) : Prop where
  markers : ∀ k, s.lastMarkerOutput = some k → k ≤ s.timeline.maxOutput
  holes : ∀ stream, s.active = some stream → ∀ h ∈ s.activeInputHoles,
    s.timeline.outputSeqOf h ≤ s.timeline.maxOutput ∧ s.Reached (S stream) s.timeline.tsBase h
  next : ∀ stream, s.active = some stream → s.newestFrameLeftOpen = true → ∀ q, S stream q →
    s.timeline.outputSeqOf q.seqNo = s.timeline.maxOutput + 1 → s.Reached (S stream) s.timeline.tsBase q.seqNo
  tail : ∀ t, s.tail = some t → ∃ old, s.draining = some old ∧ ∀ q, S old q →
    Word.wrappingAdd 64 q.seqNo t.seqBase ∈ t.holes → s.Reached (S old) t.tsBase q.seqNo

lemma Behind.retains (h : Behind S s) (hr : Retains s s') : Behind S s' := by
  have ht := hr.timeline
  have hreached : ∀ {P base x}, s.Reached P base x → s'.Reached P base x := fun h => by rwa [Reached, hr.maxOutputTs]
  have hopen : s'.newestFrameLeftOpen = s.newestFrameLeftOpen := by
    simp only [newestFrameLeftOpen, hr.lastOutput, hr.lastMarkerOutput]
  refine ⟨fun k hk => ht ▸ h.markers k (hr.lastMarkerOutput ▸ hk), fun stream hs x hx => ?_, fun stream hs ho q hq hqs => ?_,
    fun t htx => ?_⟩
  · rw [ht]
    exact (h.holes stream (hr.active ▸ hs) x (hr.activeInputHoles x hx)).imp_right hreached
  · rw [ht] at hqs ⊢
    exact hreached (h.next stream (hr.active ▸ hs) (hopen ▸ ho) q hq hqs)
  · rcases hr.tail with hnone | ⟨htail, hd⟩
    · rw [hnone] at htx
      cases htx
    obtain ⟨old, hold, hq⟩ := h.tail t (htail ▸ htx)
    exact ⟨old, hd.trans hold, fun q hqS hmem => hreached (hq q hqS hmem)⟩

lemma Behind.tail_mono (h : Behind S s) (hd : s'.draining = s.draining) (htail : s'.tail = s.tail)
    (hreached : ∀ {P base x}, s.Reached P base x → s'.Reached P base x) (t : Tail) (ht : s'.tail = some t) :
    ∃ old, s'.draining = some old ∧ ∀ q, S old q →
      Word.wrappingAdd 64 q.seqNo t.seqBase ∈ t.holes → s'.Reached (S old) t.tsBase q.seqNo := by
  obtain ⟨old, hold, hq⟩ := h.tail t (htail ▸ ht)
  exact ⟨old, hd.trans hold, fun q hqS hmem => hreached (hq q hqS hmem)⟩

lemma SameRoles.reached (hs : SameRoles s s') (h : s.Reached P base x) : s'.Reached P base x := by
  rwa [Reached, hs.maxOutputTs]

lemma Emitted.marker_le {a b n : ℕ} (he : Emitted s pkt a b s' out) (h : ∀ k, s.lastMarkerOutput = some k → k ≤ n)
    (ha : a ≤ n) : ∀ k, s'.lastMarkerOutput = some k → k ≤ n := by
  intro k hk
  rw [he.lastMarkerOutput] at hk
  split at hk
  · rw [← Option.some.inj hk, maxNoted]
    cases hlm : s.lastMarkerOutput with
    | none => simpa using ha
    | some j => exact max_le (h j hlm) ha
  · exact h k hk

-- A packet past every marker closes its frame with its own, so the frame is open only without it.
lemma Emitted.closed {a b : ℕ} (he : Emitted s pkt a b s' out) (hk : ∀ k, s.lastMarkerOutput = some k → k ≤ a)
    (hl : ∀ last, s.lastOutput = some last → last ≤ a) (hm : pkt.marker = true) : s'.newestFrameLeftOpen = false := by
  have hnoted : ∀ o : Option ℕ, (∀ k, o = some k → k ≤ a) → maxNoted o a = a := by
    intro o ho
    cases o with
    | none => simp [maxNoted]
    | some k => exact max_eq_right (ho k rfl)
  simp [newestFrameLeftOpen, he.lastOutput, he.lastMarkerOutput, hm, hnoted _ hk, hnoted _ hl]

end Behind

structure PaceInv (S : Streams) (s : Switcher) (log : List Emission) : Prop where
  ts : TsInv s log
  behind : Behind S s

section Pull

lemma breakSequence_clock :
    (s.breakSequence pkt).timeline.epoch = s.timeline.epoch ∧
      (s.breakSequence pkt).timeline.maxOutputTs = s.timeline.maxOutputTs ∧
      (s.breakSequence pkt).timeline.tsBase = s.timeline.tsBase ∧
      (s.hidesTruncation pkt = false → (s.breakSequence pkt).timeline.seqBase = s.timeline.seqBase) := by
  rw [breakSequence]
  split
  next hh => exact ⟨rfl, rfl, rfl, fun hn => by rw [hh] at hn; cases hn⟩
  · exact ⟨rfl, rfl, rfl, fun _ => rfl⟩

lemma shed_clock : s.shed.timeline.epoch = s.timeline.epoch ∧ s.shed.timeline.maxOutputTs = s.timeline.maxOutputTs := by
  rw [shed]
  split <;> exact ⟨rfl, rfl⟩

lemma pullPacket_tsInv (h : TsInv s log) : TsInv (s.pullPacket pkt).1 (log ++ plain (s.pullPacket pkt).2) := by
  rw [pullPacket]
  split
  · simpa [plain] using h.retains (advanceCursor_retains s pkt.seqNo)
  next hback =>
    obtain ⟨hr, hrt⟩ := recordInputHoles_same s pkt.seqNo
    have hrec : TsInv _ log := h.congr _ hr.lastOutput hr.maxOutputTs (congrArg _ hrt) (congrArg _ hrt)
    simp only
    split
    · have hs := shed_same (s.recordInputHoles pkt.seqNo)
      obtain ⟨hc1, hc2⟩ := shed_clock
      have hshed := hrec.congr _ hs.lastOutput hs.maxOutputTs hc1 hc2
      simpa [plain] using hshed.retains (advanceCursor_retains _ pkt.seqNo)
    · have hb := breakSequence_same (s.recordInputHoles pkt.seqNo) pkt
      obtain ⟨hc1, hc2, hc3, hc4⟩ := breakSequence_clock
      have hbroken := hrec.congr _ hb.lastOutput hb.maxOutputTs hc1 hc2
      have hem := emitRewritten_emitted ((s.recordInputHoles pkt.seqNo).breakSequence pkt) pkt
      refine (hbroken.emitted hem (fun last m hf => ?_) (fun ho => by cases ho)).retains (advanceCursor_retains _ _)
      have hlast : s.lastOutput = some last := by rw [← hr.lastOutput, ← hb.lastOutput, hf.lastOutput]
      have hmax : s.maxOutputTs = some m := by rw [← hr.maxOutputTs, ← hb.maxOutputTs, hf.maxOutputTs]
      have hbt : ((s.recordInputHoles pkt.seqNo).breakSequence pkt).timeline.outputTsOf pkt.rtpTs.ticks =
          s.timeline.outputTsOf pkt.rtpTs.ticks := by
        rw [Timeline.outputTsOf, Timeline.outputTsOf, hc3, hrt]
      rw [hbt]
      -- A packet past the frontier and behind it in time was dropped above.
      simp only [dropBackward, hlast, hmax, all_some, any_some, Bool.and_eq_true, decide_eq_true_eq, not_and,
        not_lt] at hback
      by_cases hh : (s.recordInputHoles pkt.seqNo).hidesTruncation pkt = true
      · simp only [hidesTruncation, Bool.and_eq_true, hr.lastOutput, hr.maxOutputTs, hlast, hmax, hrt, any_some,
          decide_eq_true_eq] at hh
        exact .inr hh.1.2.le
      have hseq : ((s.recordInputHoles pkt.seqNo).breakSequence pkt).timeline.outputSeqOf pkt.seqNo =
          s.timeline.outputSeqOf pkt.seqNo := by
        rw [Timeline.outputSeqOf, Timeline.outputSeqOf, hc4 (by simpa using hh), hrt]
      rw [hseq]
      rcases lt_or_ge last _ with hlt | hge
      · exact .inr (hback hlt)
      · exact .inl hge

/-- The packet is shed with a gap right before it while the newest frame that went out is incomplete. -/
def shedsOverGap (s : Switcher) (pkt : RtpPacket) : Bool :=
  !s.dropBackward pkt && s.selector.decide pkt == .drop && !s.atCleanFrameBoundary &&
    s.nextExpectedInput.any fun expected => decide (expected < pkt.seqNo ∧ pkt.seqNo - expected ≤ maxTrackedHoles)

variable {S : Streams} {stream : StreamId} {cache : StreamCache} {E : List RtpPacket} {i : ℕ}

lemma recordInputHoles_eq (hgap : s.shedsOverGap pkt = false) (hback : ¬ s.dropBackward pkt = true)
    (hdrop : s.selector.decide pkt = .drop) (hclean : ¬ s.atCleanFrameBoundary = true) :
    s.recordInputHoles pkt.seqNo = s := by
  simp only [shedsOverGap, hback, hdrop, hclean, Bool.not_false, beq_self_eq_true, Bool.and_self, Bool.true_and] at hgap
  rw [recordInputHoles]
  split
  next expected he =>
    rw [he, any_some, decide_eq_false_iff_not] at hgap
    rw [if_neg hgap]
  · rfl

lemma Behind.shed (h : Behind S s) (hgap : s.shedsOverGap pkt = false) (hback : ¬ s.dropBackward pkt = true)
    (hdrop : (s.recordInputHoles pkt.seqNo).selector.decide pkt = .drop) :
    Behind S (s.recordInputHoles pkt.seqNo).shed := by
  obtain ⟨hr, hrt⟩ := recordInputHoles_same s pkt.seqNo
  by_cases hclean : (s.recordInputHoles pkt.seqNo).atCleanFrameBoundary = true
  · have hsame := hr.trans (shed_same _)
    have hclosed : (s.recordInputHoles pkt.seqNo).newestFrameLeftOpen = false := by
      rw [atCleanFrameBoundary, Bool.and_eq_true, Bool.not_eq_true'] at hclean
      exact hclean.1
    have hopen : (s.recordInputHoles pkt.seqNo).shed.newestFrameLeftOpen = false := by
      simpa only [newestFrameLeftOpen, (shed_same _).lastOutput, (shed_same _).lastMarkerOutput] using hclosed
    refine ⟨fun k hk => ?_, fun _ _ x hx => ?_, fun _ _ ho => ?_, h.tail_mono hsame.draining hsame.tail hsame.reached⟩
    · rw [Switcher.shed, if_pos hclean]
      exact hrt ▸ h.markers k (hsame.lastMarkerOutput ▸ hk)
    · rw [Switcher.shed, if_pos hclean] at hx
      exact absurd hx not_mem_empty
    · exact absurd (ho.symm.trans hopen) (by decide)
  · have hunclean : ¬ s.atCleanFrameBoundary = true := by
      simpa only [atCleanFrameBoundary, newestFrameLeftOpen, hr.lastOutput, hr.lastMarkerOutput, hr.holes,
        hr.frameStartOutput] using hclean
    have heq := recordInputHoles_eq hgap hback (hr.selector ▸ hdrop) hunclean
    rw [Switcher.shed, if_neg hclean, heq]
    exact h

lemma pullPacket_behind (hP : InTimeOrder (S stream)) {l : List RtpPacket} (hpl : Pulling (S stream) stream s E (pkt :: l))
    (h : Behind S s) (hbound : Bounded (s.pullPacket pkt).2) (hgap : s.shedsOverGap pkt = false) :
    Behind S (s.pullPacket pkt).1 := by
  obtain ⟨hs, ha, -, c, hc, hahead⟩ := hpl
  obtain ⟨hpkt, hi⟩ := hahead pkt mem_cons_self
  obtain ⟨b, hl⟩ := hs.live c hc
  have hlt := hP.seqNo pkt hpkt
  rw [pullPacket] at hbound ⊢
  split
  · exact h.retains (advanceCursor_retains s _)
  next hback =>
    rw [if_neg hback] at hbound
    simp only at hbound ⊢
    split
    next hdrop =>
      exact (h.shed hgap hback hdrop).retains (advanceCursor_retains _ _)
    next hforward =>
      rw [hforward] at hbound
      obtain ⟨b', hb', hbase, hsteps, hep, hmax, -, -⟩ := breakSequence_spec hs hl hi rfl hlt
      have hsame := (recordInputHoles_same s pkt.seqNo).1.trans (breakSequence_same _ pkt)
      set s1 := (s.recordInputHoles pkt.seqNo).breakSequence pkt
      have hem := emitRewritten_emitted s1 pkt
      have hbl := hl.base_le
      have hah := hl.ahead
      have hM := hs.max_lt
      have hout : ((s1.timeline.outputSeqOf pkt.seqNo : ℕ) : ℤ) = pkt.seqNo + b' :=
        hbase.wrappingAdd_eq (by omega) (by omega)
      have hnewest : (s1.emitRewritten pkt).1.timeline.maxOutput = s1.timeline.outputSeqOf pkt.seqNo := by
        rw [hem.maxOutput (by rw [hep]; exact hl.epoch)]
        omega
      have hrange : s1.timeline.outputSeqOf pkt.seqNo < 2 ^ 62 := hem.applied.seqNo ▸ hbound _ mem_cons_self
      have hmarkers : ∀ k, s1.lastMarkerOutput = some k → k ≤ s1.timeline.outputSeqOf pkt.seqNo := fun k hk => by
        have := h.markers k (hsame.lastMarkerOutput ▸ hk)
        omega
      have hact : (s1.emitRewritten pkt).1.active = some stream := hem.active.trans (hsame.active.trans ha)
      refine Behind.retains (s := (s1.emitRewritten pkt).1) ⟨?_, fun stream' hs' x hx => ?_, fun stream' hs' ho q hq hqs => ?_,
        h.tail_mono (hem.draining.trans hsame.draining) (hem.tail.trans hsame.tail) fun hx => hem.reached (hsame.reached hx)⟩
        (advanceCursor_retains _ _)
      · rw [hnewest]
        exact hem.marker_le hmarkers le_rfl
      · obtain rfl := Option.some.inj (hact.symm.trans hs')
        obtain ⟨hxi, hbb, h0, -⟩ := hsteps.holes hs hl hi x (hem.activeInputHoles ▸ hx)
        refine ⟨?_, pkt, hpkt, hxi.le, _, hem.maxOutputTs, ?_⟩
        · have hxout : ((s1.timeline.outputSeqOf x : ℕ) : ℤ) = x + b' := hbase.wrappingAdd_eq (by omega) (by omega)
          rw [hnewest, Timeline.outputSeqOf, hem.applied.seqBase]
          change s1.timeline.outputSeqOf x ≤ _
          omega
        · rw [hem.applied.tsBase]
          exact le_max_right _ _
      · obtain rfl := Option.some.inj (hact.symm.trans hs')
        -- The frame is still open, so the packet has no marker and the next number is of the same frame.
        have hnext : q.seqNo = pkt.seqNo + 1 := by
          have hqlt := hP.seqNo q hq
          rw [hnewest, Timeline.outputSeqOf, hem.applied.seqBase, Timeline.outputSeqOf] at hqs
          rw [Timeline.outputSeqOf] at hrange
          rw [wrappingAdd_eq_mod] at hqs hrange
          rw [wrappingAdd_eq_mod] at hqs
          omega
        have hunmarked : ¬ pkt.ticks < q.ticks := fun hts => by
          have hclosed := hem.closed hmarkers (fun last hlast => ?_) (hP.marked pkt q hpkt hq hnext hts)
          · rw [ho] at hclosed
            cases hclosed
          · rw [hsame.lastOutput, hs.lastOutput hl.epoch] at hlast
            have := Option.some.inj hlast
            omega
        have hsameTs : q.ticks = pkt.ticks := le_antisymm (not_lt.1 hunmarked) (hP.ordered pkt q hpkt hq (by omega))
        refine ⟨q, hq, le_rfl, _, hem.maxOutputTs, ?_⟩
        rw [hsameTs, hem.applied.tsBase]
        exact le_max_right _ _

lemma backfillHole_paced {B : RtpPacket → Prop} (hw : cache.packets.Holds (S stream))
    (hf : Filling stream s E (i :: l)) (hts : TsInv s log)
    (h : Behind S s) : Gives B (PaceInv S) log (backfillHole cache s i) := by
  obtain ⟨hs, ha, -, hholes⟩ := hf
  obtain ⟨c, hc, b, hl⟩ := hs.joined ha
  rw [backfillHole]
  split
  · exact gives_nil ⟨hts, h⟩
  next pkt hget =>
    obtain rfl := (hw.packet i pkt hget).2
    have hem := emitRewritten_emitted s pkt
    have hle := (h.holes stream ha _ (hholes _ mem_cons_self)).1
    have hlast := hs.lastOutput hl.epoch
    have hmax : (s.emitRewritten pkt).1.timeline.maxOutput = s.timeline.maxOutput := by
      rw [hem.maxOutput hl.epoch, max_eq_left hle]
    have hr : Retains (s.emitRewritten pkt).1 { (s.emitRewritten pkt).1 with
        activeInputHoles := (s.emitRewritten pkt).1.activeInputHoles.erase pkt.seqNo } :=
      { Rests.refl _ with activeInputHoles := fun x hx => (mem_erase.1 hx).1 }
    refine fun _ => ⟨(hts.emitted (o := false) hem (fun last m hf => .inl ?_) (fun ho => by cases ho)).retains hr,
      Behind.retains ⟨?_, fun stream' hs' x hx => ?_, fun stream' hs' ho q hq hqs => ?_,
        h.tail_mono hem.draining hem.tail hem.reached⟩ hr⟩
    · rw [Option.some.inj (hf.lastOutput.symm.trans hlast)]
      exact hle
    · rw [hmax]
      exact hem.marker_le h.markers hle
    · rw [hmax, Timeline.outputSeqOf, hem.applied.seqBase, hem.applied.tsBase]
      exact (h.holes stream' (hem.active ▸ hs') x (hem.activeInputHoles ▸ hx)).imp_right hem.reached
    · rw [hmax, Timeline.outputSeqOf, hem.applied.seqBase] at hqs
      rw [hem.applied.tsBase]
      refine hem.reached (h.next stream' (hem.active ▸ hs') ?_ q hq hqs)
      by_contra hclosed
      have hmk : s.lastMarkerOutput = some s.timeline.maxOutput := by
        simpa [newestFrameLeftOpen, hlast] using hclosed
      simp [newestFrameLeftOpen, hem.lastOutput, hem.lastMarkerOutput, hlast, hmk, maxNoted, hle] at ho

end Pull

section Drain

variable {S : Streams} {old : StreamId} {tail : Tail} {cache : StreamCache} {E : List RtpPacket} {x : ℕ}

lemma drainHole_paced (hw : cache.packets.Holds (S old)) (hP : InTimeOrder (S old))
    (hd : Draining old tail s E (x :: l)) (hts : TsInv s log) (h : Behind S s) :
    Gives InRange (PaceInv S) log (drainHole cache tail s x) := by
  obtain ⟨hs, hdr, -, t, ht, hb, hbt, hholes⟩ := hd
  have hx := hholes x mem_cons_self
  rw [drainHole]
  split
  · exact gives_nil ⟨hts, h⟩
  next pkt hget =>
    intro hr
    obtain ⟨hpkt, hseq⟩ := hw.packet _ pkt hget
    obtain ⟨h1, h2, -⟩ := stragglerOut_fields
    obtain ⟨hx62, hts62⟩ : InRange (stragglerOut tail pkt x) := hr.packets _ (by simp)
    rw [h1] at hx62
    rw [RtpPacket.ticks, h2] at hts62
    obtain ⟨stream, ha, -⟩ := hs.active_of_tail ht
    obtain ⟨c, hc, b, hl⟩ := hs.joined ha
    obtain ⟨m, hf⟩ := hts.frontier_of_last (hs.lastOutput hl.epoch)
    refine ⟨hts.filled hf rfl rfl rfl ?_ ?_, h.markers, h.holes, h.next, fun t' ht' => ?_⟩
    · rw [h1]
      exact_mod_cast hs.le x (.inr ⟨t, ht, x, hx, rfl⟩)
    · rw [h2]
      obtain ⟨old', hold, htail⟩ := h.tail t ht
      obtain rfl := Option.some.inj (hdr.symm.trans hold)
      refine Reached.ticks_le hP hpkt (hbt ▸ htail pkt hpkt ?_) hf.maxOutputTs hts62
      rwa [hseq, hb, wrappingAdd_comm, wrappingAdd_wrappingSub 64 (by omega)]
    · rw [closeHole, ht] at ht'
      obtain rfl := Option.some.inj ht'
      obtain ⟨old', hold, htail⟩ := h.tail t ht
      exact ⟨old', hold, fun q hq hmem => htail q hq (mem_erase.1 hmem).1⟩

end Drain

section Burst

lemma lt_switchTarget {t : Timeline} (h : t.maxOutputTs < 2 ^ 62) {rawTarget : ℕ} (hraw : rawTarget < 2 ^ 64) :
    t.maxOutputTs < t.switchTarget rawTarget ∧ t.switchTarget rawTarget < 2 ^ 64 := by
  simp only [Timeline.switchTarget]
  split
  · have hadv : 1 ≤ t.minSwitchAdvance := le_max_right _ _
    simp only [Word.saturatingAdd, Word.max]
    omega
  next interval hint =>
    have hpos : 0 < interval := by simpa using filter_eq_some_iff.1 hint |>.2
    set frames := max _ 1
    have hframes : 1 ≤ frames := le_max_right _ _
    have hmul : 1 ≤ frames * interval := Nat.mul_pos hframes hpos
    simp only [Word.saturatingAdd, Word.saturatingMul, Word.max]
    omega

lemma wrap_lt {n : ℕ} : Word.wrap 64 n < 2 ^ 64 := by
  rw [wrap_eq_mod]
  exact mod_lt _ (by decide)

lemma lt_outputTsOf_rebase {t : Timeline} (h : t.maxOutputTs < 2 ^ 62) (hep : t.epoch.isSome = true) :
    t.maxOutputTs < (t.rebase pkt).outputTsOf pkt.rtpTs.ticks := by
  obtain ⟨⟨epochAt, epochTs⟩, he⟩ := isSome_iff_exists.1 hep
  obtain ⟨h1, h2⟩ := lt_switchTarget h (wrap_lt)
  simp only [Timeline.outputTsOf, Timeline.rebase, he]
  rw [wrappingAdd_wrappingSub]
  · exact h1
  · exact h2

variable {now : Instant} {rest : List RtpPacket} {first : RtpPacket}

lemma prepareBurst_clock {newCursor : ℕ} :
    let s' := s.prepareBurst now first newCursor
    s'.lastOutput = s.lastOutput ∧ s'.maxOutputTs = s.maxOutputTs ∧ s'.timeline.epoch = s.timeline.epoch ∧
      s'.timeline.maxOutputTs = s.timeline.maxOutputTs ∧
      (s.timeline.epoch.isSome = true → s.timeline.maxOutputTs < 2 ^ 62 →
        s.timeline.maxOutputTs < s'.timeline.outputTsOf first.rtpTs.ticks) := by
  have hres : s.reserveHole.1.lastOutput = s.lastOutput ∧ s.reserveHole.1.maxOutputTs = s.maxOutputTs ∧
      s.reserveHole.1.timeline.epoch = s.timeline.epoch ∧
      s.reserveHole.1.timeline.maxOutputTs = s.timeline.maxOutputTs := by
    rw [reserveHole]
    split
    · split <;> exact ⟨rfl, rfl, rfl, rfl⟩
    · exact ⟨rfl, rfl, rfl, rfl⟩
  obtain ⟨h1, h2, h3, h4⟩ := hres
  have htl : (s.prepareBurst now first newCursor).timeline = s.reserveHole.1.timeline.rebase first := by
    simp only [prepareBurst]
    split <;> rfl
  have hlast : (s.prepareBurst now first newCursor).lastOutput = s.reserveHole.1.lastOutput ∧
      (s.prepareBurst now first newCursor).maxOutputTs = s.reserveHole.1.maxOutputTs := by
    simp only [prepareBurst]
    split <;> exact ⟨rfl, rfl⟩
  refine ⟨hlast.1.trans h1, hlast.2.trans h2, by rw [htl]; exact h3, by rw [htl]; exact h4, fun hep hlt => ?_⟩
  rw [htl, ← h4]
  exact lt_outputTsOf_rebase (h4 ▸ hlt) (h3 ▸ hep)

def BurstPaced (l : List RtpPacket) : Prop :=
  l.IsChain (fun a b => a.rtpTs.ticks ≤ b.rtpTs.ticks) ∧ ∀ p ∈ l, p.rtpTs.ticks < 2 ^ 62

def TsBounded (l : List RtpPacket) : Prop := ∀ p ∈ l, p.rtpTs.ticks < 2 ^ 62

lemma emitEach_burst_tsInv (prev : RtpPacket) (h : TsInv s log) {m : ℕ}
    (hf : s.Frontier log last m) (hm : m = s.timeline.outputTsOf prev.rtpTs.ticks) (hmlt : m < 2 ^ 62)
    (hl : BurstPaced (prev :: rest)) (hbound : TsBounded (emitEach emitBurstPacket s rest).2) :
    TsInv (emitEach emitBurstPacket s rest).1 (log ++ plain (emitEach emitBurstPacket s rest).2) := by
  induction rest generalizing s log prev last m with
  | nil => simpa [emitEach, plain] using h
  | cons p rest ih =>
    have hstep : emitEach emitBurstPacket s (p :: rest) =
        ((emitEach emitBurstPacket (s.emitSequential p).1 rest).1,
          [(s.emitSequential p).2] ++ (emitEach emitBurstPacket (s.emitSequential p).1 rest).2) := rfl
    rw [hstep] at hbound ⊢
    simp only [plain_append, ← append_assoc]
    have hem := emitSequential_emitted s p
    obtain ⟨hchain, hlt⟩ := hl
    obtain ⟨hle, hchain⟩ := isChain_cons_cons.1 hchain
    have hts : m ≤ s.timeline.outputTsOf p.rtpTs.ticks := by
      rw [hm] at hmlt ⊢
      exact wrappingAdd_mono hle (hlt p (by simp)) hmlt
    have hnext := h.emitted (o := false) hem (fun last' m' hf' => by
      obtain rfl := Option.some.inj (hf.maxOutputTs.symm.trans hf'.maxOutputTs)
      exact .inr hts) fun h => by cases h
    have hout : (s.emitSequential p).2.rtpTs.ticks < 2 ^ 62 := hbound _ (by simp)
    rw [hem.applied.ticks] at hout
    obtain ⟨m', hf'⟩ := hnext.frontier_of_last hem.lastOutput
    have hm' : m' = s.timeline.outputTsOf p.rtpTs.ticks := by
      have hmax := hf'.maxOutputTs.symm.trans hem.maxOutputTs
      rw [hf.maxOutputTs] at hmax
      rw [Option.some.inj hmax, maxNoted, getD_some, max_eq_right hts]
    refine ih p hnext hf' ?_ (by omega) ⟨hchain, fun q hq => hlt q (mem_cons_of_mem _ hq)⟩
      fun q hq => hbound q (mem_append_right _ hq)
    rw [hm', Timeline.outputTsOf, Timeline.outputTsOf, hem.applied.tsBase]

lemma land_tsInv (h : TsInv s log) (hlog : TsBounded (log.map (·.packet))) (hl : BurstPaced (first :: rest))
    (hbound : TsBounded (s.land now first rest).2) :
    TsInv (s.land now first rest).1 (log ++ burstEmissions (s.land now first rest).2) := by
  simp only [land] at hbound ⊢
  set newCursor := ((first :: rest).getLast _).seqNo
  set s0 := s.prepareBurst now first newCursor
  obtain ⟨h1, h2, h3, h4, h5⟩ := prepareBurst_clock
  have hstep : emitEach emitBurstPacket s0 (first :: rest) =
      ((emitEach emitBurstPacket (s0.emitSequential first).1 rest).1,
        (s0.emitSequential first).2 :: (emitEach emitBurstPacket (s0.emitSequential first).1 rest).2) := rfl
  rw [hstep] at hbound ⊢
  simp only [burstEmissions]
  rw [append_cons]
  have hem := emitSequential_emitted s0 first
  have hahead : ∀ last m, s0.Frontier log last m → m < s0.timeline.outputTsOf first.rtpTs.ticks := fun last m hf => by
    obtain ⟨e, he, hem⟩ := hf.attainedTs
    have hlt : s.timeline.maxOutputTs < 2 ^ 62 := by
      rw [← h4, hf.clock, ← hem]
      exact hlog _ (mem_map_of_mem he)
    have hgt := h5 (by rw [← h3]; exact hf.epoch) hlt
    rwa [← h4, hf.clock] at hgt
  have hfirst := (h.congr _ h1 h2 h3 h4).emitted (o := true) hem (fun last m hf => .inr (hahead last m hf).le)
    fun _ => hahead
  obtain ⟨m, hf⟩ := hfirst.frontier_of_last hem.lastOutput
  have hm : m = s0.timeline.outputTsOf first.rtpTs.ticks := by
    have hmax := Option.some.inj (hf.maxOutputTs.symm.trans hem.maxOutputTs)
    rw [hmax, maxNoted]
    rcases (h.congr _ h1 h2 h3 h4).frontier with ⟨_, _, hnone, _⟩ | ⟨last, m0, hf0⟩
    · rw [hnone, getD_none, max_self]
    · rw [hf0.maxOutputTs, getD_some, max_eq_right (hahead last m0 hf0).le]
  have hout : (s0.emitSequential first).2.rtpTs.ticks < 2 ^ 62 := hbound _ (by simp)
  rw [hem.applied.ticks] at hout
  refine (emitEach_burst_tsInv first hfirst hf ?_ (by omega) hl fun q hq => hbound q (mem_cons_of_mem _ hq)).congr _
    rfl rfl rfl rfl
  rw [hm, Timeline.outputTsOf, Timeline.outputTsOf, hem.applied.tsBase]

variable {S : Streams} {E : List RtpPacket}

lemma emitSequential_seq (h : BurstInv s E) : Word.wrappingAdd 64 s.timeline.maxOutput 1 = s.timeline.maxOutput + 1 := by
  have hM := h.max_lt
  exact wrappingAdd_of_lt (by omega)

-- A replay ends in a marker, so the frame is closed when nothing is left to emit.
lemma emitEach_burst_closed (h : BurstInv s (log.map (·.packet)))
    (hk : ∀ k, s.lastMarkerOutput = some k → k ≤ s.timeline.maxOutput) (hlast : ∃ p, rest.getLast? = some p ∧ p.marker = true)
    (hbound : Bounded (log.map (·.packet) ++ (emitEach emitBurstPacket s rest).2)) :
    let r := (emitEach emitBurstPacket s rest).1
    (∀ k, r.lastMarkerOutput = some k → k ≤ r.timeline.maxOutput) ∧ r.newestFrameLeftOpen = false ∧
      ∀ P base x, s.Reached P base x → r.Reached P base x := by
  have hB : Within (·.seqNo < 2 ^ 62) (log ++ plain (emitEach emitBurstPacket s rest).2) := by
    rwa [Within, map_append, map_packet_plain]
  obtain ⟨-, hk', hreached, hclosed⟩ := emitEach_rule (I := fun s' log (l : List RtpPacket) =>
    BurstInv s' (log.map (·.packet)) ∧ (∀ k, s'.lastMarkerOutput = some k → k ≤ s'.timeline.maxOutput) ∧
      (∀ P base x, s.Reached P base x → s'.Reached P base x) ∧
      (s'.newestFrameLeftOpen = false ∧ l = [] ∨ ∃ p, l.getLast? = some p ∧ p.marker = true)) (by
    rintro s' log p l ⟨hb, hk, hreached, hlast⟩ hB
    have hem := emitSequential_emitted s' p
    obtain ⟨hb', hlo, -⟩ := emitSequential_burstInv hb p (hB.packets _ (mem_append_right _ mem_cons_self))
    rw [emitSequential_seq hb] at hem
    have hmax : (s'.emitSequential p).1.timeline.maxOutput = s'.timeline.maxOutput + 1 := by
      rw [hem.applied.maxOutput]
      split <;> omega
    have hle : ∀ k, s'.lastMarkerOutput = some k → k ≤ s'.timeline.maxOutput + 1 := fun k hk' => (hk k hk').trans (le_succ _)
    rw [map_append, map_packet_plain]
    refine ⟨hb', fun k hk' => hmax ▸ hem.marker_le hle le_rfl k hk', fun P base x hx => hem.reached (hreached P base x hx), ?_⟩
    obtain ⟨hmarked, hnil⟩ | ⟨last, hlast, hm⟩ := hlast
    · cases hnil
    cases l with
    | nil =>
      obtain rfl := Option.some.inj hlast
      exact .inl ⟨hem.closed hle (fun last hl => (hb.last last hl).trans (le_succ _)) hm, rfl⟩
    | cons q l => exact .inr ⟨last, by rwa [getLast?_cons_cons] at hlast, hm⟩)
    ⟨h, hk, fun _ _ _ hx => hx, .inr hlast⟩ hB
  refine ⟨hk', ?_, hreached⟩
  rcases hclosed with hclosed | ⟨p, hp, -⟩
  · exact hclosed.1
  · cases hp

lemma Behind.holesBehind (hs : SeqInv s E) (h : Behind S s) : s.HolesBehind := by
  intro x hx
  have hfloor : s.timeline.maxOutput ≤ s.burstFloor := by
    rw [burstFloor_eq hs]
    split <;> omega
  cases hact : s.active with
  | none => exact absurd hx ((hs.inactive hact).1 x)
  | some stream => exact (h.holes stream hact x hx).1.trans hfloor

lemma newestFrameLeftOpen_of_reserved {x : ℕ} (h : s.reserveHole.2 = some x) : s.newestFrameLeftOpen = true := by
  rw [reserveHole] at h
  split at h
  · split at h
    next hopen => exact hopen
    · cases h
  · cases h

lemma prepareBurst_reached (hS : ∀ stream, WellFramed (S stream)) (hs : SeqInv s E) (h : Behind S s) {newCursor : ℕ}
    {t : Tail} (ht : (s.prepareBurst now first newCursor).tail = some t) :
    ∃ old, s.active = some old ∧ ∀ q, S old q →
      Word.wrappingAdd 64 q.seqNo t.seqBase ∈ t.holes → s.Reached (S old) t.tsBase q.seqNo := by
  obtain ⟨old, hact, hbase, hts, hholes⟩ := (prepareBurst_roles hs).2.2 t ht
  obtain ⟨c, -, b, hl⟩ := hs.joined hact
  refine ⟨old, hact, fun q hq hmem => ?_⟩
  rw [hts]
  rcases hholes _ hmem with ⟨y, hy, hqy⟩ | hr
  · have hclt := hl.cursor_lt
    have hyc := (hl.holes y hy).1
    have hqlt := (hS old).seqNo q hq
    obtain rfl : q.seqNo = y := by
      rw [hbase, Timeline.outputSeqOf, wrappingAdd_eq_mod, wrappingAdd_eq_mod] at hqy
      omega
    exact (h.holes old hact _ hy).2
  · obtain ⟨-, -, -, -, -, -, hnone | hsome⟩ := reserveHole_spec hs
    · rw [hnone.1] at hr
      cases hr
    · refine h.next old hact (newestFrameLeftOpen_of_reserved hr) q hq ?_
      rw [Timeline.outputSeqOf, ← hbase, Option.some.inj (hr.symm.trans hsome.1)]

lemma land_behind (hS : ∀ stream, WellFramed (S stream)) (hs : SeqInv s (log.map (·.packet))) (h : Behind S s)
    (hlast : ∃ p, (first :: rest).getLast? = some p ∧ p.marker = true)
    (hbound : Bounded (log.map (·.packet) ++ (s.land now first rest).2)) :
    Behind S (s.land now first rest).1 := by
  simp only [land] at hbound ⊢
  set newCursor := ((first :: rest).getLast _).seqNo
  have hb := prepareBurst_burstInv hs (h.holesBehind hs) now first newCursor
  have htail : ∀ t, (s.prepareBurst now first newCursor).tail = some t → _ := fun t => prepareBurst_reached hS hs h
  obtain ⟨hmo, -, -, -, hh0, -⟩ := prepareBurst_fields s now first newCursor
  obtain ⟨hm0, hd0, -⟩ := prepareBurst_roles hs
  obtain ⟨-, hts0, -⟩ := prepareBurst_clock
  set s0 := s.prepareBurst now first newCursor
  have hk0 : ∀ k, s0.lastMarkerOutput = some k → k ≤ s0.timeline.maxOutput := fun k hk => by
    have hle := h.markers k (hm0 ▸ hk)
    rw [hmo, reserveHole_maxOutput, burstFloor_eq hs]
    split <;> omega
  obtain ⟨hk, hclosed, hreached⟩ := emitEach_burst_closed hb hk0 hlast hbound
  have hsame := emitEach_sameStream s0 (first :: rest)
  set r := emitEach emitBurstPacket s0 _
  refine ⟨hk, fun _ _ x hx => ?_, fun _ _ ho => absurd (ho.symm.trans hclosed) (by decide), fun t ht => ?_⟩
  · rw [hsame.activeInputHoles] at hx
    exact absurd hx (hh0 ▸ not_mem_empty)
  · obtain ⟨old, hold, hq⟩ := htail t (hsame.tail ▸ ht)
    refine ⟨old, (hsame.draining.trans hd0).trans hold, fun q hqS hmem => hreached _ _ _ ?_⟩
    have hfrom := hq q hqS hmem
    rwa [Reached, ← hts0] at hfrom

end Burst

/-- No packet that a feed pulls is shed with a gap right before it while the newest frame that went out is incomplete. -/
def GapsKept (s : Switcher) (trackId : TrackId) (cache : TrackStreamCache) (_now : Instant) : Prop :=
  ∀ encoding ∈ roleCache s.active trackId cache, s.pulls (fun s pkt => !s.shedsOverGap pkt) (s.liveRange encoding) = true

instance (s : Switcher) (trackId : TrackId) (cache : TrackStreamCache) (now : Instant) :
    Decidable (s.GapsKept trackId cache now) :=
  inferInstanceAs (Decidable (∀ encoding ∈ roleCache s.active trackId cache, _ = true))

lemma paceInv_new {S : Streams} (rate : Frequency) (base : ℕ) : PaceInv S (new rate base) [] where
  ts := ⟨paced_nil, .inl ⟨rfl, rfl, rfl, rfl⟩⟩
  behind := ⟨fun k hk => (by cases hk), fun _ hs => (by cases hs), fun _ hs => (by cases hs), fun _ ht => (by cases ht)⟩

lemma kept_paceInv {S : Streams} (hS : ∀ stream, InTimeOrder (S stream)) :
    Kept S InRange (fun s pkt => !s.shedsOverGap pkt) (fun _ => True) (PaceInv S) where
  seqNo stream := (hS stream).seqNo
  below _ hp := hp.1
  rests hr h := ⟨h.ts.retains hr.toRetains, h.behind.retains hr.toRetains⟩
  stop h := ⟨h.ts.congr _ rfl rfl rfl rfl, h.behind.markers, fun _ hs => (by cases hs), fun _ hs => (by cases hs),
    fun _ ht => (by cases ht)⟩
  pull hpl h hgap hB := ⟨pullPacket_tsInv h.ts,
    pullPacket_behind (hS _) hpl h.behind (fun p hp => (hB.packets p (mem_append_right _ hp)).1) (by simpa using hgap)⟩
  fill hw hf h := backfillHole_paced hw hf h.ts h.behind
  drain hw hd h := drainHole_paced hw (hS _) hd h.ts h.behind
  blocked h := h
  behind hs h _ := h.behind.holesBehind hs
  land {stream cache s log now first rest} hfed hreplay hs h _ hB := by
    obtain ⟨rate, hrate⟩ := (hS stream).clock
    obtain ⟨sets, run, segment, start, hburst⟩ :=
      hfed.decodable hrate (fun p hp => ((hS stream).seqNo p hp).trans (by decide)) (hS stream).unique hreplay
    have hticks := hburst.ticks_lt fun k p hk => (hS stream).ticks p (hfed.holds.packet k p hk).1
    rw [Within, map_append, map_packet_burstEmissions] at hB
    exact ⟨land_tsInv h.ts (fun p hp => (hB p (mem_append_left _ hp)).2)
      ⟨hburst.follows.imp fun _ _ hf => hf.1, hticks⟩ fun p hp => (hB p (mem_append_right _ hp)).2,
      land_behind (fun stream => (hS stream).toWellFramed) hs h.behind hburst.last fun p hp => (hB p hp).1⟩

end Switcher

namespace Slot

theorem output_paced (S : Streams) (rate : Frequency) (hS : ∀ stream, InTimeOrder (S stream)) (slot : Slot)
    (h : (machine S rate InRange (OnFeed Switcher.GapsKept)).Reachable slot) : Paced slot.log := by
  refine ((Switcher.kept_paceInv hS).reachable (fun base => Switcher.paceInv_new rate base) (fun s op hop => ?_) h).2.ts.paced
  cases op with
  | feed trackId cache now => exact ⟨hop, fun _ => trivial⟩
  | _ => trivial

lemma inTimeOrder_ofList {trackId : TrackId} {l : List (SourceEncoding × RtpPacket)}
    (hframed : ∀ stream, WellFramed (Streams.ofList trackId l stream))
    (hord : ∀ x ∈ l, ∀ y ∈ l, x.1 = y.1 → x.2.seqNo ≤ y.2.seqNo → x.2.ticks ≤ y.2.ticks) (stream : StreamId) :
    InTimeOrder (Streams.ofList trackId l stream) :=
  ⟨hframed stream, fun _ _ hp hq => hord _ hp.2 _ hq.2 rfl⟩

def straySplicePushes : List (SourceEncoding × RtpPacket) :=
  [(lowEncoding, slotKeyframe 100 3000), (lowEncoding, slotPacket 101 6000 false true),
   (lowEncoding, slotPacket 106 9000 true false), (highEncoding, slotKeyframe 500 12000),
   (lowEncoding, slotPacket 105 6000 true true)]

def straySpliceOps : List SlotOp :=
  [.switchTo (slotTrack, lowEncoding), feedFirst straySplicePushes 1 0, .setDecodeTarget (.target 0),
   feedFirst straySplicePushes 2 1, feedFirst straySplicePushes 3 2, .switchTo (slotTrack, highEncoding),
   feedFirst straySplicePushes 4 3, feedFirst straySplicePushes 4 20, feedFirst straySplicePushes 5 21]

lemma feasible_straySpliceOps : ∀ op ∈ straySpliceOps, Feasible (Streams.ofList slotTrack straySplicePushes) op := by
  simp [straySpliceOps]

theorem output_goes_back : ∃ (S : Streams) (slot : Slot), (∀ stream, InTimeOrder (S stream)) ∧
    (machine S .ninetyKhz InRange fun _ _ => True).Reachable slot ∧
    slot.log.map (fun e => (e.seq, e.ts, e.opensBurst)) =
      [(1, 3000, true), (2, 6000, false), (4, 11999, true), (6, 6000, false)] ∧
    ¬ Paced slot.log := by
  refine ⟨Streams.ofList slotTrack straySplicePushes, slotStart.run straySpliceOps,
    inTimeOrder_ofList (wellFramed_ofList .ninetyKhz (by decide) (by decide)) (by decide),
    reachable_run (.init ⟨0, by decide, rfl⟩) feasible_straySpliceOps (by decide +kernel) (along_true _ _),
    by decide +kernel, by decide +kernel⟩

theorem output_paced_clean :
    (slotStart.run cleanOps).log.map (fun e => (e.seq, e.ts, e.opensBurst)) =
      [(1, 3000, true), (2, 6000, false), (4, 6000, false), (3, 6000, false), (5, 11999, true)] ∧
    Paced (slotStart.run cleanOps).log := by
  refine ⟨by decide +kernel, ?_⟩
  exact output_paced _ .ninetyKhz (inTimeOrder_ofList (wellFramed_ofList .ninetyKhz (by decide) (by decide)) (by decide)) _
    (reachable_run (.init ⟨0, by decide, rfl⟩) feasible_cleanOps (by decide +kernel) (by decide +kernel))

end Slot

end Pulsebeam.Rtp
