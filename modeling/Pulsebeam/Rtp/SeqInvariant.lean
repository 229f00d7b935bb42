import Pulsebeam.Rtp.Replay
import Pulsebeam.Rtp.Slot

/-! Where output sequence numbers may still land: the invariant of one slot, and every step but the switch. -/

namespace Pulsebeam.Rtp

open Pulsebeam.Lib List Option OrdSet

namespace Switcher

def Bounded (E : List RtpPacket) : Prop := ∀ p ∈ E, p.seqNo < 2 ^ 62

def Taken (s : Switcher) (E : List RtpPacket) (x : ℤ) : Prop :=
  (∃ p ∈ E, (p.seqNo : ℤ) = x) ∨ ∃ t, s.tail = some t ∧ ∃ y ∈ t.holes, (y : ℤ) = x

structure Live (s : Switcher) (E : List RtpPacket) (c : ℕ) (b : ℤ) : Prop where
  base : Word.Displaces 64 s.timeline.seqBase b
  cursor_lt : c < 2 ^ 62
  expected : s.nextExpectedInput = some (c + 1)
  ahead : (s.timeline.maxOutput : ℤ) ≤ c + b
  base_le : b ≤ s.timeline.maxOutput
  epoch : s.timeline.epoch.isSome = true
  holes : ∀ h ∈ s.activeInputHoles, h ≤ c ∧ 0 ≤ h + b ∧ ¬ s.Taken E (h + b)

structure Numbered (s : Switcher) (E : List RtpPacket) : Prop where
  nodup : (E.map (·.seqNo)).Nodup
  le : ∀ x, s.Taken E x → x ≤ s.timeline.maxOutput
  tail : ∀ t, s.tail = some t → ∀ x ∈ t.holes, ∀ p ∈ E, p.seqNo ≠ x

structure SeqInv (s : Switcher) (E : List RtpPacket) : Prop extends Numbered s E where
  max_lt : s.timeline.maxOutput < 2 ^ 62
  frontier : s.lastOutput = if s.timeline.epoch.isSome then some s.timeline.maxOutput else none
  cursor : s.active.isSome = s.activeCursor.isSome
  idle : s.activeCursor = none → (∀ x, x ∉ s.activeInputHoles) ∧ s.tail = none
  live : ∀ c, s.activeCursor = some c → ∃ b, s.Live E c b

variable {E : List RtpPacket} {s : Switcher}

lemma Live.outputSeqOf {c : ℕ} {b : ℤ} (h : s.Live E c b)
    (hm : s.timeline.maxOutput < 2 ^ 62) {i : ℕ} (hi : i < 2 ^ 62) (h0 : 0 ≤ i + b) :
    ((s.timeline.outputSeqOf i : ℕ) : ℤ) = i + b := by
  have hb := h.base_le
  exact h.base.wrappingAdd_eq h0 (by omega)

lemma SeqInv.joined {stream : StreamId} (h : SeqInv s E) (ha : s.active = some stream) :
    ∃ c, s.activeCursor = some c ∧ ∃ b, s.Live E c b := by
  have hcur := h.cursor
  rw [ha, eq_comm] at hcur
  obtain ⟨c, hc⟩ := isSome_iff_exists.1 hcur
  exact ⟨c, hc, h.live c hc⟩

lemma SeqInv.inactive (h : SeqInv s E) (ha : s.active = none) : (∀ x, x ∉ s.activeInputHoles) ∧ s.tail = none := by
  have hcur := h.cursor
  rw [ha, isSome_none, eq_comm, isSome_eq_false_iff, isNone_iff_eq_none] at hcur
  exact h.idle hcur

lemma seqInv_new (rate : Frequency) {base : ℕ} (hb : base < 2 ^ 16) : SeqInv (new rate base) [] where
  nodup := nodup_nil
  le x hx := by
    rcases hx with ⟨p, hp, _⟩ | ⟨t, ht, _⟩
    · cases hp
    · cases ht
  tail t ht := by cases ht
  max_lt := by
    change base < 2 ^ 62
    omega
  frontier := rfl
  cursor := rfl
  idle _ := ⟨fun _ => not_mem_empty, rfl⟩
  live c hc := by cases hc

lemma seqInv_stop (h : SeqInv s E) : SeqInv s.stop E where
  nodup := h.nodup
  le x hx := by
    rcases hx with hx | ⟨t, ht, _⟩
    · exact h.le x (.inl hx)
    · cases ht
  tail t ht := by cases ht
  max_lt := h.max_lt
  frontier := h.frontier
  cursor := rfl
  idle _ := ⟨fun _ => not_mem_empty, rfl⟩
  live c hc := by cases hc

lemma SeqInv.rests {s s' : Switcher} (h : SeqInv s E) (hr : Rests s s') : SeqInv s' E := by
  have htail : ∀ t, s'.tail = some t → s.tail = some t := fun t ht => by
    rcases hr.tail with hnone | ⟨heq, -⟩
    · rw [hnone] at ht
      cases ht
    · exact heq ▸ ht
  have htaken : ∀ x, s'.Taken E x → s.Taken E x := fun x hx =>
    hx.imp_right fun ⟨t, ht, hy⟩ => ⟨t, htail t ht, hy⟩
  have ht := hr.timeline
  refine ⟨⟨h.nodup, fun x hx => ht ▸ h.le x (htaken x hx), fun t htx => h.tail t (htail t htx)⟩, ht ▸ h.max_lt,
    by rw [hr.lastOutput, ht]; exact h.frontier, by rw [hr.active, hr.activeCursor]; exact h.cursor, fun hn => ?_,
    fun c hcur => ?_⟩
  · obtain ⟨h1, h2⟩ := h.idle (hr.activeCursor ▸ hn)
    exact ⟨fun x hx => h1 x (hr.activeInputHoles x hx), hr.tail.elim id fun heq => heq.1.trans h2⟩
  · obtain ⟨b, hb⟩ := h.live c (hr.activeCursor ▸ hcur)
    exact ⟨b, ht ▸ hb.base, hb.cursor_lt, hr.nextExpectedInput ▸ hb.expected, ht ▸ hb.ahead, ht ▸ hb.base_le, ht ▸ hb.epoch,
      fun x hx => by
        obtain ⟨h1, h2, h3⟩ := hb.holes x (hr.activeInputHoles x hx)
        exact ⟨h1, h2, fun htk => h3 (htaken _ htk)⟩⟩

variable {cache : StreamCache} {x : ℕ} {l : List ℕ}

section Pull

variable {s s' : Switcher} {E : List RtpPacket} {c i : ℕ} {b b' : ℤ} {out pkt : RtpPacket}

def StepsOver (s s' : Switcher) (c i : ℕ) (b b' : ℤ) : Prop :=
  ∀ h ∈ s'.activeInputHoles, b' = b ∧ (h ∈ s.activeInputHoles ∨ c < h ∧ h < i)

lemma Live.not_taken_of_lt (h : SeqInv s E) (hl : s.Live E c b) (hx : c < x) : ¬ s.Taken E (x + b) := fun ht => by
  have h1 := h.le _ ht
  have h2 := hl.ahead
  omega

lemma StepsOver.holes (h : SeqInv s E) (hl : s.Live E c b) (hi : c < i) (hs : StepsOver s s' c i b b') :
    ∀ x ∈ s'.activeInputHoles, x < i ∧ b' = b ∧ 0 ≤ x + b ∧ ¬ s.Taken E (x + b) := fun x hx => by
  obtain ⟨hb, hx | hx⟩ := hs x hx
  · obtain ⟨h1, h2, h3⟩ := hl.holes x hx
    exact ⟨by omega, hb, h2, h3⟩
  · have h1 := hl.ahead
    exact ⟨hx.2, hb, by omega, hl.not_taken_of_lt h hx.1⟩

lemma taken_congr (ht : s'.tail = s.tail) {x : ℤ} : s'.Taken E x ↔ s.Taken E x := by
  rw [Taken, Taken, ht]

lemma SeqInv.skip (h : SeqInv s E) (s' : Switcher) (b' : ℤ) (hl : s.Live E c b) (hi : c < i) (hlt : i < 2 ^ 62)
    (hmax : s'.timeline.maxOutput = s.timeline.maxOutput) (hep : s'.timeline.epoch = s.timeline.epoch)
    (ht : s'.tail = s.tail) (hlast : s'.lastOutput = s.lastOutput) (ha : s'.active = s.active)
    (hc : s'.activeCursor = some i) (he : s'.nextExpectedInput = some (i + 1)) (hsc : s.activeCursor = some c)
    (hbase : Word.Displaces 64 s'.timeline.seqBase b') (hb : b' = b ∨ b' = b - 1) (hs : StepsOver s s' c i b b') :
    SeqInv s' E where
  nodup := h.nodup
  le x hx := hmax ▸ h.le x ((taken_congr ht).1 hx)
  tail t htx := h.tail t (ht ▸ htx)
  max_lt := hmax ▸ h.max_lt
  frontier := by rw [hlast, hmax, hep]; exact h.frontier
  cursor := by rw [ha, h.cursor, hsc, hc]; rfl
  idle hn := by rw [hc] at hn; cases hn
  live c' hc' := by
    obtain rfl : i = c' := Option.some.inj (hc.symm.trans hc')
    have hah := hl.ahead
    have hbl := hl.base_le
    refine ⟨b', hbase, hlt, he, ?_, ?_, by rw [hep]; exact hl.epoch, fun x hx => ?_⟩
    · omega
    · omega
    · obtain ⟨h1, h2, h3, h4⟩ := hs.holes h hl hi x hx
      rw [h2, taken_congr ht]
      exact ⟨h1.le, h3, h4⟩

lemma nodup_snoc (h : (E.map (·.seqNo)).Nodup) (hout : ∀ p ∈ E, p.seqNo ≠ out.seqNo) :
    ((E ++ [out]).map (·.seqNo)).Nodup := by
  rw [map_append, nodup_append]
  refine ⟨h, nodup_singleton _, fun x hx y hy => ?_⟩
  obtain ⟨p, hp, rfl⟩ := mem_map.1 hx
  rw [map_singleton, mem_singleton] at hy
  exact hy ▸ hout p hp

lemma taken_snoc (ht : s'.tail = s.tail) {x : ℤ} : s'.Taken (E ++ [out]) x ↔ s.Taken E x ∨ (out.seqNo : ℤ) = x := by
  simp only [Taken, ht, mem_append, mem_singleton]
  constructor
  · rintro (⟨p, hp | rfl, hx⟩ | hx)
    · exact .inl (.inl ⟨p, hp, hx⟩)
    · exact .inr hx
    · exact .inl (.inr hx)
  · rintro ((⟨p, hp, hx⟩ | hx) | hx)
    · exact .inl ⟨p, .inl hp, hx⟩
    · exact .inr hx
    · exact .inl ⟨out, .inr rfl, hx⟩

lemma Numbered.snoc (h : Numbered s E) (ht : s'.tail = s.tail) (hfresh : ¬ s.Taken E out.seqNo)
    (hmax : s.timeline.maxOutput ≤ s'.timeline.maxOutput) (hout : out.seqNo ≤ s'.timeline.maxOutput) :
    Numbered s' (E ++ [out]) := by
  refine ⟨nodup_snoc h.nodup fun p hp he => hfresh (.inl ⟨p, hp, by rw [he]⟩), fun x hx => ?_, fun t htx x hx p hp => ?_⟩
  · rcases (taken_snoc ht).1 hx with hx | hx
    · have := h.le x hx
      omega
    · omega
  · rcases mem_append.1 hp with hp | hp
    · exact h.tail t (ht ▸ htx) x hx p hp
    rw [mem_singleton.1 hp]
    rintro rfl
    exact hfresh (.inr ⟨t, ht ▸ htx, _, hx, rfl⟩)

lemma SeqInv.emitAhead (h : SeqInv s E) (s' : Switcher) (hl : s.Live E c b) (hi : c < i) (hlt : i < 2 ^ 62)
    (hbound : out.seqNo < 2 ^ 62) (hout : (out.seqNo : ℤ) = i + b') (hmax : s'.timeline.maxOutput = out.seqNo)
    (hep : s'.timeline.epoch.isSome = true) (ht : s'.tail = s.tail) (hlast : s'.lastOutput = some out.seqNo)
    (ha : s'.active = s.active) (hc : s'.activeCursor = some i) (he : s'.nextExpectedInput = some (i + 1))
    (hsc : s.activeCursor = some c) (hbase : Word.Displaces 64 s'.timeline.seqBase b') (hb : b' = b ∨ b' = b + 1)
    (hs : StepsOver s s' c i b b') : SeqInv s' (E ++ [out]) := by
  have hah := hl.ahead
  have hfresh : ¬ s.Taken E out.seqNo := fun htk => by
    have := h.le _ htk
    omega
  refine ⟨h.snoc ht hfresh (by omega) hmax.ge, hmax ▸ hbound, by rw [hlast, hmax, hep]; rfl,
    by rw [ha, h.cursor, hsc, hc]; rfl, fun hn => ?_, fun c' hc' => ?_⟩
  · rw [hc] at hn
    cases hn
  · obtain rfl : i = c' := Option.some.inj (hc.symm.trans hc')
    refine ⟨b', hbase, hlt, he, ?_, ?_, hep, fun x hx => ?_⟩
    · omega
    · omega
    · obtain ⟨h1, h2, h3, h4⟩ := hs.holes h hl hi x hx
      rw [h2, taken_snoc ht]
      refine ⟨h1.le, h3, fun htk => ?_⟩
      rcases htk with htk | htk
      · exact h4 htk
      · omega

lemma pullPacket_shed (h : SeqInv s E) (hc : s.activeCursor = some c) (hl : s.Live E c b) (hi : c < i) (hlt : i < 2 ^ 62) :
    SeqInv ((s.recordInputHoles i).shed.advanceCursor i) E := by
  obtain ⟨hr, hrt⟩ := recordInputHoles_same s i
  have hh := shed_same (s.recordInputHoles i)
  have he := (hh.nextExpectedInput.trans hr.nextExpectedInput).trans hl.expected
  -- Shed: renumbered around at a clean boundary, left as a gap otherwise.
  by_cases hclean : (s.recordInputHoles i).atCleanFrameBoundary = true
  · have hshed : (s.recordInputHoles i).shed = { s.recordInputHoles i with
        activeInputHoles := .empty, timeline := (s.recordInputHoles i).timeline.dropInput } := by
      rw [shed, if_pos hclean]
    have htl : ((s.recordInputHoles i).shed.advanceCursor i).timeline = s.timeline.dropInput := by
      rw [hshed, ← hrt]
      rfl
    have hd := Timeline.dropInput_fields s.timeline
    refine h.skip _ _ hl hi hlt
      (by rw [htl, hd.1]) (by rw [htl, hd.2.1]) (hh.tail.trans hr.tail)
      (hh.lastOutput.trans hr.lastOutput) (hh.active.trans hr.active) rfl (advanceCursor_nextExpectedInput he hi hlt) hc
      (by rw [htl]; exact hl.base.wrappingSub_left 1) (.inr rfl) fun x hx => ?_
    rw [hshed] at hx
    exact absurd hx not_mem_empty
  · have hshed : (s.recordInputHoles i).shed = s.recordInputHoles i := by rw [shed, if_neg hclean]
    have htl : ((s.recordInputHoles i).shed.advanceCursor i).timeline = s.timeline := by
      rw [hshed, ← hrt]
      rfl
    refine h.skip _ b hl hi hlt
      (congrArg Timeline.maxOutput htl) (congrArg Timeline.epoch htl) (hh.tail.trans hr.tail)
      (hh.lastOutput.trans hr.lastOutput) (hh.active.trans hr.active) rfl (advanceCursor_nextExpectedInput he hi hlt) hc
      (by rw [htl]; exact hl.base) (.inl rfl) fun x hx => ?_
    rw [hshed] at hx
    exact ⟨rfl, mem_recordInputHoles hl.expected hx⟩

lemma breakSequence_spec (h : SeqInv s E) (hl : s.Live E c b) (hi : c < i) (hpkt : pkt.seqNo = i) (hlt : i < 2 ^ 62) :
    let s1 := (s.recordInputHoles i).breakSequence pkt
    ∃ b', (b' = b ∨ b' = b + 1) ∧ Word.Displaces 64 s1.timeline.seqBase b' ∧ StepsOver s s1 c i b b' ∧
      s1.timeline.epoch = s.timeline.epoch ∧ s1.timeline.maxOutput < i + b' ∧
      s1.timeline.tsBase = s.timeline.tsBase ∧ (b' = b + 1 → s.lastOutput = some s.timeline.maxOutput ∧
        i + b = s.timeline.maxOutput + 1 ∧ s.newestFrameLeftOpen = true) := by
  obtain ⟨hr, hrt⟩ := recordInputHoles_same s i
  have hah := hl.ahead
  rw [breakSequence]
  split
  next hhides =>
    obtain ⟨he, hm, hs, hts⟩ := Timeline.skipLiveSequence_fields (s.recordInputHoles i).timeline 1
    have hmax := h.max_lt
    simp only [hidesTruncation, Bool.and_eq_true] at hhides
    obtain ⟨⟨hopen, _⟩, hnext⟩ := hhides
    have hf := h.frontier
    rw [hl.epoch, if_pos rfl] at hf
    have hlast : Word.wrappingAdd 64 s.timeline.maxOutput 1 = s.timeline.maxOutput + 1 :=
      Word.wrappingAdd_of_lt (by omega)
    rw [hr.lastOutput, hf, any_some, beq_iff_eq, hrt, hpkt] at hnext
    have hout := hl.outputSeqOf h.max_lt hlt (by omega)
    refine ⟨b + 1, .inr rfl, ?_, fun x hx => absurd hx not_mem_empty, he.trans (congrArg _ hrt), ?_,
      hts.trans (congrArg _ hrt), fun _ => ⟨hf, by omega, ?_⟩⟩
    · rw [hrt]
      exact hl.base.wrappingAdd_left 1
    · rw [hm, hrt]
      omega
    · simpa only [newestFrameLeftOpen, hr.lastOutput, hr.lastMarkerOutput] using hopen
  · refine ⟨b, .inl rfl, by rw [hrt]; exact hl.base, fun x hx => ⟨rfl, mem_recordInputHoles hl.expected hx⟩,
      congrArg _ hrt, ?_, congrArg _ hrt, fun hb => by omega⟩
    rw [hrt]
    omega

lemma Emitted.maxOutput {y : ℕ} (he : Emitted s pkt x y s' out) (hep : s.timeline.epoch.isSome = true) :
    s'.timeline.maxOutput = max s.timeline.maxOutput x := by
  rw [he.applied.maxOutput, if_neg]
  exact isSome_iff_ne_none.1 hep

lemma SeqInv.lastOutput (h : SeqInv s E) (hep : s.timeline.epoch.isSome = true) :
    s.lastOutput = some s.timeline.maxOutput := by
  rw [h.frontier, if_pos hep]

lemma pullPacket_forward (h : SeqInv s E) (hc : s.activeCursor = some c) (hl : s.Live E c b) (hi : c < i)
    (hlt : i < 2 ^ 62) (hpkt : pkt.seqNo = i) : let s1 := (s.recordInputHoles i).breakSequence pkt
    (s1.emitRewritten pkt).2.seqNo < 2 ^ 62 →
      SeqInv ((s1.emitRewritten pkt).1.advanceCursor i) (E ++ [(s1.emitRewritten pkt).2]) := by
  intro s1 hbound
  obtain ⟨hr, hrt⟩ := recordInputHoles_same s i
  have hk : SameRoles _ s1 := breakSequence_same _ _
  obtain ⟨b', hb', hbase, hsteps, hep, hmax, -, -⟩ := breakSequence_spec h hl hi hpkt hlt
  change (s1.timeline.maxOutput : ℤ) < i + b' at hmax
  have hem := emitRewritten_emitted s1 pkt
  have hbl := hl.base_le
  have hah := hl.ahead
  have hM := h.max_lt
  have hlast : s1.lastOutput = some s.timeline.maxOutput :=
    (hk.lastOutput.trans hr.lastOutput).trans (h.lastOutput hl.epoch)
  have hout : ((s1.timeline.outputSeqOf pkt.seqNo : ℕ) : ℤ) = i + b' := by
    rw [hpkt]
    exact hbase.wrappingAdd_eq (by omega) (by omega)
  have hseq := hem.applied.seqNo
  have hep1 : s1.timeline.epoch.isSome = true := by
    rw [hep]
    exact hl.epoch
  refine h.emitAhead _ hl hi hlt hbound (by rw [hseq, hout]) ?_
    hem.applied.epoch (hem.tail.trans (hk.tail.trans hr.tail)) ?_ (hem.active.trans (hk.active.trans hr.active)) rfl
    (advanceCursor_nextExpectedInput ?_ hi hlt) hc ?_ hb' ?_
  · change (s1.emitRewritten pkt).1.timeline.maxOutput = _
    rw [hem.maxOutput hep1]
    omega
  · change (s1.emitRewritten pkt).1.lastOutput = _
    rw [hem.lastOutput, hlast, maxNoted, getD_some]
    congr 1
    omega
  · rw [hem.nextExpectedInput, hk.nextExpectedInput, hr.nextExpectedInput, hl.expected]
  · change Word.Displaces 64 (s1.emitRewritten pkt).1.timeline.seqBase b'
    rw [hem.applied.seqBase]
    exact hbase
  · intro x hx
    refine hsteps x ?_
    exact hx

lemma pullPacket_seqInv (h : SeqInv s E) (hc : s.activeCursor = some c) (hi : c < pkt.seqNo) (hlt : pkt.seqNo < 2 ^ 62)
    (hbound : Bounded (s.pullPacket pkt).2) :
    SeqInv (s.pullPacket pkt).1 (E ++ (s.pullPacket pkt).2) ∧ (s.pullPacket pkt).1.activeCursor = some pkt.seqNo := by
  obtain ⟨b, hl⟩ := h.live c hc
  rw [pullPacket] at hbound ⊢
  split
  · rw [append_nil]
    refine ⟨h.skip _ b hl hi hlt rfl rfl rfl rfl rfl rfl
      (advanceCursor_nextExpectedInput hl.expected hi hlt) hc hl.base (.inl rfl) fun x hx => ⟨rfl, .inl hx⟩, rfl⟩
  next hback =>
    rw [if_neg hback] at hbound
    simp only at hbound ⊢
    split
    · rw [append_nil]
      exact ⟨pullPacket_shed h hc hl hi hlt, rfl⟩
    next hd =>
      rw [hd] at hbound
      exact ⟨pullPacket_forward h hc hl hi hlt rfl (hbound _ (by simp)), rfl⟩

lemma pullPacket_active (s : Switcher) (pkt : RtpPacket) : (s.pullPacket pkt).1.active = s.active := by
  have hr := (recordInputHoles_same s pkt.seqNo).1
  rw [pullPacket]
  split
  · rfl
  simp only
  split
  · exact (shed_same _).active.trans hr.active
  · exact (breakSequence_same _ pkt).active.trans hr.active

structure Pulling (P : RtpPacket → Prop) (stream : StreamId) (s : Switcher) (E l : List RtpPacket) : Prop where
  inv : SeqInv s E
  active : s.active = some stream
  sorted : l.Pairwise fun p q => p.seqNo < q.seqNo
  ahead : ∃ c, s.activeCursor = some c ∧ ∀ p ∈ l, P p ∧ c < p.seqNo

variable {P : RtpPacket → Prop} {stream : StreamId}

lemma Pulling.step (hP : ∀ p, P p → p.seqNo < 2 ^ 62) {l : List RtpPacket} (h : Pulling P stream s E (pkt :: l))
    (hbound : Bounded (s.pullPacket pkt).2) :
    Pulling P stream (s.pullPacket pkt).1 (E ++ (s.pullPacket pkt).2) l := by
  obtain ⟨hs, ha, hsorted, c, hc, hl⟩ := h
  obtain ⟨hp, hpl⟩ := pairwise_cons.1 hsorted
  obtain ⟨hpP, hcp⟩ := hl pkt mem_cons_self
  obtain ⟨hnext, hcur⟩ := pullPacket_seqInv hs hc hcp (hP pkt hpP) hbound
  exact ⟨hnext, (pullPacket_active s pkt).trans ha, hpl, _, hcur, fun q hq => ⟨(hl q (mem_cons_of_mem pkt hq)).1, hp q hq⟩⟩

lemma SeqInv.pulling (h : SeqInv s E) (hw : cache.packets.Holds P) (ha : s.active = some stream) :
    Pulling P stream s E (s.liveRange cache) := by
  obtain ⟨c, hc, b, hl⟩ := h.joined ha
  have hclt := hl.cursor_lt
  have hrange : s.liveRange cache = cache.rangeAfter c := by simp only [liveRange, hc]
  obtain ⟨hmem, hsorted⟩ := StreamCache.rangeAfter_spec hw c (by omega)
  rw [hrange]
  exact ⟨h, ha, hsorted, c, hc, hmem⟩

structure Filling (stream : StreamId) (s : Switcher) (E : List RtpPacket) (l : List ℕ) : Prop where
  inv : SeqInv s E
  active : s.active = some stream
  nodup : l.Nodup
  holes : ∀ x ∈ l, x ∈ s.activeInputHoles

lemma Filling.step (hw : cache.packets.Holds P) (hf : Filling stream s E (i :: l))
    (hbound : Bounded (backfillHole cache s i).2) :
    Filling stream (backfillHole cache s i).1 (E ++ (backfillHole cache s i).2) l := by
  obtain ⟨h, ha, hnd, hholes⟩ := hf
  obtain ⟨hnot, hnd⟩ := nodup_cons.1 hnd
  have hi := hholes i mem_cons_self
  obtain ⟨c, hc, b, hl⟩ := h.joined ha
  rw [backfillHole] at hbound ⊢
  split
  · exact ⟨by rwa [append_nil], ha, hnd, fun x hx => hholes x (mem_cons_of_mem i hx)⟩
  next pkt hget =>
    have hseq := (hw.packet i pkt hget).2
    rw [hget] at hbound
    obtain ⟨hle, h0, hfree⟩ := hl.holes i hi
    have hem := emitRewritten_emitted s pkt
    have hclt := hl.cursor_lt
    have hah := hl.ahead
    have hM := h.max_lt
    have hout : ((s.emitRewritten pkt).2.seqNo : ℤ) = i + b := by
      rw [hem.applied.seqNo, hseq]
      exact hl.outputSeqOf h.max_lt (by omega) h0
    have hlt : (s.emitRewritten pkt).2.seqNo < 2 ^ 62 := hbound _ (by simp)
    have hmax := hem.maxOutput hl.epoch
    rw [← hem.applied.seqNo] at hmax
    refine ⟨⟨h.snoc hem.tail (hout ▸ hfree) (le_max_left _ _ |>.trans hmax.ge) (le_max_right _ _ |>.trans hmax.ge), ?_, ?_, ?_,
      fun hn => ?_, fun c' hc' => ?_⟩, hem.active.trans ha, hnd, fun x hx => ?_⟩
    · change (s.emitRewritten pkt).1.timeline.maxOutput < _
      omega
    · rw [if_pos hem.applied.epoch, hmax, hem.lastOutput, h.lastOutput hl.epoch]
      rfl
    · exact h.cursor
    · exact absurd ((hem.activeCursor.trans hc).symm.trans hn) (by simp)
    · obtain rfl : c = c' := Option.some.inj ((hem.activeCursor.trans hc).symm.trans hc')
      refine ⟨b, ?_, hclt, hem.nextExpectedInput.trans hl.expected, ?_, ?_, hem.applied.epoch, fun x hx => ?_⟩
      · rw [hem.applied.seqBase]
        exact hl.base
      · change ((s.emitRewritten pkt).1.timeline.maxOutput : ℤ) ≤ c + b
        omega
      · change b ≤ ((s.emitRewritten pkt).1.timeline.maxOutput : ℤ)
        omega
      · obtain ⟨hx', hne⟩ := mem_erase.1 hx
        obtain ⟨h1, h2, h3⟩ := hl.holes x (hem.activeInputHoles ▸ hx')
        refine ⟨h1, h2, fun htk => ?_⟩
        rcases (taken_snoc hem.tail).1 htk with htk | htk
        · exact h3 htk
        · omega
    · refine mem_erase.2 ⟨hem.activeInputHoles ▸ hholes x (mem_cons_of_mem i hx), ?_⟩
      rintro rfl
      exact hnot hx

lemma SeqInv.filling (h : SeqInv s E) (ha : s.active = some stream) : Filling stream s E s.activeInputHoles.elems :=
  ⟨h, ha, s.activeInputHoles.nodup, fun _ hx => hx⟩

end Pull

section Drain

variable {s : Switcher} {E : List RtpPacket} {t : Tail}

structure Draining (old : StreamId) (tail : Tail) (s : Switcher) (E : List RtpPacket) (l : List ℕ) : Prop where
  inv : SeqInv s E
  draining : s.draining = some old
  nodup : l.Nodup
  tail : ∃ t, s.tail = some t ∧ t.seqBase = tail.seqBase ∧ t.tsBase = tail.tsBase ∧ ∀ x ∈ l, x ∈ t.holes

variable {old : StreamId} {tail : Tail}

lemma Draining.step (cache : StreamCache) (hd : Draining old tail s E (x :: l)) :
    Draining old tail (drainHole cache tail s x).1 (E ++ (drainHole cache tail s x).2) l := by
  obtain ⟨h, hdr, hnd, t, ht, hbase, hts, hholes⟩ := hd
  obtain ⟨hnot, hnd⟩ := nodup_cons.1 hnd
  have hx := hholes x mem_cons_self
  rw [drainHole]
  split
  · exact ⟨by rwa [append_nil], hdr, hnd, t, ht, hbase, hts, fun y hy => hholes y (mem_cons_of_mem x hy)⟩
  next pkt _ =>
    obtain ⟨hout, -⟩ := stragglerOut_fields
    set out := stragglerOut tail pkt x
    have htail : (s.closeHole x).tail = some { t with holes := t.holes.erase x } := by
      rw [closeHole, ht]
      rfl
    have htaken : ∀ y, (s.closeHole x).Taken (E ++ [out]) y → s.Taken E y := by
      rintro y (⟨p, hp, rfl⟩ | ⟨t', ht', z, hz, rfl⟩)
      · rcases mem_append.1 hp with hp | hp
        · exact .inl ⟨p, hp, rfl⟩
        · rw [mem_singleton.1 hp, hout]
          exact .inr ⟨t, ht, x, hx, rfl⟩
      · obtain rfl := Option.some.inj (htail.symm.trans ht')
        exact .inr ⟨t, ht, z, (mem_erase.1 hz).1, rfl⟩
    have hnew : ∀ p ∈ E, p.seqNo ≠ out.seqNo := fun p hp => by
      rw [hout]
      exact h.tail t ht x hx p hp
    refine ⟨⟨⟨nodup_snoc h.nodup hnew, fun y hy => h.le y (htaken y hy), fun t' ht' y hy p hp => ?_⟩, h.max_lt,
      h.frontier, h.cursor, fun hn => ?_, fun c hc => ?_⟩, hdr, hnd, _, htail, hbase, hts,
      fun y hy => mem_erase.2 ⟨hholes y (mem_cons_of_mem x hy), ?_⟩⟩
    · obtain rfl := Option.some.inj (htail.symm.trans ht')
      obtain ⟨hy, hne⟩ := mem_erase.1 hy
      rcases mem_append.1 hp with hp | hp
      · exact h.tail t ht y hy p hp
      · rw [mem_singleton.1 hp, hout]
        exact hne.symm
    · have hnone := (h.idle hn).2
      rw [ht] at hnone
      cases hnone
    · obtain ⟨b, hl⟩ := h.live c hc
      exact ⟨b, hl.base, hl.cursor_lt, hl.expected, hl.ahead, hl.base_le, hl.epoch, fun y hy =>
        ⟨(hl.holes y hy).1, (hl.holes y hy).2.1, fun htk => (hl.holes y hy).2.2 (htaken _ htk)⟩⟩
    · rintro rfl
      exact hnot hy

lemma SeqInv.draining (h : SeqInv s E) (hd : s.draining = some old) (ht : s.tail = some t) :
    Draining old t s E t.holes.elems :=
  ⟨h, hd, t.holes.nodup, t, ht, rfl, rfl, fun _ hx => hx⟩

end Drain

end Switcher

end Pulsebeam.Rtp
