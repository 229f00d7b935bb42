import Pulsebeam.Rtp.UniqueOutput

/-! Neighbouring output numbers: a frame followed directly by a later timestamp carries its marker. -/

namespace Pulsebeam.Rtp

open Pulsebeam.Lib List Option Word Nat OrdSet

def Unbroken (E : List RtpPacket) : Prop :=
  ∀ p ∈ E, ∀ q ∈ E, q.seqNo = p.seqNo + 1 → p.ticks < q.ticks → p.marker = true

instance (E : List RtpPacket) : Decidable (Unbroken E) := inferInstanceAs (Decidable (∀ p ∈ E, _))

variable {out : RtpPacket} {p : RtpPacket}

lemma Unbroken.snoc {E : List RtpPacket} (h : Unbroken E)
    (hl : ∀ p ∈ E, out.seqNo = p.seqNo + 1 → p.ticks < out.ticks → p.marker = true)
    (hr : ∀ q ∈ E, q.seqNo = out.seqNo + 1 → out.ticks < q.ticks → out.marker = true) : Unbroken (E ++ [out]) := by
  intro p hp q hq
  rcases mem_append.1 hp with hp | hp <;> rcases mem_append.1 hq with hq | hq
  · exact h p hp q hq
  · rw [mem_singleton.1 hq]
    exact hl p hp
  · rw [mem_singleton.1 hp]
    exact hr q hq
  · rw [mem_singleton.1 hp, mem_singleton.1 hq]
    omega

/-- One stream: a packet per number on one clock, in range, and the last packet of every frame carries the marker. -/
structure WellFramed (P : RtpPacket → Prop) : Prop where
  seqNo : ∀ p, P p → p.seqNo < 2 ^ 62
  ticks : ∀ p, P p → p.ticks < 2 ^ 62
  clock : ∃ rate, ∀ p, P p → p.rtpTs.frequency = rate
  unique : ∀ p q, P p → P q → p.seqNo = q.seqNo → p = q
  marked : ∀ p q, P p → P q → q.seqNo = p.seqNo + 1 → p.ticks < q.ticks → p.marker = true

def InRange (p : RtpPacket) : Prop := p.seqNo < 2 ^ 62 ∧ p.ticks < 2 ^ 62

instance (p : RtpPacket) : Decidable (InRange p) := inferInstanceAs (Decidable (_ ∧ _))

def Translated (P : RtpPacket → Prop) (base tsBase : ℕ) (p : RtpPacket) : Prop :=
  ∃ q, P q ∧ p.seqNo = Word.wrappingAdd 64 q.seqNo base ∧ p.ticks = Word.wrappingAdd 64 q.ticks tsBase ∧
    p.marker = q.marker

lemma Translated.marker {P : RtpPacket → Prop} {base tsBase : ℕ} {q : RtpPacket} (hP : WellFramed P)
    (hp : Translated P base tsBase p) (hq : Translated P base tsBase q) (hqr : InRange q)
    (hnext : q.seqNo = p.seqNo + 1) (hts : p.ticks < q.ticks) : p.marker = true := by
  obtain ⟨a, ha, has, hat, ham⟩ := hp
  obtain ⟨b, hb, hbs, hbt, -⟩ := hq
  rw [ham]
  have h1 := hP.seqNo a ha
  have h2 := hP.seqNo b hb
  have h3 := hP.ticks a ha
  obtain ⟨h7, h8⟩ := hqr
  rw [wrappingAdd_eq_mod] at has hat hbs hbt
  exact hP.marked a b ha hb (by omega) (by omega)

namespace Switcher

variable {P : RtpPacket → Prop} {S : Streams} {s s' : Switcher} {E : List RtpPacket} {stream : StreamId}
  {pkt : RtpPacket} {t : Tail} {l : List RtpPacket}

structure ActiveZone (P : RtpPacket → Prop) (s : Switcher) (E : List RtpPacket) (f : ℕ) : Prop where
  le : f ≤ s.timeline.maxOutput
  translated : ∀ p ∈ E, f < p.seqNo → Translated P s.timeline.seqBase s.timeline.tsBase p
  floor : ∀ p ∈ E, p.seqNo = f → p.marker = true
  holes : ∀ h ∈ s.activeInputHoles, f < s.timeline.outputSeqOf h

structure TailZone (P : RtpPacket → Prop) (E : List RtpPacket) (t : Tail) (lo hi : ℕ) : Prop where
  le : lo ≤ hi
  translated : ∀ p ∈ E, lo < p.seqNo → p.seqNo ≤ hi → Translated P t.seqBase t.tsBase p
  floor : ∀ p ∈ E, p.seqNo = lo → p.marker = true
  holes : ∀ x ∈ t.holes, lo < x ∧ x ≤ hi
  ceil : hi ∈ t.holes → ∀ q, P q → Word.wrappingAdd 64 q.seqNo t.seqBase = hi → q.marker = true

structure Marked (s : Switcher) (E : List RtpPacket) : Prop where
  unbroken : Unbroken E
  markers : ∀ m, s.lastMarkerOutput = some m → ∃ p ∈ E, p.seqNo = m ∧ p.marker = true

structure MarkInv (S : Streams) (s : Switcher) (E : List RtpPacket) : Prop extends Marked s E where
  fresh : s.lastOutput = none → E = []
  zone : ∀ stream, s.active = some stream → ∃ f, s.ActiveZone (S stream) E f ∧
    ∀ t, s.tail = some t → ∃ old lo hi, s.draining = some old ∧ hi < f ∧ TailZone (S old) E t lo hi

lemma MarkInv.retains (h : MarkInv S s E) (hr : Retains s s') : MarkInv S s' E := by
  have ht := hr.timeline
  refine ⟨⟨h.unbroken, fun m hm => h.markers m (hr.lastMarkerOutput ▸ hm)⟩, fun hn => h.fresh (hr.lastOutput ▸ hn),
    fun stream hs => ?_⟩
  obtain ⟨f, hz, hzt⟩ := h.zone stream (hr.active ▸ hs)
  refine ⟨f, ⟨ht ▸ hz.le, ht ▸ hz.translated, hz.floor, fun x hx => ht ▸ hz.holes x (hr.activeInputHoles x hx)⟩,
    fun t htx => ?_⟩
  rcases hr.tail with htail | ⟨htail, hd⟩
  · rw [htail] at htx
    cases htx
  · rw [hd]
    exact hzt t (htail ▸ htx)

lemma Marked.emitted {a b : ℕ} (h : Marked s E) (he : Emitted s pkt a b s' out)
    (hl : ∀ p ∈ E, out.seqNo = p.seqNo + 1 → p.ticks < out.ticks → p.marker = true)
    (hr : ∀ q ∈ E, q.seqNo = out.seqNo + 1 → out.ticks < q.ticks → out.marker = true) : Marked s' (E ++ [out]) := by
  refine ⟨h.unbroken.snoc hl hr, fun m hm => ?_⟩
  have hold : ∀ k, s.lastMarkerOutput = some k → ∃ p ∈ E ++ [out], p.seqNo = k ∧ p.marker = true := fun k hk => by
    obtain ⟨p, hp, hps⟩ := h.markers k hk
    exact ⟨p, mem_append_left _ hp, hps⟩
  rw [he.lastMarkerOutput] at hm
  split at hm
  next hmk =>
    have hnew : ∃ p ∈ E ++ [out], p.seqNo = a ∧ p.marker = true :=
      ⟨out, by simp, he.applied.seqNo, by rw [he.applied.marker, hmk]⟩
    rw [← Option.some.inj hm, maxNoted]
    cases hlm : s.lastMarkerOutput with
    | none => simpa using hnew
    | some k =>
      rw [getD_some]
      rcases le_total k a with hle | hle
      · rwa [max_eq_right hle]
      · rw [max_eq_left hle]
        exact hold k hlm
  · exact hold m hm

section Pull

lemma ActiveZone.neighbours {f : ℕ} (hP : WellFramed P) (h : s.ActiveZone P E f) (hE : ∀ p ∈ E, InRange p)
    (hr : InRange out) (hf : f < out.seqNo) (hout : Translated P s.timeline.seqBase s.timeline.tsBase out) :
    (∀ p ∈ E, out.seqNo = p.seqNo + 1 → p.ticks < out.ticks → p.marker = true) ∧
      ∀ q ∈ E, q.seqNo = out.seqNo + 1 → out.ticks < q.ticks → out.marker = true := by
  refine ⟨fun p hp hn hts => ?_, fun q hq hn hts => ?_⟩
  · rcases lt_or_ge f p.seqNo with hlt | hge
    · exact (h.translated p hp hlt).marker hP hout hr hn hts
    · exact h.floor p hp (by omega)
  · exact hout.marker hP (h.translated q hq (by omega)) (hE q hq) hn hts

lemma TailZone.append {lo hi : ℕ} {F : List RtpPacket} (h : TailZone P E t lo hi) (hF : ∀ p ∈ F, hi < p.seqNo) :
    TailZone P (E ++ F) t lo hi := by
  have hle := h.le
  refine ⟨h.le, fun p hp h1 h2 => ?_, fun p hp h1 => ?_, h.holes, h.ceil⟩
  · rcases mem_append.1 hp with hp | hp
    · exact h.translated p hp h1 h2
    · have := hF p hp
      omega
  · rcases mem_append.1 hp with hp | hp
    · exact h.floor p hp h1
    · have := hF p hp
      omega

lemma MarkInv.emitRewritten (hP : WellFramed (S stream)) (h : MarkInv S s E) (ha : s.active = some stream)
    (hE : ∀ p ∈ E, InRange p) (hpkt : S stream pkt) (hr : InRange (s.emitRewritten pkt).2)
    (hep : s.timeline.epoch.isSome = true)
    (habove : ∀ f, s.ActiveZone (S stream) E f → f < (s.emitRewritten pkt).2.seqNo) :
    MarkInv S (s.emitRewritten pkt).1 (E ++ [(s.emitRewritten pkt).2]) := by
  obtain ⟨f, hz, hzt⟩ := h.zone stream ha
  have hf := habove f hz
  have hem := emitRewritten_emitted s pkt
  have hout : Translated _ s.timeline.seqBase s.timeline.tsBase (s.emitRewritten pkt).2 :=
    ⟨pkt, hpkt, hem.applied.seqNo, hem.applied.ticks, hem.applied.marker⟩
  obtain ⟨hl, hright⟩ := hz.neighbours hP hE hr hf hout
  refine ⟨h.toMarked.emitted hem hl hright, fun hn => ?_, fun stream' hs => ?_⟩
  · rw [hem.lastOutput] at hn
    cases hn
  · obtain rfl : stream = stream' := Option.some.inj ((hem.active.trans ha).symm.trans hs)
    refine ⟨f, ⟨?_, fun p hp h1 => ?_, fun p hp h1 => ?_, fun x hx => ?_⟩, fun t ht => ?_⟩
    · rw [hem.maxOutput hep]
      exact hz.le.trans (le_max_left _ _)
    · rw [hem.applied.seqBase, hem.applied.tsBase]
      rcases mem_append.1 hp with hp | hp
      · exact hz.translated p hp h1
      · rw [mem_singleton.1 hp]
        exact hout
    · rcases mem_append.1 hp with hp | hp
      · exact hz.floor p hp h1
      · rw [mem_singleton.1 hp] at h1
        omega
    · rw [Timeline.outputSeqOf, hem.applied.seqBase]
      exact hz.holes x (hem.activeInputHoles ▸ hx)
    · obtain ⟨old, lo, hi, hd, hlt, htz⟩ := hzt t (hem.tail ▸ ht)
      refine ⟨old, lo, hi, hem.draining.trans hd, hlt, htz.append fun p hp => ?_⟩
      rw [mem_singleton.1 hp]
      omega

structure Settled (s : Switcher) (E : List RtpPacket) : Prop where
  nodup : (E.map (·.seqNo)).Nodup
  le : ∀ p ∈ E, p.seqNo ≤ s.timeline.maxOutput
  last : s.lastOutput = some s.timeline.maxOutput

lemma SeqInv.settled (h : SeqInv s E) (hep : s.timeline.epoch.isSome = true) : Settled s E :=
  ⟨h.nodup, fun p hp => by exact_mod_cast h.le p.seqNo (.inl ⟨p, hp, rfl⟩), h.lastOutput hep⟩

lemma Settled.marker (h : Settled s E) (hm : Marked s E) (hclosed : s.newestFrameLeftOpen = false) :
    (∃ p ∈ E, p.seqNo = s.timeline.maxOutput) ∧ ∀ p ∈ E, p.seqNo = s.timeline.maxOutput → p.marker = true := by
  have hlast : s.lastMarkerOutput = some s.timeline.maxOutput := by
    simpa [newestFrameLeftOpen, h.last] using hclosed
  obtain ⟨q, hq, hqs, hqm⟩ := hm.markers _ hlast
  refine ⟨⟨q, hq, hqs⟩, fun p hp hps => ?_⟩
  rwa [inj_on_of_nodup_map h.nodup hp hq (hps.trans hqs.symm)]

lemma MarkInv.raise (h : MarkInv S s E) (f' : ℕ) (hmo : s'.timeline.maxOutput = f')
    (hge : s.timeline.maxOutput ≤ f') (hE : ∀ p ∈ E, p.seqNo ≤ s.timeline.maxOutput)
    (hfloor : ∀ p ∈ E, p.seqNo = f' → p.marker = true) (hh : s'.activeInputHoles = .empty)
    (hs : SameRoles s s') : MarkInv S s' E := by
  refine ⟨⟨h.unbroken, fun m hm => h.markers m (hs.lastMarkerOutput ▸ hm)⟩, fun hn => h.fresh (hs.lastOutput ▸ hn),
    fun stream ha => ?_⟩
  obtain ⟨f, hz, hzt⟩ := h.zone stream (hs.active ▸ ha)
  refine ⟨f', ⟨hmo.ge, fun p hp hlt => ?_, hfloor, fun x hx => ?_⟩, fun t ht => ?_⟩
  · have := hE p hp
    omega
  · rw [hh] at hx
    exact absurd hx not_mem_empty
  · obtain ⟨old, lo, hi, hd, hlt, htz⟩ := hzt t (hs.tail ▸ ht)
    have := hz.le
    exact ⟨old, lo, hi, hs.draining.trans hd, by omega, htz⟩

lemma Settled.shed (h : Settled s E) (hm : MarkInv S s E) : MarkInv S s.shed E := by
  rw [Switcher.shed]
  split
  next hclean =>
    have hclosed : s.newestFrameLeftOpen = false := by
      rw [atCleanFrameBoundary, Bool.and_eq_true, Bool.not_eq_true'] at hclean
      exact hclean.1
    exact hm.raise s.timeline.maxOutput rfl le_rfl h.le (h.marker hm.toMarked hclosed).2 rfl
      (by constructor <;> rfl)
  · exact hm

lemma Settled.breakSequence (h : Settled s E) (hm : MarkInv S s E) (hlt : s.timeline.maxOutput < 2 ^ 62)
    (pkt : RtpPacket) : MarkInv S (s.breakSequence pkt) E := by
  rw [Switcher.breakSequence]
  split
  · have hnext : Word.wrappingAdd 64 s.timeline.maxOutput 1 = s.timeline.maxOutput + 1 := wrappingAdd_of_lt (by omega)
    refine hm.raise _ hnext (le_succ _) h.le (fun p hp hps => ?_) rfl
      (by constructor <;> rfl)
    have := h.le p hp
    omega
  · exact hm

variable {c i : ℕ} {b : ℤ} {cache : StreamCache}

lemma MarkInv.recordInputHoles (hs : SeqInv s E) (hl : s.Live E c b) (hlt : i < 2 ^ 62) (h : MarkInv S s E) :
    MarkInv S (s.recordInputHoles i) E := by
  obtain ⟨hr, hrt⟩ := recordInputHoles_same s i
  refine ⟨⟨h.unbroken, fun m hm => h.markers m (hr.lastMarkerOutput ▸ hm)⟩, fun hn => h.fresh (hr.lastOutput ▸ hn),
    fun stream ha => ?_⟩
  obtain ⟨f, hz, hzt⟩ := h.zone stream (hr.active ▸ ha)
  refine ⟨f, ⟨hrt ▸ hz.le, hrt ▸ hz.translated, hz.floor, fun x hx => ?_⟩, fun t ht => ?_⟩
  · rw [hrt]
    rcases mem_recordInputHoles hl.expected hx with hx | ⟨hcx, hxi⟩
    · exact hz.holes x hx
    have hah := hl.ahead
    have hout := hl.outputSeqOf hs.max_lt (i := x) (by omega) (by omega)
    have := hz.le
    omega
  · rw [hr.draining]
    exact hzt t (hr.tail ▸ ht)

lemma pullPacket_markInv (hP : WellFramed (S stream)) (hpl : Pulling (S stream) stream s E (pkt :: l))
    (h : MarkInv S s E) (hE : ∀ p ∈ E ++ (s.pullPacket pkt).2, InRange p) :
    MarkInv S (s.pullPacket pkt).1 (E ++ (s.pullPacket pkt).2) := by
  obtain ⟨hs, ha, -, c, hc, hahead⟩ := hpl
  obtain ⟨hpkt, hi⟩ := hahead pkt mem_cons_self
  obtain ⟨b, hl⟩ := hs.live c hc
  have hlt := hP.seqNo pkt hpkt
  rw [pullPacket] at hE ⊢
  split
  · rw [append_nil]
    exact h.retains (advanceCursor_retains s _)
  next hback =>
    rw [if_neg hback] at hE
    obtain ⟨hr, hrt⟩ := recordInputHoles_same s pkt.seqNo
    have hrec := h.recordInputHoles hs hl hlt
    have hset : Settled (s.recordInputHoles pkt.seqNo) E := by
      have hset := hs.settled hl.epoch
      exact ⟨hset.nodup, hrt ▸ hset.le, by rw [hr.lastOutput, hrt]; exact hset.last⟩
    simp only at hE ⊢
    split
    · rw [append_nil]
      exact (hset.shed hrec).retains (advanceCursor_retains _ _)
    next hd =>
      rw [hd] at hE
      obtain ⟨b', hb', hbase, -, hep, hmax, -, -⟩ := breakSequence_spec hs hl hi rfl hlt
      have hk : SameRoles _ ((s.recordInputHoles pkt.seqNo).breakSequence pkt) := breakSequence_same _ _
      set s1 := (s.recordInputHoles pkt.seqNo).breakSequence pkt
      have hbroken : MarkInv S s1 E := hset.breakSequence hrec (by rw [hrt]; exact hs.max_lt) pkt
      have hact : s1.active = some stream := (hk.active.trans hr.active).trans ha
      have hem := emitRewritten_emitted s1 pkt
      have hout : (((s1.emitRewritten pkt).2.seqNo : ℕ) : ℤ) = pkt.seqNo + b' := by
        have hbl := hl.base_le
        have hM := hs.max_lt
        exact hbase.wrappingAdd_eq (by omega) (by omega)
      refine (hbroken.emitRewritten hP hact (fun p hp => hE p (mem_append_left _ hp)) hpkt (hE _ (by simp))
        (by rw [hep]; exact hl.epoch) fun f hz => ?_).retains (advanceCursor_retains _ _)
      have := hz.le
      omega

lemma backfillHole_markInv (hw : cache.packets.Holds (S stream)) (hP : WellFramed (S stream)) {l : List ℕ}
    (hf : Filling stream s E (i :: l)) (h : MarkInv S s E) (hE : ∀ p ∈ E ++ (backfillHole cache s i).2, InRange p) :
    MarkInv S (backfillHole cache s i).1 (E ++ (backfillHole cache s i).2) := by
  obtain ⟨hs, ha, -, hholes⟩ := hf
  have hi := hholes i mem_cons_self
  obtain ⟨c, hc, b, hl⟩ := hs.joined ha
  rw [backfillHole] at hE ⊢
  split
  · rwa [append_nil]
  next pkt hget =>
    rw [hget] at hE
    obtain ⟨hpkt, hseq⟩ := hw.packet i pkt hget
    have hem := emitRewritten_emitted s pkt
    have hnext := h.emitRewritten hP ha (fun p hp => hE p (mem_append_left _ hp)) hpkt (hE _ (by simp)) hl.epoch
      fun f hz => by
        rw [hem.applied.seqNo, hseq]
        exact hz.holes i hi
    exact hnext.retains { Rests.refl _ with activeInputHoles := fun x hx => (mem_erase.1 hx).1 }

end Pull

section Drain

lemma TailZone.drain {lo hi x : ℕ} (hP : WellFramed P) (h : TailZone P E t lo hi) (hx : x ∈ t.holes)
    (hE : ∀ p ∈ E, InRange p) (hr : InRange out) (hpkt : P pkt) (hseq : out.seqNo = x)
    (hbase : x = Word.wrappingAdd 64 pkt.seqNo t.seqBase) (hts : out.ticks = Word.wrappingAdd 64 pkt.ticks t.tsBase)
    (hm : out.marker = pkt.marker) (hu : Unbroken E) :
    Unbroken (E ++ [out]) ∧ TailZone P (E ++ [out]) { t with holes := t.holes.erase x } lo hi := by
  obtain ⟨hlo, hhi⟩ := h.holes x hx
  have hout : Translated P t.seqBase t.tsBase out := ⟨pkt, hpkt, hseq.trans hbase, hts, hm⟩
  refine ⟨hu.snoc (fun p hp hn hlt => ?_) (fun q hq hn hlt => ?_), ⟨h.le, fun p hp h1 h2 => ?_, fun p hp h1 => ?_,
    fun y hy => h.holes y (mem_erase.1 hy).1, fun hmem => h.ceil (mem_erase.1 hmem).1⟩⟩
  · rcases lt_or_ge lo p.seqNo with hlt' | hge
    · exact (h.translated p hp hlt' (by omega)).marker hP hout hr hn hlt
    · exact h.floor p hp (by omega)
  · rcases lt_or_ge x hi with hlt' | hge
    · exact hout.marker hP (h.translated q hq (by omega) (by omega)) (hE q hq) hn hlt
    -- The number next to the burst: whoever takes it closes the frame.
    obtain rfl : x = hi := by omega
    rw [hm]
    exact h.ceil hx pkt hpkt hbase.symm
  · rcases mem_append.1 hp with hp | hp
    · exact h.translated p hp h1 h2
    · rw [mem_singleton.1 hp]
      exact hout
  · rcases mem_append.1 hp with hp | hp
    · exact h.floor p hp h1
    · rw [mem_singleton.1 hp] at h1
      omega

lemma ActiveZone.snoc_below {f : ℕ} (h : s.ActiveZone P E f) (hout : out.seqNo < f) (ht : s'.timeline = s.timeline)
    (hh : s'.activeInputHoles = s.activeInputHoles) : s'.ActiveZone P (E ++ [out]) f := by
  refine ⟨ht ▸ h.le, fun p hp h1 => ?_, fun p hp h1 => ?_, fun x hx => ht ▸ h.holes x (hh ▸ hx)⟩
  · rcases mem_append.1 hp with hp | hp
    · exact ht ▸ h.translated p hp h1
    · rw [mem_singleton.1 hp] at h1
      omega
  · rcases mem_append.1 hp with hp | hp
    · exact h.floor p hp h1
    · rw [mem_singleton.1 hp] at h1
      omega

lemma SeqInv.active_of_tail (h : SeqInv s E) (ht : s.tail = some t) :
    ∃ stream, s.active = some stream ∧ s.lastOutput ≠ none := by
  cases hc : s.activeCursor with
  | none =>
    have hnone := (h.idle hc).2
    rw [ht] at hnone
    cases hnone
  | some c =>
    obtain ⟨b, hl⟩ := h.live c hc
    have hact := h.cursor
    rw [hc] at hact
    obtain ⟨stream, hs⟩ := isSome_iff_exists.1 hact
    exact ⟨stream, hs, by rw [h.lastOutput hl.epoch]; simp⟩

variable {old : StreamId} {cache : StreamCache} {tail : Tail}

lemma drainHole_markInv {x : ℕ} {l : List ℕ} (hw : cache.packets.Holds (S old)) (hP : WellFramed (S old))
    (hdr : Draining old tail s E (x :: l)) (h : MarkInv S s E) (hE : ∀ p ∈ E ++ (drainHole cache tail s x).2, InRange p) :
    MarkInv S (drainHole cache tail s x).1 (E ++ (drainHole cache tail s x).2) := by
  obtain ⟨hs, hd, -, t, ht, hb, hbt, hholes⟩ := hdr
  have hx := hholes x mem_cons_self
  rw [drainHole] at hE ⊢
  split
  · rwa [append_nil]
  next pkt hget =>
    rw [hget] at hE
    obtain ⟨hpkt, hseq⟩ := hw.packet _ pkt hget
    obtain ⟨h1, h2, h3⟩ := stragglerOut_fields
    have hr : InRange (stragglerOut tail pkt x) := hE _ (by simp)
    have hbase : x = Word.wrappingAdd 64 pkt.seqNo t.seqBase := by
      have hx64 := hr.1
      rw [h1] at hx64
      rw [hseq, hb, wrappingAdd_comm, wrappingAdd_wrappingSub 64 (by omega)]
    have hE' : ∀ p ∈ E, InRange p := fun p hp => hE p (mem_append_left _ hp)
    obtain ⟨stream, ha, hlast⟩ := hs.active_of_tail ht
    obtain ⟨f, hz, hzt⟩ := h.zone stream ha
    obtain ⟨old', lo, hi, hd', hlt, htz⟩ := hzt t ht
    obtain rfl : old = old' := Option.some.inj (hd.symm.trans hd')
    obtain ⟨hu, htz'⟩ := htz.drain hP hx hE' hr hpkt h1 hbase (by rw [RtpPacket.ticks, h2, ← hbt]) h3 h.unbroken
    have hxf : x < f := (htz.holes x hx).2.trans_lt hlt
    refine ⟨⟨hu, fun m hm => ?_⟩, fun hn => ?_, fun stream' ha' => ?_⟩
    · obtain ⟨p, hp, hps⟩ := h.markers m hm
      exact ⟨p, mem_append_left _ hp, hps⟩
    · exact absurd hn hlast
    · obtain rfl : stream = stream' := Option.some.inj (ha.symm.trans ha')
      refine ⟨f, hz.snoc_below (by omega) rfl rfl, fun t' ht' => ?_⟩
      have htail : (s.closeHole x).tail = some { t with holes := t.holes.erase x } := by
        rw [closeHole, ht]
        rfl
      obtain rfl := Option.some.inj (htail.symm.trans ht')
      exact ⟨old, lo, hi, hd, hlt, htz'⟩

end Drain

section Burst

lemma emitSequential_marked (hb : BurstInv s E) (h : Marked s E)
    (hprev : ∀ p ∈ E, p.seqNo = s.timeline.maxOutput → p.ticks < s.timeline.outputTsOf pkt.ticks → p.marker = true) :
    Marked (s.emitSequential pkt).1 (E ++ [(s.emitSequential pkt).2]) ∧
      (s.emitSequential pkt).2.seqNo = s.timeline.maxOutput + 1 ∧
      ∀ p ∈ E ++ [(s.emitSequential pkt).2], p.seqNo = (s.emitSequential pkt).1.timeline.maxOutput →
        p = (s.emitSequential pkt).2 := by
  have hem := emitSequential_emitted s pkt
  have hM := hb.max_lt
  have hle : ∀ p ∈ E, p.seqNo ≤ s.timeline.maxOutput := fun p hp => by
    exact_mod_cast hb.le p.seqNo (.inl ⟨p, hp, rfl⟩)
  have hseq : (s.emitSequential pkt).2.seqNo = s.timeline.maxOutput + 1 := by
    exact wrappingAdd_of_lt (by omega)
  have hmax : s.timeline.maxOutput + 1 ≤ (s.emitSequential pkt).1.timeline.maxOutput := by
    rw [hem.applied.maxOutput, ← hem.applied.seqNo]
    split <;> omega
  refine ⟨h.emitted hem (fun p hp hn hts => ?_) (fun q hq hn => ?_), hseq, fun p hp hn => ?_⟩
  · have hticks : (s.emitSequential pkt).2.ticks = s.timeline.outputTsOf pkt.ticks := hem.applied.ticks
    exact hprev p hp (by omega) (hticks ▸ hts)
  · have := hle q hq
    omega
  · rcases mem_append.1 hp with hp | hp
    · have := hle p hp
      omega
    · exact mem_singleton.1 hp

lemma emitEach_burst_marked (hb : BurstInv s E) (h : Marked s E)
    (hprev : ∀ p ∈ E, p.seqNo = s.timeline.maxOutput → ∀ q ∈ l.head?,
      p.ticks < s.timeline.outputTsOf q.ticks → p.marker = true)
    (hl : l.IsChain StreamCache.Follows) (hE : ∀ p ∈ E ++ (emitEach emitBurstPacket s l).2, p.seqNo < 2 ^ 62) :
    Marked (emitEach emitBurstPacket s l).1 (E ++ (emitEach emitBurstPacket s l).2) ∧
      (∀ p ∈ (emitEach emitBurstPacket s l).2, s.timeline.maxOutput < p.seqNo) ∧
      ∀ last ∈ l.getLast?, last.marker = true → ∀ p ∈ E ++ (emitEach emitBurstPacket s l).2,
        p.seqNo = (emitEach emitBurstPacket s l).1.timeline.maxOutput → p.marker = true := by
  induction l generalizing s E with
  | nil => exact ⟨by simpa [emitEach] using h, nofun, nofun⟩
  | cons first rest ih =>
    have hstep : emitEach emitBurstPacket s (first :: rest) =
        ((emitEach emitBurstPacket (s.emitSequential first).1 rest).1,
          [(s.emitSequential first).2] ++ (emitEach emitBurstPacket (s.emitSequential first).1 rest).2) := rfl
    rw [hstep, ← append_assoc] at hE
    simp only [hstep, ← append_assoc]
    have hlt : (s.emitSequential first).2.seqNo < 2 ^ 62 := hE _ (by simp)
    obtain ⟨hmark, hseq, hnewest⟩ := emitSequential_marked hb h fun p hp hn => hprev p hp hn first rfl
    obtain ⟨hburst, hlast, hmaxlt⟩ := emitSequential_burstInv hb _ hlt
    have hem := emitSequential_emitted s first
    have hticks : (s.emitSequential first).2.ticks = s.timeline.outputTsOf first.ticks := hem.applied.ticks
    have hnext : ∀ p ∈ E ++ [(s.emitSequential first).2],
        p.seqNo = (s.emitSequential first).1.timeline.maxOutput → ∀ q ∈ rest.head?,
          p.ticks < (s.emitSequential first).1.timeline.outputTsOf q.ticks → p.marker = true := fun p hp hn q hq hts => by
      obtain ⟨tail, rfl⟩ := head?_eq_some_iff.1 hq
      obtain ⟨hfollows, -⟩ := isChain_cons_cons.1 hl
      rw [hnewest p hp hn] at hts ⊢
      rw [hem.applied.marker]
      refine hfollows.2 fun heq => ?_
      rw [hticks, Timeline.outputTsOf, Timeline.outputTsOf, hem.applied.tsBase, ← heq] at hts
      exact lt_irrefl _ hts
    obtain ⟨h1, h2, h3⟩ := ih hburst hmark hnext hl.tail hE
    refine ⟨h1, fun p hp => ?_, fun last hlast' hm p hp hn => ?_⟩
    · rcases mem_append.1 hp with hp | hp
      · rw [mem_singleton.1 hp, hseq]
        exact lt_succ_self _
      have := h2 p hp
      have hmax := hburst.le _ (.inl ⟨_, mem_append_right E (mem_singleton_self _), rfl⟩)
      omega
    · cases rest with
      | nil =>
        obtain rfl : first = last := by simpa using hlast'
        simp only [emitEach, append_nil] at hp hn
        rw [hnewest p hp hn, hem.applied.marker]
        exact hm
      | cons second rest => exact h3 last (by simpa using hlast') hm p hp hn

variable {now : Instant} {first : RtpPacket}

lemma prepareBurst_roles (hs : SeqInv s E) {newCursor : ℕ} :
    let s0 := s.prepareBurst now first newCursor
    s0.lastMarkerOutput = s.lastMarkerOutput ∧ s0.draining = s.active ∧ ∀ t, s0.tail = some t →
      ∃ old, s.active = some old ∧ t.seqBase = s.timeline.seqBase ∧ t.tsBase = s.timeline.tsBase ∧
        ∀ x ∈ t.holes, (∃ h ∈ s.activeInputHoles, x = s.timeline.outputSeqOf h) ∨ s.reserveHole.2 = some x := by
  have hres : s.reserveHole.1.lastMarkerOutput = s.lastMarkerOutput ∧ s.reserveHole.1.active = s.active ∧
      s.reserveHole.1.timeline.seqBase = s.timeline.seqBase ∧ s.reserveHole.1.timeline.tsBase = s.timeline.tsBase ∧
      s.reserveHole.1.activeInputHoles = s.activeInputHoles ∧ s.reserveHole.1.tail = s.tail := by
    rw [reserveHole]
    split
    · split <;> exact ⟨rfl, rfl, rfl, rfl, rfl, rfl⟩
    · exact ⟨rfl, rfl, rfl, rfl, rfl, rfl⟩
  obtain ⟨h1, h2, h3, h4, h5, h6⟩ := hres
  have hout : s.reserveHole.1.timeline.outputSeqOf = s.timeline.outputSeqOf := funext fun x => by
    rw [Timeline.outputSeqOf, Timeline.outputSeqOf, h3]
  refine ⟨?_, ?_, fun t ht => ?_⟩
  · rw [← h1]
    simp only [prepareBurst]
    split <;> rfl
  · rw [← h2]
    simp only [prepareBurst]
    split <;> rfl
  cases ha : s.active with
  | none =>
    have hact : ¬ s.reserveHole.1.active.isSome = true := by simp [h2, ha]
    have htail : s.tail = some t := by
      rw [← h6, ← ht]
      simp only [prepareBurst, if_neg hact]
      rfl
    rw [(hs.inactive ha).2] at htail
    cases htail
  | some old =>
    have hact : s.reserveHole.1.active.isSome = true := by rw [h2, ha]; rfl
    have htail : (s.reserveHole.1.openTail now s.reserveHole.2).tail = some t := by
      rw [← ht]
      simp only [prepareBurst, if_pos hact]
      rfl
    refine ⟨old, rfl, ?_, ?_, fun x hx => ?_⟩
    · rw [← h3, ← Option.some.inj htail]
    · rw [← h4, ← Option.some.inj htail]
    · rw [← hout, ← h5]
      exact mem_openTail htail hx

def FrameClosable (S : Streams) (s : Switcher) : Prop :=
  s.newestFrameLeftOpen = true → ∀ stream ∈ s.active, ∀ last ∈ s.lastOutput, ∀ q, S stream q →
    s.timeline.outputSeqOf q.seqNo = Word.wrappingAdd 64 last 1 → q.marker = true

lemma burstFloor_eq (h : SeqInv s E) :
    s.burstFloor = if s.newestFrameLeftOpen then s.timeline.maxOutput + 1 else s.timeline.maxOutput := by
  have hM := h.max_lt
  rw [burstFloor, wrappingAdd_of_lt (by omega)]

lemma prepareBurst_tailZone (hs : SeqInv s E) (h : MarkInv S s E) (hb : s.HolesBehind) (hc : s.FrameClosable S)
    (now : Instant) (first : RtpPacket) (newCursor : ℕ) (ht : (s.prepareBurst now first newCursor).tail = some t) :
    ∃ old lo, s.active = some old ∧ TailZone (S old) E t lo s.burstFloor := by
  have hfloor := burstFloor_eq hs
  obtain ⟨old, hact, hbase, hts, hholes⟩ := (prepareBurst_roles hs).2.2 t ht
  have hfree := prepareBurst_tail hs hb now first newCursor t ht
  rw [reserveHole_maxOutput] at hfree
  obtain ⟨f, hz, -⟩ := h.zone old hact
  obtain ⟨c, -, b, hl⟩ := hs.joined hact
  have hset := hs.settled hl.epoch
  have hle := hz.le
  have hge : s.timeline.maxOutput ≤ s.burstFloor := by
    rw [hfloor]
    split <;> omega
  refine ⟨old, f, hact, by omega, fun p hp h1 _ => ?_, hz.floor, fun x hx => ⟨?_, (hfree x hx).1⟩, fun hmem q hq hqs => ?_⟩
  · rw [hbase, hts]
    exact hz.translated p hp h1
  · rcases hholes x hx with ⟨y, hy, rfl⟩ | hr
    · exact hz.holes y hy
    obtain ⟨-, -, -, -, -, -, hres⟩ := reserveHole_spec hs
    rcases hres with ⟨hnone, -⟩ | ⟨hsome, -⟩
    · rw [hnone] at hr
      cases hr
    · have := Option.some.inj (hsome.symm.trans hr)
      omega
  · cases hopen : s.newestFrameLeftOpen with
    | true =>
      refine hc hopen old hact _ hset.last q hq ?_
      rw [Timeline.outputSeqOf, ← hbase, hqs, burstFloor, if_pos hopen]
    | false =>
      obtain ⟨⟨p, hp, hps⟩, -⟩ := hset.marker h.toMarked hopen
      rw [hopen] at hfloor
      exact absurd (hps.trans hfloor.symm) ((hfree _ hmem).2 p hp)

lemma SeqInv.marker_burstFloor (hs : SeqInv s E) (h : MarkInv S s E) (hp : p ∈ E) (hps : p.seqNo = s.burstFloor) :
    p.marker = true := by
  have hep : s.timeline.epoch.isSome = true := by
    by_contra hnone
    have hl := hs.frontier
    rw [if_neg hnone] at hl
    rw [h.fresh hl] at hp
    cases hp
  have hset := hs.settled hep
  have hfloor := burstFloor_eq hs
  have := hset.le p hp
  cases hopen : s.newestFrameLeftOpen with
  | true =>
    rw [hopen, if_pos rfl] at hfloor
    omega
  | false =>
    rw [hopen] at hfloor
    exact (hset.marker h.toMarked hopen).2 p hp (hps.trans hfloor)

lemma land_markInv (hs : SeqInv s E) (h : MarkInv S s E) (hb : s.HolesBehind) (hc : s.FrameClosable S)
    {rest : List RtpPacket} (hl : (first :: rest).IsChain StreamCache.Follows)
    (hlast : ∃ l, (first :: rest).getLast? = some l ∧ l.marker = true)
    (hE : Bounded (E ++ (s.land now first rest).2)) :
    MarkInv S (s.land now first rest).1 (E ++ (s.land now first rest).2) := by
  simp only [land] at hE ⊢
  set newCursor := ((first :: rest).getLast _).seqNo
  have htz := fun t ht => prepareBurst_tailZone hs h hb hc now first newCursor (t := t) ht
  have hburst := prepareBurst_burstInv hs hb now first newCursor
  obtain ⟨hmo, -, -, -, hh0, -⟩ := prepareBurst_fields s now first newCursor
  rw [reserveHole_maxOutput] at hmo
  obtain ⟨hm0, hd0, -⟩ := prepareBurst_roles hs
  set s0 := s.prepareBurst now first newCursor
  have hmark0 : Marked s0 E := ⟨h.unbroken, fun m hm => h.markers m (hm0 ▸ hm)⟩
  obtain ⟨hmark, habove, hclosed⟩ := emitEach_burst_marked hburst hmark0
    (fun p hp hn _ _ _ => hs.marker_burstFloor h hp (hn.trans hmo)) hl hE
  obtain ⟨hinv, hlo, -⟩ := emitEach_burstInv hburst hE
  have hsame := emitEach_sameStream s0 (first :: rest)
  have hfirst : (s0.emitSequential first).2 ∈ (emitEach emitBurstPacket s0 (first :: rest)).2 := mem_cons_self
  set r := emitEach emitBurstPacket s0 _
  have hmax : ∀ p ∈ E ++ r.2, p.seqNo ≤ r.1.timeline.maxOutput := fun p hp => by
    exact_mod_cast hinv.le p.seqNo (.inl ⟨p, hp, rfl⟩)
  obtain ⟨l, hlast, hlm⟩ := hlast
  refine ⟨⟨hmark.unbroken, hmark.markers⟩, fun hn => absurd (hlo.symm.trans hn) (by simp), fun stream _ =>
    ⟨r.1.timeline.maxOutput, ⟨le_rfl, fun p hp hlt => ?_, hclosed l hlast hlm, fun x hx => ?_⟩, fun t ht => ?_⟩⟩
  · exact absurd hlt (not_lt.2 (hmax p hp))
  · rw [hsame.activeInputHoles] at hx
    exact absurd hx not_mem_empty
  obtain ⟨old, lo, hact, hz⟩ := htz t (hsame.tail ▸ ht)
  refine ⟨old, lo, s.burstFloor, (hsame.draining.trans hd0).trans hact, ?_, hz.append fun p hp => hmo ▸ habove p hp⟩
  have h1 := habove _ hfirst
  have h2 := hmax _ (mem_append_right E hfirst)
  omega

end Burst

variable {trackId : TrackId} {cache : TrackStreamCache} {now : Instant}

/-- A feed that lands a switch finds the outgoing stream's gaps behind the burst, and its newest frame closed or
one marker away from it. -/
def SplicesClosed (S : Streams) (s : Switcher) (trackId : TrackId) (cache : TrackStreamCache) (now : Instant) : Prop :=
  (s.beforeSwitch trackId cache now).lands trackId cache now = true →
    (s.beforeSwitch trackId cache now).HolesBehind ∧ (s.beforeSwitch trackId cache now).FrameClosable S

lemma markInv_new (rate : Frequency) (base : ℕ) : MarkInv S (new rate base) [] where
  unbroken p hp := by cases hp
  markers m hm := by cases hm
  fresh _ := rfl
  zone stream hs := by cases hs

lemma markInv_stop (h : MarkInv S s E) : MarkInv S s.stop E where
  unbroken := h.unbroken
  markers := h.markers
  fresh := h.fresh
  zone stream hs := by cases hs

lemma kept_markInv (hS : ∀ stream, WellFramed (S stream)) : Kept S InRange (fun _ _ => true)
    (fun s => s.HolesBehind ∧ s.FrameClosable S) fun s log => MarkInv S s (log.map (·.packet)) where
  seqNo stream := (hS stream).seqNo
  below _ hp := hp.1
  rests hr h := h.retains hr.toRetains
  stop := markInv_stop
  pull hpl h _ := gives_packets (pullPacket_markInv (hS _) hpl h)
  fill hw hf h := gives_packets (backfillHole_markInv hw (hS _) hf h)
  drain hw hd h := gives_packets (drainHole_markInv hw (hS _) hd h)
  blocked h := h
  behind _ _ h := h.1
  land {stream cache s log now first rest} hfed hreplay hs h hsplice hB := by
    obtain ⟨rate, hrate⟩ := (hS stream).clock
    obtain ⟨sets, run, segment, start, hburst⟩ :=
      hfed.decodable hrate (fun p hp => ((hS stream).seqNo p hp).trans (by decide)) (hS stream).unique hreplay
    rw [Within, map_append, map_packet_burstEmissions] at hB
    rw [map_append, map_packet_burstEmissions]
    exact land_markInv hs h hsplice.1 hsplice.2 hburst.follows hburst.last fun p hp => (hB p hp).1

end Switcher

namespace Slot

theorem truncation_visible (S : Streams) (rate : Frequency) (hS : ∀ stream, WellFramed (S stream)) (slot : Slot)
    (h : (machine S rate InRange (OnFeed (Switcher.SplicesClosed S))).Reachable slot) : Unbroken slot.packets := by
  have hinv := (Switcher.kept_markInv hS).reachable (fun base => Switcher.markInv_new rate base)
    (meets_of_splice fun _ _ _ _ hclosed => hclosed) h
  exact hinv.2.unbroken

lemma wellFramed_ofList {trackId : TrackId} {l : List (SourceEncoding × RtpPacket)} (rate : Frequency)
    (hrange : ∀ x ∈ l, x.2.seqNo < 2 ^ 62 ∧ x.2.ticks < 2 ^ 62 ∧ x.2.rtpTs.frequency = rate)
    (hpair : ∀ x ∈ l, ∀ y ∈ l, x.1 = y.1 → (x.2.seqNo = y.2.seqNo → x.2 = y.2) ∧
      (y.2.seqNo = x.2.seqNo + 1 → x.2.ticks < y.2.ticks → x.2.marker = true)) (stream : StreamId) :
    WellFramed (Streams.ofList trackId l stream) where
  seqNo _ hp := (hrange _ hp.2).1
  ticks _ hp := (hrange _ hp.2).2.1
  clock := ⟨rate, fun _ hp => (hrange _ hp.2).2.2⟩
  unique _ _ hp hq := (hpair _ hp.2 _ hq.2 rfl).1
  marked _ _ hp hq := (hpair _ hp.2 _ hq.2 rfl).2

section Straggler

/-- The low encoding's second frame is 101, 102 and 103; the switch lands after 101, then 102 arrives and 103 is lost. -/
def stragglerPushes : List (SourceEncoding × RtpPacket) :=
  [(lowEncoding, slotKeyframe 100 3000), (lowEncoding, slotPacket 101 6000 false true),
   (highEncoding, slotKeyframe 500 12000), (lowEncoding, slotPacket 102 6000 false true),
   (lowEncoding, slotPacket 103 6000 true true)]

def stragglerOps : List SlotOp :=
  [.switchTo (slotTrack, lowEncoding), feedFirst stragglerPushes 1 0, feedFirst stragglerPushes 2 1,
   .switchTo (slotTrack, highEncoding), feedFirst stragglerPushes 3 3, feedFirst stragglerPushes 3 20,
   feedFirst stragglerPushes 4 21]

lemma feasible_stragglerOps : ∀ op ∈ stragglerOps, Feasible (Streams.ofList slotTrack stragglerPushes) op := by
  simp [stragglerOps]

theorem truncation_hidden : ∃ (S : Streams) (slot : Slot), (∀ stream, WellFramed (S stream)) ∧
    (machine S .ninetyKhz InRange fun _ _ => True).Reachable slot ∧
    slot.packets.map (fun p => (p.seqNo, p.ticks, p.marker)) =
      [(1, 3000, true), (2, 6000, false), (4, 11999, true), (3, 6000, false)] ∧
    ¬ Unbroken slot.packets := by
  refine ⟨Streams.ofList slotTrack stragglerPushes, slotStart.run stragglerOps,
    wellFramed_ofList .ninetyKhz (by decide) (by decide),
    reachable_run (.init ⟨0, by decide, rfl⟩) feasible_stragglerOps (by decide +kernel) (along_true _ _),
    by decide +kernel, by decide +kernel⟩

end Straggler

def LandsClosed (s : Switcher) (trackId : TrackId) (cache : TrackStreamCache) (now : Instant) : Prop :=
  (s.beforeSwitch trackId cache now).lands trackId cache now = true →
    (s.beforeSwitch trackId cache now).HolesBehind ∧ (s.beforeSwitch trackId cache now).newestFrameLeftOpen = false

instance (s : Switcher) (trackId : TrackId) (cache : TrackStreamCache) (now : Instant) :
    Decidable (LandsClosed s trackId cache now) :=
  inferInstanceAs (Decidable (_ = true → _ ∧ _ = false))

lemma splicesClosed_of_landsClosed {S : Streams} (s : Switcher) (op : SlotOp) (h : OnFeed LandsClosed s op) :
    OnFeed (Switcher.SplicesClosed S) s op := by
  cases op with
  | feed trackId cache now =>
    intro hlands
    obtain ⟨hgaps, hclosed⟩ := h hlands
    exact ⟨hgaps, fun hopen => absurd (hopen.symm.trans hclosed) (by decide)⟩
  | _ => trivial

theorem truncation_visible_clean :
    (slotStart.run cleanOps).packets.map (fun p => (p.seqNo, p.ticks, p.marker)) =
      [(1, 3000, true), (2, 6000, false), (4, 6000, true), (3, 6000, false), (5, 11999, true)] ∧
    Unbroken (slotStart.run cleanOps).packets := by
  refine ⟨by decide +kernel, ?_⟩
  refine truncation_visible _ .ninetyKhz
    (wellFramed_ofList .ninetyKhz (by decide) (by decide)) _
    (reachable_run (.init ⟨0, by decide, rfl⟩) feasible_cleanOps (by decide +kernel) ?_)
  have hclosed : Along (OnFeed LandsClosed) slotStart cleanOps := by decide +kernel
  exact hclosed.mono splicesClosed_of_landsClosed

end Slot

end Pulsebeam.Rtp
