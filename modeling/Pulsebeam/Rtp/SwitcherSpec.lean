import Pulsebeam.Rtp.Switcher

namespace Pulsebeam.Rtp

open Pulsebeam.Lib

lemma translateDdFrame_fields {pkt : RtpPacket} {base : ℕ} :
    (Timeline.translateDdFrame pkt base).seqNo = pkt.seqNo ∧ (Timeline.translateDdFrame pkt base).rtpTs = pkt.rtpTs ∧
      (Timeline.translateDdFrame pkt base).marker = pkt.marker := by
  simp only [Timeline.translateDdFrame]
  split
  · exact ⟨rfl, rfl, rfl⟩
  · split <;> exact ⟨rfl, rfl, rfl⟩

namespace Timeline

variable (t : Timeline) (pkt : RtpPacket) (a b : ℕ)

lemma applyDd_fields : (t.applyDd pkt).1.epoch = t.epoch ∧ (t.applyDd pkt).1.maxOutput = t.maxOutput ∧
    (t.applyDd pkt).1.maxOutputTs = t.maxOutputTs ∧ (t.applyDd pkt).1.seqBase = t.seqBase ∧
    (t.applyDd pkt).1.tsBase = t.tsBase ∧ (t.applyDd pkt).2.marker = pkt.marker := by
  simp only [applyDd]
  split
  · exact ⟨rfl, rfl, rfl, rfl, rfl, rfl⟩
  · exact ⟨rfl, rfl, rfl, rfl, rfl, (translateDdFrame_fields).2.2⟩

lemma advanceTs_fields : (t.advanceTs a).epoch = t.epoch ∧ (t.advanceTs a).maxOutput = t.maxOutput ∧
    (t.advanceTs a).maxOutputTs = max t.maxOutputTs a ∧ (t.advanceTs a).seqBase = t.seqBase ∧
    (t.advanceTs a).tsBase = t.tsBase := by
  simp only [advanceTs]
  split
  next h =>
    have hmax : a = max t.maxOutputTs a := by omega
    split
    · exact ⟨rfl, rfl, hmax, rfl, rfl⟩
    · split <;> exact ⟨rfl, rfl, hmax, rfl, rfl⟩
  next h => exact ⟨rfl, rfl, by omega, rfl, rfl⟩

structure Applied (t : Timeline) (pkt : RtpPacket) (a b : ℕ) (t' : Timeline) (out : RtpPacket) : Prop where
  seqNo : out.seqNo = a
  ticks : out.rtpTs.ticks = b
  marker : out.marker = pkt.marker
  epoch : t'.epoch.isSome = true
  maxOutput : t'.maxOutput = if t.epoch = none then a else max t.maxOutput a
  maxOutputTs : t'.maxOutputTs = if t.epoch = none then b else max t.maxOutputTs b
  seqBase : t'.seqBase = t.seqBase
  tsBase : t'.tsBase = t.tsBase

lemma advanceOutput_fields (at' : Instant) : (t.advanceOutput at' a b).epoch.isSome = true ∧
    (t.advanceOutput at' a b).maxOutput = (if t.epoch = none then a else max t.maxOutput a) ∧
    (t.advanceOutput at' a b).maxOutputTs = (if t.epoch = none then b else max t.maxOutputTs b) ∧
    (t.advanceOutput at' a b).seqBase = t.seqBase ∧ (t.advanceOutput at' a b).tsBase = t.tsBase := by
  cases he : t.epoch with
  | none => simp [advanceOutput, he]
  | some e =>
    obtain ⟨h1, h2, h3, h4, h5⟩ := advanceTs_fields { t with maxOutput := max t.maxOutput a } b
    have hadv : t.advanceOutput at' a b = ({ t with maxOutput := max t.maxOutput a } : Timeline).advanceTs b := by
      simp only [advanceOutput, he]
    rw [hadv, h1, h2, h3, h4, h5]
    simp [he]

lemma apply_applied : Applied t pkt a b (t.apply pkt a b).1 (t.apply pkt a b).2 := by
  obtain ⟨he, hm, hts, hs, hb, hmk⟩ := applyDd_fields t pkt
  obtain ⟨h1, h2, h3, h4, h5⟩ := advanceOutput_fields (t.applyDd pkt).1 a b (t.applyDd pkt).2.playoutTime
  rw [he, hm] at h2
  rw [he, hts] at h3
  exact ⟨rfl, rfl, hmk, h1, h2, h3, h4.trans hs, h5.trans hb⟩

lemma dropInput_fields : t.dropInput.maxOutput = t.maxOutput ∧ t.dropInput.epoch = t.epoch ∧
    t.dropInput.tsBase = t.tsBase := by
  simp only [dropInput, and_self]

lemma skipLiveSequence_fields (n : ℕ) : (t.skipLiveSequence n).epoch = t.epoch ∧
    (t.skipLiveSequence n).maxOutput = Word.wrappingAdd 64 t.maxOutput n ∧
    (t.skipLiveSequence n).seqBase = Word.wrappingAdd 64 t.seqBase n ∧
    (t.skipLiveSequence n).tsBase = t.tsBase := by
  simp only [skipLiveSequence, skipOutputSequence, and_self]

lemma rewrite_applied :
    Applied t pkt (t.outputSeqOf pkt.seqNo) (t.outputTsOf pkt.rtpTs.ticks) (t.rewrite pkt).1 (t.rewrite pkt).2 :=
  apply_applied t pkt _ _

lemma rewriteSequential_applied :
    Applied t pkt (Word.wrappingAdd 64 t.maxOutput 1) (t.outputTsOf pkt.rtpTs.ticks) (t.rewriteSequential pkt).1
      (t.rewriteSequential pkt).2 :=
  apply_applied t pkt _ _

end Timeline

namespace Switcher

def maxNoted (m : Option ℕ) (x : ℕ) : ℕ := max (m.getD x) x

lemma if_all_lt_eq {m : Option ℕ} {x : ℕ} :
    (if m.all (fun last => decide (last < x)) then some x else m) = some (maxNoted m x) := by
  cases m with
  | none => simp [maxNoted]
  | some last =>
    simp only [Option.all_some, decide_eq_true_eq, maxNoted, Option.getD_some]
    split
    next h => rw [max_eq_right h.le]
    next h => rw [max_eq_left (not_lt.1 h)]

variable (s : Switcher)

@[simp] lemma noteOut_lastOutput (out : RtpPacket) :
    (s.noteOut out).lastOutput = some (maxNoted s.lastOutput out.seqNo) :=
  if_all_lt_eq

@[simp] lemma noteOut_maxOutputTs (out : RtpPacket) :
    (s.noteOut out).maxOutputTs = some (maxNoted s.maxOutputTs out.rtpTs.ticks) :=
  if_all_lt_eq

lemma noteOut_lastMarkerOutput (out : RtpPacket) :
    (s.noteOut out).lastMarkerOutput =
      if out.marker then some (maxNoted s.lastMarkerOutput out.seqNo) else s.lastMarkerOutput := by
  cases hm : out.marker with
  | true => simpa [noteOut, noteEmitted, hm] using if_all_lt_eq
  | false => simp [noteOut, noteEmitted, hm]

structure SameStream (s s' : Switcher) : Prop where
  active : s'.active = s.active
  activeCursor : s'.activeCursor = s.activeCursor
  activeInputHoles : s'.activeInputHoles = s.activeInputHoles
  nextExpectedInput : s'.nextExpectedInput = s.nextExpectedInput
  tail : s'.tail = s.tail
  draining : s'.draining = s.draining

structure Emitted (s : Switcher) (pkt : RtpPacket) (a b : ℕ) (s' : Switcher) (out : RtpPacket) : Prop
    extends SameStream s s' where
  applied : Timeline.Applied s.timeline pkt a b s'.timeline out
  lastOutput : s'.lastOutput = some (maxNoted s.lastOutput a)
  maxOutputTs : s'.maxOutputTs = some (maxNoted s.maxOutputTs b)
  lastMarkerOutput : s'.lastMarkerOutput =
    if pkt.marker then some (maxNoted s.lastMarkerOutput a) else s.lastMarkerOutput

lemma noteOut_emitted {s : Switcher} {pkt out : RtpPacket} {a b : ℕ} {t : Timeline}
    (h : Timeline.Applied s.timeline pkt a b t out) :
    Emitted s pkt a b (({ s with timeline := t } : Switcher).noteOut out) out where
  applied := h
  lastOutput := by rw [noteOut_lastOutput, h.seqNo]
  maxOutputTs := by rw [noteOut_maxOutputTs, h.ticks]
  lastMarkerOutput := by rw [noteOut_lastMarkerOutput, h.seqNo, h.marker]
  active := rfl
  activeCursor := rfl
  activeInputHoles := rfl
  nextExpectedInput := rfl
  tail := rfl
  draining := rfl

lemma emitRewritten_emitted (pkt : RtpPacket) :
    Emitted s pkt (s.timeline.outputSeqOf pkt.seqNo) (s.timeline.outputTsOf pkt.rtpTs.ticks) (s.emitRewritten pkt).1
      (s.emitRewritten pkt).2 :=
  noteOut_emitted (Timeline.rewrite_applied s.timeline pkt)

lemma emitSequential_emitted (pkt : RtpPacket) :
    Emitted s pkt (Word.wrappingAdd 64 s.timeline.maxOutput 1) (s.timeline.outputTsOf pkt.rtpTs.ticks)
      (s.emitSequential pkt).1 (s.emitSequential pkt).2 :=
  noteOut_emitted (Timeline.rewriteSequential_applied s.timeline pkt)

structure SameRoles (s s' : Switcher) : Prop where
  selector : s'.selector = s.selector
  active : s'.active = s.active
  nextExpectedInput : s'.nextExpectedInput = s.nextExpectedInput
  draining : s'.draining = s.draining
  tail : s'.tail = s.tail
  lastOutput : s'.lastOutput = s.lastOutput
  holes : s'.holes = s.holes
  lastMarkerOutput : s'.lastMarkerOutput = s.lastMarkerOutput
  frameStartOutput : s'.frameStartOutput = s.frameStartOutput
  maxOutputTs : s'.maxOutputTs = s.maxOutputTs

lemma SameRoles.refl : SameRoles s s := by constructor <;> rfl

lemma SameRoles.trans {s s' s'' : Switcher} (h : SameRoles s s') (h' : SameRoles s' s'') : SameRoles s s'' :=
  ⟨h'.1.trans h.1, h'.2.trans h.2, h'.3.trans h.3, h'.4.trans h.4, h'.5.trans h.5, h'.6.trans h.6, h'.7.trans h.7,
    h'.8.trans h.8, h'.9.trans h.9, h'.10.trans h.10⟩

lemma recordInputHoles_same (i : ℕ) :
    SameRoles s (s.recordInputHoles i) ∧ (s.recordInputHoles i).timeline = s.timeline := by
  simp only [recordInputHoles]
  split
  · split
    · exact ⟨by constructor <;> rfl, rfl⟩
    · exact ⟨.refl s, rfl⟩
  · exact ⟨.refl s, rfl⟩

lemma shed_same : SameRoles s s.shed := by
  simp only [shed]
  split
  · constructor <;> rfl
  · exact .refl s

lemma breakSequence_same (pkt : RtpPacket) : SameRoles s (s.breakSequence pkt) := by
  simp only [breakSequence]
  split
  · constructor <;> rfl
  · exact .refl s

lemma mem_recordInputHoles {s : Switcher} {c i h : ℕ} (he : s.nextExpectedInput = some (c + 1))
    (hh : h ∈ (s.recordInputHoles i).activeInputHoles) : h ∈ s.activeInputHoles ∨ c < h ∧ h < i := by
  simp only [recordInputHoles, he] at hh
  split at hh
  next hlt =>
    rcases OrdSet.mem_insertAll.1 (OrdSet.mem_of_mem_trim hh) with hr | hr
    · have := List.mem_range'_1.1 hr
      omega
    · exact .inl hr
  · exact .inl hh

lemma advanceCursor_nextExpectedInput {s : Switcher} {c i : ℕ} (he : s.nextExpectedInput = some (c + 1)) (hi : c < i)
    (hlt : i < 2 ^ 62) : (s.advanceCursor i).nextExpectedInput = some (i + 1) := by
  have hnext : Word.wrappingAdd 64 i 1 = i + 1 := Word.wrappingAdd_of_lt (by omega)
  have hle : c + 1 ≤ i := hi
  simp [advanceCursor, he, hnext, hle]

lemma stragglerOut_fields {tail : Tail} {pkt : RtpPacket} {x : ℕ} : (stragglerOut tail pkt x).seqNo = x ∧
    (stragglerOut tail pkt x).rtpTs.ticks = Word.wrappingAdd 64 pkt.rtpTs.ticks tail.tsBase ∧
    (stragglerOut tail pkt x).marker = pkt.marker := by
  obtain ⟨h1, h2, h3⟩ := translateDdFrame_fields
  rw [stragglerOut, h1, h2, h3]
  exact ⟨rfl, rfl, rfl⟩

/-- `s'` may have moved its cursor and closed gaps, and nothing else that a later packet is placed by. -/
structure Retains (s s' : Switcher) : Prop where
  timeline : s'.timeline = s.timeline
  active : s'.active = s.active
  activeInputHoles : ∀ x ∈ s'.activeInputHoles, x ∈ s.activeInputHoles
  lastOutput : s'.lastOutput = s.lastOutput
  lastMarkerOutput : s'.lastMarkerOutput = s.lastMarkerOutput
  maxOutputTs : s'.maxOutputTs = s.maxOutputTs
  tail : s'.tail = none ∨ s'.tail = s.tail ∧ s'.draining = s.draining

structure Rests (s s' : Switcher) : Prop extends Retains s s' where
  activeCursor : s'.activeCursor = s.activeCursor
  nextExpectedInput : s'.nextExpectedInput = s.nextExpectedInput

lemma Rests.refl : Rests s s := ⟨⟨rfl, rfl, fun _ hx => hx, rfl, rfl, rfl, .inr ⟨rfl, rfl⟩⟩, rfl, rfl⟩

lemma advanceCursor_retains (i : ℕ) : Retains s (s.advanceCursor i) := { Rests.refl s with }

lemma switchTo_rests (target : StreamId) : Rests s (s.switchTo target) := by
  simp only [switchTo]
  split
  · split
    · exact { Rests.refl s with }
    · exact .refl s
  split
  · exact .refl s
  split
  · exact { Rests.refl s with tail := .inl rfl }
  · exact { Rests.refl s with }

end Switcher

end Pulsebeam.Rtp
