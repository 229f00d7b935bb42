import Pulsebeam.Rtp.CacheInvariant

namespace Pulsebeam.Rtp

open Pulsebeam.Lib List Option Nat Bool Finset

abbrev RtpPacket.ticks (p : RtpPacket) : ℕ := p.rtpTs.ticks

def clearBoundaryFlags : List UInt8 → List UInt8
  | [] => []
  | flags :: rest => (flags &&& 0x3f) :: rest

def RtpPacket.withoutBoundary (p : RtpPacket) : RtpPacket :=
  { p with
    marker := false
    isFrameStart := false
    extVals := { p.extVals with
      rawDependencyDescriptor := p.extVals.rawDependencyDescriptor.map clearBoundaryFlags
      dependencyDescriptor := p.extVals.dependencyDescriptor.map
        fun dd => { dd with startOfFrame := false, endOfFrame := false } } }

lemma mask_boundary {f a b : UInt8} (ha : a &&& 0x3f = 0) (hb : b &&& 0x3f = 0) :
    ((f &&& 0x3f) ||| a ||| b) &&& 0x3f = f &&& 0x3f := by
  rw [← UInt8.toBitVec_inj] at *
  ext i hi
  have h1 := congrArg (·.getLsbD i) ha
  have h2 := congrArg (·.getLsbD i) hb
  simp at h1 h2 ⊢
  grind

namespace StreamCache

section Boundary

variable (dd : DependencyDescriptor) (n last i : ℕ) (p : RtpPacket)

lemma rewriteBoundary_rtpTs : (rewriteBoundary dd n last i p).rtpTs = p.rtpTs := by
  simp only [rewriteBoundary]
  split <;> (try split) <;> rfl

lemma rewriteBoundary_nal : (rewriteBoundary dd n last i p).nal = p.nal := by
  simp only [rewriteBoundary]
  split <;> (try split) <;> rfl

lemma rewriteBoundary_seqNo : (rewriteBoundary dd n last i p).seqNo = p.seqNo := by
  simp only [rewriteBoundary]
  split <;> (try split) <;> rfl

lemma rewriteBoundary_marker : (rewriteBoundary dd n last i p).marker = (i == last) := by
  simp only [rewriteBoundary]
  split <;> (try split) <;> rfl

lemma rewriteBoundary_withoutBoundary (h : n ≤ i) :
    (rewriteBoundary dd n last i p).withoutBoundary = p.withoutBoundary := by
  have hi : ¬ i < n := by omega
  have hmask : ∀ f : UInt8, ((f &&& 0x3f) ||| (if i = 0 then 0x80 else 0) ||| (if i = last then 0x40 else 0)) &&& 0x3f =
      f &&& 0x3f := fun f => mask_boundary (by split <;> decide) (by split <;> decide)
  obtain ⟨_, _, ⟨_, raw, existing⟩, _, _, _, _, _, _, _⟩ := p
  rcases raw with _ | _ | ⟨f, rest⟩ <;> rcases existing with _ | existing <;>
    simp only [rewriteBoundary, RtpPacket.withoutBoundary, map_none, map_some, clearBoundaryFlags, hmask, if_neg hi]

end Boundary

section Frames

def countFrame : ℕ × Option ℕ → RtpPacket → ℕ × Option ℕ
  | (frames, seenTs), p => if seenTs ≠ some p.ticks then (frames + 1, some p.ticks) else (frames, seenTs)

lemma countFrames_eq (segment : List RtpPacket) : countFrames segment = segment.foldl countFrame (0, none) := rfl

lemma countFrame_snd (st : ℕ × Option ℕ) (p : RtpPacket) : (countFrame st p).2 = some p.ticks := by
  obtain ⟨frames, seen⟩ := st
  by_cases h : seen = some p.ticks <;> simp [countFrame, h]

lemma foldl_countFrame_snd (segment : List RtpPacket) (st : ℕ × Option ℕ) :
    (segment.foldl countFrame st).2 = (segment.getLast?.map (·.ticks)).or st.2 := by
  induction segment generalizing st with
  | nil => rfl
  | cons p segment ih =>
    rw [foldl_cons, ih, countFrame_snd]
    cases segment with
    | nil => rfl
    | cons q segment => simp [getLast?_cons]

lemma card_le_foldl_countFrame (segment : List RtpPacket) (st : ℕ × Option ℕ) :
    st.1 + ((segment.map (·.ticks)).toFinset.filter (fun t => some t ≠ st.2)).card ≤ (segment.foldl countFrame st).1 := by
  induction segment generalizing st with
  | nil => simp
  | cons p segment ih =>
    obtain ⟨frames, seen⟩ := st
    have hih := ih (countFrame (frames, seen) p)
    refine le_trans ?_ hih
    by_cases h : seen = some p.ticks
    · subst h
      simp [countFrame, filter_insert]
    have hsub : ((p :: segment).map (·.ticks)).toFinset.filter (fun t => some t ≠ seen) ⊆
        insert p.ticks ((segment.map (·.ticks)).toFinset.filter (fun t => some t ≠ some p.ticks)) := by
      intro t ht
      by_cases htp : t = p.ticks <;> simp_all
    have hcard := (card_le_card hsub).trans (card_insert_le _ _)
    simp only [countFrame, h, ne_eq, not_false_eq_true, if_true] at hcard ⊢
    omega

lemma card_le_countFrames (segment : List RtpPacket) :
    (segment.map (·.ticks)).toFinset.card ≤ (countFrames segment).1 := by
  have h := card_le_foldl_countFrame segment (0, none)
  simpa [countFrames_eq] using h

end Frames

structure Replayable (segment : List RtpPacket) (segmentTs : ℕ) : Prop where
  head : ∃ first, segment.head? = some first ∧ first.isFrameStart = true ∧
    (countFrames segment).2.getD segmentTs - segmentTs ≤
      Word.saturatingMul 64 first.rtpTs.frequency.hz maxReplaySpanMs / 1000
  last : ∃ l, segment.getLast? = some l ∧ l.marker = true
  marked : segment.IsChain (fun a b => a.rtpTs.sameTime b.rtpTs = false → a.marker = true)
  monotone : segment.IsChain (fun a b => a.ticks ≤ b.ticks)
  frames : (countFrames segment).1 ≤ maxReplayFrames
  packets : segment.length ≤ maxReplayPacketsHard
  packets_of_frames : 1 < (countFrames segment).1 → segment.length ≤ maxReplayPackets

lemma replayable_spec {segment : List RtpPacket} {segmentTs : ℕ} (h : replayable segment segmentTs = true) :
    Replayable segment segmentTs := by
  simp only [replayable, Bool.and_eq_true, decide_eq_true_eq, Bool.not_eq_true', anyAdjacent_eq_false] at h
  obtain ⟨⟨⟨⟨⟨⟨⟨⟨_, hstart⟩, hlast, hmarked⟩, _⟩, hmono⟩, hframes⟩, hhard⟩, hpackets⟩, hspan⟩ := h
  rw [Option.any_eq_true] at hstart hlast hspan
  obtain ⟨first, hfirst, hstart⟩ := hstart
  obtain ⟨first', hfirst', hspan⟩ := hspan
  obtain rfl : first = first' := Option.some.inj (hfirst.symm.trans hfirst')
  refine ⟨⟨first, hfirst, hstart, by simpa using hspan⟩, hlast, ?_, ?_, hframes, hhard, fun h1 => ?_⟩
  · exact hmarked.imp fun a b hab hne => by simpa [hne] using hab
  · exact hmono.imp fun a b hab => by simpa using hab
  · simpa [h1] using hpackets

variable {rate : Frequency} {l front rest : List RtpPacket}

section Follows

def Follows (a b : RtpPacket) : Prop := a.ticks ≤ b.ticks ∧ (a.ticks ≠ b.ticks → a.marker = true)

variable {segment : List RtpPacket} {ts : ℕ}

lemma Replayable.follows (h : Replayable segment ts) (hrate : ∀ p ∈ segment, p.rtpTs.frequency = rate) :
    segment.IsChain Follows := by
  rw [isChain_iff_getElem]
  intro i hi
  refine ⟨h.monotone.getElem i hi, fun hne => h.marked.getElem i hi ?_⟩
  have ha := hrate segment[i] (getElem_mem _)
  have hb := hrate segment[i + 1] (getElem_mem _)
  simp only [MediaTime.sameTime, ha, hb, beq_eq_false_iff_ne]
  exact fun he => hne (eq_of_mul_eq_mul_right rate.pos he)

lemma Replayable.ticks_le (h : Replayable segment ts) {first p : RtpPacket} (hfirst : segment.head? = some first)
    (hp : p ∈ segment) : first.ticks ≤ p.ticks := by
  obtain ⟨tail, rfl⟩ := head?_eq_some_iff.1 hfirst
  have hpw := isChain_iff_pairwise.1 ((isChain_map (fun p : RtpPacket => p.ticks)).2 h.monotone)
  rcases mem_cons.1 hp with rfl | hp
  · rfl
  · exact rel_of_pairwise_cons (pairwise_map.1 hpw) hp

lemma ticks_le_last (h : segment.IsChain fun a b => a.ticks ≤ b.ticks) {l p : RtpPacket} (hl : segment.getLast? = some l)
    (hp : p ∈ segment) : p.ticks ≤ l.ticks := by
  obtain ⟨front, rfl⟩ := getLast?_eq_some_iff.1 hl
  have hpw := pairwise_map.1 (isChain_iff_pairwise.1 ((isChain_map (fun p : RtpPacket => p.ticks)).2 h))
  rcases mem_append.1 hp with hp | hp
  · exact (List.pairwise_append.1 hpw).2.2 p hp l (List.mem_singleton_self l)
  · rw [List.mem_singleton.1 hp]

lemma isChain_follows_append (hfront : ∀ p ∈ front, p.ticks = ts) (hrest : rest.IsChain Follows)
    (hjoin : ∀ a ∈ front.getLast?, ∀ b ∈ rest.head?, ts ≤ b.ticks ∧ (ts ≠ b.ticks → a.marker = true)) :
    (front ++ rest).IsChain Follows := by
  refine isChain_append.2 ⟨?_, hrest, fun a ha b hb => ?_⟩
  · apply List.Pairwise.isChain
    apply pairwise_of_forall_mem_list
    intro a ha b hb
    rw [Follows, hfront a ha, hfront b hb]
    exact ⟨le_rfl, fun hne => absurd rfl hne⟩
  · have hat := hfront a (mem_of_getLast? ha)
    rw [Follows, hat]
    exact hjoin a ha b hb

end Follows

section ParameterSets

variable {P : RtpPacket → Prop} {c : StreamCache} {segment sets : List RtpPacket} {ts : ℕ}

lemma missingSets_spec (huniq : ∀ p q, P p → P q → p.seqNo = q.seqNo → p = q)
    (hsps : ∀ p, c.sps = some p → P p ∧ p.nal.sps = true) (hpps : ∀ p, c.pps = some p → P p ∧ p.nal.pps = true)
    {needsSps needsPps : Bool} (h : c.missingSets needsSps needsPps = some sets) :
    sets.length ≤ 2 ∧ (needsSps = true → ∃ p ∈ sets, p.nal.sps = true) ∧
      (needsPps = true → ∃ p ∈ sets, p.nal.pps = true) := by
  obtain ⟨first, hfirst, h⟩ := bind_eq_some_iff.1 h
  have hf : first.length ≤ 1 ∧ (needsSps = true → ∃ p ∈ first, p.nal.sps = true) ∧ ∀ p ∈ first, P p := by
    cases needsSps with
    | false =>
      obtain rfl := Option.some.inj hfirst
      simp
    | true =>
      obtain ⟨p, hp, rfl⟩ := map_eq_some_iff.1 hfirst
      obtain ⟨hP, hs⟩ := hsps p hp
      exact ⟨le_rfl, fun _ => ⟨p, List.mem_singleton_self p, hs⟩, fun q hq => by rwa [List.mem_singleton.1 hq]⟩
  obtain ⟨hlen, hfs, hfP⟩ := hf
  split at h
  next hneed =>
    rw [Bool.and_eq_true, Bool.not_eq_true', List.any_eq_false] at hneed
    obtain ⟨pps, hp, rfl⟩ := map_eq_some_iff.1 h
    obtain ⟨hP, hps⟩ := hpps pps hp
    have hnew : first.any (fun p => p.ssrc == pps.ssrc && p.seqNo == pps.seqNo) = false := by
      rw [List.any_eq_false]
      intro q hq he
      rw [and_eq_true, beq_iff_eq, beq_iff_eq] at he
      obtain rfl := huniq q pps (hfP q hq) hP he.2
      exact hneed.2 q hq hps
    rw [hnew]
    refine ⟨by simpa using hlen, fun hs => ?_, fun _ => ⟨pps, by simp, hps⟩⟩
    obtain ⟨p, hp, hps⟩ := hfs hs
    exact ⟨p, mem_append_left _ hp, hps⟩
  next hneed =>
    obtain rfl := Option.some.inj h
    refine ⟨by omega, hfs, fun hp => ?_⟩
    simpa [hp] using hneed

structure ParameterSets (segment sets : List RtpPacket) (ts : ℕ) : Prop where
  length : sets.length ≤ 2
  ticks : ∀ p ∈ sets, p.ticks = ts
  sps : ∃ p ∈ sets ++ segment, p.nal.sps = true
  pps : ∃ p ∈ sets ++ segment, p.nal.pps = true

lemma exists_mem_mapIdx {f : ℕ → RtpPacket → RtpPacket} {q : RtpPacket → Prop} (hf : ∀ i p, q p → q (f i p))
    (h : ∃ p ∈ l, q p) : ∃ p ∈ l.mapIdx f, q p := by
  obtain ⟨p, hp, hq⟩ := h
  obtain ⟨i, hi, rfl⟩ := mem_iff_getElem.1 hp
  exact ⟨f i l[i], mem_iff_getElem.2 ⟨i, by simpa using hi, by simp⟩, hf i _ hq⟩

lemma parameterSetPrefix_spec (huniq : ∀ p q, P p → P q → p.seqNo = q.seqNo → p = q)
    (hsps : ∀ p, c.sps = some p → P p ∧ p.nal.sps = true) (hpps : ∀ p, c.pps = some p → P p ∧ p.nal.pps = true)
    (h : c.parameterSetPrefix segment ts = some sets) : ParameterSets segment sets ts := by
  simp only [parameterSetPrefix] at h
  split at h
  next hnone =>
    obtain rfl := Option.some.inj h
    simp only [and_eq_true] at hnone
    exact ⟨by simp, by simp, by simpa using hnone.1, by simpa using hnone.2⟩
  · obtain ⟨anchor, _, h⟩ := bind_eq_some_iff.1 h
    obtain ⟨raw, hraw, h⟩ := bind_eq_some_iff.1 h
    obtain rfl := Option.some.inj h
    obtain ⟨hlen, hs, hp⟩ := missingSets_spec huniq hsps hpps hraw
    have hfind (q : NalFlags → Bool) (hq : (!segment.any (q ·.nal)) = true → ∃ p ∈ raw, q p.nal = true) :
        ∃ p ∈ raw.mapIdx (restamp anchor ts raw.length) ++ segment, q p.nal = true := by
      cases hany : segment.any (q ·.nal) with
      | true =>
        obtain ⟨p, hp, hps⟩ := any_eq_true.1 hany
        exact ⟨p, mem_append_right _ hp, hps⟩
      | false =>
        obtain ⟨p, hp, hps⟩ := exists_mem_mapIdx (f := restamp anchor ts raw.length) (fun _ _ hq => hq) (hq (by rw [hany]; rfl))
        exact ⟨p, mem_append_left _ hp, hps⟩
    refine ⟨by simpa using hlen, fun p hp => ?_, hfind _ hs, hfind _ hp⟩
    obtain ⟨i, hi, rfl⟩ := mem_mapIdx.1 hp
    rfl

end ParameterSets

variable {a : RtpPacket}

section Rewrite

variable {segment sets : List RtpPacket} {ts : ℕ} {dd : DependencyDescriptor}

structure Rewritten (segment sets out : List RtpPacket) : Prop where
  split : ∃ front run, out = front ++ run ∧ front.length = sets.length ∧
    run.map (·.withoutBoundary) = segment.map (·.withoutBoundary)
  nal : out.map (·.nal) = (sets ++ segment).map (·.nal)
  follows : out.IsChain Follows
  last : ∃ l, out.getLast? = some l ∧ l.marker = true

lemma map_nal_mapIdx (dd : DependencyDescriptor) (n last : ℕ) (l : List RtpPacket) :
    (l.mapIdx (rewriteBoundary dd n last)).map (·.nal) = l.map (·.nal) :=
  ext_getElem (by simp) fun i _ _ => by simp only [getElem_map, getElem_mapIdx, rewriteBoundary_nal]

lemma map_withoutBoundary_mapIdx (dd : DependencyDescriptor) (n last : ℕ) (l : List RtpPacket) :
    (l.mapIdx (fun i => rewriteBoundary dd n last (i + n))).map (·.withoutBoundary) = l.map (·.withoutBoundary) :=
  ext_getElem (by simp) fun i _ _ => by
    simp only [getElem_map, getElem_mapIdx]
    exact rewriteBoundary_withoutBoundary dd n last _ _ (le_add_left n i)

lemma getLast_mapIdx_marker {n : ℕ} (ha : a ∈ (l.mapIdx (rewriteBoundary dd n (l.length - 1))).getLast?) :
    a.marker = true := by
  rw [getLast?_eq_getElem?, length_mapIdx, getElem?_mapIdx] at ha
  obtain ⟨p, _, rfl⟩ := map_eq_some_iff.1 ha
  rw [rewriteBoundary_marker, beq_self_eq_true]

lemma rewritten_mapIdx (hticks : ∀ p ∈ sets ++ front, p.ticks = ts) (hne : front ≠ []) (hrest : rest.IsChain Follows)
    (hle : ∀ p ∈ rest, ts ≤ p.ticks) (hlast : ∀ l ∈ rest.getLast?, l.marker = true) :
    Rewritten (front ++ rest) sets
      ((sets ++ front).mapIdx (rewriteBoundary dd sets.length ((sets ++ front).length - 1)) ++ rest) where
  split := by
    refine ⟨_, _, by rw [mapIdx_append, append_assoc], length_mapIdx, ?_⟩
    rw [map_append, map_withoutBoundary_mapIdx, map_append]
  nal := by rw [map_append, map_nal_mapIdx, ← map_append, append_assoc]
  follows := by
    refine isChain_follows_append (fun p hp => ?_) hrest fun a ha b hb =>
      ⟨hle b (mem_of_mem_head? hb), fun _ => getLast_mapIdx_marker ha⟩
    obtain ⟨i, hi, rfl⟩ := mem_mapIdx.1 hp
    rw [RtpPacket.ticks, rewriteBoundary_rtpTs]
    exact hticks _ (getElem_mem hi)
  last := by
    cases hr : rest.getLast? with
    | some l => exact ⟨l, by rw [getLast?_append, hr]; rfl, hlast l hr⟩
    | none =>
      have hnonempty : (sets ++ front).mapIdx (rewriteBoundary dd sets.length ((sets ++ front).length - 1)) ≠ [] := by
        simpa using fun _ => hne
      obtain ⟨l, hl⟩ : ∃ l, _ = some l := ⟨_, getLast?_eq_some_getLast hnonempty⟩
      exact ⟨l, by rw [getLast?_append, hr, none_or, hl], getLast_mapIdx_marker hl⟩

lemma rewritten_append (hticks : ∀ p ∈ sets, p.ticks = ts) (hchain : segment.IsChain Follows)
    (hhead : ∀ p ∈ segment.head?, p.ticks = ts) (hlast : ∃ l, segment.getLast? = some l ∧ l.marker = true) :
    Rewritten segment sets (sets ++ segment) where
  split := ⟨sets, segment, rfl, rfl, rfl⟩
  nal := rfl
  follows := isChain_follows_append hticks hchain fun a _ b hb =>
    ⟨(hhead b hb).ge, fun hne => absurd (hhead b hb).symm hne⟩
  last := by
    obtain ⟨l, hl, hm⟩ := hlast
    exact ⟨l, by rw [getLast?_append, hl]; rfl, hm⟩

lemma rewriteReplayFrameBoundaries_rewritten (hseg : Replayable segment ts)
    (hrate : ∀ p ∈ segment, p.rtpTs.frequency = rate) (hhead : ∀ p ∈ segment.head?, p.ticks = ts)
    (hticks : ∀ p ∈ sets, p.ticks = ts) :
    Rewritten segment sets (rewriteReplayFrameBoundaries (sets ++ segment) sets.length
      (sets.length + (segment.takeWhile (fun p => p.rtpTs.ticks == ts)).length)) := by
  have hchain := hseg.follows hrate
  obtain ⟨first, hfirst, -⟩ := hseg.head
  have hfts : first.ticks = ts := hhead first hfirst
  rw [rewriteReplayFrameBoundaries]
  split
  · exact rewritten_append hticks hchain hhead hseg.last
  have hsplit := takeWhile_append_dropWhile (p := fun p : RtpPacket => p.rtpTs.ticks == ts) (l := segment)
  set front := segment.takeWhile (fun p : RtpPacket => p.rtpTs.ticks == ts) with hfront
  set rest := segment.dropWhile (fun p : RtpPacket => p.rtpTs.ticks == ts) with hrest
  have hle : ∀ p ∈ rest, ts ≤ p.ticks := fun p hp =>
    hfts ▸ hseg.ticks_le hfirst (hsplit ▸ mem_append_right front hp)
  rw [← hsplit, ← append_assoc, take_left' (by simp), drop_left' (by simp), ← length_append]
  refine rewritten_mapIdx ?_ ?_ (hsplit ▸ hchain).right_of_append hle ?_
  · intro p hp
    rcases mem_append.1 hp with hp | hp
    · exact hticks p hp
    · have hpt := mem_takeWhile_imp hp
      exact beq_iff_eq.1 hpt
  · obtain ⟨tail, rfl⟩ := head?_eq_some_iff.1 hfirst
    simp [hfront, hfts]
  · intro l hl
    obtain ⟨l', hl', hm⟩ := hseg.last
    rw [← hsplit, getLast?_append, hl] at hl'
    rwa [Option.some.inj hl']

end Rewrite

variable {start : ℕ} {w : PacketWindow}

section Numbers

variable {P : RtpPacket → Prop} {c : StreamCache} {out : List RtpPacket} {p : RtpPacket}

lemma mem_segment (hw : w.Holds P) {n : ℕ} (hp : p ∈ w.contiguousFrom start n) : P p := by
  have hmem : some p ∈ (w.contiguousFrom start n).map some := mem_map_of_mem hp
  rw [PacketWindow.contiguousFrom_get] at hmem
  obtain ⟨k, _, hk⟩ := mem_map.1 hmem
  exact (hw.packet k p hk).1

lemma mem_rewriteReplayFrameBoundaries {packets : List RtpPacket} {n frameEnd : ℕ}
    (hp : p ∈ rewriteReplayFrameBoundaries packets n frameEnd) : ∃ q ∈ packets, p.seqNo = q.seqNo := by
  rw [rewriteReplayFrameBoundaries] at hp
  split at hp
  · exact ⟨p, hp, rfl⟩
  rcases mem_append.1 hp with hp | hp
  · obtain ⟨i, hi, rfl⟩ := mem_mapIdx.1 hp
    exact ⟨_, mem_of_mem_take (getElem_mem hi), rewriteBoundary_seqNo _ _ _ _ _⟩
  · exact ⟨p, mem_of_mem_drop hp, rfl⟩

lemma mem_parameterSetPrefix {segment sets : List RtpPacket} {ts : ℕ}
    (h : c.parameterSetPrefix segment ts = some sets) (hp : p ∈ sets) : ∃ q ∈ segment, p.seqNo ≤ q.seqNo := by
  simp only [parameterSetPrefix] at h
  split at h
  · obtain rfl := Option.some.inj h
    cases hp
  obtain ⟨anchor, hanchor, h⟩ := bind_eq_some_iff.1 h
  obtain ⟨raw, _, h⟩ := bind_eq_some_iff.1 h
  obtain rfl := Option.some.inj h
  obtain ⟨i, hi, rfl⟩ := mem_mapIdx.1 hp
  exact ⟨anchor, mem_of_mem_head? hanchor, sub_le _ _⟩

lemma replay_seqNo_le (hw : c.packets.Holds P) (h : c.replay = some out) (hp : p ∈ out) :
    ∃ q, P q ∧ p.seqNo ≤ q.seqNo := by
  obtain ⟨⟨segment, ts⟩, hsegment, h⟩ := bind_eq_some_iff.1 h
  obtain ⟨ts', hts, hsegment⟩ := bind_eq_some_iff.1 hsegment
  obtain ⟨start, hstart, hsegment⟩ := bind_eq_some_iff.1 hsegment
  obtain ⟨newest, _, hsegment⟩ := bind_eq_some_iff.1 hsegment
  obtain ⟨rfl, rfl⟩ := Prod.mk.inj (Option.some.inj hsegment)
  simp only at h
  split at h
  · cases h
  obtain ⟨sets, hsets, rfl⟩ := map_eq_some_iff.1 h
  have hset : ∀ p ∈ sets, ∃ q, P q ∧ p.seqNo ≤ q.seqNo := fun p hp => by
    split at hsets
    · obtain ⟨q, hq, hle⟩ := mem_parameterSetPrefix hsets hp
      exact ⟨q, mem_segment hw hq, hle⟩
    · obtain rfl := Option.some.inj hsets
      cases hp
  split at hp
  · exact ⟨p, mem_segment hw hp, le_rfl⟩
  obtain ⟨q, hq, heq⟩ := mem_rewriteReplayFrameBoundaries hp
  rw [heq]
  rcases mem_append.1 hq with hq | hq
  · exact hset q hq
  · exact ⟨q, mem_segment hw hq, le_rfl⟩

end Numbers

section Main

def pushAll (pushes : List RtpPacket) : StreamCache := pushes.foldl (fun c p => (c.push p).1) new

variable {c : StreamCache} {P : RtpPacket → Prop}

lemma fed_foldl (hc : Fed P c) {pushes : List RtpPacket} (h : ∀ p ∈ pushes, P p) :
    Fed P (pushes.foldl (fun c p => (c.push p).1) c) := by
  induction pushes generalizing c with
  | nil => exact hc
  | cons p pushes ih =>
    exact ih (hc.push (h p mem_cons_self)) fun q hq => h q (mem_cons_of_mem p hq)

lemma fed_pushAll (pushes : List RtpPacket) : Fed (· ∈ pushes) (pushAll pushes) := fed_foldl .new fun _ h => h

/-- A burst a receiver can start decoding at: `sets` are the synthesized parameter sets, `run` the rest, and
`segment` the cached packets from `start` on that `run` repeats. -/
structure DecodableBurst (c : StreamCache) (rate : Frequency) (out sets run segment : List RtpPacket) (start : ℕ) :
    Prop where
  split : out = sets ++ run
  sets_length : sets.length ≤ 2
  run_cached : run.map (·.withoutBoundary) = segment.map (·.withoutBoundary)
  segment_cached : segment.map some = (List.range' start segment.length).map c.get
  head : ∃ first, segment.head? = some first ∧ first.isFrameStart = true ∧
    ∃ k kf, c.get k = some kf ∧ kf.isKeyframe = true ∧ kf.ticks = first.ticks
  follows : out.IsChain Follows
  last : ∃ l, out.getLast? = some l ∧ l.marker = true
  frames : (run.map (·.ticks)).toFinset.card ≤ 3
  packets : run.length ≤ 200
  packets_of_frames : 1 < (run.map (·.ticks)).toFinset.card → run.length ≤ 96
  span : ∀ a ∈ run, ∀ b ∈ run, (b.ticks - a.ticks) * 1000 ≤ 400 * rate.hz
  parameter_sets : (∃ p ∈ run, p.nal.idr = true) → (∃ p ∈ out, p.nal.sps = true) ∧ ∃ p ∈ out, p.nal.pps = true

variable {segment : List RtpPacket} {ts : ℕ} {run out : List RtpPacket} {n : ℕ}

lemma Replayable.span_le (h : Replayable segment ts) (hrate : ∀ p ∈ segment, p.rtpTs.frequency = rate)
    (hhead : ∀ p ∈ segment.head?, p.ticks = ts) {b : RtpPacket} (ha : a ∈ segment) (hb : b ∈ segment) :
    (b.ticks - a.ticks) * 1000 ≤ 400 * rate.hz := by
  obtain ⟨first, hfirst, _, hspan⟩ := h.head
  obtain ⟨l, hl, _⟩ := h.last
  have hfa := h.ticks_le hfirst ha
  have hbl := ticks_le_last h.monotone hl hb
  have hft := hhead first hfirst
  have hfreq := hrate first (mem_of_mem_head? hfirst)
  rw [countFrames_eq, foldl_countFrame_snd, hl, hfreq] at hspan
  simp only [map_some, some_or, getD_some, Word.saturatingMul, maxReplaySpanMs] at hspan
  omega

lemma map_ticks_of_withoutBoundary (h : run.map (·.withoutBoundary) = segment.map (·.withoutBoundary)) :
    run.map (·.ticks) = segment.map (·.ticks) := by
  have hm := congrArg (List.map (·.ticks)) h
  rwa [List.map_map, List.map_map] at hm

lemma map_nal_of_withoutBoundary (h : run.map (·.withoutBoundary) = segment.map (·.withoutBoundary)) :
    run.map (·.nal) = segment.map (·.nal) := by
  have hm := congrArg (List.map (·.nal)) h
  rwa [List.map_map, List.map_map] at hm

lemma exists_ticks_of_mem (h : run.map (·.ticks) = segment.map (·.ticks)) (ha : a ∈ run) :
    ∃ b ∈ segment, b.ticks = a.ticks :=
  mem_map.1 (h ▸ mem_map_of_mem ha)

lemma DecodableBurst.ticks_lt {sets : List RtpPacket} (h : DecodableBurst c rate out sets run segment start) {bound : ℕ}
    (hc : ∀ k p, c.get k = some p → p.ticks < bound) : ∀ p ∈ out, p.ticks < bound := by
  intro p hp
  obtain ⟨last, hlast, -⟩ := h.last
  refine (ticks_le_last (h.follows.imp fun _ _ hf => hf.1) hlast hp).trans_lt ?_
  obtain ⟨first, hfirst, -⟩ := h.head
  have hrun : run ≠ [] := by
    rintro rfl
    have hnil := h.run_cached
    rw [map_nil, eq_comm, map_eq_nil_iff] at hnil
    rw [hnil] at hfirst
    cases hfirst
  rw [h.split, getLast?_append_of_ne_nil _ hrun] at hlast
  obtain ⟨q, hq, hqt⟩ := exists_ticks_of_mem (map_ticks_of_withoutBoundary h.run_cached) (mem_of_getLast? hlast)
  have hmem : some q ∈ segment.map some := mem_map_of_mem hq
  rw [h.segment_cached] at hmem
  obtain ⟨k, -, hk⟩ := mem_map.1 hmem
  exact hqt ▸ hc k q hk

lemma exists_nal_iff {l' : List RtpPacket} (h : l.map (·.nal) = l'.map (·.nal)) (f : NalFlags → Bool) :
    (∃ p ∈ l, f p.nal = true) ↔ ∃ p ∈ l', f p.nal = true := by
  have hmap : ∀ l : List RtpPacket, (∃ p ∈ l, f p.nal = true) ↔ ∃ n ∈ l.map (·.nal), f n = true := by simp
  rw [hmap, hmap, h]

lemma decodable_of_rewritten {sets : List RtpPacket}
    (hseg : Replayable segment ts) (hcontig : segment = c.packets.contiguousFrom start n)
    (hrate : ∀ p ∈ segment, p.rtpTs.frequency = rate) (hhead : ∀ p ∈ segment.head?, p.ticks = ts)
    (hkf : ∃ k kf, c.get k = some kf ∧ kf.isKeyframe = true ∧ kf.ticks = ts) (hsets : sets.length ≤ 2)
    (hps : (∃ p ∈ segment, p.nal.idr = true) →
      (∃ p ∈ sets ++ segment, p.nal.sps = true) ∧ ∃ p ∈ sets ++ segment, p.nal.pps = true)
    (hout : Rewritten segment sets out) : ∃ front run, DecodableBurst c rate out front run segment start := by
  obtain ⟨front, run, hsplit, hlen, hrun⟩ := hout.split
  have hticks := map_ticks_of_withoutBoundary hrun
  have hnal := map_nal_of_withoutBoundary hrun
  have hrlen : run.length = segment.length := by simpa using congrArg List.length hrun
  obtain ⟨first, hfirst, hstart, _⟩ := hseg.head
  have hcard := card_le_countFrames segment
  refine ⟨front, run, hsplit, hlen ▸ hsets, hrun, ?_, ⟨first, hfirst, hstart, ?_⟩, hout.follows, hout.last, ?_, ?_,
    ?_, ?_, ?_⟩
  · rw [hcontig]
    exact PacketWindow.contiguousFrom_get _ _ _
  · rwa [hhead first hfirst]
  · rw [hticks]
    exact hcard.trans hseg.frames
  · rw [hrlen]
    exact hseg.packets
  · rw [hrlen, hticks]
    exact fun h => hseg.packets_of_frames (h.trans_le hcard)
  · intro a ha b hb
    obtain ⟨a', ha', hat⟩ := exists_ticks_of_mem hticks ha
    obtain ⟨b', hb', hbt⟩ := exists_ticks_of_mem hticks hb
    rw [← hat, ← hbt]
    exact hseg.span_le hrate hhead ha' hb'
  · intro hidr
    rw [exists_nal_iff hout.nal (·.sps), exists_nal_iff hout.nal (·.pps)]
    exact hps ((exists_nal_iff hnal (·.idr)).1 hidr)

lemma head_contiguousFrom {p : RtpPacket} (hp : (w.contiguousFrom start n).head? = some p) : w.get start = some p := by
  cases n with
  | zero => cases hp
  | succ n =>
    rw [PacketWindow.contiguousFrom] at hp
    cases hg : w.get start with
    | none => simp [hg] at hp
    | some q => simpa [hg] using hp

lemma Fed.decodable (hfed : Fed P c) (hrate : ∀ p, P p → p.rtpTs.frequency = rate) (hseq : ∀ p, P p → p.seqNo < 2 ^ 63)
    (huniq : ∀ p q, P p → P q → p.seqNo = q.seqNo → p = q) (h : c.replay = some out) :
    ∃ sets run segment start, DecodableBurst c rate out sets run segment start := by
  obtain ⟨⟨segment, ts⟩, hsegment, h⟩ := bind_eq_some_iff.1 h
  obtain ⟨ts', hts, hsegment⟩ := bind_eq_some_iff.1 hsegment
  obtain ⟨start, hstart, hsegment⟩ := bind_eq_some_iff.1 hsegment
  obtain ⟨newest, _, hsegment⟩ := bind_eq_some_iff.1 hsegment
  obtain ⟨hcontig, rfl⟩ := Prod.mk.inj (Option.some.inj hsegment)
  obtain ⟨_, ⟨p, hp, hpt⟩, k, kf, _, hkf⟩ := (hfed.segment hseq huniq).2 start ts' hstart hts
  obtain ⟨hsps, hpps⟩ := hfed.parameterSets
  have hsegRate : ∀ p ∈ segment, p.rtpTs.frequency = rate := fun p hp =>
    hrate p (mem_segment hfed.holds (hcontig ▸ hp))
  have hhead : ∀ p ∈ segment.head?, p.ticks = ts' := fun q hq => by
    have hq' := head_contiguousFrom (hcontig ▸ hq)
    rwa [← Option.some.inj (hp.symm.trans hq')]
  simp only at h
  split at h
  · cases h
  rename_i hrep
  have hseg : Replayable segment ts' := replayable_spec (by simpa using hrep)
  obtain ⟨sets, hsets, hout⟩ := map_eq_some_iff.1 h
  have hsets' : (∀ p ∈ sets, p.ticks = ts') ∧ sets.length ≤ 2 ∧ ((∃ p ∈ segment, p.nal.idr = true) →
      (∃ p ∈ sets ++ segment, p.nal.sps = true) ∧ ∃ p ∈ sets ++ segment, p.nal.pps = true) := by
    split at hsets
    · have hspec := parameterSetPrefix_spec huniq hsps hpps hsets
      exact ⟨hspec.ticks, hspec.length, fun _ => ⟨hspec.sps, hspec.pps⟩⟩
    next hidr =>
      obtain rfl := Option.some.inj hsets
      exact ⟨by simp, by simp, fun hp => absurd (any_eq_true.2 hp) hidr⟩
  obtain ⟨hticks, hlen, hps⟩ := hsets'
  have hrew : Rewritten segment sets out := by
    split at hout
    next hempty =>
      obtain rfl := length_eq_zero_iff.1 hempty
      rw [← hout]
      exact rewritten_append hticks (hseg.follows hsegRate) hhead hseg.last
    · rw [← hout]
      exact rewriteReplayFrameBoundaries_rewritten hseg hsegRate hhead hticks
  obtain ⟨front, run, hburst⟩ := decodable_of_rewritten hseg hcontig.symm hsegRate hhead ⟨k, kf, hkf⟩ hlen hps hrew
  exact ⟨front, run, segment, start, hburst⟩

theorem replay_decodable (pushes : List RtpPacket) (rate : Frequency)
    (hrate : ∀ p ∈ pushes, p.rtpTs.frequency = rate) (hseq : ∀ p ∈ pushes, p.seqNo < 2 ^ 63)
    (huniq : ∀ p ∈ pushes, ∀ q ∈ pushes, p.seqNo = q.seqNo → p = q) (out : List RtpPacket)
    (h : (pushAll pushes).replay = some out) :
    ∃ sets run segment start, DecodableBurst (pushAll pushes) rate out sets run segment start :=
  (fed_pushAll pushes).decodable hrate hseq (fun p q hp hq => huniq p hp q hq) h

def idrPushes : List RtpPacket :=
  [{ (default : RtpPacket) with seqNo := 10, rtpTs := ⟨1000, .ninetyKhz⟩, marker := true, nal := ⟨true, true, false⟩ },
   { (default : RtpPacket) with seqNo := 13, rtpTs := ⟨4000, .ninetyKhz⟩, marker := true, nal := ⟨false, false, true⟩ },
   { (default : RtpPacket) with
      seqNo := 12, rtpTs := ⟨4000, .ninetyKhz⟩, isKeyframe := true, isFrameStart := true, nal := ⟨false, false, true⟩ }]

theorem replay_decodable_idr :
    ((pushAll idrPushes).replay.map List.length) = some 3 ∧
      ∃ out sets run segment start, (pushAll idrPushes).replay = some out ∧
        DecodableBurst (pushAll idrPushes) .ninetyKhz out sets run segment start := by
  have hlen : ((pushAll idrPushes).replay.map List.length) = some 3 := by decide
  obtain ⟨out, hout, _⟩ := map_eq_some_iff.1 hlen
  obtain ⟨sets, run, segment, start, h⟩ :=
    replay_decodable idrPushes .ninetyKhz (by decide) (by decide) (by decide) out hout
  exact ⟨hlen, out, sets, run, segment, start, hout, h⟩

end Main

end StreamCache

end Pulsebeam.Rtp
