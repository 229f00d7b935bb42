import Pulsebeam.Media.H264
import Pulsebeam.Rtp.Replay

/-! What the NAL units of a payload say, and what a synthesized parameter-set prefix brings along. -/

namespace Pulsebeam.Rtp

open List Option

open H264

namespace NalFlags

def empty : NalFlags := ⟨false, false, false⟩

def noteNaluType (flags : NalFlags) (naluType : UInt8) : NalFlags :=
  ⟨flags.sps || naluType == 7, flags.pps || naluType == 8, flags.idr || naluType == 5⟩

def noteStapa : ℕ → NalFlags → Bytes → NalFlags
  | fuel + 1, flags, hi :: lo :: nalu :: rest =>
    let size := hi.toNat * 256 + lo.toNat
    if size = 0 ∨ rest.length + 1 < size then flags
    else noteStapa fuel (flags.noteNaluType (nalu &&& naluTypeMask)) ((nalu :: rest).drop size)
  | _, flags, _ => flags

def classify : Bytes → NalFlags
  | [] => empty
  | first :: rest =>
    let naluType := first &&& naluTypeMask
    if 1 ≤ naluType ∧ naluType ≤ 23 then empty.noteNaluType naluType
    else if naluType = stapaNaluType then noteStapa rest.length empty rest
    else if naluType = fuaNaluType ∨ naluType = fubNaluType then
      match rest with
      | header :: more =>
        if naluType = fubNaluType ∧ more.length < 2 then empty
        else if header &&& fuStartMask ≠ 0 then empty.noteNaluType (header &&& naluTypeMask)
        else empty
      | [] => empty
    else empty

end NalFlags

namespace StreamCache

variable {c : StreamCache} {P : RtpPacket → Prop} {segment sets out : List RtpPacket} {ts : ℕ} {p : RtpPacket}

lemma mem_missingSets {needsSps needsPps : Bool} (h : c.missingSets needsSps needsPps = some sets) (hp : p ∈ sets) :
    c.sps = some p ∨ c.pps = some p := by
  obtain ⟨first, hfirst, h⟩ := bind_eq_some_iff.1 h
  have hsps : ∀ q ∈ first, c.sps = some q := by
    split at hfirst
    · obtain ⟨sps, hsps, rfl⟩ := map_eq_some_iff.1 hfirst
      simpa using hsps
    · obtain rfl := Option.some.inj hfirst
      exact nofun
  split at h
  · obtain ⟨pps, hpps, rfl⟩ := map_eq_some_iff.1 h
    split at hp
    · exact .inl (hsps p hp)
    rcases mem_append.1 hp with hp | hp
    · exact .inl (hsps p hp)
    · rw [mem_singleton.1 hp]
      exact .inr hpps
  · obtain rfl := Option.some.inj h
    exact .inl (hsps p hp)

lemma parameterSetPrefix_nal (h : c.parameterSetPrefix segment ts = some sets) (hp : p ∈ sets) :
    ∃ q, (c.sps = some q ∨ c.pps = some q) ∧ p.nal = q.nal := by
  simp only [parameterSetPrefix] at h
  split at h
  · obtain rfl := Option.some.inj h
    cases hp
  obtain ⟨anchor, -, h⟩ := bind_eq_some_iff.1 h
  obtain ⟨raw, hraw, h⟩ := bind_eq_some_iff.1 h
  obtain rfl := Option.some.inj h
  obtain ⟨i, hi, rfl⟩ := mem_mapIdx.1 hp
  exact ⟨raw[i], mem_missingSets hraw (getElem_mem hi), rfl⟩

lemma map_nal_rewriteReplayFrameBoundaries (packets : List RtpPacket) (n frameEnd : ℕ) :
    (rewriteReplayFrameBoundaries packets n frameEnd).map (·.nal) = packets.map (·.nal) := by
  rw [rewriteReplayFrameBoundaries]
  split
  · rfl
  rw [map_append, map_nal_mapIdx, ← map_append, take_append_drop]

lemma replay_take (hs : c.segment = some (segment, ts)) (hr : c.replay = some out) :
    ∃ sets, (out.take (out.length - segment.length)).map (·.nal) = sets.map (·.nal) ∧
      (sets = [] ∨ c.parameterSetPrefix segment ts = some sets) := by
  simp only [replay, hs, bind_some] at hr
  split at hr
  · cases hr
  obtain ⟨sets, hsets, rfl⟩ := map_eq_some_iff.1 hr
  refine ⟨sets, ?_, ?_⟩
  · split
    next hnil => rw [Nat.sub_self, take_zero, eq_nil_of_length_eq_zero hnil]
    · have hnal := map_nal_rewriteReplayFrameBoundaries (sets ++ segment) sets.length (sets.length +
        (segment.takeWhile fun p => p.rtpTs.ticks == ts).length)
      have hlen := congrArg List.length hnal
      simp only [length_map, length_append] at hlen
      rw [map_take, hnal, hlen, Nat.add_sub_cancel, map_append, take_left' (length_map ..)]
  · split at hsets
    · exact .inr hsets
    · exact .inl (Option.some.inj hsets).symm

theorem synthesized_sets_carry_no_slice (pushes : List RtpPacket)
    (hapart : ∀ p ∈ pushes, (p.nal.sps || p.nal.pps) = true → p.nal.idr = false)
    (hs : (pushAll pushes).segment = some (segment, ts)) (hr : (pushAll pushes).replay = some out) :
    ∀ p ∈ out.take (out.length - segment.length), p.nal.idr = false := by
  intro p hp
  obtain ⟨sets, hnal, hsets⟩ := replay_take hs hr
  obtain ⟨q, hq, hpq⟩ := mem_map.1 (hnal ▸ mem_map_of_mem hp)
  rcases hsets with rfl | hsets
  · cases hq
  obtain ⟨r, hkept, hqr⟩ := parameterSetPrefix_nal hsets hq
  obtain ⟨hsps, hpps⟩ := (fed_pushAll pushes).parameterSets
  rw [← hpq, hqr]
  rcases hkept with hr | hr
  · obtain ⟨hmem, hflag⟩ := hsps r hr
    exact hapart r hmem (by rw [hflag, Bool.true_or])
  · obtain ⟨hmem, hflag⟩ := hpps r hr
    exact hapart r hmem (by rw [hflag, Bool.or_true])

theorem synthesized_sets_carry_no_slice_idr : ∃ segment ts out, (pushAll idrPushes).segment = some (segment, ts) ∧
    (pushAll idrPushes).replay = some out ∧ (out.take (out.length - segment.length)).length = 1 ∧
    ∀ p ∈ out.take (out.length - segment.length), p.nal.idr = false := by
  have hlen : ((pushAll idrPushes).segment.bind fun s => (pushAll idrPushes).replay.map fun out =>
    (out.take (out.length - s.1.length)).length) = some 1 := by decide
  obtain ⟨⟨segment, ts⟩, hs, h⟩ := bind_eq_some_iff.1 hlen
  obtain ⟨out, hr, hone⟩ := map_eq_some_iff.1 h
  exact ⟨segment, ts, out, hs, hr, hone, synthesized_sets_carry_no_slice idrPushes (by decide) hs hr⟩

def aggregatePushes : List RtpPacket :=
  [{ (default : RtpPacket) with
      seqNo := 10, rtpTs := ⟨1000, .ninetyKhz⟩, marker := true, isKeyframe := true
      nal := .classify [24, 0, 1, 7, 0, 1, 8, 0, 1, 5] },
   { (default : RtpPacket) with
      seqNo := 11, rtpTs := ⟨4000, .ninetyKhz⟩, marker := true, isKeyframe := true, nal := .classify [5, 0] }]

theorem synthesized_set_carries_slice :
    ((pushAll aggregatePushes).segment.bind fun s => (pushAll aggregatePushes).replay.map fun out =>
      (out.take (out.length - s.1.length)).map fun p => (p.nal.idr, p.rtpTs.ticks)) = some [(true, 4000)] := by
  decide

end StreamCache

end Pulsebeam.Rtp
