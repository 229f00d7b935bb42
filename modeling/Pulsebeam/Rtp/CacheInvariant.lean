import Pulsebeam.Rtp.Cache

namespace Pulsebeam.Rtp

open Pulsebeam.Lib

variable {p : RtpPacket}

namespace PacketWindow

structure Holds (P : RtpPacket → Prop) (w : PacketWindow) : Prop where
  packet : ∀ k p, w.get k = some p → P p ∧ p.seqNo = k
  bound : ∀ k p, w.get k = some p → ∃ n, w.newestSeq = some n ∧ k ≤ n

variable {P : RtpPacket → Prop} {w : PacketWindow} {pkt : RtpPacket} {n : ℕ} {j : ℕ}

lemma holds_new : Holds P new where
  packet k p h := by simp [new, get] at h
  bound k p h := by simp [new, get] at h

def stored (w : PacketWindow) (pkt : RtpPacket) : PacketWindow :=
  ⟨w.ring.put pkt.seqNo pkt, some ((w.newestSeq.map (max · pkt.seqNo)).getD pkt.seqNo)⟩

@[simp] lemma get_stored_self (w : PacketWindow) (pkt : RtpPacket) : (w.stored pkt).get pkt.seqNo = some pkt :=
  SlotRing.get_put_self _ _ _

lemma push_of_tooOld (h : w.tooOld pkt.seqNo = true) : w.push pkt = (w, some pkt) := by
  simp [push, h]

lemma push_of_fresh (h : w.tooOld pkt.seqNo = false) : w.push pkt = (w.stored pkt, none) := by
  simp [push, h, stored]

lemma newest_stored (h : (w.stored pkt).newestSeq = some n) :
    pkt.seqNo ≤ n ∧ (∀ m, w.newestSeq = some m → m ≤ n) ∧ (n = pkt.seqNo ∨ w.newestSeq = some n) := by
  cases hw : w.newestSeq with
  | none => simp_all [stored]
  | some m =>
    simp only [stored, hw, Option.map_some, Option.getD_some, Option.some.injEq] at h ⊢
    refine ⟨by omega, fun k hk => by omega, by omega⟩

lemma fresh_iff {m : ℕ} (hm : w.newestSeq = some m) (hs : pkt.seqNo < 2 ^ 63) :
    w.tooOld pkt.seqNo = false ↔ m < pkt.seqNo + packetWindowCapacity := by
  simp only [tooOld, hm, decide_eq_false_iff_not]
  simp only [Word.wrappingAdd_eq_mod, packetWindowCapacity]
  omega

lemma Holds.stored (hw : Holds P w) (hp : P pkt) : Holds P (w.stored pkt) where
  packet k p h := by
    rcases SlotRing.get_put_cases w.ring h with ⟨rfl, rfl⟩ | ⟨_, h⟩
    · exact ⟨hp, rfl⟩
    · exact hw.packet k p h
  bound k p h := by
    obtain ⟨n, hn⟩ : ∃ n, (w.stored pkt).newestSeq = some n := ⟨_, rfl⟩
    refine ⟨n, hn, ?_⟩
    obtain ⟨hle, hold, _⟩ := newest_stored hn
    rcases SlotRing.get_put_cases w.ring h with ⟨rfl, _⟩ | ⟨_, h⟩
    · exact hle
    · obtain ⟨m, hm, hk⟩ := hw.bound k p h
      exact hk.trans (hold m hm)

lemma Holds.get_stored (hw : Holds P w) (hf : w.tooOld pkt.seqNo = false) (hs : pkt.seqNo < 2 ^ 63)
    (hn : (w.stored pkt).newestSeq = some n) (hj : n < j + packetWindowCapacity) (hne : j ≠ pkt.seqNo) :
    (w.stored pkt).get j = w.get j := by
  obtain ⟨hle, hold, _⟩ := newest_stored hn
  by_cases hi : SlotRing.index packetWindowCapacity j = SlotRing.index packetWindowCapacity pkt.seqNo
  · have hput : (w.stored pkt).get j = none := SlotRing.get_put_of_index_eq w.ring pkt hi hne
    rw [hput]
    cases hg : w.get j with
    | none => rfl
    | some q =>
      obtain ⟨m, hm, hjm⟩ := hw.bound j q hg
      have hfresh := (fresh_iff hm hs).1 hf
      rcases Nat.lt_or_gt_of_ne hne with hlt | hgt
      · exact absurd hi (SlotRing.index_ne hlt (by omega))
      · exact absurd hi.symm (SlotRing.index_ne hgt (by omega))
  · exact SlotRing.get_put_of_index_ne w.ring pkt hi

lemma Holds.get_stored_of_get (hw : Holds P w) (hp : P pkt) (hs : pkt.seqNo < 2 ^ 63)
    (huniq : ∀ p q, P p → P q → p.seqNo = q.seqNo → p = q) (hf : w.tooOld pkt.seqNo = false) {q : RtpPacket}
    (hn : (w.stored pkt).newestSeq = some n) (hj : n < j + packetWindowCapacity) (hq : w.get j = some q) :
    (w.stored pkt).get j = some q := by
  by_cases hne : j = pkt.seqNo
  · obtain ⟨hPq, hseq⟩ := hw.packet j q hq
    obtain rfl := huniq q pkt hPq hp (hseq.trans hne)
    rw [hne, get_stored_self]
  · rwa [hw.get_stored hf hs hn hj hne]

lemma contiguousFrom_get (w : PacketWindow) (seq n : ℕ) :
    (w.contiguousFrom seq n).map some = (List.range' seq (w.contiguousFrom seq n).length).map w.get := by
  induction n generalizing seq with
  | zero => rfl
  | succ n ih =>
    cases hg : w.get seq with
    | none => simp [contiguousFrom, hg]
    | some p => simp [contiguousFrom, hg, List.range'_succ, ih]

lemma walkBack_le (w : PacketWindow) (ts start n : ℕ) : w.walkBack ts start n ≤ start := by
  induction n generalizing start with
  | zero => simp only [walkBack, le_refl]
  | succ n ih =>
    cases start with
    | zero => rfl
    | succ start =>
      simp only [walkBack]
      split
      · split
        · exact (ih start).trans (Nat.le_succ start)
        · rfl
      · rfl

lemma walkBack_get {ts start : ℕ} (hp : w.get start = some p) (hts : p.rtpTs.ticks = ts) (n : ℕ) :
    ∃ q, w.get (w.walkBack ts start n) = some q ∧ q.rtpTs.ticks = ts := by
  induction n generalizing start p with
  | zero => exact ⟨p, by simpa only [walkBack] using hp, hts⟩
  | succ n ih =>
    cases start with
    | zero => exact ⟨p, hp, hts⟩
    | succ start =>
      cases hg : w.get start with
      | none => exact ⟨p, by simpa only [walkBack, hg] using hp, hts⟩
      | some q =>
        by_cases hq : q.rtpTs.ticks = ts
        · simpa only [walkBack, hg, hq, if_true] using ih hg hq
        · exact ⟨p, by simpa only [walkBack, hg, hq, if_false] using hp, hts⟩

end PacketWindow

namespace StreamCache

inductive Fed (P : RtpPacket → Prop) : StreamCache → Prop
  | new : Fed P new
  | push {c : StreamCache} {pkt : RtpPacket} : Fed P c → P pkt → Fed P (c.push pkt).1

variable {P : RtpPacket → Prop} {c : StreamCache} {pkt : RtpPacket} {s : ℕ} {t : ℕ}

def kept (c : StreamCache) (pkt : RtpPacket) : StreamCache := (c.keepSps pkt).keepPps pkt

lemma kept_window (c : StreamCache) (pkt : RtpPacket) :
    (c.kept pkt).packets = c.packets ∧ (c.kept pkt).segmentStartSeq = c.segmentStartSeq ∧
      (c.kept pkt).segmentTs = c.segmentTs := by
  simp only [kept, keepSps, keepPps]
  split <;> split <;> exact ⟨rfl, rfl, rfl⟩

lemma kept_sps (h : (c.kept pkt).sps = some p) : c.sps = some p ∨ (p = pkt ∧ pkt.nal.sps = true) := by
  have hp : (c.kept pkt).sps = (c.keepSps pkt).sps := by
    simp only [kept, keepPps]
    split <;> rfl
  rw [hp] at h
  simp only [keepSps] at h
  split at h
  next hs =>
    rw [Bool.and_eq_true] at hs
    exact .inr ⟨(Option.some.inj h).symm, hs.1⟩
  · exact .inl h

lemma kept_pps (h : (c.kept pkt).pps = some p) : c.pps = some p ∨ (p = pkt ∧ pkt.nal.pps = true) := by
  have hp : (c.keepSps pkt).pps = c.pps := by
    simp only [keepSps]
    split <;> rfl
  simp only [kept, keepPps] at h
  split at h
  next hs =>
    rw [Bool.and_eq_true] at hs
    exact .inr ⟨(Option.some.inj h).symm, hs.1⟩
  · exact .inl (hp ▸ h)

def anchored (c : StreamCache) (pkt : RtpPacket) : StreamCache :=
  let c := { c.kept pkt with packets := c.packets.stored pkt }
  if pkt.isKeyframe && c.newerSegment pkt.seqNo pkt.rtpTs.ticks then c.openSegment pkt.seqNo pkt.rtpTs.ticks else c

lemma push_of_tooOld (h : c.packets.tooOld pkt.seqNo = true) : c.push pkt = (c.kept pkt, some pkt) := by
  have hk := (kept_window c pkt).1
  rw [← hk] at h
  simp only [push]
  rw [← kept, PacketWindow.push_of_tooOld h]

lemma push_of_fresh (h : c.packets.tooOld pkt.seqNo = false) :
    c.push pkt = ((c.anchored pkt).dropOverwrittenSegment, none) := by
  have hk := (kept_window c pkt).1
  have h' := h
  rw [← hk] at h'
  simp only [push]
  rw [← kept, PacketWindow.push_of_fresh h', hk]
  rfl

lemma anchored_packets (c : StreamCache) (pkt : RtpPacket) : (c.anchored pkt).packets = c.packets.stored pkt := by
  simp only [anchored]
  split <;> rfl

lemma anchored_sps (c : StreamCache) (pkt : RtpPacket) : (c.anchored pkt).sps = (c.kept pkt).sps := by
  simp only [anchored]
  split <;> rfl

lemma anchored_pps (c : StreamCache) (pkt : RtpPacket) : (c.anchored pkt).pps = (c.kept pkt).pps := by
  simp only [anchored]
  split <;> rfl

lemma dropOverwrittenSegment_fields :
    c.dropOverwrittenSegment.packets = c.packets ∧ c.dropOverwrittenSegment.sps = c.sps ∧
      c.dropOverwrittenSegment.pps = c.pps := by
  simp only [dropOverwrittenSegment]
  split
  · split <;> exact ⟨rfl, rfl, rfl⟩
  · exact ⟨rfl, rfl, rfl⟩

lemma Fed.holds (h : Fed P c) : c.packets.Holds P := by
  induction h with
  | new => exact PacketWindow.holds_new
  | @push c pkt _ hp ih =>
    cases ho : c.packets.tooOld pkt.seqNo with
    | true =>
      rw [push_of_tooOld ho, (kept_window c pkt).1]
      exact ih
    | false =>
      rw [push_of_fresh ho, (dropOverwrittenSegment_fields).1, anchored_packets]
      exact ih.stored hp

lemma Fed.parameterSets (h : Fed P c) :
    (∀ p, c.sps = some p → P p ∧ p.nal.sps = true) ∧ (∀ p, c.pps = some p → P p ∧ p.nal.pps = true) := by
  induction h with
  | new => exact ⟨nofun, nofun⟩
  | @push c pkt _ hpkt ih =>
    have hk : (∀ p, (c.kept pkt).sps = some p → P p ∧ p.nal.sps = true) ∧
        (∀ p, (c.kept pkt).pps = some p → P p ∧ p.nal.pps = true) := by
      refine ⟨fun p hp => ?_, fun p hp => ?_⟩
      · rcases kept_sps hp with hp | ⟨rfl, hs⟩
        · exact ih.1 p hp
        · exact ⟨hpkt, hs⟩
      · rcases kept_pps hp with hp | ⟨rfl, hs⟩
        · exact ih.2 p hp
        · exact ⟨hpkt, hs⟩
    cases ho : c.packets.tooOld pkt.seqNo with
    | true => rwa [push_of_tooOld ho]
    | false =>
      obtain ⟨_, hs, hp⟩ := dropOverwrittenSegment_fields
      rw [push_of_fresh ho, hs, hp, anchored_sps, anchored_pps]
      exact hk

structure Segment (c : StreamCache) (start ts : ℕ) : Prop where
  window : ∀ n, c.packets.newestSeq = some n → n < start + packetWindowCapacity
  head : ∃ p, c.get start = some p ∧ p.rtpTs.ticks = ts
  keyframe : ∃ k kf, start ≤ k ∧ c.get k = some kf ∧ kf.isKeyframe = true ∧ kf.rtpTs.ticks = ts

lemma dropOverwrittenSegment_segment
    (h : ∀ s t, c.segmentStartSeq = some s → c.segmentTs = some t →
      (∀ n, c.packets.newestSeq = some n → n < s + packetWindowCapacity) → c.Segment s t)
        (hs : c.dropOverwrittenSegment.segmentStartSeq = some s)
    (ht : c.dropOverwrittenSegment.segmentTs = some t) : c.dropOverwrittenSegment.Segment s t := by
  simp only [dropOverwrittenSegment] at hs ht ⊢
  split at hs
  next s' n hs' hn =>
    split at hs
    · cases hs
    next hw =>
      simp only [hs', hn, if_neg hw] at ht ⊢
      refine h s t hs ht fun m hm => ?_
      obtain rfl : n = m := Option.some.inj (hn.symm.trans hm)
      obtain rfl : s' = s := Option.some.inj (hs'.symm.trans hs)
      simp only [Word.wrappingAdd_eq_mod] at hw ⊢
      omega
  next hcases =>
    have hnone : c.packets.newestSeq = none := by
      cases hn : c.packets.newestSeq with
      | none => rfl
      | some n => exact absurd hn (hcases s n hs)
    simp only [hs, hnone] at ht ⊢
    exact h s t hs ht fun m hm => by rw [hnone] at hm; cases hm

lemma anchored_segment (hlt : ∀ p, P p → p.seqNo < 2 ^ 63) (huniq : ∀ p q, P p → P q → p.seqNo = q.seqNo → p = q)
    (hw : c.packets.Holds P) (hp : P pkt) (hf : c.packets.tooOld pkt.seqNo = false)
    (hc : ∀ s t, c.segmentStartSeq = some s → c.segmentTs = some t → c.Segment s t)
    (hs : (c.anchored pkt).segmentStartSeq = some s) (ht : (c.anchored pkt).segmentTs = some t)
    (hwin : ∀ n, (c.anchored pkt).packets.newestSeq = some n → n < s + packetWindowCapacity) :
    (c.anchored pkt).Segment s t := by
  obtain ⟨hpk, hst, hts⟩ := kept_window c pkt
  have hget : ∀ j, (c.anchored pkt).get j = (c.packets.stored pkt).get j := fun j => by
    rw [StreamCache.get, anchored_packets]
  rw [anchored_packets] at hwin
  obtain ⟨n, hn⟩ : ∃ n, (c.packets.stored pkt).newestSeq = some n := ⟨_, rfl⟩
  have hns := hwin n hn
  suffices hseg : (∃ p, (c.packets.stored pkt).get s = some p ∧ p.rtpTs.ticks = t) ∧
      ∃ k kf, s ≤ k ∧ (c.packets.stored pkt).get k = some kf ∧ kf.isKeyframe = true ∧ kf.rtpTs.ticks = t from
    ⟨by rwa [anchored_packets], by simpa only [hget] using hseg.1, by simpa only [hget] using hseg.2⟩
  simp only [anchored] at hs ht
  split at hs
  next ho =>
    rw [if_pos ho] at ht
    obtain rfl := Option.some.inj hs
    obtain rfl := Option.some.inj ht
    rw [Bool.and_eq_true] at ho
    have hself := PacketWindow.get_stored_self c.packets pkt
    exact ⟨PacketWindow.walkBack_get hself rfl _, pkt.seqNo, pkt, PacketWindow.walkBack_le _ _ _ _, hself, ho.1, rfl⟩
  next ho =>
    rw [if_neg ho] at ht
    obtain ⟨_, ⟨p, hps, hpt⟩, k, kf, hk, hkf, hkey, hkt⟩ := hc s t (hst ▸ hs) (hts ▸ ht)
    have hkeep : ∀ j q, s ≤ j → c.packets.get j = some q → (c.packets.stored pkt).get j = some q := fun j q hj hq =>
      hw.get_stored_of_get hp (hlt _ hp) huniq hf hn (by omega) hq
    exact ⟨⟨p, hkeep s p le_rfl hps, hpt⟩, k, kf, hk, hkeep k kf hk hkf, hkey, hkt⟩

lemma anchored_start_lt (hp : pkt.seqNo < 2 ^ 63) (hc : ∀ s, c.segmentStartSeq = some s → s < 2 ^ 63)
    (hs : (c.anchored pkt).segmentStartSeq = some s) : s < 2 ^ 63 := by
  simp only [anchored] at hs
  split at hs
  · obtain rfl := Option.some.inj hs
    exact (PacketWindow.walkBack_le _ _ _ _).trans_lt hp
  · exact hc s ((kept_window c pkt).2.1 ▸ hs)

lemma dropOverwrittenSegment_start (hs : c.dropOverwrittenSegment.segmentStartSeq = some s) :
    c.segmentStartSeq = some s := by
  simp only [dropOverwrittenSegment] at hs
  split at hs
  · split at hs
    · cases hs
    · exact hs
  · exact hs

lemma Fed.segment (hlt : ∀ p, P p → p.seqNo < 2 ^ 63) (huniq : ∀ p q, P p → P q → p.seqNo = q.seqNo → p = q)
    (h : Fed P c) : (∀ s, c.segmentStartSeq = some s → s < 2 ^ 63) ∧
      ∀ s t, c.segmentStartSeq = some s → c.segmentTs = some t → c.Segment s t := by
  induction h with
  | new => exact ⟨nofun, nofun⟩
  | @push c pkt hc hp ih =>
    obtain ⟨hstart, hseg⟩ := ih
    cases ho : c.packets.tooOld pkt.seqNo with
    | true =>
      obtain ⟨hpk, hst, hts⟩ := kept_window c pkt
      rw [push_of_tooOld ho, hst, hts]
      refine ⟨hstart, fun s t hs ht => ?_⟩
      obtain ⟨h1, h2, h3⟩ := hseg s t hs ht
      exact ⟨by rwa [hpk], by rwa [StreamCache.get, hpk], by simpa only [StreamCache.get, hpk] using h3⟩
    | false =>
      rw [push_of_fresh ho]
      have hlt' : ∀ s, (c.anchored pkt).segmentStartSeq = some s → s < 2 ^ 63 := fun s hs =>
        anchored_start_lt (hlt _ hp) hstart hs
      refine ⟨fun s hs => hlt' s (dropOverwrittenSegment_start hs), fun s t hs ht => ?_⟩
      exact dropOverwrittenSegment_segment
        (fun s t hs ht hwin => anchored_segment hlt huniq hc.holds hp ho hseg hs ht hwin) hs ht

lemma pairwise_rangeAfter (h : c.packets.Holds P) (cursor : ℕ) :
    (c.rangeAfter cursor).Pairwise fun p q => p.seqNo < q.seqNo := by
  rw [rangeAfter]
  split
  · split
    · rw [List.pairwise_filterMap]
      refine (@List.pairwise_lt_range' _ _ 1 Nat.one_pos).imp fun {a b} hab p hp q hq => ?_
      rw [(h.packet a p hp).2, (h.packet b q hq).2]
      exact hab
    · exact .nil
  · exact .nil

lemma rangeAfter_spec (h : c.packets.Holds P) (cursor : ℕ) (hc : cursor < 2 ^ 63) :
    (∀ p ∈ c.rangeAfter cursor, P p ∧ cursor < p.seqNo) ∧
      (c.rangeAfter cursor).Pairwise (fun p q => p.seqNo < q.seqNo) := by
  refine ⟨fun p hp => ?_, pairwise_rangeAfter h cursor⟩
  rw [rangeAfter] at hp
  split at hp
  · split at hp
    · have hnext : Word.wrappingAdd 64 cursor 1 = cursor + 1 := Word.wrappingAdd_of_lt (by omega)
      obtain ⟨k, hk, hget⟩ := List.mem_filterMap.1 hp
      obtain ⟨hP, hseq⟩ := h.packet k p hget
      have hlo := (List.mem_range'_1.1 hk).1
      refine ⟨hP, ?_⟩
      omega
    · cases hp
  · cases hp

end StreamCache

end Pulsebeam.Rtp
