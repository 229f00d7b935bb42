import Pulsebeam.Rtp.CacheInvariant

/-! The packet window against the history of what was pushed into it. -/

namespace Pulsebeam.Rtp.PacketWindow

open Pulsebeam.Lib List

def takeAllSorted (w : PacketWindow) : PacketWindow × List RtpPacket :=
  (new, ((finRange packetWindowCapacity).filterMap w.ring.slots).mergeSort fun p q => p.seqNo ≤ q.seqNo)

def pushLogged (r : PacketWindow × List RtpPacket) (pkt : RtpPacket) : PacketWindow × List RtpPacket :=
  match r.1.push pkt with
  | (w, none) => (w, pkt :: r.2)
  | (w, some _) => (w, r.2)

def logged (pushes : List RtpPacket) : PacketWindow × List RtpPacket := pushes.foldl pushLogged (new, [])

abbrev slot (seq : ℕ) : Fin packetWindowCapacity := SlotRing.index packetWindowCapacity seq

structure Mirrors (w : PacketWindow) (log : List RtpPacket) : Prop where
  holds : w.Holds (· ∈ log)
  below : ∀ p ∈ log, p.seqNo < 2 ^ 63
  newest : ∀ n, w.newestSeq = some n → (∃ p ∈ log, p.seqNo = n) ∧ ∀ p ∈ log, p.seqNo ≤ n
  idle : w.newestSeq = none → w = new ∧ log = []
  slots : ∀ i, w.ring.slots i = log.find? fun p => slot p.seqNo = i
  tags : ∀ i p, w.ring.slots i = some p → w.ring.tags i = p.seqNo
  inside : ∀ n j, w.newestSeq = some n → n < j + packetWindowCapacity → w.get j = log.find? (·.seqNo = j)

variable {w : PacketWindow} {log : List RtpPacket} {pkt p : RtpPacket} {seq n : ℕ}

lemma mirrors_new : Mirrors new [] := ⟨holds_new, nofun, nofun, fun _ => ⟨rfl, rfl⟩, fun _ => rfl, nofun, nofun⟩

lemma Mirrors.stored (h : Mirrors w log) (hs : pkt.seqNo < 2 ^ 63) (hf : w.tooOld pkt.seqNo = false) :
    Mirrors (w.stored pkt) (pkt :: log) := by
  have hwide : w.Holds (· ∈ pkt :: log) := ⟨fun k p hk => (h.holds.packet k p hk).imp_left (mem_cons_of_mem pkt), h.holds.bound⟩
  refine ⟨hwide.stored mem_cons_self, forall_mem_cons.2 ⟨hs, h.below⟩, fun n hn => ?_, nofun, fun i => ?_,
    fun i p hp => ?_, fun n j hn hj => ?_⟩
  · obtain ⟨hle, hold, hn | hn⟩ := newest_stored hn
    · refine ⟨⟨pkt, mem_cons_self, hn.symm⟩, forall_mem_cons.2 ⟨hle, fun p hp => ?_⟩⟩
      cases hw : w.newestSeq with
      | none => exact absurd hp ((h.idle hw).2 ▸ not_mem_nil)
      | some m => exact ((h.newest m hw).2 p hp).trans (hold m hw)
    · obtain ⟨⟨p, hp, hpn⟩, hall⟩ := h.newest n hn
      exact ⟨⟨p, mem_cons_of_mem pkt hp, hpn⟩, forall_mem_cons.2 ⟨hle, hall⟩⟩
  · by_cases hi : slot pkt.seqNo = i
    · subst hi
      simp [PacketWindow.stored, SlotRing.put]
    · rw [find?_cons_of_neg (by simpa using hi), ← h.slots i]
      exact Function.update_of_ne (Ne.symm hi) _ _
  · by_cases hi : i = slot pkt.seqNo
    · subst hi
      have hpkt : p = pkt := by simpa [PacketWindow.stored, SlotRing.put, eq_comm] using hp
      rw [hpkt]
      exact Function.update_self _ _ _
    · have hold : w.ring.slots i = some p := (Function.update_of_ne hi _ _).symm.trans hp
      exact (Function.update_of_ne hi _ _).trans (h.tags i p hold)
  · by_cases hjp : j = pkt.seqNo
    · subst hjp
      simp
    rw [h.holds.get_stored hf hs hn hj hjp, find?_cons_of_neg (by simpa using Ne.symm hjp)]
    cases hw : w.newestSeq with
    | none =>
      obtain ⟨rfl, rfl⟩ := h.idle hw
      simp [new, get]
    | some m => exact h.inside m j hw (((newest_stored hn).2.1 m hw).trans_lt hj)

lemma Mirrors.run (pushes : List RtpPacket) (hlt : ∀ p ∈ pushes, p.seqNo < 2 ^ 63) {r : PacketWindow × List RtpPacket}
    (h : Mirrors r.1 r.2) : Mirrors (pushes.foldl pushLogged r).1 (pushes.foldl pushLogged r).2 := by
  induction pushes generalizing r with
  | nil => exact h
  | cons pkt pushes ih =>
    obtain ⟨hpkt, hlt⟩ := forall_mem_cons.1 hlt
    refine ih hlt ?_
    rw [pushLogged]
    cases ho : r.1.tooOld pkt.seqNo with
    | true => rwa [push_of_tooOld ho]
    | false => rw [push_of_fresh ho]; exact h.stored hpkt ho

section

variable (h : Mirrors w log)

include h

lemma Mirrors.get (seq : ℕ) : w.get seq = (log.find? fun p => slot p.seqNo = slot seq).filter (·.seqNo = seq) := by
  rw [← h.slots, PacketWindow.get, SlotRing.get]
  cases hs : w.ring.slots _ with
  | none => simp
  | some p =>
    rw [h.tags _ p hs]
    by_cases hp : p.seqNo = seq <;> simp [Option.filter]

lemma Mirrors.below_iff (hn : w.newestSeq = some n) {m : ℕ} : (∀ p ∈ log, p.seqNo < m) ↔ n < m := by
  obtain ⟨⟨p, hp, rfl⟩, hall⟩ := h.newest n hn
  exact ⟨fun h => h p hp, fun hlt q hq => (hall q hq).trans_lt hlt⟩

lemma Mirrors.get_inside (hin : ∀ p ∈ log, p.seqNo < seq + packetWindowCapacity) :
    w.get seq = log.find? (·.seqNo = seq) := by
  cases hw : w.newestSeq with
  | none =>
    obtain ⟨rfl, rfl⟩ := h.idle hw
    simp [new, PacketWindow.get]
  | some n => exact h.inside n seq hw ((h.below_iff hw).1 hin)

lemma Mirrors.refused_iff (hs : pkt.seqNo < 2 ^ 63) :
    (w.push pkt).2.isSome ↔ ∃ p ∈ log, pkt.seqNo + packetWindowCapacity ≤ p.seqNo := by
  have hpush : (w.push pkt).2.isSome = w.tooOld pkt.seqNo := by
    rw [push]
    split <;> simp_all
  rw [hpush]
  cases hw : w.newestSeq with
  | none =>
    obtain ⟨rfl, rfl⟩ := h.idle hw
    simp [tooOld, new]
  | some n =>
    have hall : ¬ (∀ p ∈ log, p.seqNo < pkt.seqNo + packetWindowCapacity) ↔ ¬ n < pkt.seqNo + packetWindowCapacity :=
      not_congr (h.below_iff hw)
    push Not at hall
    rw [hall, ← not_lt, ← fresh_iff hw hs, Bool.not_eq_false]

end

lemma Mirrors.mem_rangeAfter {c : StreamCache} (h : Mirrors c.packets log) (cursor : ℕ) :
    p ∈ c.rangeAfter cursor ↔ c.packets.get p.seqNo = some p ∧ cursor < p.seqNo ∧
      ∀ q ∈ log, q.seqNo < p.seqNo + packetWindowCapacity := by
  rw [StreamCache.rangeAfter]
  cases hw : c.packets.newestSeq with
  | none => simp [(h.idle hw).1, new, PacketWindow.get]
  | some n =>
    obtain ⟨⟨q, hq, hqn⟩, -⟩ := h.newest n hw
    have hn := h.below q hq
    dsimp only
    rw [h.below_iff hw]
    split
    next hcur =>
      have hnext : Word.wrappingAdd 64 cursor 1 = cursor + 1 := Word.wrappingAdd_of_lt (by omega)
      simp only [mem_filterMap, mem_range'_1, packetWindowCapacity]
      constructor
      · rintro ⟨k, hk, hget⟩
        obtain ⟨-, rfl⟩ := h.holds.packet k p hget
        exact ⟨hget, by omega, by omega⟩
      · rintro ⟨hget, hlo, hin⟩
        obtain ⟨m, hm, hle⟩ := h.holds.bound _ _ hget
        cases hw.symm.trans hm
        exact ⟨p.seqNo, by omega, hget⟩
    next hcur =>
      refine ⟨by simp, ?_⟩
      rintro ⟨hget, hlo, -⟩
      obtain ⟨m, hm, hle⟩ := h.holds.bound _ _ hget
      cases hw.symm.trans hm
      omega

lemma mem_takeAllSorted (h : Mirrors w log) : p ∈ w.takeAllSorted.2 ↔ w.get p.seqNo = some p := by
  rw [takeAllSorted, mem_mergeSort, mem_filterMap, h.get, Option.filter_eq_some_iff]
  constructor
  · rintro ⟨i, -, hi⟩
    rw [h.slots] at hi
    have hslot : slot p.seqNo = i := by simpa using find?_some hi
    exact ⟨hslot ▸ hi, by simp⟩
  · rintro ⟨hp, -⟩
    exact ⟨slot p.seqNo, mem_finRange _, by rw [h.slots, hp]⟩

lemma pairwise_takeAllSorted (h : Mirrors w log) : w.takeAllSorted.2.Pairwise fun p q => p.seqNo < q.seqNo := by
  have hnd : ((finRange packetWindowCapacity).filterMap w.ring.slots).Pairwise fun p q => p.seqNo ≠ q.seqNo := by
    refine pairwise_filterMap.2 ((nodup_finRange _).imp fun {i j} hij p hp q hq heq => hij ?_)
    rw [h.slots] at hp hq
    have hi : slot p.seqNo = i := by simpa using find?_some hp
    have hj : slot q.seqNo = j := by simpa using find?_some hq
    rw [← hi, ← hj, heq]
  have hle := @pairwise_mergeSort RtpPacket (fun p q => decide (p.seqNo ≤ q.seqNo))
    (fun a b c hab hbc => by simp only [decide_eq_true_eq] at *; omega)
    (fun a b => by simp only [Bool.or_eq_true, decide_eq_true_eq]; omega) ((finRange packetWindowCapacity).filterMap w.ring.slots)
  have hne := hnd.perm (mergeSort_perm _ fun p q : RtpPacket => decide (p.seqNo ≤ q.seqNo)).symm fun hab => Ne.symm hab
  exact (hle.and hne).imp fun hab => lt_of_le_of_ne (of_decide_eq_true hab.1) hab.2

/-- After any pushes, a push is refused exactly below the window, a number reads as the latest packet stored in its slot
if that has the number, and the other readers give what `get` shows, in order. -/
theorem window_mirrors_history (pushes : List RtpPacket) (hlt : ∀ p ∈ pushes, p.seqNo < 2 ^ 63) :
    let w := (logged pushes).1
    let log := (logged pushes).2
    (∀ pkt : RtpPacket, pkt.seqNo < 2 ^ 63 →
      ((w.push pkt).2.isSome ↔ ∃ p ∈ log, pkt.seqNo + packetWindowCapacity ≤ p.seqNo)) ∧
    (∀ seq, w.get seq = (log.find? fun p => slot p.seqNo = slot seq).filter (·.seqNo = seq)) ∧
    (∀ seq, (∀ p ∈ log, p.seqNo < seq + packetWindowCapacity) → w.get seq = log.find? (·.seqNo = seq)) ∧
    (∀ c : StreamCache, c.packets = w → ∀ cursor, (c.rangeAfter cursor).Pairwise (fun p q => p.seqNo < q.seqNo) ∧
      ∀ p, p ∈ c.rangeAfter cursor ↔ w.get p.seqNo = some p ∧ cursor < p.seqNo ∧
        ∀ q ∈ log, q.seqNo < p.seqNo + packetWindowCapacity) ∧
    w.takeAllSorted.1 = new ∧ w.takeAllSorted.2.Pairwise (fun p q => p.seqNo < q.seqNo) ∧
      ∀ p, p ∈ w.takeAllSorted.2 ↔ w.get p.seqNo = some p := by
  intro w log
  have h : Mirrors w log := Mirrors.run pushes hlt mirrors_new
  refine ⟨fun pkt hs => h.refused_iff hs, h.get, fun seq hin => h.get_inside hin, fun c hc cursor => ?_, rfl,
    pairwise_takeAllSorted h, fun p => mem_takeAllSorted h⟩
  rw [← hc] at h ⊢
  exact ⟨StreamCache.pairwise_rangeAfter h.holds cursor, fun p => h.mem_rangeAfter cursor⟩

theorem window_mirrors_history_reordered :
    ((logged [{ (default : RtpPacket) with seqNo := 7 }, { (default : RtpPacket) with seqNo := 5 }]).1.get 5).isSome ∧
      (logged [{ (default : RtpPacket) with seqNo := 7 }, { (default : RtpPacket) with seqNo := 5 }]).1.takeAllSorted.2.Pairwise
        fun p q => p.seqNo < q.seqNo :=
  ⟨by decide +kernel, (window_mirrors_history _ (by decide)).2.2.2.2.2.1⟩

theorem stale_number_read :
    ((logged [{ (default : RtpPacket) with seqNo := 1 }, { (default : RtpPacket) with seqNo := 1000 }]).1.get 1).isSome := by
  decide +kernel

end Pulsebeam.Rtp.PacketWindow
