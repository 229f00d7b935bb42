import Mathlib

/-! Queues kept in the order of a key: where an element belongs, and what dropping from the front does to that. -/

namespace Pulsebeam.Lib.Ranked

variable {α κ : Type*} [LinearOrder κ] (key : α → κ)

def Sorted (l : List α) : Prop := l.Pairwise fun a b => key a < key b

def rank (k : κ) (l : List α) : ℕ := l.countP fun a => decide (key a < k)

variable {key} {l : List α} {a x : α} {k floor : κ}

lemma rank_eq_zero (h : ∀ a ∈ l, k ≤ key a) : rank key k l = 0 := by
  rw [rank, List.countP_eq_zero]
  intro a ha
  simpa using h a ha

lemma Sorted.rank_cons (h : Sorted key (a :: l)) : rank key k (a :: l) = if key a < k then rank key k l + 1 else 0 := by
  split
  next hlt => simp [rank, hlt]
  next hge =>
    apply rank_eq_zero
    intro b hb
    rcases List.mem_cons.1 hb with rfl | hb
    · exact not_lt.1 hge
    · exact (not_lt.1 hge).trans ((List.pairwise_cons.1 h).1 b hb).le

lemma Sorted.rank_tail (h : Sorted key l) : rank key k l.tail = rank key k l - 1 := by
  cases l with
  | nil => rfl
  | cons a l =>
    rw [h.rank_cons]
    split
    · rfl
    next hge =>
      apply rank_eq_zero
      intro b hb
      exact (not_lt.1 hge).trans ((List.pairwise_cons.1 h).1 b hb).le

lemma rank_dropWhile (l : List α) (hk : floor ≤ k) :
    rank key k (l.dropWhile fun a => decide (key a < floor)) =
      rank key k l - (l.takeWhile fun a => decide (key a < floor)).length := by
  induction l with
  | nil => rfl
  | cons a l ih =>
    by_cases ha : key a < floor
    · simp only [List.dropWhile_cons, List.takeWhile_cons, ha, decide_true, if_true, List.length_cons, ih]
      rw [rank, rank, List.countP_cons_of_pos (by simpa using ha.trans_le hk)]
      omega
    · simp [ha]

variable (h : Sorted key l)

include h

lemma Sorted.dropWhile (p : α → Bool) : Sorted key (l.dropWhile p) := List.Pairwise.sublist (List.dropWhile_sublist p) h

lemma Sorted.tail : Sorted key l.tail := List.Pairwise.tail h

lemma Sorted.floor_le (ha : a ∈ l.dropWhile fun b => decide (key b < floor)) : floor ≤ key a := by
  induction l with
  | nil => cases ha
  | cons b l ih =>
    by_cases hb : key b < floor
    · rw [List.dropWhile_cons_of_pos (by simpa using hb)] at ha
      exact ih (List.Pairwise.of_cons h) ha
    rw [List.dropWhile_cons_of_neg (by simpa using hb)] at ha
    rcases List.mem_cons.1 ha with rfl | ha
    · exact not_lt.1 hb
    · exact (not_lt.1 hb).trans ((List.pairwise_cons.1 h).1 a ha).le

lemma Sorted.insertIdx (hx : ∀ a ∈ l, key a ≠ key x) : Sorted key (l.insertIdx (rank key (key x) l) x) := by
  induction l with
  | nil => exact List.pairwise_singleton _ x
  | cons a l ih =>
    have hrest : Sorted key l := List.Pairwise.of_cons h
    rw [h.rank_cons]
    split
    next hlt =>
      refine List.pairwise_cons.2 ⟨fun b hb => ?_, ih hrest fun b hb => hx b (List.mem_cons_of_mem _ hb)⟩
      rcases List.eq_or_mem_of_mem_insertIdx hb with rfl | hb
      · exact hlt
      · exact (List.pairwise_cons.1 h).1 b hb
    next hge =>
      have hlt : key x < key a := lt_of_le_of_ne (not_lt.1 hge) (hx a List.mem_cons_self).symm
      refine List.pairwise_cons.2 ⟨fun b hb => ?_, h⟩
      rcases List.mem_cons.1 hb with rfl | hb
      · exact hlt
      · exact hlt.trans ((List.pairwise_cons.1 h).1 b hb)

end Pulsebeam.Lib.Ranked
