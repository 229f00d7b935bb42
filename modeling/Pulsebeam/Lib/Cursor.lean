import Mathlib

/-! Streams of numbered items read through a cursor: an item is delivered where the cursor stands, and numbers the cursor
jumps over are announced as a gap. -/

namespace Pulsebeam.Lib.Cursor

inductive Item
  | deliver (n : ℕ)
  | gap (expected available : ℕ)

inductive Follows : List Item → Option ℕ → Prop
  | start : Follows [] none
  | place (n : ℕ) : Follows [] (some n)
  | deliver {l : List Item} {n : ℕ} : Follows l (some n) → Follows (l ++ [.deliver n]) (some (n + 1))
  | gap {l : List Item} {n a : ℕ} : n ≤ a → Follows l (some n) → Follows (l ++ [.gap n a]) (some a)

def Item.number? : Item → Option ℕ
  | .deliver n => some n
  | .gap _ _ => none

def delivered (l : List Item) : List ℕ := l.filterMap Item.number?

def Covered (l : List Item) (n : ℕ) : Prop := ∃ e a, .gap e a ∈ l ∧ e ≤ n ∧ n < a

variable {l pre mid post : List Item} {c : Option ℕ} {x : Item} {s u k : ℕ}

lemma Follows.eq_nil (h : Follows l none) : l = [] := by
  generalize hc : none = c at h
  cases h with
  | start => rfl
  | place => cases hc
  | deliver => cases hc
  | gap => cases hc

lemma Follows.snoc_inv (h : Follows (l ++ [x]) c) : ∃ n, Follows l (some n) ∧
    ((x = .deliver n ∧ c = some (n + 1)) ∨ ∃ a, x = .gap n a ∧ n ≤ a ∧ c = some a) := by
  generalize hl : l ++ [x] = l' at h
  cases h with
  | start => simp at hl
  | place => simp at hl
  | @deliver l' n h =>
    obtain ⟨rfl, rfl⟩ := List.append_singleton_inj.1 hl
    exact ⟨n, h, .inl ⟨rfl, rfl⟩⟩
  | @gap l' n a hle h =>
    obtain ⟨rfl, rfl⟩ := List.append_singleton_inj.1 hl
    exact ⟨n, h, .inr ⟨a, rfl, hle, rfl⟩⟩

lemma Follows.at_deliver (h : Follows (pre ++ .deliver u :: post) c) : Follows pre (some u) := by
  induction post using List.reverseRecOn generalizing c with
  | nil =>
    obtain ⟨n, hn, ⟨hx, _⟩ | ⟨a, hx, _⟩⟩ := h.snoc_inv
    · cases hx
      exact hn
    · cases hx
  | append_singleton post x ih =>
    rw [← List.cons_append, ← List.append_assoc] at h
    obtain ⟨n, hn, _⟩ := h.snoc_inv
    exact ih hn

lemma Follows.lt (h : Follows l (some k)) : ∀ n ∈ delivered l, n < k := by
  generalize hc : some k = c at h
  induction h generalizing k with
  | start => cases hc
  | place => simp [delivered]
  | deliver _ ih =>
    cases hc
    intro m hm
    rw [delivered, List.filterMap_append, List.mem_append] at hm
    rcases hm with hm | hm
    · exact Nat.lt_succ_of_lt (ih rfl m hm)
    · obtain rfl : m = _ := by simpa [Item.number?] using hm
      exact Nat.lt_succ_self _
  | gap hle _ ih =>
    cases hc
    intro m hm
    rw [delivered, List.filterMap_append, List.mem_append] at hm
    rcases hm with hm | hm
    · exact Nat.lt_of_lt_of_le (ih rfl m hm) hle
    · simp [Item.number?] at hm

lemma Follows.increasing (h : Follows l c) : (delivered l).Pairwise (· < ·) := by
  induction h with
  | start => exact .nil
  | place => exact .nil
  | @deliver l n h ih =>
    rw [delivered, List.filterMap_append]
    refine List.pairwise_append.2 ⟨ih, List.pairwise_singleton _ _, ?_⟩
    intro m hm m' hm'
    obtain rfl : m' = n := by simpa [Item.number?] using hm'
    exact h.lt m hm
  | @gap l n a _ h ih =>
    rw [delivered, List.filterMap_append]
    exact (List.append_nil _).symm ▸ ih

lemma Follows.covered_of_last (h : Follows (pre ++ .deliver s :: mid) (some k)) (hmid : delivered mid = []) :
    ∀ n, s < n → n < k → Covered mid n := by
  induction mid using List.reverseRecOn generalizing k with
  | nil =>
    obtain ⟨n, hn, ⟨hx, hc⟩ | ⟨a, hx, _⟩⟩ := h.snoc_inv
    · cases hx
      cases hc
      omega
    · cases hx
  | append_singleton mid x ih =>
    rw [delivered, List.filterMap_append, List.append_eq_nil_iff] at hmid
    rw [← List.cons_append, ← List.append_assoc] at h
    obtain ⟨j, hj, ⟨rfl, _⟩ | ⟨a, rfl, _, hc⟩⟩ := h.snoc_inv
    · simp [Item.number?] at hmid
    cases hc
    intro n hs hn
    by_cases hlt : n < j
    · obtain ⟨e, b, hmem, hcov⟩ := ih hj hmid.1 n hs hlt
      exact ⟨e, b, List.mem_append_left _ hmem, hcov⟩
    · exact ⟨j, k, by simp, by omega, hn⟩

lemma Follows.covered (h : Follows (pre ++ .deliver s :: (mid ++ .deliver u :: post)) c) (hmid : delivered mid = []) :
    ∀ n, s < n → n < u → Covered mid n := by
  rw [← List.cons_append, ← List.append_assoc] at h
  exact h.at_deliver.covered_of_last hmid

end Pulsebeam.Lib.Cursor
