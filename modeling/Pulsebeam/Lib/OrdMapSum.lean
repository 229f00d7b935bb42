import Pulsebeam.Lib.OrdMap

/-! Sums over the values of an ordered map, the set of its keys, and totals over the distinct members of a list. -/

namespace Pulsebeam.Lib

namespace OrdMap

variable {κ α : Type*} [LinearOrder κ] {m : OrdMap κ α} {k k' : κ} {a b : α} {f : α → ℕ} {g : α → α}

def sum (m : OrdMap κ α) (f : α → ℕ) : ℕ := (m.entries.map fun e => f e.2).sum

def keySet (m : OrdMap κ α) : Finset κ := m.keys.toFinset

lemma modify_of_get? (h : m.get? k = some a) : m.modify k g = m.insert k (g a) := by
  unfold modify
  rw [h]

lemma modify_of_none (h : m.get? k = none) : m.modify k g = m := by
  unfold modify
  rw [h]

lemma get?_of_insert (h : (m.insert k a).get? k' = some b) : (k' = k ∧ b = a) ∨ m.get? k' = some b := by
  rw [get?_insert] at h
  split at h
  next hk => exact .inl ⟨hk, (Option.some.inj h).symm⟩
  · exact .inr h

lemma forall_insert {P : κ → α → Prop} (hk : P k a) (h : ∀ j b, m.get? j = some b → P j b) :
    ∀ j b, (m.insert k a).get? j = some b → P j b := by
  intro j b hb
  rcases get?_of_insert hb with ⟨rfl, rfl⟩ | hb
  · exact hk
  · exact h j b hb

lemma get?_of_erase (h : (m.erase k).get? k' = some a) : k' ≠ k ∧ m.get? k' = some a := by
  rw [get?_erase] at h
  split at h
  · cases h
  next hk => exact ⟨hk, h⟩

lemma perm_erase (h : m.get? k = some a) : m.entries.Perm ((k, a) :: (m.erase k).entries) := by
  have hperm := m.perm_insert k a
  rwa [insert_eq_self h] at hperm

lemma perm_insert_new (h : m.get? k = none) (a : α) : (m.insert k a).entries.Perm ((k, a) :: m.entries) := by
  have hperm := m.perm_insert k a
  rwa [erase_eq_self h] at hperm

@[simp] lemma sum_empty : (∅ : OrdMap κ α).sum f = 0 := rfl

lemma sum_erase (h : m.get? k = some a) : m.sum f = f a + (m.erase k).sum f := by
  have hperm := (perm_erase h).map fun e => f e.2
  rw [sum, hperm.sum_eq, List.map_cons, List.sum_cons, sum]

lemma sum_insert_new (h : m.get? k = none) (a : α) : (m.insert k a).sum f = f a + m.sum f := by
  have hperm := (perm_insert_new h a).map fun e => f e.2
  rw [sum, hperm.sum_eq, List.map_cons, List.sum_cons, sum]

lemma sum_insert (m : OrdMap κ α) (k : κ) (a : α) : (m.insert k a).sum f = f a + (m.erase k).sum f := by
  have hperm := (m.perm_insert k a).map fun e => f e.2
  rw [sum, hperm.sum_eq, List.map_cons, List.sum_cons, sum]

lemma le_sum (h : m.get? k = some a) : f a ≤ m.sum f := by
  rw [sum_erase h]
  exact Nat.le_add_right ..

lemma size_erase (h : m.get? k = some a) : m.size = (m.erase k).size + 1 := by
  rw [size, (perm_erase h).length_eq, List.length_cons, size]

lemma size_insert_new (h : m.get? k = none) (a : α) : (m.insert k a).size = m.size + 1 := by
  rw [size, (perm_insert_new h a).length_eq, List.length_cons, size]

lemma countIf_insert_new (h : m.get? k = none) (a : α) (p : α → Bool) :
    (m.insert k a).countIf p = m.countIf p + if p a then 1 else 0 := by
  rw [countIf_insert, erase_eq_self h]

lemma countIf_pos {p : α → Bool} (h : m.get? k = some a) (hp : p a = true) : 0 < m.countIf p := by
  rw [countIf_erase h, if_pos hp]
  exact Nat.succ_pos _

@[simp] lemma mem_keySet : k ∈ m.keySet ↔ (m.get? k).isSome := by
  rw [keySet, List.mem_toFinset, mem_keys, Option.isSome_iff_exists]

lemma mem_keySet_of_get? (h : m.get? k = some a) : k ∈ m.keySet := by simp [h]

lemma not_mem_keySet (h : m.get? k = none) : k ∉ m.keySet := by simp [h]

@[simp] lemma keySet_empty : (∅ : OrdMap κ α).keySet = ∅ := rfl

lemma keySet_insert (m : OrdMap κ α) (k : κ) (a : α) : (m.insert k a).keySet = Insert.insert k m.keySet := by
  ext k'
  rw [mem_keySet, get?_insert]
  by_cases h : k' = k <;> simp [h]

lemma keySet_insert_of_get? (h : m.get? k = some a) (b : α) : (m.insert k b).keySet = m.keySet := by
  rw [keySet_insert, Finset.insert_eq_of_mem (mem_keySet_of_get? h)]

lemma keySet_erase (m : OrdMap κ α) (k : κ) : (m.erase k).keySet = m.keySet.erase k := by
  ext k'
  rw [mem_keySet, get?_erase]
  by_cases h : k' = k <;> simp [h]

lemma card_keySet (m : OrdMap κ α) : m.keySet.card = m.size := by
  have hnodup : m.keys.Nodup := (List.pairwise_map.2 m.sorted).imp ne_of_lt
  rw [keySet, List.toFinset_card_of_nodup hnodup, keys, List.length_map, size]

end OrdMap

section Total

variable {α : Type*} [DecidableEq α] {weight : α → ℕ} {x : α} {l l' : List α}

def total (weight : α → ℕ) (l : List α) : ℕ := ∑ x ∈ l.toFinset, weight x

lemma total_congr (h : ∀ x, x ∈ l ↔ x ∈ l') : total weight l = total weight l' := by
  have heq : l.toFinset = l'.toFinset := by
    ext x
    simpa using h x
  rw [total, total, heq]

lemma total_perm (h : l.Perm l') : total weight l = total weight l' := total_congr fun _ => h.mem_iff

lemma total_cons_of_mem (h : x ∈ l) : total weight (x :: l) = total weight l := by
  apply total_congr
  simp [h]

lemma total_cons_of_not_mem (h : x ∉ l) : total weight (x :: l) = weight x + total weight l := by
  rw [total, List.toFinset_cons, Finset.sum_insert (by simpa using h), total]

end Total

end Pulsebeam.Lib
