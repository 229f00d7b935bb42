import Mathlib

/-! Finite maps with ordered keys, as lists of entries with increasing keys. -/

namespace Pulsebeam.Lib

structure OrdMap (κ α : Type*) [LinearOrder κ] where
  entries : List (κ × α)
  sorted : entries.Pairwise fun a b => a.1 < b.1

namespace OrdMap

variable {κ α β : Type*} [LinearOrder κ] {l : List (κ × α)} {k : κ} {a : α}

def lookup (k : κ) : List (κ × α) → Option α
  | [] => none
  | (k', a) :: l => if k = k' then some a else lookup k l

def insertEntry (k : κ) (a : α) : List (κ × α) → List (κ × α)
  | [] => [(k, a)]
  | (k', a') :: l => if k < k' then (k, a) :: (k', a') :: l else if k = k' then (k, a) :: l else (k', a') :: insertEntry k a l

lemma mem_of_mem_insertEntry {e : κ × α} (h : e ∈ insertEntry k a l) : e = (k, a) ∨ e ∈ l := by
  induction l with
  | nil => simpa [insertEntry] using h
  | cons x l ih =>
    rw [insertEntry] at h
    split at h
    · simpa using h
    split at h
    · rcases List.mem_cons.1 h with h | h
      · exact .inl h
      · exact .inr (List.mem_cons_of_mem _ h)
    rcases List.mem_cons.1 h with h | h
    · exact .inr (h ▸ List.mem_cons_self)
    · exact (ih h).imp_right (List.mem_cons_of_mem _)

lemma pairwise_insertEntry (h : l.Pairwise fun a b => a.1 < b.1) :
    (insertEntry k a l).Pairwise fun a b => a.1 < b.1 := by
  induction h with
  | nil => exact List.pairwise_singleton _ _
  | @cons x l hx hl ih =>
    rw [insertEntry]
    split
    next hlt =>
      refine .cons (fun y hy => ?_) (.cons hx hl)
      rcases List.mem_cons.1 hy with rfl | hy
      · exact hlt
      · exact lt_trans hlt (hx y hy)
    next hle =>
      split
      next heq => exact .cons (fun y hy => heq ▸ hx y hy) hl
      next hne =>
        refine .cons (fun y hy => ?_) ih
        rcases mem_of_mem_insertEntry hy with rfl | hy
        · exact lt_of_le_of_ne (not_lt.1 hle) (Ne.symm hne)
        · exact hx y hy

def empty : OrdMap κ α := ⟨[], List.Pairwise.nil⟩

instance : EmptyCollection (OrdMap κ α) := ⟨empty⟩

instance : Inhabited (OrdMap κ α) := ⟨empty⟩

def get? (m : OrdMap κ α) (k : κ) : Option α := lookup k m.entries

def insert (m : OrdMap κ α) (k : κ) (a : α) : OrdMap κ α := ⟨insertEntry k a m.entries, pairwise_insertEntry m.sorted⟩

def retain (m : OrdMap κ α) (p : κ → α → Bool) : OrdMap κ α := ⟨m.entries.filter fun e => p e.1 e.2, m.sorted.filter _⟩

def erase (m : OrdMap κ α) (k : κ) : OrdMap κ α := m.retain fun k' _ => k' ≠ k

def mapValues (m : OrdMap κ α) (f : κ → α → β) : OrdMap κ β :=
  ⟨m.entries.map fun e => (e.1, f e.1 e.2), by rw [List.pairwise_map]; exact m.sorted⟩

def keys (m : OrdMap κ α) : List κ := m.entries.map Prod.fst

def size (m : OrdMap κ α) : ℕ := m.entries.length

def modify (m : OrdMap κ α) (k : κ) (f : α → α) : OrdMap κ α :=
  match m.get? k with
  | some a => m.insert k (f a)
  | none => m

variable {m : OrdMap κ α} {k k' : κ} {a b : α} {f : α → α}

lemma lookup_insertEntry : lookup k' (insertEntry k a l) = if k' = k then some a else lookup k' l := by
  induction l with
  | nil => rfl
  | cons x l ih =>
    rw [insertEntry]
    split
    · rfl
    split
    next heq =>
      subst heq
      rw [lookup, lookup]
      split <;> rfl
    next hne =>
      rw [lookup, lookup, ih]
      split
      next h => rw [if_neg (fun h' => hne (h'.symm.trans h))]
      · rfl

lemma lookup_eq_some (h : l.Pairwise fun a b => a.1 < b.1) : lookup k l = some a ↔ (k, a) ∈ l := by
  induction h with
  | nil => simp [lookup]
  | @cons x l hx _ ih =>
    rw [lookup, List.mem_cons]
    split
    next hk =>
      subst hk
      constructor
      · rintro ⟨⟩
        exact .inl rfl
      · rintro (h | h)
        · rw [← h]
        · exact absurd (hx _ h) (lt_irrefl _)
    next hk =>
      rw [ih]
      exact ⟨.inr, fun h => h.resolve_left fun h => hk (congrArg Prod.fst h)⟩

lemma mem_entries : (k, a) ∈ m.entries ↔ m.get? k = some a := (lookup_eq_some m.sorted).symm

lemma mem_keys : k ∈ m.keys ↔ ∃ a, m.get? k = some a := by simp [keys, mem_entries]

@[simp] lemma get?_empty : (∅ : OrdMap κ α).get? k = none := rfl

lemma get?_insert : (m.insert k a).get? k' = if k' = k then some a else m.get? k' := lookup_insertEntry

@[simp] lemma get?_insert_self : (m.insert k a).get? k = some a := by simp [get?_insert]

lemma get?_insert_of_ne (h : k' ≠ k) : (m.insert k a).get? k' = m.get? k' := by rw [get?_insert, if_neg h]

lemma get?_retain {p : κ → α → Bool} : (m.retain p).get? k = some a ↔ m.get? k = some a ∧ p k a = true := by
  rw [← mem_entries, ← mem_entries]
  simp [retain]

lemma get?_erase : (m.erase k).get? k' = if k' = k then none else m.get? k' := by
  apply Option.ext
  intro a
  rw [erase, get?_retain]
  split
  next h => simp [h]
  next h => simp [h]

@[simp] lemma get?_erase_self : (m.erase k).get? k = none := by simp [get?_erase]

lemma get?_erase_of_ne (h : k' ≠ k) : (m.erase k).get? k' = m.get? k' := by rw [get?_erase, if_neg h]

lemma get?_insert_eq_update : (m.insert k a).get? = Function.update m.get? k (some a) :=
  funext fun _ => by rw [get?_insert, Function.update_apply]

lemma get?_erase_eq_update : (m.erase k).get? = Function.update m.get? k none :=
  funext fun _ => by rw [get?_erase, Function.update_apply]

lemma nodup_entries (m : OrdMap κ α) : m.entries.Nodup := by
  refine m.sorted.imp ?_
  rintro a b hlt rfl
  exact lt_irrefl _ hlt

lemma ext_get? {m' : OrdMap κ α} (h : ∀ k, m.get? k = m'.get? k) : m = m' := by
  have hperm : m.entries.Perm m'.entries := by
    rw [List.perm_ext_iff_of_nodup m.nodup_entries m'.nodup_entries]
    intro e
    rw [mem_entries, mem_entries, h]
  have heq := hperm.eq_of_pairwise (fun a b _ _ hab hba => absurd (lt_trans hab hba) (lt_irrefl _)) m.sorted m'.sorted
  cases m
  cases heq
  rfl

lemma insert_eq_self (h : m.get? k = some a) : m.insert k a = m :=
  ext_get? fun _ => by rw [get?_insert_eq_update, ← h, Function.update_eq_self]

lemma insert_insert (m : OrdMap κ α) (k : κ) (a b : α) : (m.insert k a).insert k b = m.insert k b :=
  ext_get? fun _ => by rw [get?_insert_eq_update, get?_insert_eq_update, get?_insert_eq_update, Function.update_idem]

lemma erase_eq_self (h : m.get? k = none) : m.erase k = m :=
  ext_get? fun _ => by rw [get?_erase_eq_update, ← h, Function.update_eq_self]

lemma perm_insert (m : OrdMap κ α) (k : κ) (a : α) : (m.insert k a).entries.Perm ((k, a) :: (m.erase k).entries) := by
  have hnot : (k, a) ∉ (m.erase k).entries := by simp [mem_entries]
  rw [List.perm_ext_iff_of_nodup (nodup_entries _) (List.nodup_cons.2 ⟨hnot, nodup_entries _⟩)]
  rintro ⟨k', b⟩
  rw [List.mem_cons, mem_entries, mem_entries, get?_insert, get?_erase]
  by_cases hk : k' = k
  · subst hk
    simp [eq_comm]
  · simp [hk]

def countIf (m : OrdMap κ α) (p : α → Bool) : ℕ := m.entries.countP fun e => p e.2

lemma countIf_insert (m : OrdMap κ α) (k : κ) (a : α) (p : α → Bool) :
    (m.insert k a).countIf p = (m.erase k).countIf p + if p a then 1 else 0 := by
  rw [countIf, (m.perm_insert k a).countP_eq, List.countP_cons, countIf]

lemma countIf_erase (h : m.get? k = some a) (p : α → Bool) :
    m.countIf p = (m.erase k).countIf p + if p a then 1 else 0 := by
  rw [← countIf_insert, insert_eq_self h]

lemma countIf_eq_length {l : List κ} (p : α → Bool) (hl : l.Nodup) (h : ∀ k, k ∈ l ↔ ∃ a, m.get? k = some a ∧ p a = true) :
    m.countIf p = l.length := by
  have hkeys : ((m.entries.filter fun e => p e.2).map Prod.fst).Nodup := by
    have hsorted := m.sorted.filter fun e => p e.2
    exact (List.pairwise_map.2 hsorted).imp ne_of_lt
  rw [countIf, List.countP_eq_length_filter, ← List.length_map Prod.fst]
  refine List.Perm.length_eq ((List.perm_ext_iff_of_nodup hkeys hl).2 fun k => ?_)
  rw [h, List.mem_map]
  constructor
  · rintro ⟨⟨k, a⟩, hmem, rfl⟩
    obtain ⟨hmem, hp⟩ := List.mem_filter.1 hmem
    exact ⟨a, mem_entries.1 hmem, hp⟩
  · rintro ⟨a, hget, hp⟩
    exact ⟨(k, a), List.mem_filter.2 ⟨mem_entries.2 hget, hp⟩, rfl⟩

lemma size_eq_countIf (m : OrdMap κ α) : m.size = m.countIf fun _ => true := by
  rw [countIf, List.countP_true]
  rfl

lemma size_retain_le (m : OrdMap κ α) (p : κ → α → Bool) : (m.retain p).size ≤ m.size := List.length_filter_le ..

lemma size_erase_lt (h : m.get? k = some a) : (m.erase k).size < m.size := by
  refine List.length_filter_lt_length_iff_exists.2 ⟨(k, a), mem_entries.2 h, ?_⟩
  simp

lemma length_insertEntry_le : (insertEntry k a l).length ≤ l.length + 1 := by
  induction l with
  | nil => simp [insertEntry]
  | cons x l ih =>
    rw [insertEntry]
    split
    · simp
    split
    · simp
    · simpa using ih

lemma size_insert_le (m : OrdMap κ α) (k : κ) (a : α) : (m.insert k a).size ≤ m.size + 1 := length_insertEntry_le

lemma get?_mapValues {f : κ → α → β} : (m.mapValues f).get? k = (m.get? k).map (f k) := by
  apply Option.ext
  intro b
  rw [← mem_entries]
  simp [mapValues, mem_entries]

lemma get?_modify : (m.modify k f).get? k' = if k' = k then (m.get? k).map f else m.get? k' := by
  unfold modify
  split
  next a h =>
    rw [get?_insert, h]
    rfl
  next h =>
    by_cases hk : k' = k
    · rw [if_pos hk, hk, h]
      rfl
    · rw [if_neg hk]

lemma get?_modify_of_get? (h : m.get? k' = some a) : (m.modify k f).get? k' = some (if k' = k then f a else a) := by
  rw [get?_modify]
  split
  next hk =>
    rw [← hk, h]
    rfl
  · exact h

end OrdMap

end Pulsebeam.Lib
