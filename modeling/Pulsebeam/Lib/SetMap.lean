import Mathlib

/-! Maps from keys to sets, kept without empty sets: the usual secondary index. -/

namespace Pulsebeam.Lib

section Lookup

variable {K : Type*} {β : K → Type*} [DecidableEq K] {m : AList β} {k k' : K}

lemma lookup_insert_iff {α : Type*} {m : AList fun _ : K => α} {v w : α} :
    (m.insert k v).lookup k' = some w ↔ (k' = k ∧ w = v) ∨ (k' ≠ k ∧ m.lookup k' = some w) := by
  by_cases hk : k' = k
  · subst hk
    simp [eq_comm]
  · simp [hk]

lemma lookup_erase_iff {v : β k'} : (m.erase k).lookup k' = some v ↔ k' ≠ k ∧ m.lookup k' = some v := by
  by_cases hk : k' = k
  · subst hk
    simp
  · simp [hk]

end Lookup

abbrev SetMap (K V : Type*) := AList fun _ : K => List V

namespace SetMap

variable {K V : Type*} [DecidableEq K]

def get (m : SetMap K V) (k : K) : List V := (m.lookup k).getD []

def retain (m : SetMap K V) (p : K → Bool) : SetMap K V :=
  ⟨m.entries.filter fun x => p x.1, m.nodupKeys.sublist List.filter_sublist⟩

def Tidy (m : SetMap K V) : Prop := ∀ k l, m.lookup k = some l → l ≠ [] ∧ l.Nodup

variable {m : SetMap K V} {k k' : K} {v v' : V} {p : K → Bool} {l : List V}

@[simp] lemma get_empty : get (∅ : SetMap K V) k = [] := rfl

lemma tidy_empty : Tidy (∅ : SetMap K V) := nofun

lemma get_of_lookup (h : m.lookup k = some l) : m.get k = l := by
  rw [get, h]
  rfl

lemma exists_lookup (h : v ∈ m.get k) : ∃ l, m.lookup k = some l ∧ v ∈ l := by
  cases hm : m.lookup k with
  | none => simp [get, hm] at h
  | some l => exact ⟨l, rfl, get_of_lookup hm ▸ h⟩

lemma lookup_retain : (m.retain p).lookup k = some l ↔ m.lookup k = some l ∧ p k = true := by
  rw [← Option.mem_def, AList.mem_lookup_iff, ← Option.mem_def, AList.mem_lookup_iff]
  simp [retain]

@[simp] lemma mem_get_retain : v ∈ (m.retain p).get k ↔ v ∈ m.get k ∧ p k = true := by
  constructor
  · intro h
    obtain ⟨l, hl, hv⟩ := exists_lookup h
    obtain ⟨hm, hp⟩ := lookup_retain.1 hl
    exact ⟨by rwa [get_of_lookup hm], hp⟩
  · rintro ⟨h, hp⟩
    obtain ⟨l, hl, hv⟩ := exists_lookup h
    rwa [get_of_lookup (lookup_retain.2 ⟨hl, hp⟩)]

lemma Tidy.retain (h : Tidy m) (p : K → Bool) : Tidy (m.retain p) := fun k l hl => h k l (lookup_retain.1 hl).1

lemma Tidy.mem_keys (h : Tidy m) : k ∈ m ↔ ∃ v, v ∈ m.get k := by
  rw [← AList.lookup_isSome, Option.isSome_iff_exists]
  constructor
  · rintro ⟨l, hl⟩
    obtain ⟨v, hv⟩ := List.exists_mem_of_ne_nil l (h k l hl).1
    exact ⟨v, by rwa [get_of_lookup hl]⟩
  · rintro ⟨v, hv⟩
    obtain ⟨l, hl, -⟩ := exists_lookup hv
    exact ⟨l, hl⟩

lemma Tidy.nodup_get (h : Tidy m) (k : K) : (m.get k).Nodup := by
  cases hm : m.lookup k with
  | none => simp [get, hm]
  | some l =>
    rw [get_of_lookup hm]
    exact (h k l hm).2

structure Exact (m : SetMap K V) (P : K → V → Prop) : Prop where
  tidy : Tidy m
  mem : ∀ k v, v ∈ m.get k ↔ P k v

variable {P Q : K → V → Prop}

lemma Exact.congr (h : Exact m P) (hPQ : ∀ k v, P k v ↔ Q k v) : Exact m Q :=
  ⟨h.tidy, fun k v => (h.mem k v).trans (hPQ k v)⟩

lemma exact_empty (h : ∀ k v, ¬ P k v) : Exact (∅ : SetMap K V) P := ⟨tidy_empty, fun k v => by simp [h k v]⟩

lemma Exact.retain (h : Exact m P) (p : K → Bool) : Exact (m.retain p) fun k v => P k v ∧ p k = true :=
  ⟨h.tidy.retain p, fun k v => by rw [mem_get_retain, h.mem]⟩

lemma Exact.mem_keys (h : Exact m P) : k ∈ m ↔ ∃ v, P k v := by
  simp only [h.tidy.mem_keys, h.mem]

section Update

variable [DecidableEq V]

def insertAt (m : SetMap K V) (k : K) (v : V) : SetMap K V := m.insert k ((m.get k).insert v)

def removeAt (m : SetMap K V) (k : K) (v : V) : SetMap K V :=
  match m.lookup k with
  | none => m
  | some l => if l.filter (· ≠ v) = [] then m.erase k else m.insert k (l.filter (· ≠ v))

@[simp] lemma mem_get_insertAt : v' ∈ (m.insertAt k v).get k' ↔ (k' = k ∧ v' = v) ∨ v' ∈ m.get k' := by
  by_cases hk : k' = k
  · subst hk
    rw [insertAt, get]
    simp
  · rw [insertAt]
    simp [hk, get]

@[simp] lemma mem_get_removeAt : v' ∈ (m.removeAt k v).get k' ↔ v' ∈ m.get k' ∧ ¬ (k' = k ∧ v' = v) := by
  unfold removeAt
  cases hl : m.lookup k with
  | none =>
    refine ⟨fun h => ⟨h, ?_⟩, And.left⟩
    rintro ⟨rfl, -⟩
    simp [get, hl] at h
  | some l =>
    dsimp only
    by_cases hk : k' = k
    · subst hk
      rw [get_of_lookup hl]
      split
      next hnil =>
        have hall : ∀ x ∈ l, x = v := by simpa using hnil
        rw [get, AList.lookup_erase]
        simp only [Option.getD_none, List.not_mem_nil, true_and, false_iff, not_and, not_not]
        exact hall v'
      · rw [get]
        simp
    · have hsame : ∀ m' : SetMap K V, m'.lookup k' = m.lookup k' → (v' ∈ m'.get k' ↔ v' ∈ m.get k') := by
        intro m' h
        rw [get, get, h]
      split
      · rw [hsame _ (AList.lookup_erase_ne hk)]
        simp [hk]
      · rw [hsame _ (AList.lookup_insert_ne hk)]
        simp [hk]

lemma Tidy.insertAt (h : Tidy m) (k : K) (v : V) : Tidy (m.insertAt k v) := by
  intro k' l hl
  by_cases hk : k' = k
  · subst hk
    rw [SetMap.insertAt, AList.lookup_insert] at hl
    cases hl
    exact ⟨List.ne_nil_of_mem List.mem_insert_self, (h.nodup_get k').insert⟩
  · rw [SetMap.insertAt, AList.lookup_insert_ne hk] at hl
    exact h k' l hl

lemma Tidy.removeAt (h : Tidy m) (k : K) (v : V) : Tidy (m.removeAt k v) := by
  unfold SetMap.removeAt
  cases hl : m.lookup k with
  | none => exact h
  | some l =>
    intro k' l' hl'
    dsimp only at hl'
    by_cases hk : k' = k
    · subst hk
      split at hl'
      · rw [AList.lookup_erase] at hl'
        cases hl'
      next hne =>
        rw [AList.lookup_insert] at hl'
        cases hl'
        exact ⟨hne, (h k' l hl).2.filter _⟩
    · split at hl'
      · rw [AList.lookup_erase_ne hk] at hl'
        exact h k' l' hl'
      · rw [AList.lookup_insert_ne hk] at hl'
        exact h k' l' hl'

lemma Exact.insertAt (h : Exact m P) (k : K) (v : V) :
    Exact (m.insertAt k v) fun k' v' => (k' = k ∧ v' = v) ∨ P k' v' :=
  ⟨h.tidy.insertAt k v, fun k' v' => by rw [mem_get_insertAt, h.mem]⟩

lemma Exact.removeAt (h : Exact m P) (k : K) (v : V) :
    Exact (m.removeAt k v) fun k' v' => P k' v' ∧ ¬ (k' = k ∧ v' = v) :=
  ⟨h.tidy.removeAt k v, fun k' v' => by rw [mem_get_removeAt, h.mem]⟩

end Update

end SetMap

end Pulsebeam.Lib
