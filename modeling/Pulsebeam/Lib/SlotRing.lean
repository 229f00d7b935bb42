import Mathlib

/-! A ring of tagged slots: item `k` lives in slot `k % n`, and the tag of a slot names its occupant. -/

namespace Pulsebeam.Lib

structure SlotRing (n : ℕ) (α : Type*) where
  tags : Fin n → ℕ
  slots : Fin n → Option α

namespace SlotRing

variable {n : ℕ} [NeZero n] {α : Type*} {j k : ℕ}

def index (n : ℕ) [NeZero n] (k : ℕ) : Fin n := ⟨k % n, Nat.mod_lt k (Nat.pos_of_ne_zero (NeZero.ne n))⟩

def empty (n : ℕ) (α : Type*) (e : ℕ) : SlotRing n α := ⟨fun _ => e, fun _ => none⟩

def get (r : SlotRing n α) (k : ℕ) : Option α := if r.tags (index n k) ≠ k then none else r.slots (index n k)

def put (r : SlotRing n α) (k : ℕ) (a : α) : SlotRing n α :=
  ⟨Function.update r.tags (index n k) k, Function.update r.slots (index n k) (some a)⟩

@[simp] lemma get_empty (e k : ℕ) : (empty n α e).get k = none := by
  unfold get empty
  split <;> rfl

lemma index_eq_iff : index n j = index n k ↔ j ≡ k [MOD n] := by
  simp [index, Nat.ModEq]

lemma index_ne (h : j < k) (hk : k < j + n) : index n j ≠ index n k := by
  rw [Ne, index_eq_iff]
  intro he
  have hd : n ∣ k - j := (Nat.modEq_iff_dvd' h.le).1 he
  have := Nat.le_of_dvd (by omega) hd
  omega

variable (r : SlotRing n α)

@[simp] lemma get_put_self (k : ℕ) (a : α) : (r.put k a).get k = some a := by
  simp [get, put]

lemma get_put_of_index_ne (a : α) (h : index n j ≠ index n k) : (r.put k a).get j = r.get j := by
  simp [get, put, Function.update_of_ne h]

lemma get_put_of_index_eq (a : α) (h : index n j = index n k) (hjk : j ≠ k) : (r.put k a).get j = none := by
  simp [get, put, h, hjk.symm]

lemma get_put_cases {a b : α} (h : (r.put k a).get j = some b) : (j = k ∧ b = a) ∨ (j ≠ k ∧ r.get j = some b) := by
  by_cases hjk : j = k
  · subst hjk
    rw [get_put_self] at h
    exact .inl ⟨rfl, (Option.some.inj h).symm⟩
  by_cases hi : index n j = index n k
  · rw [get_put_of_index_eq r a hi hjk] at h
    exact absurd h (by simp)
  · rw [get_put_of_index_ne r a hi] at h
    exact .inr ⟨hjk, h⟩

end SlotRing

end Pulsebeam.Lib
