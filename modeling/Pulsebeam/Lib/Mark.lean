import Mathlib

/-! Ranked and dated values: the highest rank counts, with its latest date and its value as long as that is one. -/

namespace Pulsebeam.Lib

structure Mark (α : Type*) where
  rank : ℕ
  date : ℕ
  value : Option α

namespace Mark

variable {α : Type*} [DecidableEq α] {x y z : Mark α}

def join (x y : Mark α) : Mark α :=
  if x.rank < y.rank then y
  else if y.rank < x.rank then x
  else ⟨x.rank, max x.date y.date, if x.value = y.value then x.value else none⟩

instance : Max (Mark α) := ⟨join⟩

lemma sup_def (x y : Mark α) : x ⊔ y = join x y := rfl

instance : SemilatticeSup (Mark α) := SemilatticeSup.mk'
  (fun x y => by
    obtain ⟨r, d, v⟩ := x
    obtain ⟨r', d', v'⟩ := y
    simp only [sup_def, join]
    grind)
  (fun x y z => by
    obtain ⟨r, d, v⟩ := x
    obtain ⟨r', d', v'⟩ := y
    obtain ⟨r'', d'', v''⟩ := z
    simp only [sup_def, join]
    grind)
  (fun x => by simp [sup_def, join])

lemma le_iff : x ≤ y ↔ x.rank < y.rank ∨ x.rank = y.rank ∧ x.date ≤ y.date ∧ (y.value = none ∨ y.value = x.value) := by
  obtain ⟨r', d', v'⟩ := y
  rw [← sup_eq_right, sup_def, join]
  grind

end Mark

end Pulsebeam.Lib
