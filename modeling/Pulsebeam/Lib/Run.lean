import Mathlib

/-! Guarded state machines and the invariant rule over their runs. -/

namespace Pulsebeam.Lib

structure Machine (σ ι : Type*) where
  init : σ → Prop
  guard : σ → ι → Prop
  step : σ → ι → σ

namespace Machine

variable {σ ι : Type*} (M : Machine σ ι)

inductive Reachable : σ → Prop
  | init {s : σ} : M.init s → Reachable s
  | step {s : σ} (i : ι) : Reachable s → M.guard s i → Reachable (M.step s i)

variable {M} {s : σ}

theorem Reachable.invariant {I : σ → Prop} (hinit : ∀ s, M.init s → I s)
    (hstep : ∀ s i, I s → M.guard s i → I (M.step s i)) (h : M.Reachable s) : I s := by
  induction h with
  | init hs => exact hinit _ hs
  | step i _ hg ih => exact hstep _ i ih hg

def Admits (M : Machine σ ι) : σ → List ι → Prop
  | _, [] => True
  | s, i :: is => M.guard s i ∧ Admits M (M.step s i) is

instance Admits.decidable [∀ s i, Decidable (M.guard s i)] : ∀ (s : σ) (is : List ι), Decidable (M.Admits s is)
  | _, [] => inferInstanceAs (Decidable True)
  | s, i :: is =>
    have := Admits.decidable (M.step s i) is
    inferInstanceAs (Decidable (M.guard s i ∧ M.Admits (M.step s i) is))

theorem Reachable.run {is : List ι} (h : M.Reachable s) (hg : M.Admits s is) : M.Reachable (is.foldl M.step s) := by
  induction is generalizing s with
  | nil => exact h
  | cons i is ih => exact ih (.step i h hg.1) hg.2

theorem admits_of_forall (hg : ∀ s i, M.guard s i) (s : σ) (is : List ι) : M.Admits s is := by
  induction is generalizing s with
  | nil => trivial
  | cons i is ih => exact ⟨hg s i, ih _⟩

end Machine

end Pulsebeam.Lib
