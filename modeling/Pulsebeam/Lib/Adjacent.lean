import Mathlib

/-! Tests on the adjacent pairs of a list. -/

namespace Pulsebeam.Lib

variable {α β : Type*}

def anyAdjacent (f : α → α → Bool) : List α → Bool
  | a :: b :: l => f a b || anyAdjacent f (b :: l)
  | _ => false

lemma anyAdjacent_eq_false {f : α → α → Bool} {l : List α} :
    anyAdjacent f l = false ↔ l.IsChain (fun a b => f a b = false) := by
  induction l with
  | nil => simp [anyAdjacent]
  | cons a l ih =>
    cases l with
    | nil => simp [anyAdjacent]
    | cons b l => simp [anyAdjacent, ih]

end Pulsebeam.Lib
