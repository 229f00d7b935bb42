import Mathlib

/-! Ordered finite sets as strictly increasing lists. -/

namespace Pulsebeam.Lib

structure OrdSet (α : Type*) [LinearOrder α] where
  elems : List α
  sorted : elems.Pairwise (· < ·)

namespace OrdSet

variable {α : Type*} [LinearOrder α] {l : List α}

instance : Membership α (OrdSet α) := ⟨fun s a => a ∈ s.elems⟩

instance (a : α) (s : OrdSet α) : Decidable (a ∈ s) := inferInstanceAs (Decidable (a ∈ s.elems))

def empty : OrdSet α := ⟨[], List.Pairwise.nil⟩

def insertElem (a : α) : List α → List α
  | [] => [a]
  | b :: l => if a < b then a :: b :: l else if a = b then b :: l else b :: insertElem a l

lemma mem_insertElem {a b : α} : b ∈ insertElem a l ↔ b = a ∨ b ∈ l := by
  induction l with
  | nil => simp [insertElem]
  | cons c l ih =>
    simp only [insertElem]
    split
    · simp
    split
    next h => subst h; simp
    · simp [ih]; tauto

lemma pairwise_insertElem {a : α} (h : l.Pairwise (· < ·)) : (insertElem a l).Pairwise (· < ·) := by
  induction h with
  | nil => exact List.pairwise_singleton _ a
  | @cons b l hb hl ih =>
    simp only [insertElem]
    split
    next hab =>
      refine List.Pairwise.cons (fun c hc => ?_) (List.Pairwise.cons hb hl)
      rcases List.mem_cons.1 hc with rfl | hc
      · exact hab
      · exact lt_trans hab (hb c hc)
    next hab =>
      split
      · exact List.Pairwise.cons hb hl
      next hne =>
        refine List.Pairwise.cons (fun c hc => ?_) ih
        rcases mem_insertElem.1 hc with rfl | hc
        · exact lt_of_le_of_ne (not_lt.1 hab) (Ne.symm hne)
        · exact hb c hc

def insert (s : OrdSet α) (a : α) : OrdSet α := ⟨insertElem a s.elems, pairwise_insertElem s.sorted⟩

def insertAll (s : OrdSet α) (l : List α) : OrdSet α := l.foldl insert s

def erase (s : OrdSet α) (a : α) : OrdSet α := ⟨s.elems.filter (· ≠ a), s.sorted.filter _⟩

def trim (s : OrdSet α) (n : ℕ) : OrdSet α := ⟨s.elems.drop (s.elems.length - n), s.sorted.drop⟩

def noneFrom (s : OrdSet α) (a : α) : Bool := !s.elems.any (fun b => decide (a ≤ b))

def isEmpty (s : OrdSet α) : Bool := s.elems.isEmpty

variable {s : OrdSet α} {a b : α}

@[simp] lemma mem_elems : a ∈ s.elems ↔ a ∈ s := Iff.rfl

@[simp] lemma not_mem_empty : a ∉ (empty : OrdSet α) := List.not_mem_nil

@[simp] lemma mem_insert : b ∈ s.insert a ↔ b = a ∨ b ∈ s := mem_insertElem

@[simp] lemma mem_insertAll : b ∈ s.insertAll l ↔ b ∈ l ∨ b ∈ s := by
  induction l generalizing s with
  | nil => simp [insertAll]
  | cons c l ih =>
    have h : s.insertAll (c :: l) = (s.insert c).insertAll l := rfl
    rw [h, ih, mem_insert, List.mem_cons]
    tauto

@[simp] lemma mem_erase : b ∈ s.erase a ↔ b ∈ s ∧ b ≠ a := by
  change b ∈ s.elems.filter (· ≠ a) ↔ b ∈ s.elems ∧ b ≠ a
  simp

lemma mem_of_mem_trim {n : ℕ} (h : a ∈ s.trim n) : a ∈ s := List.mem_of_mem_drop h

lemma nodup (s : OrdSet α) : s.elems.Nodup := s.sorted.imp fun h => ne_of_lt h

end OrdSet

end Pulsebeam.Lib
