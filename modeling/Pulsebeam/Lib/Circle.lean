import Pulsebeam.Lib.OrdMap

/-! The entries of an ordered map taken in turn: after the last one the first one comes again. -/

namespace Pulsebeam.Lib.OrdMap

variable {κ α : Type*} [LinearOrder κ] {m : OrdMap κ α} {k x : κ} {a : α} {l : List (κ × α)} {p : κ → Bool}
  {e f : κ × α}

def turn (m : OrdMap κ α) (p : κ → Bool) : Option (κ × α) := (m.entries.find? fun e => p e.1).or m.entries.head?

def onward (m : OrdMap κ α) (k : κ) : Option (κ × α) := m.turn fun x => decide (k ≤ x)

def after (m : OrdMap κ α) (k : κ) : Option (κ × α) := m.turn fun x => decide (k < x)

lemma get?_of_turn (h : m.turn p = some (x, a)) : m.get? x = some a := by
  rw [← mem_entries]
  rcases Option.or_eq_some_iff.1 h with h | ⟨-, h⟩
  · exact List.mem_of_find?_eq_some h
  · exact List.mem_of_head? h

lemma turn_isSome (p : κ → Bool) (h : m.get? k = some a) : ∃ x b, m.turn p = some (x, b) := by
  unfold turn
  cases hl : m.entries with
  | nil =>
    rw [← mem_entries, hl] at h
    cases h
  | cons e l =>
    cases hf : (e :: l).find? fun e => p e.1 with
    | some y => exact ⟨y.1, y.2, rfl⟩
    | none => exact ⟨e.1, e.2, rfl⟩

lemma find?_le (hl : l.Pairwise fun a b => a.1 < b.1) (he : l.find? (fun e => p e.1) = some e) (hf : f ∈ l)
    (hp : p f.1 = true) : e.1 ≤ f.1 := by
  induction hl with
  | nil => cases hf
  | @cons x l hx _ ih =>
    rw [List.find?_cons] at he
    split at he
    · cases he
      rcases List.mem_cons.1 hf with rfl | hf
      · exact le_rfl
      · exact le_of_lt (hx f hf)
    next hnot =>
      rcases List.mem_cons.1 hf with rfl | hf
      · rw [hnot] at hp
        cases hp
      · exact ih he hf

lemma head?_le (hl : l.Pairwise fun a b => a.1 < b.1) (he : l.head? = some e) (hf : f ∈ l) : e.1 ≤ f.1 := by
  cases hl with
  | nil => cases hf
  | cons hx _ =>
    cases he
    rcases List.mem_cons.1 hf with rfl | hf
    · exact le_rfl
    · exact le_of_lt (hx f hf)

lemma onward_of_get? (h : m.get? k = some a) : m.onward k = some (k, a) := by
  have hmem := mem_entries.2 h
  cases hf : m.entries.find? fun e => decide (k ≤ e.1) with
  | none =>
    have hn := List.find?_eq_none.1 hf _ hmem
    simp at hn
  | some e =>
    have hle : e.1 ≤ k := find?_le (p := fun x => decide _) m.sorted hf hmem (by simp)
    have hge : k ≤ e.1 := by simpa using List.find?_some hf
    obtain ⟨x, b⟩ := e
    have hk : x = k := le_antisymm hle hge
    subst hk
    have hb : m.get? x = some b := mem_entries.1 (List.mem_of_find?_eq_some hf)
    rw [onward, turn, hf, h.symm.trans hb |> Option.some.inj]
    rfl

lemma after_cases (h : m.get? k = some a) : ∃ x b, m.after k = some (x, b) ∧ m.get? x = some b ∧
    ((k < x ∧ ∀ j c, m.get? j = some c → k < j → x ≤ j) ∨ ∀ j c, m.get? j = some c → x ≤ j ∧ j ≤ k) := by
  obtain ⟨x, b, hx⟩ := turn_isSome (fun x => decide (k < x)) h
  refine ⟨x, b, hx, get?_of_turn hx, ?_⟩
  rcases Option.or_eq_some_iff.1 hx with hf | ⟨hnone, hhead⟩
  · left
    refine ⟨by simpa using List.find?_some hf, fun j c hj hkj => ?_⟩
    exact find?_le (p := fun x => decide _) m.sorted hf (mem_entries.2 hj) (by simpa using hkj)
  right
  intro j c hj
  have hn := List.find?_eq_none.1 hnone _ (mem_entries.2 hj)
  refine ⟨head?_le m.sorted hhead (mem_entries.2 hj), ?_⟩
  simpa using hn

end Pulsebeam.Lib.OrdMap
