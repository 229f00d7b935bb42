import Mathlib

/-! Sliding windows of seen indices: the highest one, and a bit for each of the `n` indices that end there. -/

namespace Pulsebeam.Lib

structure ReplayWindow (n : ℕ) where
  highest : ℕ
  bitmap : BitVec n
  deriving DecidableEq, Repr

namespace ReplayWindow

variable {n : ℕ}

def accept (w : ReplayWindow n) (index : ℕ) : ReplayWindow n × Bool :=
  if w.highest < index then
    let shift := index - w.highest
    (⟨index, if n ≤ shift then 1 else w.bitmap <<< shift ||| 1⟩, true)
  else
    let delta := w.highest - index
    if n ≤ delta ∨ w.bitmap &&& (1#n <<< delta) ≠ 0 then (w, false)
    else (⟨w.highest, w.bitmap ||| (1#n <<< delta)⟩, true)

structure Covers (w : ReplayWindow n) (seen : ℕ → Prop) : Prop where
  top : seen w.highest
  le : ∀ {i}, seen i → i ≤ w.highest
  bit : ∀ {i}, i ≤ w.highest → w.highest < i + n → (w.bitmap.getLsbD (w.highest - i) = true ↔ seen i)

lemma getLsbD_one_shiftLeft {d j : ℕ} (hd : d < n) : (1#n <<< d).getLsbD j = decide (j = d) := by
  by_cases hj : j = d
  · subst hj
    simp [hd]
  by_cases hlt : j < d
  · simp [hlt, hj]
  · have hne : j - d ≠ 0 := by omega
    simp [hne, hj]

lemma and_shiftLeft_ne_zero {b : BitVec n} {d : ℕ} (hd : d < n) : b &&& (1#n <<< d) ≠ 0 ↔ b.getLsbD d = true := by
  constructor
  · intro hne
    by_contra hbit
    apply hne
    apply BitVec.eq_of_getLsbD_eq
    intro j hj
    rw [BitVec.getLsbD_and, getLsbD_one_shiftLeft hd]
    by_cases hjd : j = d
    · simpa [hjd] using hbit
    · simp [hjd]
  · intro hbit hzero
    have h := congrArg (fun v => v.getLsbD d) hzero
    simp [hbit, getLsbD_one_shiftLeft hd] at h

variable {w : ReplayWindow n} {seen : ℕ → Prop} {index : ℕ}

lemma covers_first (hn : 0 < n) : Covers (⟨index, 1⟩ : ReplayWindow n) (· = index) where
  top := rfl
  le h := h.le
  bit {i} hi _ := by
    change (1#n).getLsbD _ = true ↔ i = index
    rw [BitVec.getLsbD_one]
    simp only [hn, decide_true, Bool.true_and, decide_eq_true_eq]
    change i ≤ index at hi
    omega

lemma Covers.accept_iff (h : Covers w seen) : (w.accept index).2 = true ↔ ¬ seen index ∧ w.highest < index + n ∨
    w.highest < index := by
  rw [accept]
  split
  next hlt => exact iff_of_true rfl (.inr hlt)
  next hge =>
    dsimp only
    split
    next hold =>
      refine iff_of_false (by simp) ?_
      rintro (⟨hnew, hwin⟩ | hlt)
      · rcases hold with hold | hold
        · omega
        · exact hnew ((h.bit (by omega) hwin).1 ((and_shiftLeft_ne_zero (by omega)).1 hold))
      · exact hge hlt
    next hnew =>
      rw [not_or, not_le] at hnew
      refine iff_of_true rfl (.inl ⟨fun hs => hnew.2 ?_, by omega⟩)
      exact (and_shiftLeft_ne_zero hnew.1).2 ((h.bit (by omega) (by omega)).2 hs)

lemma accept_of_false (h : (w.accept index).2 = false) : (w.accept index).1 = w := by
  rw [accept] at h ⊢
  split at h
  · cases h
  next hge =>
    rw [if_neg hge]
    dsimp only at h ⊢
    split at h
    next hold => rw [if_pos hold]
    · cases h

lemma Covers.accept (hn : 0 < n) (h : Covers w seen) (ha : (w.accept index).2 = true) :
    Covers (w.accept index).1 fun i => seen i ∨ i = index := by
  rw [ReplayWindow.accept] at ha ⊢
  split at ha
  next hlt =>
    rw [if_pos hlt]
    refine ⟨.inr rfl, ?_, ?_⟩
    · rintro i (hi | rfl)
      · exact (h.le hi).trans hlt.le
      · exact le_rfl
    · intro i hi hwin
      dsimp only at hi hwin ⊢
      split
      next hfar =>
        change (1#n).getLsbD (index - i) = true ↔ _
        rw [BitVec.getLsbD_one]
        have hunseen : ¬ seen i := fun hs => by
          have := h.le hs
          omega
        simp only [hn, decide_true, Bool.true_and, decide_eq_true_eq, hunseen, false_or]
        omega
      next hnear =>
        rw [BitVec.getLsbD_or, BitVec.getLsbD_shiftLeft]
        change (_ || (1#n).getLsbD (index - i)) = true ↔ _
        rw [BitVec.getLsbD_one]
        rcases Nat.lt_or_ge w.highest i with hhigh | hhigh
        · have hunseen : ¬ seen i := fun hs => absurd (h.le hs) (by omega)
          have hshift : index - i < index - w.highest := by omega
          simp only [hshift, decide_true, Bool.not_true, Bool.and_false, Bool.false_and, Bool.false_or, hn, Bool.true_and,
            decide_eq_true_eq, hunseen, false_or]
          omega
        · have hbit := h.bit hhigh (by omega)
          have hshift : ¬ index - i < index - w.highest := by omega
          have hsub : index - i - (index - w.highest) = w.highest - i := by omega
          have hin : index - i < n := by omega
          have hne : index - i ≠ 0 := by omega
          simp [hshift, hsub, hin, hne, hbit, show i ≠ index by omega]
  next hge =>
    rw [if_neg hge]
    dsimp only at ha ⊢
    split at ha
    · cases ha
    next hnew =>
      rw [not_or, not_le] at hnew
      rw [if_neg (by rw [not_or, not_le]; exact hnew)]
      refine ⟨.inl h.top, ?_, ?_⟩
      · rintro i (hi | rfl)
        · exact h.le hi
        · exact not_lt.1 hge
      · intro i hi hwin
        dsimp only at hi hwin ⊢
        rw [BitVec.getLsbD_or, getLsbD_one_shiftLeft hnew.1, Bool.or_eq_true, h.bit hi hwin, decide_eq_true_eq]
        exact or_congr Iff.rfl ⟨fun he => by omega, fun he => by omega⟩

structure Watches {κ : Type*} (windows : κ → Option (ReplayWindow n)) (returned : List (κ × ℕ)) : Prop where
  covers : ∀ {k w}, windows k = some w → w.Covers fun i => (k, i) ∈ returned
  silent : ∀ {k i}, windows k = none → (k, i) ∉ returned
  nodup : returned.Nodup

lemma watches_nil {κ : Type*} : Watches (n := n) (fun _ : κ => none) [] := ⟨nofun, nofun, List.nodup_nil⟩

section Watches

variable {κ : Type*} [DecidableEq κ] {windows : κ → Option (ReplayWindow n)} {returned : List (κ × ℕ)} {k : κ} {i : ℕ}

lemma Watches.update (h : Watches windows returned) (hnew : (k, i) ∉ returned)
    (hw : w.Covers fun j => (k, j) ∈ returned ∨ j = i) :
    Watches (Function.update windows k (some w)) (returned ++ [(k, i)]) := by
  refine ⟨?_, ?_, ?_⟩
  · intro k' w' hk'
    by_cases hne : k' = k
    · subst hne
      rw [Function.update_self] at hk'
      cases hk'
      simpa using hw
    · rw [Function.update_of_ne hne] at hk'
      simpa [hne] using h.covers hk'
  · intro k' j hk'
    by_cases hne : k' = k
    · subst hne
      rw [Function.update_self] at hk'
      cases hk'
    · rw [Function.update_of_ne hne] at hk'
      simpa [hne] using h.silent hk'
  · exact List.nodup_append.2 ⟨h.nodup, List.nodup_singleton _, fun a ha b hb hab => by
      rw [List.mem_singleton.1 hb] at hab
      exact hnew (hab ▸ ha)⟩

lemma Watches.first (hn : 0 < n) (h : Watches windows returned) (hk : windows k = none) :
    Watches (Function.update windows k (some ⟨i, 1⟩)) (returned ++ [(k, i)]) := by
  refine h.update (h.silent hk) ?_
  have hnone : ∀ j, (k, j) ∉ returned := fun j => h.silent hk
  simpa [hnone] using covers_first hn

lemma Watches.later (hn : 0 < n) (h : Watches windows returned) (hk : windows k = some w) (ha : (w.accept i).2 = true) :
    Watches (Function.update windows k (some (w.accept i).1)) (returned ++ [(k, i)]) := by
  refine h.update ?_ ((h.covers hk).accept hn ha)
  rcases (h.covers hk).accept_iff.1 ha with ⟨hnew, _⟩ | hlt
  · exact hnew
  · exact fun hmem => absurd ((h.covers hk).le hmem) (by omega)

lemma Watches.retire (h : Watches windows returned) :
    Watches (Function.update windows k none) (returned.filter (·.1 ≠ k)) := by
  refine ⟨?_, ?_, h.nodup.filter _⟩
  · intro k' w' hk'
    by_cases hne : k' = k
    · subst hne
      rw [Function.update_self] at hk'
      cases hk'
    · rw [Function.update_of_ne hne] at hk'
      simpa [hne] using h.covers hk'
  · intro k' j hk'
    by_cases hne : k' = k
    · simp [hne]
    · rw [Function.update_of_ne hne] at hk'
      simp [h.silent hk']

end Watches

end ReplayWindow

end Pulsebeam.Lib
