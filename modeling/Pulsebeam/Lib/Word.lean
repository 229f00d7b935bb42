import Mathlib

/-! Unsigned machine words as natural numbers with explicit reduction. -/

namespace Pulsebeam.Lib.Word

def max (w : ℕ) : ℕ := 2 ^ w - 1

-- The comparison comes before the reduction so that an open term does not unfold into division by `2 ^ w`.
def wrap (w n : ℕ) : ℕ := if n < 2 ^ w then n else n % 2 ^ w

def wrappingAdd (w a b : ℕ) : ℕ := wrap w (a + b)

def wrappingSub (w a b : ℕ) : ℕ := if b ≤ a then wrap w (a - b) else wrap w (2 ^ w - (b - a) % 2 ^ w)

def saturatingAdd (w a b : ℕ) : ℕ := min (a + b) (max w)

def saturatingMul (w a b : ℕ) : ℕ := min (a * b) (max w)

def saturateSigned (w : ℕ) (x : ℤ) : ℤ := Max.max (min x (2 ^ (w - 1) - 1)) (-2 ^ (w - 1))

lemma wrap_eq_mod (w n : ℕ) : wrap w n = n % 2 ^ w := by
  rw [wrap]
  split
  next h => exact (Nat.mod_eq_of_lt h).symm
  · rfl

lemma wrappingAdd_eq_mod (w a b : ℕ) : wrappingAdd w a b = (a + b) % 2 ^ w := wrap_eq_mod w (a + b)

variable {w : ℕ} {a b : ℕ}

lemma wrappingAdd_of_lt (h : a + b < 2 ^ w) : wrappingAdd w a b = a + b := by
  rw [wrappingAdd_eq_mod, Nat.mod_eq_of_lt h]

def Displaces (w base : ℕ) (d : ℤ) : Prop := (base : ℤ) ≡ d [ZMOD 2 ^ w]

lemma displaces_wrap (w n : ℕ) : Displaces w (wrap w n) n := by
  rw [Displaces, wrap_eq_mod]
  push_cast
  exact Int.mod_modEq _ _

lemma displaces_wrappingSub (w a b : ℕ) : Displaces w (wrappingSub w a b) ((a : ℤ) - b) := by
  rw [wrappingSub]
  split
  next h =>
    rw [← Nat.cast_sub h]
    exact displaces_wrap w _
  next h =>
    have hle : (b - a) % 2 ^ w ≤ 2 ^ w := (Nat.mod_lt _ (Nat.two_pow_pos w)).le
    refine (displaces_wrap w _).trans ?_
    push_cast [Nat.cast_sub hle, Nat.cast_sub (not_le.1 h).le]
    have hw : (2 : ℤ) ^ w ≡ 0 [ZMOD 2 ^ w] := by simp [Int.ModEq]
    have hs := hw.sub (Int.mod_modEq ((b : ℤ) - a) _)
    rwa [zero_sub, neg_sub] at hs

variable {base : ℕ} {d : ℤ}

section

variable (h : Displaces w base d)

include h

lemma Displaces.wrappingSub_left (k : ℕ) : Displaces w (wrappingSub w base k) (d - k) :=
  (displaces_wrappingSub w base k).trans (h.sub_right _)

lemma Displaces.wrappingAdd_left (k : ℕ) : Displaces w (wrappingAdd w base k) (d + k) := by
  have hm := displaces_wrap w (base + k)
  rw [Nat.cast_add] at hm
  exact hm.trans (h.add_right _)

lemma Displaces.wrappingAdd_emod (i : ℕ) : ((wrappingAdd w i base : ℕ) : ℤ) = (i + d) % 2 ^ w := by
  rw [wrappingAdd_eq_mod]
  exact h.add_left (i : ℤ)

lemma Displaces.wrappingAdd_eq {i : ℕ} (h0 : 0 ≤ i + d) (h1 : i + d < 2 ^ w) :
    ((wrappingAdd w i base : ℕ) : ℤ) = i + d := by
  rw [h.wrappingAdd_emod]
  exact Int.emod_eq_of_lt h0 h1

end

lemma wrappingAdd_comm (w a b : ℕ) : wrappingAdd w a b = wrappingAdd w b a := by
  rw [wrappingAdd, wrappingAdd, Nat.add_comm]

lemma wrappingAdd_wrappingSub (w : ℕ) (ha : a < 2 ^ w) : wrappingAdd w b (wrappingSub w a b) = a := by
  have h := (displaces_wrappingSub w a b).wrappingAdd_eq (i := b) (by omega) (by
    have : (a : ℤ) < 2 ^ w := by exact_mod_cast ha
    omega)
  omega

def signedSub (w a b : ℕ) : ℤ := ((a : ℤ) - b).bmod (2 ^ w)

lemma signedSub_eq {x y : ℤ} (ha : (a : ℤ) ≡ x [ZMOD 2 ^ (w + 1)]) (hb : (b : ℤ) ≡ y [ZMOD 2 ^ (w + 1)])
    (hlo : y - 2 ^ w ≤ x) (hhi : x < y + 2 ^ w) : signedSub (w + 1) a b = x - y := by
  have hmod : (a : ℤ) - b ≡ x - y [ZMOD 2 ^ (w + 1)] := ha.sub hb
  have hpow : (2 : ℤ) ^ (w + 1) = 2 * 2 ^ w := pow_succ' 2 w
  have hcast : ((2 ^ (w + 1) : ℕ) : ℤ) = 2 * 2 ^ w := by push_cast; exact hpow
  have hsame : signedSub (w + 1) a b = (x - y).bmod (2 ^ (w + 1)) := by
    rw [signedSub, Int.bmod_def, Int.bmod_def, Nat.cast_pow, Nat.cast_ofNat, hmod]
  rw [hsame]
  apply Int.bmod_eq_of_le
  · omega
  · omega

end Pulsebeam.Lib.Word
