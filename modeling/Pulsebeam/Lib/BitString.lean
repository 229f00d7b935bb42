import Mathlib

/-! Numbers as strings of bits, the most significant one first, and strings of bits in arrays of bytes. -/

namespace Pulsebeam.Lib.BitString

def toBits : ℕ → ℕ → List Bool
  | 0, _ => []
  | n + 1, v => v.testBit n :: toBits n v

@[simp] lemma length_toBits (n v : ℕ) : (toBits n v).length = n := by
  induction n with
  | zero => rfl
  | succ n ih => simp [toBits, ih]

variable {n : ℕ} {v : ℕ} {i : ℕ} {u : ℕ}

lemma getElem?_toBits (hi : i < n) (v : ℕ) : (toBits n v)[i]? = some (v.testBit (n - 1 - i)) := by
  induction n generalizing i with
  | zero => exact absurd hi (Nat.not_lt_zero i)
  | succ n ih =>
    cases i with
    | zero => simp [toBits]
    | succ i =>
      rw [toBits, List.getElem?_cons_succ, ih (Nat.lt_of_succ_lt_succ hi)]
      congr 2
      omega

lemma toBits_inj (hu : u < 2 ^ n) (hv : v < 2 ^ n) (h : toBits n u = toBits n v) : u = v := by
  apply Nat.eq_of_testBit_eq
  intro i
  by_cases hi : i < n
  · have hbit := congrArg (fun l : List Bool => l[n - 1 - i]?) h
    rw [getElem?_toBits (by omega), getElem?_toBits (by omega), Nat.sub_sub_self (by omega)] at hbit
    exact Option.some.inj hbit
  · have hle : 2 ^ n ≤ 2 ^ i := Nat.pow_le_pow_right (by decide) (not_lt.1 hi)
    rw [Nat.testBit_eq_false_of_lt (hu.trans_le hle), Nat.testBit_eq_false_of_lt (hv.trans_le hle)]

lemma toBits_congr (h : ∀ i < n, u.testBit i = v.testBit i) : toBits n u = toBits n v := by
  induction n with
  | zero => rfl
  | succ n ih => rw [toBits, toBits, h n (Nat.lt_succ_self n), ih fun i hi => h i (Nat.lt_succ_of_lt hi)]

lemma toBits_append (m n v : ℕ) : toBits (m + n) v = toBits m (v >>> n) ++ toBits n v := by
  induction m with
  | zero => simp [toBits]
  | succ m ih =>
    rw [Nat.add_right_comm, toBits, ih, toBits, List.cons_append, Nat.testBit_shiftRight, Nat.add_comm n m]

def bitAt (buf : List UInt8) (i : ℕ) : Bool := buf[i / 8]?.any fun byte => byte.toNat.testBit (7 - i % 8)

def slice (buf : List UInt8) (pos n : ℕ) : List Bool := (List.range' pos n).map (bitAt buf)

@[simp] lemma length_slice (buf : List UInt8) (pos n : ℕ) : (slice buf pos n).length = n := by simp [slice]

lemma slice_append (buf : List UInt8) (pos m n : ℕ) : slice buf pos (m + n) = slice buf pos m ++ slice buf (pos + m) n := by
  rw [slice, slice, slice, ← List.map_append]
  simp

variable {buf : List UInt8} {pos : ℕ}

lemma slice_congr {buf' : List UInt8} (h : ∀ i, pos ≤ i → i < pos + n → bitAt buf i = bitAt buf' i) :
    slice buf pos n = slice buf' pos n := by
  apply List.map_congr_left
  intro i hi
  rw [List.mem_range'_1] at hi
  exact h i hi.1 hi.2

lemma getElem?_slice (hi : i < n) : (slice buf pos n)[i]? = some (bitAt buf (pos + i)) := by
  simp [slice, hi]

lemma toBits_eq_slice (h : ∀ i < n, v.testBit (n - 1 - i) = bitAt buf (pos + i)) : toBits n v = slice buf pos n := by
  apply List.ext_getElem?
  intro i
  by_cases hi : i < n
  · rw [getElem?_toBits hi, getElem?_slice hi, h i hi]
  · rw [List.getElem?_eq_none (by simpa using hi), List.getElem?_eq_none (by simpa using hi)]

lemma slice_take {len : ℕ} (h : pos + n ≤ 8 * len) : slice (buf.take len) pos n = slice buf pos n := by
  apply slice_congr
  intro i _ hi
  rw [bitAt, bitAt, List.getElem?_take_of_lt (by omega)]

end Pulsebeam.Lib.BitString
