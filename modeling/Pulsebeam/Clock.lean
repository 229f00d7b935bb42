import Pulsebeam.Lib.Word

/-! The NTP timeline: 32.32 fixed point modulo the era of `2 ^ 32` seconds. Durations, wall times and instants are whole
nanoseconds, wall times since 1970. -/

namespace Pulsebeam.Clock

open Pulsebeam.Lib

def ntpUnixOffsetSecs : ℕ := 2208988800

def fracUnits (nanos : ℕ) : ℕ := Word.saturatingAdd 64 (nanos <<< 32) 500000000 / 10 ^ 9

def fracNanos (raw : ℕ) : ℕ := Word.saturatingAdd 64 (Word.saturatingMul 64 (raw % 2 ^ 32) (10 ^ 9)) (2 ^ 31) >>> 32

def durationToUnits (d : ℕ) : ℕ :=
  Word.saturatingAdd 64 (Word.saturatingMul 64 (d / 10 ^ 9) (2 ^ 32)) (fracUnits (d % 10 ^ 9))

def unitsToDuration (raw : ℕ) : ℕ := (raw >>> 32) * 10 ^ 9 + fracNanos raw

abbrev NtpTime := BitVec 64

namespace NtpTime

def fromSystemTime (t : ℤ) : NtpTime :=
  let unix := t.toNat
  let secs := Word.wrappingAdd 64 (unix / 10 ^ 9) ntpUnixOffsetSecs % 2 ^ 32
  .ofNat 64 (secs <<< 32 ||| fracUnits (unix % 10 ^ 9))

def toSystemTime (t : NtpTime) : ℤ := ((t.toNat >>> 32 - ntpUnixOffsetSecs) * 10 ^ 9 + fracNanos t.toNat : ℕ)

def middle32 (t : NtpTime) : BitVec 32 := (t >>> 16).setWidth 32

def unitsSince (t earlier : NtpTime) : ℤ := (t - earlier).toInt

def saturatingDurationSince (t earlier : NtpTime) : ℕ :=
  if 0 < t.unitsSince earlier then unitsToDuration (t.unitsSince earlier).toNat else 0

def durationSince (t earlier : NtpTime) : Except ℕ ℕ :=
  if 0 ≤ t.unitsSince earlier then .ok (unitsToDuration (t.unitsSince earlier).toNat)
  else .error (unitsToDuration (t.unitsSince earlier).natAbs)

def wrappingAdd (t : NtpTime) (d : ℕ) : NtpTime := t + .ofNat 64 (durationToUnits d)

def wrappingSub (t : NtpTime) (d : ℕ) : NtpTime := t - .ofNat 64 (durationToUnits d)

end NtpTime

structure WallAnchor where
  wall : ℤ
  monotonic : ℤ

-- An instant has its whole seconds in 64 bits.
def Representable (t : ℤ) : Prop := -2 ^ 63 * 10 ^ 9 ≤ t ∧ t < 2 ^ 63 * 10 ^ 9

instance : DecidablePred Representable := fun _ => inferInstanceAs (Decidable (_ ∧ _))

namespace WallAnchor

def ntp (a : WallAnchor) : NtpTime := .fromSystemTime a.wall

def toNtp (a : WallAnchor) (t : ℤ) : NtpTime :=
  if a.monotonic ≤ t then a.ntp.wrappingAdd (t - a.monotonic).toNat else a.ntp.wrappingSub (a.monotonic - t).toNat

def toInstant (a : WallAnchor) (t : NtpTime) : ℤ :=
  let units := t.unitsSince a.ntp
  let shifted := if 0 ≤ units then a.monotonic + unitsToDuration units.toNat
    else a.monotonic - unitsToDuration units.natAbs
  if Representable shifted then shifted else a.monotonic

end WallAnchor

section Conversion

open NtpTime

def round (nanos : ℕ) : ℕ := (nanos * 2 ^ 32 + 500000000) / 10 ^ 9

variable {n d : ℕ} {t : ℤ}

lemma fracUnits_eq (h : n < 10 ^ 9) : fracUnits n = round n := by
  simp only [fracUnits, round, Word.saturatingAdd, Word.max, Nat.shiftLeft_eq]
  omega

lemma fracNanos_eq (raw : ℕ) : fracNanos raw = (raw % 2 ^ 32 * 10 ^ 9 + 2 ^ 31) / 2 ^ 32 := by
  simp only [fracNanos, Word.saturatingAdd, Word.saturatingMul, Word.max, Nat.shiftRight_eq_div_pow]
  omega

lemma round_split (n : ℕ) : round n = n / 10 ^ 9 * 2 ^ 32 + round (n % 10 ^ 9) := by
  simp only [round]
  omega

lemma round_lt (h : n < 2 ^ 31 * 10 ^ 9) : round n < 2 ^ 63 ∧ round (n % 10 ^ 9) < 2 ^ 32 := by
  simp only [round]
  omega

lemma unitsToDuration_eq (raw : ℕ) : unitsToDuration raw = (raw * 10 ^ 9 + 2 ^ 31) / 2 ^ 32 := by
  rw [unitsToDuration, fracNanos_eq, Nat.shiftRight_eq_div_pow]
  omega

lemma unitsToDuration_round {a b : ℕ} (h : a ≤ b) (d : ℕ) : unitsToDuration (round b + round d - round a) = b + d - a := by
  simp only [unitsToDuration_eq, round]
  omega

lemma unitsToDuration_round_self (n : ℕ) : unitsToDuration (round n) = n := by
  simpa [round] using unitsToDuration_round (Nat.zero_le n) 0

lemma durationToUnits_eq (h : d < 2 ^ 31 * 10 ^ 9) : durationToUnits d = round d := by
  have hlt := (round_lt h).2
  rw [round_split, durationToUnits, fracUnits_eq (Nat.mod_lt d (by decide))]
  simp only [Word.saturatingAdd, Word.saturatingMul, Word.max]
  omega

lemma fromSystemTime_eq (t : ℤ) : fromSystemTime t = .ofInt 64 (round t.toNat + ntpUnixOffsetSecs * 2 ^ 32) := by
  have hfrac : round (t.toNat % 10 ^ 9) < 2 ^ 32 := by
    rw [round]
    omega
  rw [fromSystemTime, fracUnits_eq (Nat.mod_lt _ (by decide)), ← Nat.shiftLeft_add_eq_or_of_lt hfrac, round_split t.toNat,
    Word.wrappingAdd_eq_mod, Nat.shiftLeft_eq]
  apply BitVec.eq_of_toNat_eq
  rw [BitVec.toNat_ofNat, BitVec.toNat_ofInt]
  omega

lemma unitsSince_ofInt {x y : ℤ} (hlo : -2 ^ 63 ≤ x - y) (hhi : x - y < 2 ^ 63) :
    unitsSince (.ofInt 64 x) (.ofInt 64 y) = x - y := by
  rw [unitsSince, BitVec.toInt_sub, BitVec.toInt_ofInt, BitVec.toInt_ofInt, Int.bmod_sub_bmod, Int.sub_bmod_bmod]
  apply Int.bmod_eq_of_le
  · omega
  · omega

lemma wrappingAdd_eq (h : d < 2 ^ 31 * 10 ^ 9) (x : ℤ) : wrappingAdd (.ofInt 64 x) d = .ofInt 64 (x + round d) := by
  rw [wrappingAdd, durationToUnits_eq h, BitVec.ofInt_add, BitVec.ofInt_natCast]

lemma wrappingSub_eq (h : d < 2 ^ 31 * 10 ^ 9) (x : ℤ) : wrappingSub (.ofInt 64 x) d = .ofInt 64 (x - round d) := by
  rw [wrappingSub, durationToUnits_eq h, ← BitVec.ofInt_natCast]
  apply BitVec.eq_of_toInt_eq
  simp only [BitVec.toInt_sub, BitVec.toInt_ofInt, Int.bmod_sub_bmod, Int.sub_bmod_bmod]

lemma toSystemTime_fromSystemTime (h0 : 0 ≤ t) (h : t < (2 ^ 32 - ntpUnixOffsetSecs) * 10 ^ 9) :
    (fromSystemTime t).toSystemTime = t := by
  have hraw : (fromSystemTime t).toNat = round t.toNat + ntpUnixOffsetSecs * 2 ^ 32 := by
    rw [fromSystemTime_eq, BitVec.toNat_ofInt]
    simp only [ntpUnixOffsetSecs, round] at h ⊢
    omega
  have hexact := unitsToDuration_round_self t.toNat
  rw [unitsToDuration, Nat.shiftRight_eq_div_pow, fracNanos_eq] at hexact
  rw [toSystemTime, hraw, fracNanos_eq, Nat.shiftRight_eq_div_pow, Nat.add_mul_div_right _ _ (by decide),
    Nat.add_sub_cancel, Nat.add_mul_mod_self_right, hexact]
  omega

lemma unitsSince_wrappingAdd {a b : ℤ} (h0 : 0 ≤ a) (hab : a ≤ b) (hd : b + d - a < 2 ^ 31 * 10 ^ 9) :
    unitsSince ((fromSystemTime b).wrappingAdd d) (fromSystemTime a) =
      (round b.toNat + round d - round a.toNat : ℕ) := by
  have ha : round a.toNat ≤ round b.toNat := by
    simp only [round]
    omega
  rw [fromSystemTime_eq, fromSystemTime_eq, wrappingAdd_eq (by omega), unitsSince_ofInt]
  · omega
  · omega
  · simp only [round]
    omega

lemma toInstant_toNtp (a : WallAnchor) (ht : Representable t) (hd : |t - a.monotonic| < 2 ^ 31 * 10 ^ 9) :
    a.toInstant (a.toNtp t) = t := by
  rw [abs_lt] at hd
  rw [WallAnchor.toInstant, WallAnchor.toNtp, WallAnchor.ntp, fromSystemTime_eq]
  generalize (round _ + _ : ℤ) = x
  split
  next h =>
    have hr := (round_lt (by omega : (t - a.monotonic).toNat < _)).1
    rw [wrappingAdd_eq (by omega), unitsSince_ofInt (by omega) (by omega), add_sub_cancel_left, if_pos (Int.natCast_nonneg _),
      Int.toNat_natCast, unitsToDuration_round_self, Int.toNat_of_nonneg (by omega), add_sub_cancel, if_pos ht]
  next h =>
    have hr := (round_lt (by omega : (a.monotonic - t).toNat < _)).1
    have hneg : ¬ 0 ≤ -(round (a.monotonic - t).toNat : ℤ) := by
      rw [round]
      omega
    rw [wrappingSub_eq (by omega), unitsSince_ofInt (by omega) (by omega), sub_sub_cancel_left, if_neg hneg, Int.natAbs_neg,
      Int.natAbs_natCast, unitsToDuration_round_self, Int.toNat_of_nonneg (by omega), sub_sub_cancel, if_pos ht]

theorem conversion_exact :
    (∀ t : ℤ, 0 ≤ t → t < (2 ^ 32 - ntpUnixOffsetSecs) * 10 ^ 9 → (fromSystemTime t).toSystemTime = t) ∧
    (∀ (a b : ℤ) (d : ℕ), 0 ≤ a → a ≤ b → b + d - a < 2 ^ 31 * 10 ^ 9 →
      (((fromSystemTime b).wrappingAdd d).saturatingDurationSince (fromSystemTime a) : ℤ) = b + d - a ∧
        ((fromSystemTime b).wrappingAdd d).durationSince (fromSystemTime a) = .ok (b + d - a).toNat) ∧
    ∀ (anchor : WallAnchor) (t : ℤ), Representable t → |t - anchor.monotonic| < 2 ^ 31 * 10 ^ 9 →
      anchor.toInstant (anchor.toNtp t) = t := by
  refine ⟨fun t => toSystemTime_fromSystemTime, fun a b d h0 hab hd => ?_, fun anchor t => toInstant_toNtp anchor⟩
  have hexact := unitsToDuration_round (Int.toNat_le_toNat hab) d
  rw [saturatingDurationSince, durationSince, unitsSince_wrappingAdd h0 hab hd, if_pos (Int.natCast_nonneg _),
    Int.toNat_natCast, hexact]
  refine ⟨?_, congrArg _ (by omega)⟩
  split
  · omega
  next h =>
    have hzero : round b.toNat + round d - round a.toNat = 0 := by omega
    rw [hzero, (by decide : unitsToDuration 0 = 0)] at hexact
    omega

end Conversion

section Expansion

inductive Expansion
  | ok (t : NtpTime)
  | ambiguous (gap : ℤ)
  | tripped
  deriving DecidableEq

structure NtpExpander where
  reference : NtpTime
  deriving DecidableEq

/-- A failed debug assertion is an answer of its own. -/
def NtpExpander.expand (e : NtpExpander) (mid : BitVec 32) : Expansion × NtpExpander :=
  let gap := (mid - e.reference.middle32).toInt
  if 2 ^ 30 ≤ gap.natAbs then (.ambiguous gap, e)
  else
    let steps := Word.saturateSigned 64 ((e.reference >>> 16).toInt + gap)
    let expanded : NtpTime := BitVec.ofInt 64 steps <<< 16
    if steps < 0 ∨ expanded.middle32 ≠ mid then (.tripped, e) else (.ok expanded, ⟨expanded⟩)

def NtpExpander.expandAll (e : NtpExpander) : List (BitVec 32) → List Expansion
  | [] => []
  | mid :: mids => (e.expand mid).1 :: (e.expand mid).2.expandAll mids

namespace NtpTime

def cleared (t : NtpTime) : NtpTime := t >>> 16 <<< 16

def stepsSince (t earlier : NtpTime) : ℤ := (((t.toNat / 2 ^ 16 : ℕ) : ℤ) - (earlier.toNat / 2 ^ 16 : ℕ)).bmod (2 ^ 48)

def Follows (earlier t : NtpTime) : Prop :=
  (t.stepsSince earlier).natAbs < 2 ^ 30 ∧ 0 ≤ (earlier.toNat / 2 ^ 16 : ℕ) + t.stepsSince earlier

end NtpTime

open NtpTime

variable {p t : NtpTime}

lemma gap_eq : (t.middle32 - p.middle32).toInt =
    (((t.toNat / 2 ^ 16 : ℕ) : ℤ) - (p.toNat / 2 ^ 16 : ℕ)).bmod (2 ^ 32) := by
  rw [BitVec.toInt_sub, middle32, middle32, BitVec.toInt_setWidth, BitVec.toInt_setWidth, Int.bmod_sub_bmod,
    Int.sub_bmod_bmod, BitVec.toNat_ushiftRight, BitVec.toNat_ushiftRight, Nat.shiftRight_eq_div_pow,
    Nat.shiftRight_eq_div_pow]

lemma toNat_cleared : t.cleared.toNat = t.toNat / 2 ^ 16 * 2 ^ 16 := by
  rw [cleared, BitVec.toNat_shiftLeft, BitVec.toNat_ushiftRight, Nat.shiftRight_eq_div_pow, Nat.shiftLeft_eq]
  omega

lemma toNat_ofInt_shiftLeft (x : ℤ) : (BitVec.ofInt 64 x <<< 16).toNat = (x % 2 ^ 48).toNat * 2 ^ 16 := by
  rw [BitVec.toNat_shiftLeft, BitVec.toNat_ofInt, Nat.shiftLeft_eq]
  omega

lemma middle32_shiftLeft (x : ℤ) : middle32 (BitVec.ofInt 64 x <<< 16) = t.middle32 ↔
    x % 2 ^ 32 = (t.toNat / 2 ^ 16 : ℕ) % 2 ^ 32 := by
  rw [← BitVec.toNat_inj]
  simp only [middle32, BitVec.toNat_setWidth, BitVec.toNat_ushiftRight, Nat.shiftRight_eq_div_pow, toNat_ofInt_shiftLeft]
  omega

lemma eq_cleared_iff (x : ℤ) : BitVec.ofInt 64 x <<< 16 = t.cleared ↔ x % 2 ^ 48 = (t.toNat / 2 ^ 16 : ℕ) := by
  rw [← BitVec.toNat_inj, toNat_ofInt_shiftLeft, toNat_cleared]
  omega

lemma expand_eq_ok_iff : ((NtpExpander.mk p).expand t.middle32).1 = .ok t.cleared ↔ Follows p t := by
  have hp := p.isLt
  have ht := t.isLt
  have hsteps : (p >>> 16).toInt = (p.toNat / 2 ^ 16 : ℕ) := by
    rw [BitVec.toInt_eq_toNat_of_lt, BitVec.toNat_ushiftRight, Nat.shiftRight_eq_div_pow]
    rw [BitVec.toNat_ushiftRight, Nat.shiftRight_eq_div_pow]
    omega
  simp only [NtpExpander.expand, Follows, stepsSince, hsteps, gap_eq, ne_eq, middle32_shiftLeft]
  generalize hP : p.toNat / 2 ^ 16 = P
  generalize hT : t.toNat / 2 ^ 16 = T
  -- the gap is the distance in steps as soon as either of the two is small
  have hgap : (((T : ℤ) - P).bmod (2 ^ 48)).natAbs < 2 ^ 30 → ((T : ℤ) - P).bmod (2 ^ 32) = ((T : ℤ) - P).bmod (2 ^ 48) := by
    rw [Int.bmod_def, Int.bmod_def]
    omega
  have hback : (P + ((T : ℤ) - P).bmod (2 ^ 32)) % 2 ^ 48 = T → (((T : ℤ) - P).bmod (2 ^ 32)).natAbs < 2 ^ 30 →
      ((T : ℤ) - P).bmod (2 ^ 48) = ((T : ℤ) - P).bmod (2 ^ 32) := by
    rw [Int.bmod_def, Int.bmod_def]
    omega
  have hmod : (P + ((T : ℤ) - P).bmod (2 ^ 32)) % 2 ^ 32 = T % 2 ^ 32 := by
    rw [Int.bmod_def]
    omega
  have hera : (P + ((T : ℤ) - P).bmod (2 ^ 48)) % 2 ^ 48 = T := by
    rw [Int.bmod_def]
    omega
  generalize ((T : ℤ) - P).bmod (2 ^ 32) = g at *
  generalize ((T : ℤ) - P).bmod (2 ^ 48) = k at *
  by_cases hg : 2 ^ 30 ≤ g.natAbs
  · rw [if_pos hg]
    simp only [reduceCtorEq, false_iff]
    omega
  have hsat : Word.saturateSigned 64 (P + g) = P + g := by
    rw [Word.saturateSigned]
    omega
  rw [if_neg hg, hsat]
  by_cases h0 : P + g < 0
  · rw [if_pos (.inl h0)]
    simp only [reduceCtorEq, false_iff]
    omega
  rw [if_neg (by omega), Expansion.ok.injEq, eq_cleared_iff, hT]
  constructor
  · intro hx
    have := hback hx (by omega)
    omega
  · intro hk
    rw [hgap hk.1, hera]

lemma follows_cleared : Follows p.cleared t ↔ Follows p t := by
  simp only [Follows, stepsSince, toNat_cleared, Nat.mul_div_cancel _ (Nat.two_pow_pos 16)]

lemma expand_reference {e : NtpExpander} {mid : BitVec 32} (h : (e.expand mid).1 = .ok t) : (e.expand mid).2 = ⟨t⟩ := by
  revert h
  unfold NtpExpander.expand
  dsimp only
  split
  · simp
  · split <;> simp

theorem expansion_iff (r : NtpTime) (times : List NtpTime) :
    ((NtpExpander.mk r).expandAll (times.map middle32) = times.map (.ok ·.cleared) ↔ (r :: times).IsChain Follows) ∧
      ∀ mid, 2 ^ 30 ≤ (mid - r.middle32).toInt.natAbs →
        (NtpExpander.mk r).expand mid = (.ambiguous (mid - r.middle32).toInt, ⟨r⟩) := by
  refine ⟨?_, fun mid h => if_pos h⟩
  induction times generalizing r with
  | nil => simp [NtpExpander.expandAll]
  | cons t times ih =>
    have hhead : (t.cleared :: times).IsChain Follows ↔ (t :: times).IsChain Follows := by
      cases times <;> simp [follows_cleared]
    rw [List.map_cons, List.map_cons, NtpExpander.expandAll, List.cons.injEq, List.isChain_cons_cons, ← expand_eq_ok_iff,
      ← hhead]
    refine and_congr_right fun hok => ?_
    rw [expand_reference hok, ih]

theorem expansion_trips : stepsSince (-65536) 0 = -1 ∧ (NtpExpander.mk 0).expandAll [middle32 (-65536)] = [.tripped] := by
  decide

end Expansion

end Pulsebeam.Clock
