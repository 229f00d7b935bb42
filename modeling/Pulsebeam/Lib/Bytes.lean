import Mathlib

/-! Machine words as the bytes they are sent in, the most significant one first. -/

namespace Pulsebeam.Lib.Bytes

lemma forall_byte {p : UInt8 → Prop} (h : ∀ n : Fin 256, p (UInt8.ofNat n)) (b : UInt8) : p b := by
  have hb := h ⟨b.toNat, b.toNat_lt⟩
  rwa [UInt8.ofNat_toNat] at hb

def be16 (x : UInt16) : UInt8 × UInt8 := ((x >>> 8).toUInt8, x.toUInt8)

def ofBe16 (hi lo : UInt8) : UInt16 := (hi.toUInt16 <<< 8) ||| lo.toUInt16

def be32 (x : UInt32) : UInt8 × UInt8 × UInt8 × UInt8 :=
  ((x >>> 24).toUInt8, (x >>> 16).toUInt8, (x >>> 8).toUInt8, x.toUInt8)

def ofBe32 (a b c d : UInt8) : UInt32 :=
  (a.toUInt32 <<< 24) ||| (b.toUInt32 <<< 16) ||| (c.toUInt32 <<< 8) ||| d.toUInt32

@[simp] lemma ofBe16_be16 (x : UInt16) : ofBe16 (be16 x).1 (be16 x).2 = x := by
  apply UInt16.eq_of_toBitVec_eq
  apply BitVec.eq_of_getLsbD_eq
  intro i hi
  interval_cases i <;> simp [ofBe16, be16, -UInt16.toUInt16_toUInt8]

@[simp] lemma be16_ofBe16 (hi lo : UInt8) : be16 (ofBe16 hi lo) = (hi, lo) := by
  refine Prod.ext (UInt8.eq_of_toBitVec_eq ?_) (UInt8.eq_of_toBitVec_eq ?_) <;> apply BitVec.eq_of_getLsbD_eq
  all_goals
    intro i hi
    interval_cases i <;> simp [ofBe16, be16]

lemma toNat_ofBe16 (hi lo : UInt8) : (ofBe16 hi lo).toNat = hi.toNat * 256 + lo.toNat := by
  have hlo : lo.toNat < 2 ^ 8 := lo.toNat_lt
  have hhi : hi.toNat < 2 ^ 8 := hi.toNat_lt
  rw [ofBe16, UInt16.toNat_or, UInt16.toNat_shiftLeft]
  have hmod : (hi.toUInt16.toNat <<< ((8 : UInt16).toNat % 16)) % 2 ^ 16 = hi.toNat <<< 8 := by
    change hi.toNat <<< 8 % 2 ^ 16 = hi.toNat <<< 8
    omega
  rw [hmod, UInt8.toNat_toUInt16, ← Nat.shiftLeft_add_eq_or_of_lt hlo, Nat.shiftLeft_eq]

@[simp] lemma ofBe32_be32 (x : UInt32) : ofBe32 (be32 x).1 (be32 x).2.1 (be32 x).2.2.1 (be32 x).2.2.2 = x := by
  apply UInt32.eq_of_toBitVec_eq
  apply BitVec.eq_of_getLsbD_eq
  intro i hi
  interval_cases i <;> simp [ofBe32, be32, -UInt32.toUInt32_toUInt8]

@[simp] lemma be32_ofBe32 (a b c d : UInt8) : be32 (ofBe32 a b c d) = (a, b, c, d) := by
  refine Prod.ext (UInt8.eq_of_toBitVec_eq ?_) (Prod.ext (UInt8.eq_of_toBitVec_eq ?_)
    (Prod.ext (UInt8.eq_of_toBitVec_eq ?_) (UInt8.eq_of_toBitVec_eq ?_))) <;> apply BitVec.eq_of_getLsbD_eq
  all_goals
    intro i hi
    interval_cases i <;> simp [ofBe32, be32]

end Pulsebeam.Lib.Bytes
