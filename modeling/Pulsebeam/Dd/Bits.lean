import Pulsebeam.Lib.BitCodec
import Pulsebeam.Lib.BitString

/-! The bit streams of the dependency descriptor: bytes read and written some bits at a time. -/

namespace Pulsebeam.Dd

open Pulsebeam.Lib Pulsebeam.Lib.BitString Pulsebeam.Lib.BitCodec List Nat Bool

inductive DdReadError
  | truncated
  | tooLong (bytes : ℕ)
  | noStructure
  | unknownTemplateId (id : ℕ)
  | tooManyTemplates
  | tooManyFrameDiffs
  | tooManySpatialLayers
  | tooManyTemporalLayers
  | trailingBytes (bytes : ℕ)
  deriving DecidableEq, Repr

inductive DdWriteError
  | overflow
  | noStructure
  | unknownTemplateId (id : ℕ)
  | inconsistent
  | outOfRange
  deriving DecidableEq, Repr

structure BitReader where
  buf : List UInt8
  pos : ℕ

structure BitWriter where
  buf : List UInt8
  pos : ℕ

abbrev Reading := StateT BitReader (Except DdReadError)

abbrev Writing := StateT BitWriter (Except DdWriteError)

def chunkOf (byte p n : ℕ) : ℕ := (byte >>> (8 - p - n)) &&& (2 ^ n - 1)

namespace BitReader

def withOffset (buf : List UInt8) (offset : ℕ) : BitReader := ⟨buf, min offset (8 * buf.length)⟩

def remaining (r : BitReader) : ℕ := 8 * r.buf.length - r.pos

def readLoop (buf : List UInt8) : ℕ → ℕ → ℕ → ℕ → Option (ℕ × ℕ)
  | 0, out, _, pos => some (out, pos)
  | fuel + 1, out, left, pos =>
    if left = 0 then some (out, pos)
    else
      match buf[pos / 8]? with
      | none => none
      | some byte =>
        let n := min (8 - pos % 8) left
        readLoop buf fuel ((out <<< n) % 2 ^ 32 ||| chunkOf byte.toNat (pos % 8) n) (left - n) (pos + n)

def readBits (n : ℕ) : Reading ℕ := fun r =>
  if n = 0 then .ok (0, r)
  else if r.remaining < n then .error .truncated
  else
    match readLoop r.buf n 0 n r.pos with
    | none => .error .truncated
    | some (out, pos) => .ok (out, { r with pos := pos })

def readBit : Reading ℕ := readBits 1

-- A shift takes its amount modulo the width of the word.
def nsWidth (n : ℕ) : ℕ × ℕ :=
  let w := Nat.log2 n + 1
  (w, 2 ^ (w % 32) - n)

def readNs (n : ℕ) : Reading ℕ :=
  if n ≤ 1 then pure 0
  else do
    let (w, m) := nsWidth n
    let v ← readBits (w - 1)
    if v < m then pure v
    else do
      let bit ← readBit
      pure (2 * v - m + bit)

-- The narrow reads clamp the width they are asked for before they truncate.
def readBitsU8 (n : ℕ) : Reading ℕ := (· % 2 ^ 8) <$> readBits (min n 8)

def readBitsU16 (n : ℕ) : Reading ℕ := (· % 2 ^ 16) <$> readBits (min n 16)

def readNsU8 (n : ℕ) : Reading ℕ := (· % 2 ^ 8) <$> readNs (min n 256)

end BitReader

namespace BitWriter

def new (bytes : ℕ) : BitWriter := ⟨List.replicate bytes 0, 0⟩

def writeLoop (v : ℕ) : ℕ → ℕ → ℕ → List UInt8 → Option (List UInt8 × ℕ)
  | 0, _, pos, buf => some (buf, pos)
  | fuel + 1, left, pos, buf =>
    if left = 0 then some (buf, pos)
    else
      match buf[pos / 8]? with
      | none => none
      | some byte =>
        let avail := 8 - pos % 8
        let n := min avail left
        let chunk := (v >>> (left - n)) &&& (2 ^ n - 1)
        writeLoop v fuel (left - n) (pos + n)
          (buf.set (pos / 8) (byte ||| UInt8.ofNat chunk <<< UInt8.ofNat (avail - n)))

def writeBits (v n : ℕ) : Writing Unit := fun w =>
  if n = 0 then .ok ((), w)
  else if 8 * w.buf.length - w.pos < n then .error .overflow
  else
    match writeLoop (v % 2 ^ n) n n w.pos w.buf with
    | none => .error .overflow
    | some (buf, pos) => .ok ((), { buf := buf, pos := pos })

def writeBit (b : Bool) : Writing Unit := writeBits b.toNat 1

def writeNs (v n : ℕ) : Writing Unit :=
  if n ≤ 1 then pure ()
  else
    let (w, m) := BitReader.nsWidth n
    if v < m then writeBits v (w - 1)
    else do
      let x := v + m
      writeBits (x >>> 1) (w - 1)
      writeBit (x % 2 == 1)

def finish (w : BitWriter) : ℕ := (w.pos + 7) / 8

end BitWriter

instance : Source BitReader where
  remaining r := slice r.buf r.pos r.remaining
  skip r n := { r with pos := r.pos + n }
  remaining_skip r n := by
    rcases le_total n r.remaining with h | h
    · obtain ⟨m, hm⟩ := Nat.exists_eq_add_of_le h
      have hrest : BitReader.remaining { r with pos := r.pos + n } = m := by
        simp only [BitReader.remaining] at hm ⊢
        omega
      rw [hrest, hm, slice_append, drop_left' (length_slice ..)]
    · have hrest : BitReader.remaining { r with pos := r.pos + n } = 0 := by
        simp only [BitReader.remaining] at h ⊢
        omega
      rw [hrest, drop_eq_nil_of_le (by simpa using h)]
      rfl
  skip_zero _ := rfl
  skip_skip r m n := by simp only [add_assoc]

instance : Sink BitWriter where
  written w := slice w.buf 0 w.pos
  room w := 8 * w.buf.length - w.pos
  Clean w := w.pos ≤ 8 * w.buf.length ∧ ∀ i, w.pos ≤ i → bitAt w.buf i = false

variable {buf : List UInt8} {byte : UInt8} {pos : ℕ} {out k : ℕ}

section Chunks

lemma testBit_chunkOf {byte p n i : ℕ} : (chunkOf byte p n).testBit i = (decide (i < n) && byte.testBit (8 - p - n + i)) := by
  rw [chunkOf, Nat.testBit_and, Nat.testBit_two_pow_sub_one, Nat.testBit_shiftRight, Bool.and_comm]

lemma chunkOf_lt (byte p n : ℕ) : chunkOf byte p n < 2 ^ n := by
  rw [chunkOf, and_two_pow_sub_one_eq_mod]
  exact Nat.mod_lt _ (Nat.two_pow_pos n)

lemma toBits_chunkOf {n : ℕ} (hbyte : buf[pos / 8]? = some byte) (hn : n ≤ 8 - pos % 8) :
    toBits n (chunkOf byte.toNat (pos % 8) n) = slice buf pos n := by
  apply toBits_eq_slice
  intro i hi
  have hdiv : (pos + i) / 8 = pos / 8 := by omega
  rw [testBit_chunkOf, bitAt, hdiv, hbyte, decide_eq_true (by omega), Bool.true_and]
  congr 1
  omega

lemma toBits_shiftLeft_or {n c : ℕ} (hc : c < 2 ^ n) :
    toBits (k + n) (out <<< n ||| c) = toBits k out ++ toBits n c := by
  rw [toBits_append]
  congr 1
  · apply toBits_congr
    intro i _
    have hge : 2 ^ n ≤ 2 ^ (n + i) := Nat.pow_le_pow_right (by decide) (Nat.le_add_right n i)
    rw [testBit_shiftRight, testBit_or, testBit_eq_false_of_lt (hc.trans_le hge)]
    simp
  · apply toBits_congr
    intro i hi
    simp [hi]

lemma shiftLeft_or_lt {n c : ℕ} (hout : out < 2 ^ k) (hc : c < 2 ^ n) : out <<< n ||| c < 2 ^ (k + n) := by
  apply or_lt_two_pow
  · rw [shiftLeft_eq, pow_add]
    exact Nat.mul_lt_mul_of_pos_right hout (Nat.two_pow_pos n)
  · exact hc.trans_le (Nat.pow_le_pow_right (by decide) (Nat.le_add_left n k))

end Chunks

variable {left : ℕ}

namespace BitReader

lemma readLoop_eq {fuel start : ℕ} (hfuel : left ≤ fuel) (hk : k + left ≤ 32) (hend : start + k + left ≤ 8 * buf.length)
    (hout : out < 2 ^ k) (hbits : toBits k out = slice buf start k) :
    ∃ v, v < 2 ^ (k + left) ∧ toBits (k + left) v = slice buf start (k + left) ∧
      readLoop buf fuel out left (start + k) = some (v, start + k + left) := by
  induction fuel generalizing out left k with
  | zero =>
    obtain rfl : left = 0 := le_zero.1 hfuel
    exact ⟨out, hout, hbits, rfl⟩
  | succ fuel ih =>
    unfold readLoop
    split
    next hleft =>
      subst hleft
      exact ⟨out, hout, hbits, rfl⟩
    next hleft =>
      obtain ⟨byte, hbyte⟩ : ∃ byte, buf[(start + k) / 8]? = some byte := ⟨_, getElem?_eq_getElem (by omega)⟩
      rw [hbyte]
      dsimp only
      generalize hn : min _ left = n
      have hwrap : out <<< n % 2 ^ 32 = out <<< n := by
        apply mod_eq_of_lt
        rw [shiftLeft_eq]
        calc out * 2 ^ n < 2 ^ k * 2 ^ n := Nat.mul_lt_mul_of_pos_right hout (Nat.two_pow_pos n)
          _ = 2 ^ (k + n) := (pow_add 2 k n).symm
          _ ≤ 2 ^ 32 := Nat.pow_le_pow_right (by decide) (by omega)
      have hchunk := chunkOf_lt byte.toNat ((start + k) % 8) n
      rw [hwrap]
      obtain ⟨v, hv, hvb, hloop⟩ := ih (by omega : left - n ≤ fuel) (by omega : k + n + (left - n) ≤ 32) (by omega)
        (shiftLeft_or_lt hout hchunk) (by
          rw [toBits_shiftLeft_or hchunk, toBits_chunkOf hbyte (by omega), hbits, slice_append])
      have hsum : k + n + (left - n) = k + left := by omega
      rw [hsum] at hv hvb
      refine ⟨v, hv, hvb, ?_⟩
      rw [add_assoc start k n, hloop]
      congr 2
      omega

lemma readBits_eq {r : BitReader} {n : ℕ} (hn : n ≤ 32) (hr : n ≤ r.remaining) :
    ∃ v, v < 2 ^ n ∧ toBits n v = slice r.buf r.pos n ∧ (readBits n).run r = .ok (v, { r with pos := r.pos + n }) := by
  by_cases h0 : n = 0
  · subst h0
    exact ⟨0, Nat.one_pos, rfl, rfl⟩
  have hend : r.pos + 0 + n ≤ 8 * r.buf.length := by
    unfold remaining at hr
    omega
  obtain ⟨v, hv, hbits, hloop⟩ := readLoop_eq (le_refl n) (by omega : 0 + n ≤ 32) hend Nat.one_pos rfl
  rw [zero_add] at hv hbits
  refine ⟨v, hv, hbits, ?_⟩
  change readBits n r = _
  unfold readBits
  rw [if_neg h0, if_neg (not_lt.2 hr)]
  rw [add_zero] at hloop
  rw [hloop]

lemma codes_readBits {n : ℕ} (hn : n ≤ 32) : Codes (readBits n) (· < 2 ^ n) (toBits n) where
  spends {r v r'} hrun := by
    by_cases hr : n ≤ r.remaining
    · obtain ⟨u, hu, -, heq⟩ := readBits_eq hn hr
      rw [heq] at hrun
      cases hrun
      refine ⟨n, ?_, rfl, hu, (length_toBits ..).le⟩
      change n ≤ (slice r.buf r.pos r.remaining).length
      rwa [length_slice]
    · change readBits n r = _ at hrun
      unfold readBits at hrun
      rw [if_neg (by omega), if_pos (by omega)] at hrun
      cases hrun
  decodes {r v} hv hr := by
    have hlen := hr.length_le
    rw [length_toBits] at hlen
    change n ≤ (slice r.buf r.pos r.remaining).length at hlen
    rw [length_slice] at hlen
    obtain ⟨u, hu, hbits, hrun⟩ := readBits_eq hn hlen
    have hsame : toBits n v = slice r.buf r.pos n := by
      have htake := prefix_iff_eq_take.1 hr
      rw [length_toBits] at htake
      obtain ⟨m, hm⟩ := Nat.exists_eq_add_of_le hlen
      change toBits n v = (slice r.buf r.pos r.remaining).take n at htake
      rwa [hm, slice_append, take_left' (length_slice ..)] at htake
    obtain rfl : u = v := toBits_inj hu hv (hbits.trans hsame.symm)
    rw [hrun, length_toBits]
    rfl

end BitReader

namespace BitWriter

lemma bitAt_set {byte' : UInt8} (hbyte : buf[pos / 8]? = some byte) (i : ℕ) :
    bitAt (buf.set (pos / 8) byte') i = if i / 8 = pos / 8 then byte'.toNat.testBit (7 - i % 8) else bitAt buf i := by
  have hlt := (List.getElem?_eq_some_iff.1 hbyte).1
  rw [bitAt]
  split
  next h => rw [h, List.getElem?_set_self hlt, Option.any_some]
  next h => rw [List.getElem?_set_ne (Ne.symm h), bitAt]

lemma testBit_or_chunk {chunk s n : ℕ} (hs : s + n ≤ 8) (hn : 0 < n) (hc : chunk < 2 ^ n) (j : ℕ) :
    (byte ||| UInt8.ofNat chunk <<< UInt8.ofNat s).toNat.testBit j =
      (byte.toNat.testBit j || decide (j < 8 ∧ s ≤ j) && chunk.testBit (j - s)) := by
  have hn8 : chunk < 2 ^ 8 := hc.trans_le (Nat.pow_le_pow_right (by decide) (by omega))
  have hs8 : (UInt8.ofNat s).toNat % 8 = s := by
    rw [UInt8.toNat_ofNat_of_lt' (by change s < 256; omega), Nat.mod_eq_of_lt (by omega)]
  rw [UInt8.toNat_or, UInt8.toNat_shiftLeft, UInt8.toNat_ofNat_of_lt' hn8, hs8, Nat.testBit_or, Nat.testBit_mod_two_pow,
    Nat.testBit_shiftLeft, Bool.decide_and, Bool.and_assoc]

lemma writeLoop_step {v n : ℕ} (hbyte : buf[pos / 8]? = some byte) (hn : n ≤ 8 - pos % 8) (hpos : 0 < n)
    (hleft : n ≤ left) (hclean : ∀ i, pos ≤ i → bitAt buf i = false) (i : ℕ) :
    bitAt (buf.set (pos / 8) (byte ||| UInt8.ofNat ((v >>> (left - n)) &&& (2 ^ n - 1)) <<<
      UInt8.ofNat (8 - pos % 8 - n))) i =
      if pos ≤ i ∧ i < pos + n then v.testBit (left - 1 - (i - pos)) else bitAt buf i := by
  have hold : i / 8 = pos / 8 → bitAt buf i = byte.toNat.testBit (7 - i % 8) := by
    intro h
    rw [bitAt, h, hbyte, Option.any_some]
  have hlt : (v >>> (left - n)) &&& (2 ^ n - 1) < 2 ^ n := by
    rw [and_two_pow_sub_one_eq_mod]
    exact Nat.mod_lt _ (Nat.two_pow_pos n)
  rw [bitAt_set hbyte]
  by_cases hsame : i / 8 = pos / 8
  · rw [if_pos hsame, testBit_or_chunk (by omega) hpos hlt, ← hold hsame, testBit_and, testBit_shiftRight,
      testBit_two_pow_sub_one]
    by_cases hin : pos ≤ i ∧ i < pos + n
    · have hidx : left - n + (7 - i % 8 - (8 - pos % 8 - n)) = left - 1 - (i - pos) := by omega
      rw [if_pos hin, hclean i hin.1, hidx, decide_eq_true (by omega), decide_eq_true (by omega)]
      simp
    rw [if_neg hin]
    have hout : (decide (7 - i % 8 < 8 ∧ 8 - pos % 8 - n ≤ 7 - i % 8) &&
        decide (7 - i % 8 - (8 - pos % 8 - n) < n)) = false := by
      rw [and_eq_false_iff, decide_eq_false_iff_not, decide_eq_false_iff_not]
      omega
    rw [Bool.and_comm (v.testBit _), ← Bool.and_assoc, hout, Bool.false_and, Bool.or_false]
  · rw [if_neg hsame, if_neg (by omega)]

lemma writeLoop_eq {v fuel : ℕ} (hfuel : left ≤ fuel) (hend : pos + left ≤ 8 * buf.length)
    (hclean : ∀ i, pos ≤ i → bitAt buf i = false) :
    ∃ buf', writeLoop v fuel left pos buf = some (buf', pos + left) ∧ buf'.length = buf.length ∧
      ∀ i, bitAt buf' i = if pos ≤ i ∧ i < pos + left then v.testBit (left - 1 - (i - pos)) else bitAt buf i := by
  induction fuel generalizing left pos buf with
  | zero =>
    obtain rfl : left = 0 := le_zero.1 hfuel
    exact ⟨buf, rfl, rfl, fun i => (if_neg (by omega)).symm⟩
  | succ fuel ih =>
    unfold writeLoop
    split
    next hleft =>
      subst hleft
      exact ⟨buf, rfl, rfl, fun i => (if_neg (by omega)).symm⟩
    next hleft =>
      obtain ⟨byte, hbyte⟩ : ∃ byte, buf[pos / 8]? = some byte := ⟨_, getElem?_eq_getElem (by omega)⟩
      rw [hbyte]
      dsimp only
      generalize hn : min _ left = n
      have hstep := writeLoop_step (v := v) hbyte (by omega : n ≤ 8 - pos % 8) (by omega) (by omega : n ≤ left) hclean
      revert hstep
      generalize hset : buf.set _ _ = buf1
      intro hstep
      have hlen : buf1.length = buf.length := by rw [← hset, length_set]
      have hrest : ∀ i, pos + n ≤ i → bitAt buf1 i = false := by
        intro i hi
        rw [hstep, if_neg (by omega), hclean i (by omega)]
      obtain ⟨buf', hloop, hlen', hbits⟩ := ih (by omega : left - n ≤ fuel) (by omega) hrest
      refine ⟨buf', ?_, hlen'.trans hlen, fun i => ?_⟩
      · rw [hloop]
        congr 2
        omega
      · rw [hbits, hstep]
        by_cases h1 : pos + n ≤ i ∧ i < pos + n + (left - n)
        · rw [if_pos h1, if_pos (by omega)]
          congr 1
          omega
        rw [if_neg h1]
        by_cases h2 : pos ≤ i ∧ i < pos + n
        · rw [if_pos h2, if_pos (by omega)]
        · rw [if_neg h2, if_neg (by omega)]

lemma encodes_writeBits (v n : ℕ) : Encodes (writeBits v n) (toBits n v) := by
  intro w hclean hroom
  rw [length_toBits] at hroom ⊢
  change n ≤ 8 * w.buf.length - w.pos at hroom
  obtain ⟨hpos, hzero⟩ := hclean
  by_cases h0 : n = 0
  · subst h0
    exact ⟨w, rfl, ⟨hpos, hzero⟩, (append_nil _).symm, rfl⟩
  obtain ⟨buf, hloop, hlen, hbits⟩ := writeLoop_eq (le_refl n) (by omega : w.pos + n ≤ _) hzero
  refine ⟨⟨buf, w.pos + n⟩, ?_, ⟨?_, fun i hi => ?_⟩, ?_, ?_⟩
  · change writeBits v n w = _
    unfold writeBits
    rw [if_neg h0, if_neg (by omega), hloop]
  · change w.pos + n ≤ 8 * buf.length
    omega
  · change w.pos + n ≤ i at hi
    rw [hbits, if_neg (by omega), hzero i (by omega)]
  · change slice buf 0 _ = slice w.buf 0 w.pos ++ toBits n v
    rw [slice_append, zero_add]
    congr 1
    · apply slice_congr
      intro i _ hi
      rw [hbits, if_neg (by omega)]
    symm
    apply toBits_eq_slice
    intro i hi
    rw [hbits, if_pos (by omega), Nat.add_sub_cancel_left, Nat.testBit_mod_two_pow, decide_eq_true (by omega),
      Bool.true_and]
  · change 8 * buf.length - (w.pos + n) + n = 8 * w.buf.length - w.pos
    omega

lemma encodes_writeBit (b : Bool) : Encodes (writeBit b) [b] := by
  have h := encodes_writeBits b.toNat 1
  have hbit : toBits 1 b.toNat = [b] := by cases b <;> rfl
  rwa [hbit] at h

lemma clean_new (size : ℕ) : Sink.Clean (BitWriter.new size) := by
  refine ⟨zero_le _, ?_⟩
  intro i _
  change bitAt (List.replicate size 0) i = false
  rw [bitAt, getElem?_replicate]
  split
  · exact zero_testBit _
  · rfl

lemma encodes_run_new {w : Writing Unit} {bits : List Bool} {size : ℕ} (hw : Encodes w bits) (hsize : bits.length ≤ 8 * size) :
    ∃ out, w.run (.new size) = .ok ((), out) ∧ out.buf.length = size ∧ out.pos = bits.length ∧
      slice out.buf 0 bits.length = bits := by
  have hnew : Sink.room (BitWriter.new size) = 8 * size := by
    change 8 * (List.replicate size _).length - 0 = _
    rw [List.length_replicate, Nat.sub_zero]
  obtain ⟨out, hrun, hclean, hwritten, hroom⟩ := hw _ (clean_new size) (by rwa [hnew])
  change slice out.buf 0 out.pos = [] ++ bits at hwritten
  rw [nil_append] at hwritten
  have hpos : out.pos = bits.length := by rw [← hwritten, length_slice]
  have hle : out.pos ≤ 8 * out.buf.length := hclean.1
  have hroom : 8 * out.buf.length - out.pos + bits.length = 8 * size := hroom.trans hnew
  exact ⟨out, hrun, by omega, hpos, hpos ▸ hwritten⟩

end BitWriter

section Ns

open BitReader BitWriter

def nsBits (n v : ℕ) : List Bool :=
  if n ≤ 1 then []
  else
    let (w, m) := nsWidth n
    if v < m then toBits (w - 1) v else toBits (w - 1) ((v + m) >>> 1) ++ [(v + m) % 2 == 1]

variable {n v : ℕ}

lemma nsWidth_add (hn : Nat.log2 n < 31) : (nsWidth n).2 + n = 2 ^ (Nat.log2 n + 1) := by
  have hlt := lt_log2_self (n := n)
  rw [nsWidth, mod_eq_of_lt (by omega)]
  omega

lemma nsWidth_zero (hn : 31 ≤ Nat.log2 n) : (nsWidth n).2 = 0 := by
  have hle := log2_self_le (n := n) (by rintro rfl; simp at hn)
  have hpow : 2 ^ ((Nat.log2 n + 1) % 32) ≤ 2 ^ Nat.log2 n := Nat.pow_le_pow_right (by decide) (by omega)
  simp only [nsWidth]
  omega

lemma nsWidth_le (h0 : 0 < n) : (nsWidth n).2 ≤ 2 ^ Nat.log2 n := by
  have hle := log2_self_le h0.ne'
  by_cases hn : Nat.log2 n < 31
  · have := nsWidth_add hn
    omega
  · rw [nsWidth_zero (by omega)]
    exact Nat.zero_le _

lemma encodes_writeNs : Encodes (writeNs v n) (nsBits n v) := by
  unfold writeNs nsBits
  split
  · exact .pure
  dsimp only
  split
  · exact encodes_writeBits v _
  · exact (encodes_writeBits _ _).bind (encodes_writeBit _)

lemma codes_readNs (h0 : 0 < n) (hn : Nat.log2 n ≤ 32) :
    Codes (readNs n) (fun v => v + (nsWidth n).2 < 2 ^ (Nat.log2 n + 1)) (nsBits n) := by
  have hw : (nsWidth n).1 = Nat.log2 n + 1 := rfl
  have hm := nsWidth_le h0
  unfold readNs
  split
  next hle =>
    obtain rfl : n = 1 := by omega
    exact .pure (fun v => by change v + 1 < 2 ↔ v = 0; omega) rfl
  next hlt =>
    have hbits : ∀ v, nsBits n v = _ := fun v => if_neg hlt
    revert hw hm hbits
    generalize nsWidth n = wm
    obtain ⟨w, m⟩ := wm
    dsimp only
    rintro rfl hm hbits
    -- Short codes are below `m`; a long one is the half of its value and then the bit that is left.
    refine (codes_readBits hn).bind (W := fun u v => v + m < 2 ^ (Nat.log2 n + 1) ∧ u = if v < m then v else (v + m) / 2)
      (d := fun _ v => if v < m then [] else [(v + m) % 2 == 1]) (fun u hu => ?_) (fun v => ?_) ?_
    · split
      next hshort => exact .pure (fun v => by split <;> omega) (if_pos hshort)
      next hlong =>
        refine (codes_readBits (by decide)).ret _ (fun v => ⟨?_, ?_⟩) fun bit hbit => ?_
        · rintro ⟨hv, hu⟩
          split at hu
          · omega
          · exact ⟨(v + m) % 2, by omega, by omega⟩
        · rintro ⟨bit, hbit, rfl⟩
          rw [if_neg (by omega)]
          omega
        · have hbit : (2 * u - m + bit + m) % 2 = bit := by omega
          rw [if_neg (by omega), hbit]
          obtain rfl | rfl : bit = 0 ∨ bit = 1 := by omega
          · rfl
          · rfl
    · constructor
      · intro hv
        exact ⟨_, by split <;> omega, hv, rfl⟩
      · exact fun ⟨_, _, hv, _⟩ => hv
    · rintro _ v - ⟨-, rfl⟩
      rw [hbits]
      split
      · exact (append_nil _).symm
      · rfl

end Ns

section Narrow

open BitReader

variable {n : ℕ} {p : Reading ℕ}

lemma codes_narrow {V : ℕ → Prop} {c : ℕ → List Bool} {w : ℕ} (hp : Codes p V c) (hV : ∀ v, V v → v < 2 ^ w) :
    Codes ((· % 2 ^ w) <$> p) V c := by
  refine hp.map _ (fun v => ⟨fun hv => ⟨v, hv, (mod_eq_of_lt (hV v hv)).symm⟩, ?_⟩) fun v hv => by rw [mod_eq_of_lt (hV v hv)]
  rintro ⟨v, hv, rfl⟩
  rwa [mod_eq_of_lt (hV v hv)]

lemma codes_readBitsU8 (hn : n ≤ 8) : Codes (readBitsU8 n) (· < 2 ^ n) (toBits n) := by
  rw [readBitsU8, min_eq_left hn]
  exact codes_narrow (codes_readBits (by omega)) fun v hv => hv.trans_le (Nat.pow_le_pow_right (by decide) hn)

lemma codes_readBitsU16 (hn : n ≤ 16) : Codes (readBitsU16 n) (· < 2 ^ n) (toBits n) := by
  rw [readBitsU16, min_eq_left hn]
  exact codes_narrow (codes_readBits (by omega)) fun v hv => hv.trans_le (Nat.pow_le_pow_right (by decide) hn)

lemma codes_readNsU8 (h0 : 0 < n) (hn : n ≤ 256) : Codes (readNsU8 n) (· < n) (nsBits n) := by
  have hlog : Nat.log2 n < 9 := (log2_lt h0.ne').2 (by omega)
  rw [readNsU8, min_eq_left hn]
  have hadd := nsWidth_add (n := n) (by omega)
  exact codes_narrow ((codes_readNs h0 (by omega)).congr (fun v => by omega) fun _ _ => rfl) (by omega)

end Narrow

end Pulsebeam.Dd
