import Pulsebeam.Dd.Bits

/-! Sequences of fixed-width and non-symmetric fields, and where a read that fails leaves the reader. -/

namespace Pulsebeam.Dd

open Pulsebeam.Lib Pulsebeam.Lib.BitString Pulsebeam.Lib.BitCodec List

abbrev Attempt := BitReader → Except DdReadError ℕ × BitReader

namespace Attempt

def readBits (n : ℕ) : Attempt := fun r =>
  if n = 0 then (.ok 0, r)
  else if r.remaining < n then (.error .truncated, r)
  else
    match BitReader.readLoop r.buf n 0 n r.pos with
    | none => (.error .truncated, r)
    | some (out, pos) => (.ok out, { r with pos := pos })

def readNs (n : ℕ) : Attempt := fun r =>
  if n ≤ 1 then (.ok 0, r)
  else
    let (w, m) := BitReader.nsWidth n
    match readBits (w - 1) r with
    | (.ok v, r) =>
      if v < m then (.ok v, r)
      else
        match readBits 1 r with
        | (.ok bit, r) => (.ok (2 * v - m + bit), r)
        | failed => failed
    | failed => failed

def settle (p : Attempt) : Reading ℕ := fun r =>
  match p r with
  | (.ok v, r') => .ok (v, r')
  | (.error e, _) => .error e

end Attempt

inductive Field
  | bits (width : ℕ)
  | ns (modulus : ℕ)

namespace Field

def Fits (x : Field × ℕ) : Prop :=
  match x.1 with
  | bits n => n ≤ 32 ∧ x.2 < 2 ^ n
  | ns n => n < 2 ^ 32 ∧ x.2 < n

def write (x : Field × ℕ) : Writing Unit :=
  match x.1 with
  | bits n => BitWriter.writeBits x.2 n
  | ns n => BitWriter.writeNs x.2 n

def read (x : Field × ℕ) : Reading ℕ :=
  match x.1 with
  | bits n => (Attempt.readBits n).settle
  | ns n => (Attempt.readNs n).settle

def code (x : Field × ℕ) : List Bool :=
  match x.1 with
  | bits n => toBits n x.2
  | ns n => nsBits n x.2

end Field

def prescribed (n v : ℕ) : ℕ :=
  if n ≤ 1 then 0 else if v < 2 ^ (Nat.log2 n + 1) - n then Nat.log2 n else Nat.log2 n + 1

/-- The bits left are all but the last one of a long code. -/
def Strands (n : ℕ) (r : BitReader) : Prop :=
  1 < n ∧ ∃ v, (BitReader.nsWidth n).2 ≤ v ∧ v < 2 ^ Nat.log2 n ∧ Source.remaining r = toBits (Nat.log2 n) v

open BitReader BitWriter

variable {n v : ℕ} {r r' : BitReader}

lemma attempt_readBits (n : ℕ) (r : BitReader) : Attempt.readBits n r =
    match readBits n r with
    | .ok (v, r') => (.ok v, r')
    | .error e => (.error e, r) := by
  unfold Attempt.readBits readBits
  split_ifs
  · rfl
  · rfl
  · cases readLoop r.buf n 0 n r.pos <;> rfl

lemma settle_readBits (n : ℕ) : (Attempt.readBits n).settle = readBits n := by
  funext r
  rw [Attempt.settle, attempt_readBits]
  cases readBits n r <;> rfl

lemma settle_readNs (n : ℕ) : (Attempt.readNs n).settle = readNs n := by
  funext r
  unfold Attempt.settle Attempt.readNs readNs
  by_cases h : n ≤ 1
  · rw [if_pos h, if_pos h]
    rfl
  rw [if_neg h, if_neg h]
  simp only [attempt_readBits, bind, StateT.bind]
  cases readBits ((nsWidth n).1 - 1) r with
  | error e => rfl
  | ok p =>
    obtain ⟨v, r⟩ := p
    simp only [Except.bind]
    split_ifs
    · rfl
    · change _ = Except.bind (readBits 1 r) _
      cases readBits 1 r <;> rfl

lemma readBits_of_ok (h : (readBits n).run r = .ok (v, r')) : Attempt.readBits n r = (.ok v, r') := by
  have h : readBits n r = _ := h
  rw [attempt_readBits, h]

lemma readBits_of_short (h : r.remaining < n) : Attempt.readBits n r = (.error .truncated, r) := by
  rw [Attempt.readBits, if_neg (by omega), if_pos h]

lemma strands_iff {u : ℕ} (hn : 1 < n) (hu : u < 2 ^ Nat.log2 n)
    (hbits : toBits (Nat.log2 n) u = slice r.buf r.pos (Nat.log2 n)) :
    Strands n r ↔ r.remaining = Nat.log2 n ∧ (nsWidth n).2 ≤ u := by
  constructor
  · rintro ⟨-, v, hm, hv, hrest⟩
    have hlen := congrArg List.length hrest
    rw [length_toBits] at hlen
    change (slice r.buf r.pos r.remaining).length = _ at hlen
    change slice r.buf r.pos r.remaining = _ at hrest
    rw [length_slice] at hlen
    rw [hlen, ← hbits] at hrest
    exact ⟨hlen, toBits_inj hu hv hrest ▸ hm⟩
  · rintro ⟨hlen, hm⟩
    refine ⟨hn, u, hm, hu, ?_⟩
    change slice r.buf r.pos r.remaining = _
    rw [hlen, hbits]

lemma readNs_keeps_iff (hn : n < 2 ^ 32) (r : BitReader) :
    (∀ e, (Attempt.readNs n r).1 = .error e → (Attempt.readNs n r).2 = r) ↔ ¬ Strands n r := by
  unfold Attempt.readNs
  by_cases h1 : n ≤ 1
  · rw [if_pos h1]
    exact iff_of_true nofun fun h => absurd h.1 (by omega)
  have hlog : Nat.log2 n < 32 := (Nat.log2_lt (by omega)).2 hn
  have hone : 1 ≤ Nat.log2 n := (Nat.le_log2 (by omega)).2 (by omega)
  have hwidth : (nsWidth n).1 - 1 = Nat.log2 n := rfl
  simp only [if_neg h1, hwidth]
  by_cases hr : r.remaining < Nat.log2 n
  · rw [readBits_of_short hr]
    refine iff_of_true (fun _ _ => rfl) ?_
    rintro ⟨-, v, -, -, hrest⟩
    have hlen : (slice r.buf r.pos r.remaining).length = _ := congrArg List.length hrest
    rw [length_slice, length_toBits] at hlen
    omega
  obtain ⟨u, hu, hbits, hrun⟩ := readBits_eq (by omega : Nat.log2 n ≤ 32) (not_lt.1 hr)
  rw [readBits_of_ok hrun, strands_iff (not_le.1 h1) hu hbits]
  dsimp only
  split
  next hlt => exact iff_of_true nofun (by omega)
  next hle =>
    by_cases hlast : r.remaining = Nat.log2 n
    · have hend : BitReader.remaining { r with pos := r.pos + Nat.log2 n } < 1 := by
        simp only [BitReader.remaining] at hlast ⊢
        omega
      rw [readBits_of_short hend]
      refine iff_of_false (fun h => ?_) (not_not.2 ⟨hlast, not_lt.1 hle⟩)
      have hpos := congrArg BitReader.pos (h _ rfl)
      dsimp only at hpos
      omega
    · have hmore : 1 ≤ BitReader.remaining { r with pos := r.pos + Nat.log2 n } := by
        simp only [BitReader.remaining] at hlast hr ⊢
        omega
      obtain ⟨_, -, -, hbit⟩ := readBits_eq (by decide) hmore
      rw [readBits_of_ok hbit]
      exact iff_of_true nofun fun h => hlast h.1

lemma length_nsBits_iff (hn : n < 2 ^ 32) (hv : v < n) :
    (nsBits n v).length = prescribed n v ↔ n < 2 ^ 31 ∨ 2 ^ 32 ≤ v + n := by
  unfold nsBits prescribed
  by_cases h1 : n ≤ 1
  · rw [if_pos h1, if_pos h1]
    exact iff_of_true rfl (by omega)
  have hwidth : (nsWidth n).1 - 1 = Nat.log2 n := rfl
  have hlen : ∀ (p : Prop) [Decidable p] (a b : List Bool),
    (if p then a else b).length = if p then a.length else b.length := fun p _ a b => apply_ite ..
  simp only [if_neg h1, hwidth, hlen, length_append, length_toBits, length_singleton]
  by_cases hlog : Nat.log2 n < 31
  · have := nsWidth_add hlog
    have := (Nat.log2_lt (by omega)).1 hlog
    split_ifs <;> omega
  · have hmax : Nat.log2 n < 32 := (Nat.log2_lt (by omega)).2 hn
    have := (Nat.le_log2 (by omega)).1 (not_lt.1 hlog)
    obtain heq : Nat.log2 n = 31 := by omega
    rw [nsWidth_zero (by omega), heq]
    split_ifs <;> omega

lemma read_of_fits {x : Field × ℕ} (hx : Field.Fits x) (hr : Field.code x <+: Source.remaining r) :
    (Field.read x).run r = .ok (x.2, Source.skip r (Field.code x).length) := by
  obtain ⟨f, v⟩ := x
  cases f with
  | bits n =>
    simp only [Field.read, settle_readBits]
    exact (codes_readBits hx.1).decodes hx.2 hr
  | ns n =>
    have hx : n < 2 ^ 32 ∧ v < n := hx
    have hlog : Nat.log2 n < 32 := (Nat.log2_lt (by omega)).2 hx.1
    simp only [Field.read, settle_readNs]
    refine (codes_readNs (by omega) (by omega)).decodes ?_ hr
    by_cases h : Nat.log2 n < 31
    · have := nsWidth_add h
      omega
    · rw [nsWidth_zero (by omega)]
      exact hx.2.trans Nat.lt_log2_self

lemma read_all {items : List (Field × ℕ)} (hfits : ∀ x ∈ items, Field.Fits x)
    (hr : items.flatMap Field.code <+: Source.remaining r) :
    ∃ r', (items.mapM Field.read).run r = .ok (items.map Prod.snd, r') := by
  induction items generalizing r with
  | nil => exact ⟨r, rfl⟩
  | cons x items ih =>
    obtain ⟨rest, hrest⟩ := hr
    rw [flatMap_cons, append_assoc] at hrest
    obtain ⟨r', hrun⟩ := @ih (Source.skip r (Field.code x).length) (fun y hy => hfits y (mem_cons_of_mem _ hy))
      ⟨rest, by rw [Source.remaining_skip, ← hrest, drop_left]⟩
    refine ⟨r', ?_⟩
    rw [mapM_cons, StateT.run_bind, read_of_fits (hfits x mem_cons_self) ⟨_, hrest⟩]
    change (items.mapM Field.read).run _ >>= _ = _
    rw [hrun]
    rfl

theorem fields_codec (items : List (Field × ℕ)) (bytes n : ℕ) (r : BitReader) (hfits : ∀ x ∈ items, Field.Fits x)
    (hroom : (items.flatMap Field.code).length ≤ 8 * bytes) (hn : n < 2 ^ 32) :
    (∃ w, (items.forM Field.write).run (.new bytes) = .ok ((), w) ∧ w.pos = (items.flatMap Field.code).length ∧
      ∃ r, (items.mapM Field.read).run ⟨w.buf.take w.finish, 0⟩ = .ok (items.map Prod.snd, r)) ∧
    (∀ v < n, ((nsBits n v).length = prescribed n v ↔ n < 2 ^ 31 ∨ 2 ^ 32 ≤ v + n)) ∧
    (∀ width e, (Attempt.readBits width r).1 = .error e → (Attempt.readBits width r).2 = r) ∧
    ((∀ e, (Attempt.readNs n r).1 = .error e → (Attempt.readNs n r).2 = r) ↔ ¬ Strands n r) := by
  refine ⟨?_, fun v => length_nsBits_iff hn, fun width e h => ?_, readNs_keeps_iff hn r⟩
  · have hwrite : Encodes (items.forM Field.write) (items.flatMap Field.code) := by
      apply Encodes.forM
      rintro ⟨f, v⟩ -
      cases f with
      | bits n => exact encodes_writeBits v n
      | ns n => exact encodes_writeNs
    obtain ⟨w, hrun, hlen, hpos, hslice⟩ := encodes_run_new hwrite hroom
    refine ⟨w, hrun, hpos, read_all hfits ?_⟩
    have hrest : (items.flatMap Field.code).length ≤ remaining ⟨w.buf.take w.finish, 0⟩ := by
      simp only [BitReader.remaining, length_take, finish]
      omega
    obtain ⟨k, hk⟩ := Nat.exists_eq_add_of_le hrest
    change _ <+: slice (w.buf.take w.finish) 0 (remaining _)
    rw [hk, slice_append, slice_take (by rw [finish]; omega), hslice]
    exact prefix_append _ _
  · rw [attempt_readBits] at h ⊢
    cases hread : readBits width r with
    | ok p => simp [hread] at h
    | error e => rfl

-- the second value crosses the end of the first byte, the third takes the long code of its modulus
theorem fields_codec_crossing : let items : List (Field × ℕ) := [(.bits 5, 19), (.bits 7, 83), (.ns 5, 4)]
    (∃ w, (items.forM Field.write).run (.new 2) = .ok ((), w) ∧ w.pos = 15 ∧
      ∃ r, (items.mapM Field.read).run ⟨w.buf.take w.finish, 0⟩ = .ok ([19, 83, 4], r)) ∧
    ((nsBits 5 4).length = prescribed 5 4 ↔ 5 < 2 ^ 31 ∨ 2 ^ 32 ≤ 4 + 5) :=
  have h := fields_codec [(.bits 5, 19), (.bits 7, 83), (.ns 5, 4)] 2 5 ⟨[255], 7⟩ (by simp [Field.Fits]) (by decide) (by decide)
  ⟨h.1, h.2.1 4 (by decide)⟩

theorem readNs_strands : (Attempt.readNs 3 ⟨[255], 7⟩).1 = .error .truncated ∧ (Attempt.readNs 3 ⟨[255], 7⟩).2.pos = 8 ∧
    (nsBits (2 ^ 31) 0).length = 32 ∧ prescribed (2 ^ 31) 0 = 31 := by
  decide +kernel

end Pulsebeam.Dd
