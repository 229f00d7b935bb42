import Pulsebeam.Lib.Bytes

/-! The ICE user fragment: a version, a cluster, a node, a packed route and an epoch, spelled in sixteen characters. -/

namespace Pulsebeam.Steer

open Lib.Bytes

abbrev Bytes := List UInt8

def routeSlotMask : UInt32 := 0xFFFFF

structure TransportRoute where
  bits : UInt32
  deriving DecidableEq

namespace TransportRoute

def shard (r : TransportRoute) : UInt16 := (r.bits >>> 20).toUInt16

def slot (r : TransportRoute) : UInt32 := r.bits &&& routeSlotMask

end TransportRoute

inductive UfragError
  | invalidCluster
  | badEncoding
  | badVersion
  deriving DecidableEq

structure IceUfrag where
  clusterId : UInt16
  nodeId : UInt16
  transport : TransportRoute
  epoch : UInt16
  clusterFits : clusterId ≤ 0x0FFF
  deriving DecidableEq

def version : UInt8 := 0

def encodedLen : ℕ := 16

variable {v : UInt8}

section Crockford

def crockfordAlphabet : Bytes :=
  [48, 49, 50, 51, 52, 53, 54, 55, 56, 57, 65, 66, 67, 68, 69, 70, 71, 72, 74, 75, 77, 78, 80, 81, 82, 83, 84, 86, 87,
    88, 89, 90]

def crockfordChar (value : UInt8) : UInt8 := crockfordAlphabet.getD (value &&& 0x1F).toNat 0

def crockfordValue (c : UInt8) : Option UInt8 :=
  match c.toNat with
  | 48 | 79 | 111 => some 0 -- 0 O o
  | 49 | 73 | 105 | 76 | 108 => some 1 -- 1 I i L l
  | 50 => some 2 -- 2
  | 51 => some 3 -- 3
  | 52 => some 4 -- 4
  | 53 => some 5 -- 5
  | 54 => some 6 -- 6
  | 55 => some 7 -- 7
  | 56 => some 8 -- 8
  | 57 => some 9 -- 9
  | 65 | 97 => some 10 -- A a
  | 66 | 98 => some 11 -- B b
  | 67 | 99 => some 12 -- C c
  | 68 | 100 => some 13 -- D d
  | 69 | 101 => some 14 -- E e
  | 70 | 102 => some 15 -- F f
  | 71 | 103 => some 16 -- G g
  | 72 | 104 => some 17 -- H h
  | 74 | 106 => some 18 -- J j
  | 75 | 107 => some 19 -- K k
  | 77 | 109 => some 20 -- M m
  | 78 | 110 => some 21 -- N n
  | 80 | 112 => some 22 -- P p
  | 81 | 113 => some 23 -- Q q
  | 82 | 114 => some 24 -- R r
  | 83 | 115 => some 25 -- S s
  | 84 | 116 => some 26 -- T t
  | 86 | 118 => some 27 -- V v
  | 87 | 119 => some 28 -- W w
  | 88 | 120 => some 29 -- X x
  | 89 | 121 => some 30 -- Y y
  | 90 | 122 => some 31 -- Z z
  | _ => none

/-- The one spelling that stands for all: capitals, a zero for an O, a one for an I or an L. -/
def canonical (c : UInt8) : UInt8 :=
  let upper := if 97 ≤ c ∧ c ≤ 122 then c - 32 else c
  if upper = 79 then 48
  else if upper = 73 ∨ upper = 76 then 49
  else upper

lemma crockfordChar_of_value {c : UInt8} (h : crockfordValue c = some v) : v < 32 ∧ crockfordChar v = canonical c := by
  have hall : ∀ c, (crockfordValue c).all (fun v => v < 32 ∧ crockfordChar v = canonical c) = true := by
    apply forall_byte
    decide +kernel
  have hc := hall c
  rw [h] at hc
  simpa using hc

lemma crockfordValue_canonical (c : UInt8) : crockfordValue (canonical c) = crockfordValue c := by
  revert c
  apply forall_byte
  decide +kernel

lemma crockfordValue_char (h : v < 32) : crockfordValue (crockfordChar v) = some v := by
  revert v
  apply forall_byte
  decide +kernel

lemma crockfordValue_eq_some {c : UInt8} : crockfordValue c = some v ↔ v < 32 ∧ crockfordChar v = canonical c := by
  constructor
  · exact crockfordChar_of_value
  · rintro ⟨hv, hchar⟩
    rw [← crockfordValue_canonical, ← hchar, crockfordValue_char hv]

end Crockford

def encodeChunk (b0 b1 b2 b3 b4 : UInt8) : Bytes :=
  [crockfordChar (b0 >>> 3),
    crockfordChar (((b0 &&& 0x07) <<< 2) ||| (b1 >>> 6)),
    crockfordChar ((b1 >>> 1) &&& 0x1F),
    crockfordChar (((b1 &&& 0x01) <<< 4) ||| (b2 >>> 4)),
    crockfordChar (((b2 &&& 0x0F) <<< 1) ||| (b3 >>> 7)),
    crockfordChar ((b3 >>> 2) &&& 0x1F),
    crockfordChar (((b3 &&& 0x03) <<< 3) ||| (b4 >>> 5)),
    crockfordChar (b4 &&& 0x1F)]

def decodeChunk (v0 v1 v2 v3 v4 v5 v6 v7 : UInt8) : UInt8 × UInt8 × UInt8 × UInt8 × UInt8 :=
  ((v0 <<< 3) ||| (v1 >>> 2),
    (v1 <<< 6) ||| (v2 <<< 1) ||| (v3 >>> 4),
    (v3 <<< 4) ||| (v4 >>> 1),
    (v4 <<< 7) ||| (v5 <<< 2) ||| (v6 >>> 3),
    (v6 <<< 5) ||| v7)

namespace IceUfrag

def encodeAscii (u : IceUfrag) : Bytes :=
  let cluster := be16 u.clusterId
  let node := be16 u.nodeId
  let route := be32 u.transport.bits
  let epoch := be16 u.epoch
  encodeChunk ((version <<< 4) ||| (cluster.1 &&& 0x0F)) cluster.2 node.1 node.2 route.1 ++
    encodeChunk route.2.1 route.2.2.1 route.2.2.2 epoch.1 epoch.2

end IceUfrag

lemma cluster_fits {hi lo : UInt8} : ofBe16 (hi &&& 0x0F) lo ≤ 0x0FFF := by
  rw [UInt16.le_iff_toNat_le, toNat_ofBe16]
  have hhi : (hi &&& 0x0F).toNat ≤ 0x0F := Nat.and_le_right
  have hlo := lo.toNat_lt
  change _ ≤ 4095
  omega

def decodeRawDetailed (cHi cLo n0 n1 r0 r1 r2 r3 e0 e1 : UInt8) : Except UfragError IceUfrag :=
  if cHi >>> 4 ≠ version then .error .badVersion
  else .ok ⟨ofBe16 (cHi &&& 0x0F) cLo, ofBe16 n0 n1, ⟨ofBe32 r0 r1 r2 r3⟩, ofBe16 e0 e1, cluster_fits⟩

def decodeAsciiDetailed (s : Bytes) : Except UfragError IceUfrag :=
  match s.mapM crockfordValue with
  | some [v0, v1, v2, v3, v4, v5, v6, v7, v8, v9, v10, v11, v12, v13, v14, v15] =>
    let (b0, b1, b2, b3, b4) := decodeChunk v0 v1 v2 v3 v4 v5 v6 v7
    let (b5, b6, b7, b8, b9) := decodeChunk v8 v9 v10 v11 v12 v13 v14 v15
    decodeRawDetailed b0 b1 b2 b3 b4 b5 b6 b7 b8 b9
  | _ => .error .badEncoding

section Chunks

def fives (b0 b1 b2 b3 b4 : UInt8) : Bytes :=
  [(b0 >>> 3) &&& 0x1F, (((b0 &&& 0x07) <<< 2) ||| (b1 >>> 6)) &&& 0x1F, ((b1 >>> 1) &&& 0x1F) &&& 0x1F,
    (((b1 &&& 0x01) <<< 4) ||| (b2 >>> 4)) &&& 0x1F, (((b2 &&& 0x0F) <<< 1) ||| (b3 >>> 7)) &&& 0x1F,
    ((b3 >>> 2) &&& 0x1F) &&& 0x1F, (((b3 &&& 0x03) <<< 3) ||| (b4 >>> 5)) &&& 0x1F, (b4 &&& 0x1F) &&& 0x1F]

lemma crockfordChar_and (v : UInt8) : crockfordChar (v &&& 0x1F) = crockfordChar v := by
  rw [crockfordChar, UInt8.and_assoc]
  rfl

lemma encodeChunk_eq (b0 b1 b2 b3 b4 : UInt8) : encodeChunk b0 b1 b2 b3 b4 = (fives b0 b1 b2 b3 b4).map crockfordChar := by
  simp only [encodeChunk, fives, List.map_cons, List.map_nil, crockfordChar_and]

lemma and_lt (v : UInt8) : v &&& 0x1F < 32 := by
  exact Nat.lt_of_le_of_lt Nat.and_le_right (by decide)

lemma and_eq_self (h : v < 32) : v &&& 0x1F = v := by
  revert v
  apply forall_byte
  decide +kernel

lemma fives_lt (b0 b1 b2 b3 b4 : UInt8) : ∀ v ∈ fives b0 b1 b2 b3 b4, v < 32 := by
  simp only [fives, List.forall_mem_cons, and_lt]
  simp

lemma decodeChunk_fives (b0 b1 b2 b3 b4 : UInt8) {v0 v1 v2 v3 v4 v5 v6 v7 : UInt8}
    (h : fives b0 b1 b2 b3 b4 = [v0, v1, v2, v3, v4, v5, v6, v7]) :
    decodeChunk v0 v1 v2 v3 v4 v5 v6 v7 = (b0, b1, b2, b3, b4) := by
  obtain ⟨rfl, rfl, rfl, rfl, rfl, rfl, rfl, rfl, -⟩ := h
  refine Prod.ext ?_ (Prod.ext ?_ (Prod.ext ?_ (Prod.ext ?_ ?_))) <;>
    apply UInt8.eq_of_toBitVec_eq <;> apply BitVec.eq_of_getLsbD_eq
  all_goals
    intro i hi
    interval_cases i <;> simp [decodeChunk]

lemma fives_decodeChunk {v0 v1 v2 v3 v4 v5 v6 v7 b0 b1 b2 b3 b4 : UInt8} (h0 : v0 < 32) (h1 : v1 < 32) (h2 : v2 < 32)
    (h3 : v3 < 32) (h4 : v4 < 32) (h5 : v5 < 32) (h6 : v6 < 32) (h7 : v7 < 32)
    (h : decodeChunk v0 v1 v2 v3 v4 v5 v6 v7 = (b0, b1, b2, b3, b4)) :
    fives b0 b1 b2 b3 b4 = [v0, v1, v2, v3, v4, v5, v6, v7] := by
  rw [← and_eq_self h0, ← and_eq_self h1, ← and_eq_self h2, ← and_eq_self h3, ← and_eq_self h4, ← and_eq_self h5,
    ← and_eq_self h6, ← and_eq_self h7] at h ⊢
  obtain ⟨rfl, rfl, rfl, rfl, rfl⟩ := h
  simp only [fives, List.cons.injEq, and_true]
  refine ⟨?_, ?_, ?_, ?_, ?_, ?_, ?_, ?_⟩ <;> apply UInt8.eq_of_toBitVec_eq <;> apply BitVec.eq_of_getLsbD_eq
  all_goals
    intro i hi
    interval_cases i <;> simp

end Chunks

section Spelling

lemma mapM_crockfordValue {s vs : Bytes} :
    s.mapM crockfordValue = some vs ↔ (∀ v ∈ vs, v < 32) ∧ s.map canonical = vs.map crockfordChar := by
  induction s generalizing vs with
  | nil => cases vs <;> simp
  | cons c s ih =>
    cases vs with
    | nil => simp [Option.bind_eq_some_iff]
    | cons v vs =>
      have hcons : (c :: s).mapM crockfordValue = some (v :: vs) ↔
          crockfordValue c = some v ∧ s.mapM crockfordValue = some vs := by
        simp [Option.bind_eq_some_iff]
      rw [hcons, crockfordValue_eq_some, ih]
      simp only [List.forall_mem_cons, List.map_cons, List.cons.injEq]
      constructor
      · rintro ⟨⟨hv, hchar⟩, hvs, hmap⟩
        exact ⟨⟨hv, hvs⟩, hchar.symm, hmap⟩
      · rintro ⟨⟨hv, hvs⟩, hchar, hmap⟩
        exact ⟨⟨hv, hchar.symm⟩, hvs, hmap⟩

lemma high_nibble {b : UInt8} (h : b >>> 4 = version) : (version <<< 4) ||| (b &&& 0x0F) = b := by
  revert b
  apply forall_byte
  decide +kernel

lemma low_nibble {b : UInt8} (h : b ≤ 0x0F) :
    (version <<< 4) ||| (b &&& 0x0F) = b ∧ b &&& 0x0F = b ∧ b >>> 4 = version := by
  revert b
  apply forall_byte
  decide +kernel

lemma cluster_high {x : UInt16} (h : x ≤ 0x0FFF) : (be16 x).1 ≤ 0x0F := by
  have hx : x.toNat ≤ 4095 := UInt16.le_iff_toNat_le.1 h
  have hbytes := toNat_ofBe16 (be16 x).1 (be16 x).2
  rw [ofBe16_be16] at hbytes
  rw [UInt8.le_iff_toNat_le]
  change _ ≤ 15
  omega

structure Raw (u : IceUfrag) (cHi cLo n0 n1 r0 r1 r2 r3 e0 e1 : UInt8) : Prop where
  high : (version <<< 4) ||| ((be16 u.clusterId).1 &&& 0x0F) = cHi
  low : (be16 u.clusterId).2 = cLo
  node : be16 u.nodeId = (n0, n1)
  route : be32 u.transport.bits = (r0, r1, r2, r3)
  epoch : be16 u.epoch = (e0, e1)

variable {u : IceUfrag} {s : Bytes} {cHi cLo n0 n1 r0 r1 r2 r3 e0 e1 : UInt8}

lemma Raw.exists (u : IceUfrag) : ∃ cHi cLo n0 n1 r0 r1 r2 r3 e0 e1, Raw u cHi cLo n0 n1 r0 r1 r2 r3 e0 e1 :=
  ⟨_, _, _, _, _, _, _, _, _, _, rfl, rfl, rfl, rfl, rfl⟩

lemma Raw.encodeAscii (h : Raw u cHi cLo n0 n1 r0 r1 r2 r3 e0 e1) :
    u.encodeAscii = (fives cHi cLo n0 n1 r0 ++ fives r1 r2 r3 e0 e1).map crockfordChar := by
  rw [List.map_append, ← encodeChunk_eq, ← encodeChunk_eq]
  simp only [IceUfrag.encodeAscii, h.high, h.low, h.node, h.route, h.epoch]

lemma decodeRawDetailed_ok :
    decodeRawDetailed cHi cLo n0 n1 r0 r1 r2 r3 e0 e1 = .ok u ↔ Raw u cHi cLo n0 n1 r0 r1 r2 r3 e0 e1 := by
  unfold decodeRawDetailed
  constructor
  · intro h
    split at h
    · cases h
    next hver =>
      cases h
      have hmask : cHi &&& 0x0F &&& 0x0F = cHi &&& 0x0F := UInt8.and_assoc ..
      refine ⟨?_, ?_, be16_ofBe16 .., be32_ofBe32 .., be16_ofBe16 ..⟩ <;> dsimp only <;> rw [be16_ofBe16]
      rw [hmask]
      exact high_nibble (not_not.1 hver)
  · rintro ⟨rfl, rfl, hnode, hroute, hepoch⟩
    obtain ⟨clusterId, nodeId, ⟨bits⟩, epoch, hfits⟩ := u
    obtain ⟨hhigh, hmask, hver⟩ := low_nibble (cluster_high hfits)
    rw [hhigh, if_neg (not_not.2 hver)]
    have hn := ofBe16_be16 nodeId
    have hr := ofBe32_be32 bits
    have he := ofBe16_be16 epoch
    rw [hnode] at hn
    rw [hroute] at hr
    rw [hepoch] at he
    simp only [hmask, ofBe16_be16, hn, hr, he]

lemma decodeAsciiDetailed_ok : decodeAsciiDetailed s = .ok u ↔ s.map canonical = u.encodeAscii := by
  unfold decodeAsciiDetailed
  constructor
  · intro h
    split at h
    next v0 v1 v2 v3 v4 v5 v6 v7 v8 v9 v10 v11 v12 v13 v14 v15 hvs =>
      obtain ⟨hlt, hmap⟩ := mapM_crockfordValue.1 hvs
      simp only [List.forall_mem_cons] at hlt
      obtain ⟨h0, h1, h2, h3, h4, h5, h6, h7, h8, h9, h10, h11, h12, h13, h14, h15, -⟩ := hlt
      rw [hmap]
      rcases hfirst : decodeChunk v0 v1 v2 v3 v4 v5 v6 v7 with ⟨b0, b1, b2, b3, b4⟩
      rcases hlast : decodeChunk v8 v9 v10 v11 v12 v13 v14 v15 with ⟨b5, b6, b7, b8, b9⟩
      rw [hfirst, hlast] at h
      have hone := fives_decodeChunk h0 h1 h2 h3 h4 h5 h6 h7 hfirst
      have htwo := fives_decodeChunk h8 h9 h10 h11 h12 h13 h14 h15 hlast
      rw [(decodeRawDetailed_ok.1 h).encodeAscii, hone, htwo]
      rfl
    · cases h
  · intro h
    obtain ⟨cHi, cLo, n0, n1, r0, r1, r2, r3, e0, e1, hraw⟩ := Raw.exists u
    rw [hraw.encodeAscii] at h
    rw [mapM_crockfordValue.2 ⟨List.forall_mem_append.2 ⟨fives_lt _ _ _ _ _, fives_lt _ _ _ _ _⟩, h⟩]
    have hfirst := decodeChunk_fives cHi cLo n0 n1 r0 rfl
    have hlast := decodeChunk_fives r1 r2 r3 e0 e1 rfl
    simp only [fives, List.cons_append, List.nil_append]
    rw [hfirst, hlast]
    exact decodeRawDetailed_ok.2 hraw

end Spelling

end Pulsebeam.Steer
