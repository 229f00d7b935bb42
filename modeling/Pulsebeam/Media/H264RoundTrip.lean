import Pulsebeam.Lib.Bytes
import Pulsebeam.Media.H264

/-! An access unit survives being packetized. -/

namespace Pulsebeam.H264

open List Option Nat Bool

def Single (nalu : Bytes) : Prop :=
  ∃ header body, nalu = header :: body ∧ Depacketizer.singleType (header &&& naluTypeMask) = true ∧ header &&& 0x80 = 0

structure Nal (nalu : Bytes) : Prop where
  single : Single nalu
  plain : ¬ [0, 0, 1] <:+: nalu

def annexB (nalus : List Bytes) : Bytes := nalus.flatMap (annexBStartCode ++ ·)

variable {nalus : List Bytes} {nalu : Bytes}

section Scan

lemma annexB_cons (nalu : Bytes) (nalus : List Bytes) :
    annexB (nalu :: nalus) = 0 :: 0 :: 0 :: 1 :: (nalu ++ annexB nalus) := rfl

lemma startCodes_annexB_cons (i : ℕ) (nalu : Bytes) (nalus : List Bytes) :
    startCodes i (annexB (nalu :: nalus)) = (i, i + 4) :: startCodes (i + 4) (nalu ++ annexB nalus) := by
  rw [annexB_cons, startCodes]
  simp

lemma startCodes_cons (i : ℕ) {a : UInt8} {l : Bytes}
    (h : ∀ b c d rest, l = b :: c :: d :: rest → ¬ (a = 0 ∧ b = 0 ∧ c = 1) ∧ ¬ (a = 0 ∧ b = 0 ∧ c = 0 ∧ d = 1)) :
    startCodes i (a :: l) = startCodes (i + 1) l := by
  match l with
  | [] => rfl
  | [_] => rfl
  | [_, _] => rfl
  | b :: c :: d :: rest =>
    obtain ⟨hshort, hlong⟩ := h b c d rest rfl
    rw [startCodes, if_neg hshort, if_neg hlong]

lemma startCodes_append (i : ℕ) (h : ¬ [0, 0, 1] <:+: nalu) (nalus : List Bytes) :
    startCodes i (nalu ++ annexB nalus) = startCodes (i + nalu.length) (annexB nalus) := by
  induction nalu generalizing i with
  | nil => rfl
  | cons a nalu ih =>
    have hrest : ¬ [0, 0, 1] <:+: nalu := fun hin => h (hin.trans (suffix_cons a nalu).isInfix)
    have hhead : ∀ b c l, nalu = b :: c :: l → ¬ (a = 0 ∧ b = 0 ∧ c = 1) := by
      rintro b c l rfl ⟨rfl, rfl, rfl⟩
      exact h ⟨[], l, rfl⟩
    have hnext : ∀ b c d l, nalu = b :: c :: d :: l → ¬ (b = 0 ∧ c = 0 ∧ d = 1) := by
      rintro b c d l rfl ⟨rfl, rfl, rfl⟩
      exact hrest ⟨[], l, rfl⟩
    have hstep : startCodes i (a :: (nalu ++ annexB nalus)) = startCodes (i + 1) (nalu ++ annexB nalus) := by
      apply startCodes_cons
      intro b c d rest hl
      match nalu, nalus, hl with
      | [], [], hl => cases hl
      | [], _ :: _, hl =>
        cases hl
        simp
      | [_], [], hl => cases hl
      | [_], _ :: _, hl =>
        cases hl
        simp
      | [_, _], [], hl => cases hl
      | [b, c], _ :: _, hl =>
        cases hl
        refine ⟨hhead b c [] rfl, ?_⟩
        simp
      | b :: c :: d :: l, _, hl =>
        cases hl
        refine ⟨hhead b c _ rfl, ?_⟩
        rintro ⟨_, hb, hc, hd⟩
        exact hnext b c d l rfl ⟨hb, hc, hd⟩
    rw [cons_append, hstep, ih _ hrest, length_cons]
    congr 1
    omega

lemma between_startCodes (pre : Bytes) (h : ∀ n ∈ nalus, ¬ [0, 0, 1] <:+: n) :
    between (pre ++ annexB nalus) (startCodes pre.length (annexB nalus)) = nalus := by
  induction nalus generalizing pre with
  | nil => rfl
  | cons nalu nalus ih =>
    have hnalu := h nalu mem_cons_self
    have hnalus := ih (pre ++ annexBStartCode ++ nalu) fun n hn => h n (mem_cons_of_mem _ hn)
    have hlen : (pre ++ annexBStartCode ++ nalu).length = pre.length + 4 + nalu.length := by
      simp only [annexBStartCode, length_append, length_cons, length_nil]
    have hau : pre ++ annexB (nalu :: nalus) = pre ++ annexBStartCode ++ nalu ++ annexB nalus := by
      simp [annexB]
    have hdrop : (pre ++ annexB (nalu :: nalus)).drop (pre.length + 4) = nalu ++ annexB nalus := by
      rw [← drop_drop, drop_left]
      rfl
    rw [startCodes_annexB_cons, startCodes_append _ hnalu]
    rw [hlen, ← hau] at hnalus
    cases nalus with
    | nil =>
      rw [show startCodes _ _ = [] from rfl, between, hdrop]
      simp [annexB]
    | cons next rest =>
      rw [startCodes_annexB_cons] at hnalus ⊢
      rw [between, hnalus, hdrop, Nat.add_sub_cancel_left, List.take_left]

lemma annexBNalus_annexB (h : ∀ n ∈ nalus, Nal n) : annexBNalus (annexB nalus) = nalus := by
  have hbetween := between_startCodes [] fun n hn => (h n hn).plain
  rw [nil_append, length_nil] at hbetween
  rw [annexBNalus, hbetween, filter_eq_self]
  intro n hn
  obtain ⟨header, body, rfl, _⟩ := (h n hn).single
  rfl

end Scan

section Header

lemma fragment_header (header : UInt8) (start last : Bool) :
    let indicator := (header &&& 0xe0) ||| fuaNaluType
    let fuHeader := (header &&& naluTypeMask) ||| (if start then fuStartMask else 0) ||| (if last then fuEndMask else 0)
    indicator &&& naluTypeMask = fuaNaluType ∧ indicator &&& 0x80 = header &&& 0x80 ∧
      indicator &&& 0xe0 = header &&& 0xe0 ∧ fuHeader &&& naluTypeMask = header &&& naluTypeMask ∧
      (fuHeader &&& fuStartMask ≠ 0 ↔ start = true) ∧ (fuHeader &&& fuEndMask ≠ 0 ↔ last = true) ∧
      fuHeader &&& fuReservedMask = 0 ∧ (header &&& 0xe0) ||| (header &&& naluTypeMask) = header := by
  revert header
  apply Lib.Bytes.forall_byte
  cases start <;> cases last <;> decide +kernel

end Header

section Fragments

lemma length_fragment (header : UInt8) (body : Bytes) (size count index : ℕ) :
    (Packetizer.fragment header body size count index).length ≤ size + 2 := by
  have hmin : min ((index + 1) * size) body.length - index * size ≤ size := by
    rw [add_mul]
    omega
  simp only [Packetizer.fragment, length_cons, length_take]
  omega

lemma take_append_fragment {body : Bytes} {a b : ℕ} (ha : a ≤ body.length) (hab : a ≤ b) :
    body.take a ++ (body.drop a).take (min b body.length - a) = body.take b := by
  rw [← take_add]
  have hsum : a + (min b body.length - a) = min b body.length := by omega
  rw [hsum]
  rcases le_total b body.length with hle | hle
  · rw [min_eq_left hle]
  · rw [min_eq_right hle, take_of_length_le le_rfl, take_of_length_le hle]

end Fragments

variable {payload : Bytes}

section Depacketize

open Depacketizer

inductive Absorbs : Depacketizer → List Bytes → Depacketizer → Prop
  | nil {d : Depacketizer} : Absorbs d [] d
  | cons {d d' d'' : Depacketizer} {payload : Bytes} {rest : List Bytes} :
      d.pushPayload payload = .ok d' → Absorbs d' rest d'' → Absorbs d (payload :: rest) d''

variable {d d' d'' : Depacketizer} {l l' : List Bytes} {header : UInt8} {body : Bytes} {size count k : ℕ}

lemma Absorbs.eq_of_nil (h : Absorbs d [] d') : d' = d := by
  cases h
  rfl

lemma Absorbs.append (h : Absorbs d l d') (h' : Absorbs d' l' d'') : Absorbs d (l ++ l') d'' := by
  induction h with
  | nil => exact h'
  | cons hp _ ih => exact .cons hp (ih h')

lemma Absorbs.snoc (h : Absorbs d l d') (hp : d'.pushPayload payload = .ok d'') : Absorbs d (l ++ [payload]) d'' :=
  h.append (.cons hp .nil)

lemma pushPayload_single (hn : Single nalu) (hfua : d.fua = none)
    (hfits : d.frame.length + (4 + nalu.length) ≤ d.maxAccessUnitSize) :
    d.pushPayload nalu = .ok { d with frame := d.frame ++ annexBStartCode ++ nalu } := by
  obtain ⟨header, body, rfl, htype, hbit⟩ := hn
  have hroom : d.fits (annexBStartCode.length + (header :: body).length) = true := decide_eq_true hfits
  rw [pushPayload, if_pos htype, if_neg (by simp [hfua, hbit]), hroom]
  rfl

structure FuHeader (header indicator fuHeader : UInt8) (start last : Bool) : Prop where
  type : indicator &&& naluTypeMask = fuaNaluType
  forbidden : indicator &&& 0x80 = 0
  priority : indicator &&& 0xe0 = header &&& 0xe0
  unit : fuHeader &&& naluTypeMask = header &&& naluTypeMask
  single : singleType (header &&& naluTypeMask) = true
  start : fuHeader &&& fuStartMask ≠ 0 ↔ start = true
  last : fuHeader &&& fuEndMask ≠ 0 ↔ last = true
  reserved : fuHeader &&& fuReservedMask = 0
  whole : (header &&& 0xe0) ||| (header &&& naluTypeMask) = header

variable {indicator fuHeader : UInt8} {start last : Bool} {part : Bytes} {mtu : ℕ}

lemma pushPayload_fua (h : FuHeader header indicator fuHeader start last) :
    d.pushPayload (indicator :: fuHeader :: part) = d.pushFua indicator (fuHeader :: part) := by
  simp only [pushPayload, h.type]
  rfl

lemma pushFua_start (h : FuHeader header indicator fuHeader true false) (hpart : part ≠ []) (hfua : d.fua = none)
    (hfits : d.frame.length + (5 + part.length) ≤ d.maxAccessUnitSize) :
    d.pushFua indicator (fuHeader :: part) = .ok { d with fua := some (header, header :: part) } := by
  have hroom : d.fits (annexBStartCode.length + 1 + part.length) = true := decide_eq_true hfits
  have hstart : fuHeader &&& fuStartMask ≠ 0 := h.start.2 rfl
  have hlast : ¬ fuHeader &&& fuEndMask ≠ 0 := fun he => false_ne_true (h.last.1 he)
  rw [pushFua, if_neg, if_neg, if_pos hstart, if_neg, hroom]
  · rw [h.unit, h.priority, h.whole]
    simp [closeFua, hlast]
  · simp [hfua]
  · rw [h.forbidden, h.reserved]
    simp [hlast]
  · rw [h.unit, h.single]
    simp [hpart]

lemma pushFua_next (h : FuHeader header indicator fuHeader false last) (hpart : part ≠ []) {data : Bytes}
    (hfua : d.fua = some (header, data)) (hfits : d.frame.length + (4 + data.length + part.length) ≤ d.maxAccessUnitSize) :
    d.pushFua indicator (fuHeader :: part) = .ok
      (if last then { d with frame := d.frame ++ annexBStartCode ++ (data ++ part), fua := none }
      else { d with fua := some (header, data ++ part) }) := by
  have hroom : d.fits (annexBStartCode.length + data.length + part.length) = true := decide_eq_true hfits
  have hstart : ¬ fuHeader &&& fuStartMask ≠ 0 := fun he => false_ne_true (h.start.1 he)
  have hheader : header &&& 0x1f = fuHeader &&& naluTypeMask := h.unit.symm
  rw [pushFua, if_neg, if_neg, if_neg hstart, hfua]
  · dsimp only
    rw [if_neg (by simp [hheader, h.priority]), hroom]
    cases last with
    | true => simp [closeFua, h.last.2 rfl]
    | false =>
      have hlast : ¬ fuHeader &&& fuEndMask ≠ 0 := fun he => false_ne_true (h.last.1 he)
      simp [closeFua, hlast]
  · rw [h.forbidden, h.reserved]
    simp [hstart]
  · rw [h.unit, h.single]
    simp [hpart]

lemma fuHeader_fragment (htype : singleType (header &&& naluTypeMask) = true) (hbit : header &&& 0x80 = 0) (k count : ℕ) :
    FuHeader header ((header &&& 0xe0) ||| fuaNaluType)
      ((header &&& naluTypeMask) ||| (if k = 0 then fuStartMask else 0) ||| (if k + 1 = count then fuEndMask else 0))
      (decide (k = 0)) (decide (k + 1 = count)) := by
  obtain ⟨hind, hforb, hprio, hunit, hstart, hlast, hres, hwhole⟩ :=
    fragment_header header (decide (k = 0)) (decide (k + 1 = count))
  simp only [decide_eq_true_eq] at hunit hstart hlast hres
  exact ⟨hind, hforb.trans hbit, hprio, hunit, htype, by simpa using hstart, by simpa using hlast, hres, hwhole⟩

def Cut (body : Bytes) (size count : ℕ) : Prop := 0 < size ∧ count = (body.length + size - 1) / size

lemma Cut.lt (h : Cut body size count) (hk : k < count) : k * size < body.length := by
  obtain ⟨hsize, rfl⟩ := h
  have hle := (le_div_iff_mul_le hsize).1 (succ_le_of_lt hk)
  rw [succ_mul] at hle
  omega

lemma Cut.le (h : Cut body size count) : body.length ≤ count * size := by
  obtain ⟨hsize, rfl⟩ := h
  have hlt := lt_div_mul_add (a := body.length + size - 1) hsize
  omega

lemma fragment_ne_nil {index : ℕ} (hsize : 0 < size) (hk : index * size < body.length) :
    (body.drop (index * size)).take (min ((index + 1) * size) body.length - index * size) ≠ [] := by
  intro hnil
  have hlen := congrArg List.length hnil
  rw [length_take, length_drop, length_nil, add_mul] at hlen
  omega

section

variable (htype : singleType (header &&& naluTypeMask) = true) (hbit : header &&& 0x80 = 0) (hcut : Cut body size count)
  (hfua : d.fua = none) (hfits : d.frame.length + (5 + body.length) ≤ d.maxAccessUnitSize)

include htype hbit hcut hfua hfits

lemma absorbs_first (hpos : 0 < k) (hk : k < count) :
    Absorbs d ((List.range k).map (Packetizer.fragment header body size count))
      { d with fua := some (header, header :: body.take (k * size)) } := by
  induction k with
  | zero => cases hpos
  | succ k ih =>
    have hlt := hcut.lt (lt_of_succ_lt hk)
    have hpart := take_append_fragment hlt.le (mul_le_mul_right size (le_add_right k 1))
    have hne := fragment_ne_nil hcut.1 hlt
    have hheader := fuHeader_fragment htype hbit k count
    rw [decide_eq_false (show ¬ k + 1 = count by omega)] at hheader
    rw [range_succ, map_append]
    cases k with
    | zero =>
      refine Absorbs.snoc .nil ?_
      rw [Packetizer.fragment, pushPayload_fua hheader, pushFua_start hheader hne hfua]
      · simp
      · rw [length_take]
        omega
    | succ k =>
      refine Absorbs.snoc (ih (succ_pos k) (lt_of_succ_lt hk)) ?_
      rw [Packetizer.fragment, pushPayload_fua hheader, pushFua_next hheader hne rfl]
      · rw [if_neg Bool.false_ne_true, List.cons_append, hpart]
      dsimp only
      have hlen := congrArg List.length hpart
      have hle := length_take_le' ((k + 1 + 1) * size) body
      rw [length_append] at hlen
      rw [length_cons]
      omega

lemma absorbs_fragments (hone : 1 < count) :
    Absorbs d ((List.range count).map (Packetizer.fragment header body size count))
      { d with frame := d.frame ++ annexBStartCode ++ header :: body } := by
  obtain ⟨k, rfl⟩ : ∃ k, count = k + 1 := ⟨count - 1, by omega⟩
  have hlt := hcut.lt (lt_succ_self k)
  have hpart := take_append_fragment hlt.le (mul_le_mul_right size (le_add_right k 1))
  rw [take_of_length_le hcut.le] at hpart
  have hne := fragment_ne_nil hcut.1 hlt
  have hheader := fuHeader_fragment htype hbit k (k + 1)
  rw [decide_eq_false (show ¬ k = 0 by omega), decide_eq_true rfl] at hheader
  rw [range_succ, map_append]
  refine Absorbs.snoc (absorbs_first htype hbit hcut hfua hfits (by omega) (lt_succ_self k)) ?_
  rw [Packetizer.fragment, pushPayload_fua hheader, pushFua_next hheader hne rfl]
  · rw [cons_append, hpart]
    simp [hfua]
  dsimp only
  have hlen := congrArg List.length hpart
  rw [length_append] at hlen
  rw [length_cons]
  omega

end

lemma absorbs_payloads (hmtu : 3 ≤ mtu) (hn : Single nalu) (hfua : d.fua = none)
    (hfits : d.frame.length + (4 + nalu.length) ≤ d.maxAccessUnitSize) :
    Absorbs d (Packetizer.payloads ⟨mtu⟩ nalu) { d with frame := d.frame ++ annexBStartCode ++ nalu } ∧
      ∀ payload ∈ Packetizer.payloads ⟨mtu⟩ nalu, payload.length ≤ mtu := by
  unfold Packetizer.payloads
  split
  next hle =>
    refine ⟨.cons (pushPayload_single hn hfua hfits) .nil, ?_⟩
    intro payload hp
    rw [mem_singleton.1 hp]
    exact hle
  next hlong =>
    obtain ⟨header, body, rfl, htype, hbit⟩ := hn
    have hlong : mtu < body.length + 1 := not_le.1 hlong
    have hsize : max (mtu - fuaHeaderSize) 1 = mtu - 2 := by
      have : fuaHeaderSize = 2 := rfl
      omega
    have hcut : Cut body (mtu - 2) _ := ⟨by omega, rfl⟩
    have hone : 1 < (body.length + (mtu - 2) - 1) / (mtu - 2) := by
      rw [lt_iff_add_one_le, le_div_iff_mul_le hcut.1]
      omega
    rw [hsize]
    refine ⟨absorbs_fragments htype hbit hcut hfua ?_ hone, ?_⟩
    · rw [length_cons] at hfits
      omega
    · intro payload hp
      obtain ⟨index, _, rfl⟩ := mem_map.1 hp
      have := length_fragment header body (mtu - 2) ((body.length + (mtu - 2) - 1) / (mtu - 2)) index
      omega

lemma length_annexB_cons (nalu : Bytes) (nalus : List Bytes) :
    (annexB (nalu :: nalus)).length = 4 + nalu.length + (annexB nalus).length := by
  rw [annexB_cons]
  simp only [length_cons, length_append]
  omega

lemma absorbs_all (hmtu : 3 ≤ mtu) (hn : ∀ n ∈ nalus, Nal n) (hfua : d.fua = none)
    (hfits : d.frame.length + (annexB nalus).length ≤ d.maxAccessUnitSize) :
    Absorbs d (nalus.flatMap (Packetizer.payloads ⟨mtu⟩)) { d with frame := d.frame ++ annexB nalus } ∧
      ∀ payload ∈ nalus.flatMap (Packetizer.payloads ⟨mtu⟩), payload.length ≤ mtu := by
  induction nalus generalizing d with
  | nil =>
    simpa [annexB] using Absorbs.nil
  | cons nalu nalus ih =>
    rw [length_annexB_cons] at hfits
    obtain ⟨habs, hlen⟩ := absorbs_payloads hmtu (hn nalu mem_cons_self).single hfua (by omega)
    have hrest : (d.frame ++ annexBStartCode ++ nalu).length + (annexB nalus).length ≤ d.maxAccessUnitSize := by
      simp only [length_append, annexBStartCode, length_cons, length_nil]
      omega
    obtain ⟨habs', hlen'⟩ := ih (d := { d with frame := d.frame ++ annexBStartCode ++ nalu })
      (fun n h => hn n (mem_cons_of_mem _ h)) hfua hrest
    refine ⟨?_, ?_⟩
    · have happ := habs.append habs'
      simpa [annexB] using happ
    · intro payload hp
      rcases mem_append.1 hp with hp | hp
      · exact hlen payload hp
      · exact hlen' payload hp

end Depacketize

section Chunks

open Depacketizer Packetizer

variable {d d' : Depacketizer} {l : List Bytes}

lemma getElem?_markFirst (chunks : List PacketizedChunk) (i : ℕ) :
    (markFirst chunks)[i]? = chunks[i]?.map fun c => { c with startOfFrame := decide (i = 0) || c.startOfFrame } := by
  cases chunks with
  | nil => rfl
  | cons c rest => cases i <;> simp [markFirst]

lemma getElem?_markLast (chunks : List PacketizedChunk) (i : ℕ) :
    (markLast chunks)[i]? =
      chunks[i]?.map fun c => { c with endOfFrame := decide (i + 1 = chunks.length) || c.endOfFrame } := by
  induction chunks generalizing i with
  | nil => rfl
  | cons c rest ih =>
    cases rest with
    | nil => cases i <;> simp [markLast]
    | cons c' rest =>
      cases i with
      | zero => simp [markLast]
      | succ i => simpa [markLast] using ih i

def chunk (payload : Bytes) : PacketizedChunk := ⟨payload, false, false⟩

lemma getElem?_marked (l : List Bytes) (i : ℕ) :
    (markLast (markFirst (l.map chunk)))[i]? =
      l[i]?.map fun payload => ⟨payload, decide (i = 0), decide (i + 1 = l.length)⟩ := by
  have hlen : (markFirst (l.map chunk)).length = l.length := by
    cases l <;> simp [markFirst]
  rw [getElem?_markLast, getElem?_markFirst, getElem?_map, hlen]
  cases l[i]? <;> simp [chunk]

lemma length_marked (l : List Bytes) : (markLast (markFirst (l.map chunk))).length = l.length := by
  apply le_antisymm
  · rw [← getElem?_eq_none_iff, getElem?_marked, getElem?_eq_none le_rfl, map_none]
  · rw [← getElem?_eq_none_iff]
    have hnone := getElem?_eq_none (l := markLast (markFirst (l.map chunk))) le_rfl
    rwa [getElem?_marked, map_eq_none_iff] at hnone

lemma closeFua_started {isEnd : Bool} (h : d.closeFua isEnd = .ok d') : d'.started = d.started := by
  unfold closeFua at h
  split at h
  · cases h
    rfl
  · split at h <;> cases h
    rfl

lemma pushFua_started {indicator : UInt8} {rest : Bytes} (h : d.pushFua indicator rest = .ok d') :
    d'.started = d.started := by
  unfold pushFua at h
  split at h
  · cases h
  dsimp only at h
  repeat' split at h
  all_goals first
    | cases h
    | have hclose := closeFua_started h
      exact hclose

lemma pushStapa_started (h : d.pushStapa payload = .ok d') : d'.started = d.started := by
  unfold pushStapa at h
  repeat' split at h
  all_goals cases h
  rfl

lemma pushPayload_started (h : d.pushPayload payload = .ok d') : d'.started = d.started := by
  unfold pushPayload at h
  split at h
  · cases h
  dsimp only at h
  split at h
  · repeat' split at h
    all_goals cases h
    rfl
  split at h
  · exact pushStapa_started h
  split at h
  · exact pushFua_started h
  · split at h <;> cases h

lemma push_started {endOfFrame : Bool} (h : d.started = true) :
    d.push payload false endOfFrame = d.takeIn payload endOfFrame := by
  simp [push, h]

lemma pushAll_markLast (h : Absorbs d l d') (hne : l ≠ []) (hstarted : d.started = true) (hfua : d'.fua = none)
    (hframe : d'.frame ≠ []) :
    d.pushAll (markLast (l.map chunk)) = List.replicate (l.length - 1) (.ok none) ++ [.ok (some d'.frame)] := by
  induction h with
  | nil => exact absurd rfl hne
  | @cons d d1 d' payload rest hp habs ih =>
    cases rest with
    | nil =>
      cases habs
      simp [markLast, pushAll, chunk, push_started hstarted, takeIn, hp, hfua, hframe]
    | cons payload' rest =>
      have hrest := ih (cons_ne_nil _ _) ((pushPayload_started hp).trans hstarted) hfua hframe
      have hpush : d.push payload false false = (d1, .ok none) := by
        rw [push_started hstarted, takeIn, hp]
        rfl
      change (d.push payload false false).2 ::
        (d.push payload false false).1.pushAll (markLast ((payload' :: rest).map chunk)) = _
      rw [hpush, hrest]
      rfl

lemma pushAll_marked (hne : l ≠ []) :
    d.pushAll (markLast (markFirst (l.map chunk))) =
      { d.reset with started := true }.pushAll (markLast (l.map chunk)) := by
  match l with
  | [] => exact absurd rfl hne
  | [_] => rfl
  | _ :: _ :: _ => rfl

end Chunks

lemma annexB_ne_nil (h : nalus ≠ []) : annexB nalus ≠ [] := by
  cases nalus with
  | nil => exact absurd rfl h
  | cons nalu nalus => exact cons_ne_nil _ _

theorem packetize_round_trip (mtu : ℕ) (hmtu : 3 ≤ mtu) (nalus : List Bytes) (hne : nalus ≠ [])
    (hnal : ∀ n ∈ nalus, Nal n) (d : Depacketizer) (hlimit : (annexB nalus).length ≤ d.maxAccessUnitSize) :
    let chunks := (Packetizer.new mtu).packetize (annexB nalus)
    d.pushAll chunks = List.replicate (chunks.length - 1) (.ok none) ++ [.ok (some (annexB nalus))] ∧
      (∀ c ∈ chunks, c.payload.length ≤ mtu) ∧
      ∀ i c, chunks[i]? = some c → (c.startOfFrame = true ↔ i = 0) ∧ (c.endOfFrame = true ↔ i + 1 = chunks.length) := by
  intro chunks
  have hnew : Packetizer.new mtu = ⟨mtu⟩ := by
    have : max mtu (fuaHeaderSize + 1) = mtu := max_eq_left hmtu
    rw [Packetizer.new, this]
  have hchunks : chunks = Packetizer.markLast (Packetizer.markFirst
      ((nalus.flatMap (Packetizer.payloads ⟨mtu⟩)).map chunk)) := by
    change (Packetizer.new mtu).packetize _ = _
    rw [Packetizer.packetize, annexBNalus_annexB hnal, hnew]
    rfl
  obtain ⟨habs, hlen⟩ := absorbs_all hmtu hnal (d := { d.reset with started := true }) rfl
    (by simpa [Depacketizer.reset] using hlimit)
  have hpayloads : nalus.flatMap (Packetizer.payloads ⟨mtu⟩) ≠ [] := by
    intro hnil
    rw [hnil] at habs
    have hframe := congrArg Depacketizer.frame habs.eq_of_nil
    exact annexB_ne_nil hne (by simpa [Depacketizer.reset] using hframe)
  refine ⟨?_, ?_, ?_⟩
  · rw [hchunks, pushAll_marked hpayloads, length_marked]
    simpa [Depacketizer.reset] using pushAll_markLast habs hpayloads rfl rfl (by
      simpa [Depacketizer.reset] using annexB_ne_nil hne)
  · intro c hc
    obtain ⟨i, hi⟩ := mem_iff_getElem?.1 hc
    rw [hchunks, getElem?_marked] at hi
    obtain ⟨payload, hp, rfl⟩ := map_eq_some_iff.1 hi
    exact hlen payload (mem_of_getElem? hp)
  · intro i c hi
    rw [hchunks, getElem?_marked] at hi
    obtain ⟨payload, hp, rfl⟩ := map_eq_some_iff.1 hi
    rw [hchunks, length_marked]
    simp

theorem packetize_round_trip_zeros :
    ((Packetizer.new 4).packetize (annexB [[0x67, 0, 0], [0x65, 1, 2, 3, 4, 5, 0]])).length = 4 ∧
      ({} : Depacketizer).pushAll ((Packetizer.new 4).packetize (annexB [[0x67, 0, 0], [0x65, 1, 2, 3, 4, 5, 0]])) =
        List.replicate 3 (.ok none) ++ [.ok (some (annexB [[0x67, 0, 0], [0x65, 1, 2, 3, 4, 5, 0]]))] := by
  have hsps : Nal [0x67, 0, 0] := ⟨⟨0x67, [0, 0], rfl, by decide, by decide⟩, by decide⟩
  have hidr : Nal [0x65, 1, 2, 3, 4, 5, 0] := ⟨⟨0x65, [1, 2, 3, 4, 5, 0], rfl, by decide, by decide⟩, by decide⟩
  have hround := packetize_round_trip 4 (by decide) [[0x67, 0, 0], [0x65, 1, 2, 3, 4, 5, 0]] (by decide)
    (by simp [hsps, hidr]) {} (by decide)
  exact ⟨by decide +kernel, hround.1⟩

end Pulsebeam.H264
