import Pulsebeam.Lib.OrdMap
import Pulsebeam.Lib.Word

/-! Codec-agnostic framing: a frame is cut into numbered packets and put together again from what arrives. -/

namespace Pulsebeam.Framing

open Pulsebeam.Lib List Option OrdMap Nat

structure FrameChunk where
  data : List UInt8
  startOfFrame : Bool
  endOfFrame : Bool
  deriving DecidableEq

structure ReassembledFrame where
  data : List UInt8
  firstSeq : ℕ
  lastSeq : ℕ
  deriving DecidableEq

structure FramePacketizer where
  mtu : ℕ
  pos : 0 < mtu

namespace FramePacketizer

def new (mtu : ℕ) : FramePacketizer := ⟨max mtu 1, by omega⟩

variable (k : FramePacketizer) (frame : List UInt8)

def packetCount : ℕ := max ((frame.length + k.mtu - 1) / k.mtu) 1

def chunk (i : ℕ) : FrameChunk :=
  let start := i * k.mtu
  let stop := min ((i + 1) * k.mtu) frame.length
  ⟨(frame.take stop).drop start, i == 0, i == k.packetCount frame - 1⟩

def packetize : List FrameChunk := (List.range (k.packetCount frame)).map (k.chunk frame)

variable {k frame}

lemma packetCount_pos : 0 < k.packetCount frame := by
  rw [packetCount]
  omega

@[simp] lemma length_packetize : (k.packetize frame).length = k.packetCount frame := by simp [packetize]

lemma getElem?_packetize {i : ℕ} (hi : i < k.packetCount frame) : (k.packetize frame)[i]? = some (k.chunk frame i) := by
  simp [packetize, hi]

lemma flatMap_chunk (n : ℕ) : (List.range n).flatMap (fun i => (k.chunk frame i).data) = frame.take (n * k.mtu) := by
  induction n with
  | zero => simp
  | succ n ih =>
    have hcut := take_append_drop (n * k.mtu) (frame.take ((n + 1) * k.mtu))
    rw [take_take, min_eq_left (mul_le_mul_right _ n.le_succ)] at hcut
    rw [range_succ, flatMap_append, ih, flatMap_singleton, chunk, ← take_eq_take_min, hcut]

lemma flatMap_packetize : (k.packetize frame).flatMap (·.data) = frame := by
  rw [packetize, flatMap_map, flatMap_chunk]
  have hdiv := div_add_mod (frame.length + k.mtu - 1) k.mtu
  have hmod := mod_lt (frame.length + k.mtu - 1) k.pos
  have hle : (frame.length + k.mtu - 1) / k.mtu * k.mtu ≤ k.packetCount frame * k.mtu :=
    mul_le_mul_right _ (le_max_left _ _)
  rw [mul_comm] at hdiv
  exact take_of_length_le (by omega)

end FramePacketizer

structure FrameDepacketizer where
  parts : OrdMap ℕ FrameChunk
  newest : Option ℕ
  window : ℕ

namespace FrameDepacketizer

def new (window : ℕ) : FrameDepacketizer := ⟨∅, none, max window 1⟩

/-- The end of the run of packets from `seq` on, with fuel for every packet there can be in it. -/
def walk (parts : OrdMap ℕ FrameChunk) : ℕ → ℕ → Option ℕ
  | 0, _ => none
  | fuel + 1, seq =>
    match parts.get? seq with
    | none => none
    | some pkt => if pkt.endOfFrame then some seq else walk parts fuel (Word.saturatingAdd 64 seq 1)

def gather (parts : OrdMap ℕ FrameChunk) (first last : ℕ) : List UInt8 :=
  (List.range' first (last + 1 - first)).flatMap fun s => (parts.get? s).elim [] (·.data)

def removeSpan (parts : OrdMap ℕ FrameChunk) (first last : ℕ) : OrdMap ℕ FrameChunk :=
  parts.retain fun s _ => decide (s < first ∨ last < s)

lemma get?_removeSpan {parts : OrdMap ℕ FrameChunk} {first last s : ℕ} {c : FrameChunk} :
    (removeSpan parts first last).get? s = some c ↔ parts.get? s = some c ∧ (s < first ∨ last < s) := by
  rw [removeSpan, get?_retain, decide_eq_true_iff]

variable (d : FrameDepacketizer)

def tryEmitEarliest : FrameDepacketizer × Option ReassembledFrame :=
  match d.parts.entries.find? (·.2.startOfFrame) with
  | none => (d, none)
  | some (start, _) =>
    match walk d.parts (d.parts.size + 1) start with
    | none => (d, none)
    | some last =>
      ({ d with parts := removeSpan d.parts start last }, some ⟨gather d.parts start last, start, last⟩)

def evictStale : FrameDepacketizer :=
  match d.newest with
  | none => d
  | some newest => { d with parts := d.parts.retain fun s _ => decide (newest - d.window ≤ s) }

def buffer (seq : ℕ) (chunk : FrameChunk) : FrameDepacketizer :=
  { d with newest := some (d.newest.elim seq (max · seq)), parts := d.parts.insert seq chunk }

def push (seq : ℕ) (chunk : FrameChunk) : FrameDepacketizer × Option ReassembledFrame :=
  (d.buffer seq chunk).evictStale.tryEmitEarliest

end FrameDepacketizer

structure Sender where
  k : FramePacketizer
  frames : List (List UInt8)
  base : ℕ
  fits : base + (frames.flatMap k.packetize).length ≤ 2 ^ 64

namespace Sender

open FramePacketizer FrameDepacketizer

variable (S : Sender)

def packet (i : ℕ) : Option FrameChunk := (S.frames.flatMap S.k.packetize)[i]?

def Span (frame : List UInt8) (first : ℕ) : Prop :=
  ∃ before after, S.frames = before ++ frame :: after ∧ first = S.base + (before.flatMap S.k.packetize).length

/-- Packets arrive by position, in any order and any number of times. -/
def deliver (r : FrameDepacketizer × List ReassembledFrame) (i : ℕ) : FrameDepacketizer × List ReassembledFrame :=
  match S.packet i with
  | none => r
  | some chunk => let (d, out) := r.1.push (S.base + i) chunk; (d, r.2 ++ out.toList)

def run (window : ℕ) (arrivals : List ℕ) : FrameDepacketizer × List ReassembledFrame :=
  arrivals.foldl S.deliver (.new window, [])

variable {S} {frame : List UInt8} {first i : ℕ} {chunk : FrameChunk}

lemma Span.packet (h : S.Span frame first) {j : ℕ} (hj : j < S.k.packetCount frame) :
    S.packet (first - S.base + j) = some (S.k.chunk frame j) ∧
      first + S.k.packetCount frame ≤ 2 ^ 64 ∧ S.base ≤ first := by
  obtain ⟨before, after, hframes, rfl⟩ := h
  have hfits := S.fits
  simp only [hframes, flatMap_append, flatMap_cons, length_append, length_packetize] at hfits
  refine ⟨?_, by omega, by omega⟩
  rw [Sender.packet, hframes, List.flatMap_append, List.flatMap_cons, Nat.add_sub_cancel_left,
    List.getElem?_append_right (Nat.le_add_right _ _), Nat.add_sub_cancel_left, List.getElem?_append_left (by simpa using hj)]
  exact getElem?_packetize hj

lemma split_of_startOfFrame {k : FramePacketizer} {frames : List (List UInt8)}
    (h : (frames.flatMap k.packetize)[i]? = some chunk) (hs : chunk.startOfFrame = true) :
    ∃ before frame after, frames = before ++ frame :: after ∧ i = (before.flatMap k.packetize).length := by
  induction frames generalizing i with
  | nil => simp at h
  | cons frame frames ih =>
    rw [flatMap_cons] at h
    by_cases hi : i < (k.packetize frame).length
    · rw [getElem?_append_left hi, getElem?_packetize (by simpa using hi)] at h
      cases h
      obtain rfl : i = 0 := by simpa [FramePacketizer.chunk] using hs
      exact ⟨[], frame, frames, rfl, rfl⟩
    · rw [getElem?_append_right (not_lt.1 hi)] at h
      obtain ⟨before, frame', after, rfl, hlen⟩ := ih h
      exact ⟨frame :: before, frame', after, rfl, by rw [flatMap_cons, length_append]; omega⟩

def Holds (S : Sender) (parts : OrdMap ℕ FrameChunk) : Prop :=
  ∀ s chunk, parts.get? s = some chunk → S.base ≤ s ∧ S.packet (s - S.base) = some chunk

variable {parts : OrdMap ℕ FrameChunk} {d : FrameDepacketizer}

lemma Holds.retain (h : S.Holds parts) (p : ℕ → FrameChunk → Bool) : S.Holds (parts.retain p) := fun s c hs =>
  h s c (get?_retain.1 hs).1

lemma Holds.insert (h : S.Holds parts) (hp : S.packet i = some chunk) : S.Holds (parts.insert (S.base + i) chunk) := by
  intro s c hs
  rw [get?_insert] at hs
  split at hs
  next heq =>
    cases hs
    exact ⟨by omega, by rwa [heq, Nat.add_sub_cancel_left]⟩
  · exact h s c hs

lemma Holds.evictStale (h : S.Holds d.parts) : S.Holds d.evictStale.parts := by
  rw [FrameDepacketizer.evictStale]
  split
  · exact h
  · exact h.retain _

lemma Holds.walk (h : S.Holds parts) (hspan : S.Span frame first) {fuel j last : ℕ} (hj : j < S.k.packetCount frame)
    (hw : FrameDepacketizer.walk parts fuel (first + j) = some last) :
    last + 1 = first + S.k.packetCount frame ∧
      ∀ n, j ≤ n → n < S.k.packetCount frame → parts.get? (first + n) = some (S.k.chunk frame n) := by
  induction fuel generalizing j with
  | zero => cases hw
  | succ fuel ih =>
    obtain ⟨hpacket, hfits, hbase⟩ := hspan.packet hj
    rw [FrameDepacketizer.walk] at hw
    split at hw
    · cases hw
    next pkt hget =>
      have hsent := (h _ _ hget).2
      rw [show first + j - S.base = first - S.base + j by omega, hpacket] at hsent
      obtain rfl := Option.some.inj hsent
      have hend : (S.k.chunk frame j).endOfFrame = (j == S.k.packetCount frame - 1) := rfl
      split at hw
      next he =>
        cases hw
        rw [hend, beq_iff_eq] at he
        refine ⟨by omega, fun n hjn hn => ?_⟩
        obtain rfl : n = j := by omega
        exact hget
      next he =>
        rw [hend, beq_iff_eq] at he
        have hnext : Word.saturatingAdd 64 (first + j) 1 = first + (j + 1) := by
          have hmax : Word.max 64 = 2 ^ 64 - 1 := rfl
          rw [Word.saturatingAdd]
          omega
        obtain ⟨hlast, hall⟩ := ih (by omega) (hnext ▸ hw)
        refine ⟨hlast, fun n hjn hn => ?_⟩
        rcases eq_or_lt_of_le hjn with rfl | hlt
        · exact hget
        · exact hall n hlt hn

lemma gather_span {last : ℕ} (hlast : last + 1 = first + S.k.packetCount frame)
    (hall : ∀ n < S.k.packetCount frame, parts.get? (first + n) = some (S.k.chunk frame n)) :
    FrameDepacketizer.gather parts first last = frame := by
  rw [FrameDepacketizer.gather, hlast, Nat.add_sub_cancel_left, List.range'_eq_map_range, List.flatMap_map]
  refine Eq.trans ?_ (flatMap_packetize (k := S.k))
  rw [FramePacketizer.packetize, flatMap_map]
  refine flatMap_congr fun n hn => ?_
  rw [hall n (mem_range.1 hn)]
  rfl

lemma tryEmitEarliest_spec (h : S.Holds d.parts) : d.tryEmitEarliest = (d, none) ∨
    ∃ frame first, S.Span frame first ∧ (d.parts.get? first).isSome ∧
      d.tryEmitEarliest.2 = some ⟨frame, first, first + S.k.packetCount frame - 1⟩ ∧
      d.tryEmitEarliest.1.parts = FrameDepacketizer.removeSpan d.parts first (first + S.k.packetCount frame - 1) := by
  rw [FrameDepacketizer.tryEmitEarliest]
  split
  · exact .inl rfl
  next start pkt hfind =>
    split
    · exact .inl rfl
    next last hw =>
      have hget := mem_entries.1 (mem_of_find?_eq_some hfind)
      obtain ⟨hbase, hsent⟩ := h start pkt hget
      obtain ⟨before, frame, after, hframes, hlen⟩ := split_of_startOfFrame hsent (by simpa using find?_some hfind)
      have hspan : S.Span frame start := ⟨before, after, hframes, by omega⟩
      obtain ⟨hlast, hall⟩ := h.walk hspan packetCount_pos hw
      obtain rfl : last = start + S.k.packetCount frame - 1 := by omega
      refine .inr ⟨frame, start, hspan, isSome_of_eq_some hget, ?_, rfl⟩
      rw [gather_span hlast fun n hn => hall n (zero_le n) hn]

def present (parts : OrdMap ℕ FrameChunk) (s : ℕ) : ℕ := if (parts.get? s).isSome then 1 else 0

lemma present_retain (p : ℕ → FrameChunk → Bool) (s : ℕ) : present (parts.retain p) s ≤ present parts s := by
  rw [present, present]
  split
  next h =>
    obtain ⟨c, hc⟩ := isSome_iff_exists.1 h
    rw [if_pos (isSome_of_eq_some (get?_retain.1 hc).1)]
  · exact zero_le _

lemma present_of_none {s : ℕ} (h : ∀ c, parts.get? s ≠ some c) : present parts s = 0 := by
  rw [present, eq_none_iff_forall_ne_some.2 h]
  rfl

structure Kept (S : Sender) (arrivals : List ℕ) (r : FrameDepacketizer × List ReassembledFrame) : Prop where
  holds : S.Holds r.1.parts
  whole : ∀ out ∈ r.2, ∃ frame first, S.Span frame first ∧ out = ⟨frame, first, first + S.k.packetCount frame - 1⟩
  count : ∀ j, (r.2.map (·.firstSeq)).count (S.base + j) + present r.1.parts (S.base + j) ≤ arrivals.count j

lemma Kept.deliver {arrivals : List ℕ} {r : FrameDepacketizer × List ReassembledFrame} (h : S.Kept arrivals r) (i : ℕ) :
    S.Kept (arrivals ++ [i]) (S.deliver r i) := by
  rw [Sender.deliver]
  cases hp : S.packet i with
  | none => exact ⟨h.holds, h.whole, fun j => (h.count j).trans ((sublist_append_left _ _).count_le j)⟩
  | some chunk =>
    set e := (r.1.buffer _ chunk).evictStale with he
    have hholds : S.Holds e.parts := (h.holds.insert hp).evictStale
    have hcount : ∀ j, (r.2.map (·.firstSeq)).count (S.base + j) + present e.parts (S.base + j) ≤
        (arrivals ++ [i]).count j := fun j => by
      have hevict : present e.parts _ ≤ present (r.1.parts.insert _ chunk) (S.base + j) := present_retain _ _
      have hinsert : present (r.1.parts.insert (S.base + i) chunk) (S.base + j) ≤
          present r.1.parts (S.base + j) + [i].count j := by
        rw [present, get?_insert]
        by_cases hj : j = i
        · simp [hj]
        · simp [hj, present]
      have := h.count j
      rw [count_append]
      omega
    change S.Kept _ (e.tryEmitEarliest.1, r.2 ++ e.tryEmitEarliest.2.toList)
    rcases tryEmitEarliest_spec hholds with hnone | ⟨frame, first, hspan, hsome, hout, hd⟩
    · rw [hnone, toList_none, append_nil]
      exact ⟨hholds, h.whole, hcount⟩
    rw [hout, toList_some]
    refine ⟨fun s c hs => ?_, ?_, fun j => le_trans ?_ (hcount j)⟩
    · rw [hd, get?_removeSpan] at hs
      exact hholds s c hs.1
    · rw [forall_mem_append, forall_mem_singleton]
      exact ⟨h.whole, frame, first, hspan, rfl⟩
    -- The frame is counted where its first packet was present, and no longer is.
    rw [map_append, map_singleton, count_append, count_singleton, hd]
    by_cases hj : S.base + j = first
    · have hpos := @packetCount_pos S.k frame
      rw [hj, present_of_none fun c hc => by have := (get?_removeSpan.1 hc).2; omega, present, if_pos hsome]
      simp
    · rw [if_neg (by simpa using Ne.symm hj)]
      exact Nat.add_le_add_left (present_retain _ _) _

lemma Kept.run (window : ℕ) (arrivals : List ℕ) : S.Kept arrivals (S.run window arrivals) := by
  induction arrivals using List.reverseRecOn with
  | nil => exact ⟨nofun, nofun, fun j => le_refl 0⟩
  | append_singleton arrivals i ih =>
    rw [Sender.run, foldl_append]
    exact ih.deliver i

/-- Whatever is lost, reordered or repeated on the way, what comes out are frames of the sender, whole and under their own
numbers, and none more often than its packets came. -/
theorem frames_never_torn (S : Sender) (window : ℕ) (arrivals : List ℕ) :
    (∀ out ∈ (S.run window arrivals).2, ∃ frame first, S.Span frame first ∧
      out = ⟨frame, first, first + S.k.packetCount frame - 1⟩) ∧
    (arrivals.Nodup → ((S.run window arrivals).2.map (·.firstSeq)).Nodup) := by
  have h := Kept.run (S := S) window arrivals
  refine ⟨h.whole, fun hnd => nodup_iff_count_le_one.2 fun s => ?_⟩
  by_cases hs : s ∈ (S.run window arrivals).2.map (·.firstSeq)
  · obtain ⟨out, ho, rfl⟩ := mem_map.1 hs
    obtain ⟨frame, first, ⟨before, after, -, hfirst⟩, rfl⟩ := h.whole out ho
    have hc := h.count (before.flatMap S.k.packetize).length
    rw [← hfirst] at hc
    exact (le_of_add_right_le hc).trans (nodup_iff_count_le_one.1 hnd _)
  · rw [count_eq_zero_of_not_mem hs]
    exact zero_le 1

def sample : Sender := ⟨.new 1, [[1, 2], [3], [4], [5], [6]], 0, by decide⟩

theorem frames_never_torn_reordered : (sample.run 8 [1, 0, 2]).2.map (·.data) = [[1, 2], [3]] ∧
    ((sample.run 8 [1, 0, 2]).2.map (·.firstSeq)).Nodup :=
  ⟨by decide +kernel, (frames_never_torn sample 8 [1, 0, 2]).2 (by decide)⟩

def Buffered (S : Sender) (parts : OrdMap ℕ FrameChunk) (frame : List UInt8) (first : ℕ) : Prop :=
  ∀ n < S.k.packetCount frame, (parts.get? (first + n)).isSome

instance (parts : OrdMap ℕ FrameChunk) : Decidable (S.Buffered parts frame first) :=
  inferInstanceAs (Decidable (∀ n < _, (parts.get? (first + n)).isSome))

lemma Span.startOfFrame_iff (h : S.Span frame first) {n : ℕ} (hn : n < S.k.packetCount frame) {c : FrameChunk}
    (hc : S.packet (first - S.base + n) = some c) : c.startOfFrame = true ↔ n = 0 := by
  rw [(h.packet hn).1] at hc
  cases hc
  exact beq_iff_eq

lemma Span.le_of_lt {frame' : List UInt8} {first' : ℕ} (h : S.Span frame first) (h' : S.Span frame' first')
    (hlt : first < first') : first + S.k.packetCount frame ≤ first' := by
  by_contra hover
  obtain ⟨hstart, -, hbase'⟩ := h'.packet packetCount_pos
  obtain ⟨-, -, hbase⟩ := h.packet packetCount_pos
  rw [show first' - S.base + 0 = first - S.base + (first' - first) by omega] at hstart
  have := (h.startOfFrame_iff (by omega) hstart).1 rfl
  omega

lemma Span.survives (h : S.Span frame first) (hholds : S.Holds d.parts) :
    (∃ out ∈ d.tryEmitEarliest.2, out.firstSeq = first) ∨ ∀ n < S.k.packetCount frame,
      (d.parts.get? (first + n)).isSome → (d.tryEmitEarliest.1.parts.get? (first + n)).isSome := by
  rcases tryEmitEarliest_spec hholds with hnone | ⟨frame', first', hspan', -, hout, hd⟩
  · rw [hnone]
    exact .inr fun _ _ hn => hn
  rcases eq_or_ne first' first with rfl | hne
  · exact .inl ⟨_, hout, rfl⟩
  refine .inr fun n hn hsome => ?_
  obtain ⟨c, hc⟩ := isSome_iff_exists.1 hsome
  rw [hd]
  refine isSome_of_eq_some (get?_removeSpan.2 ⟨hc, ?_⟩)
  rcases lt_or_gt_of_ne hne with hlt | hlt
  · have := hspan'.le_of_lt h hlt
    omega
  · have := h.le_of_lt hspan' hlt
    omega

/-- No arrival evicts a packet of the frame. -/
def Unevicted (S : Sender) (window : ℕ) (arrivals : List ℕ) (frame : List UInt8) (first : ℕ) : Prop :=
  ∀ before i after chunk, arrivals = before ++ i :: after → S.packet i = some chunk →
    let d := (S.run window before).1.buffer (S.base + i) chunk
    ∀ n < S.k.packetCount frame, (d.parts.get? (first + n)).isSome → (d.evictStale.parts.get? (first + n)).isSome

lemma returned_or_buffered {window : ℕ} {arrivals : List ℕ} (hspan : S.Span frame first)
    (hev : S.Unevicted window arrivals frame first) :
    (∃ out ∈ (S.run window arrivals).2, out.firstSeq = first) ∨ ∀ n < S.k.packetCount frame,
      first - S.base + n ∈ arrivals → ((S.run window arrivals).1.parts.get? (first + n)).isSome := by
  induction arrivals using List.reverseRecOn with
  | nil => exact .inr nofun
  | append_singleton arrivals i ih =>
    have hrun : S.run window (arrivals ++ [i]) = S.deliver (S.run window arrivals) i := by rw [Sender.run, foldl_append]; rfl
    rw [hrun, Sender.deliver]
    specialize ih fun before j after chunk hsplit => hev before j (after ++ [i]) chunk (by simp [hsplit])
    cases hp : S.packet i with
    | none =>
      refine ih.imp_right fun ih n hn hmem => ih n hn ((mem_append.1 hmem).resolve_right fun hi => ?_)
      rw [← mem_singleton.1 hi, (hspan.packet hn).1] at hp
      cases hp
    | some chunk =>
      have hholds := ((Kept.run (S := S) window arrivals).holds.insert hp).evictStale (d := buffer _ _ chunk)
      rcases ih with ⟨out, hout, hfirst⟩ | ih
      · exact .inl ⟨out, mem_append_left _ hout, hfirst⟩
      refine (hspan.survives hholds).imp (fun ⟨out, hout, hfirst⟩ => ?_) fun hkeep n hn hmem => hkeep n hn ?_
      · exact ⟨out, mem_append_right _ (mem_toList.2 hout), hfirst⟩
      refine hev arrivals i [] chunk rfl hp n hn ?_
      have hbase := (hspan.packet hn).2.2
      rw [buffer, get?_insert]
      split
      · rfl
      next hne => exact ih n hn ((mem_append.1 hmem).resolve_right fun hi => hne (by rw [← mem_singleton.1 hi]; omega))

/-- Frames that are completely buffered survive an arrival exactly if the newest number is at most a window above the first
packet of each; and in every run a frame of which all packets came and none was evicted is returned or still buffered. -/
theorem complete_frames_survive (S : Sender) (window : ℕ) (arrivals : List ℕ) (i : ℕ) (hp : S.packet i = some chunk) :
    let d := (S.run window arrivals).1.buffer (S.base + i) chunk
    ((∀ frame first, S.Span frame first → S.Buffered d.parts frame first → S.Buffered d.evictStale.parts frame first ∧
      ((∃ out ∈ d.evictStale.tryEmitEarliest.2, out.firstSeq = first) ∨
        S.Buffered d.evictStale.tryEmitEarliest.1.parts frame first)) ↔
    ∀ frame first, S.Span frame first → S.Buffered d.parts frame first → ∀ n ∈ d.newest, n ≤ first + d.window) ∧
    ∀ frame first, S.Span frame first → (∀ n < S.k.packetCount frame, first - S.base + n ∈ arrivals) →
      S.Unevicted window arrivals frame first →
        (∃ out ∈ (S.run window arrivals).2, out.firstSeq = first) ∨ S.Buffered (S.run window arrivals).1.parts frame first := by
  intro d
  have hholds : S.Holds d.evictStale.parts := ((Kept.run window arrivals).holds.insert hp).evictStale
  have hevict : ∀ newest, d.newest = some newest →
      d.evictStale.parts = d.parts.retain fun s _ => decide _ := fun newest hn => by
    rw [FrameDepacketizer.evictStale, hn]
  refine ⟨⟨fun h frame first hspan hbuf newest hn => ?_, fun h frame first hspan hbuf => ?_⟩, fun frame first hspan hall hev =>
    (returned_or_buffered hspan hev).imp_right fun h n hn => h n hn (hall n hn)⟩
  · obtain ⟨c, hc⟩ := isSome_iff_exists.1 ((h frame first hspan hbuf).1 0 packetCount_pos)
    rw [hevict newest hn] at hc
    have := of_decide_eq_true (get?_retain.1 hc).2
    omega
  · have hkept : S.Buffered d.evictStale.parts frame first := fun n hn => by
      obtain ⟨c, hc⟩ := isSome_iff_exists.1 (hbuf n hn)
      have := h frame first hspan hbuf _ rfl
      exact isSome_of_eq_some (get?_retain.2 ⟨hc, by simp only [decide_eq_true_eq]; omega⟩)
    exact ⟨hkept, (hspan.survives hholds).imp_right fun h n hn => h n hn (hkept n hn)⟩

lemma sample_span : sample.Span [3] 2 := ⟨[[1, 2]], [[4], [5], [6]], rfl, rfl⟩

theorem complete_frames_survive_adjacent :
    let d := (sample.run 2 [0]).1.buffer 2 ⟨[3], true, true⟩
    sample.Buffered d.parts [3] 2 ∧ ((∃ out ∈ d.evictStale.tryEmitEarliest.2, out.firstSeq = 2) ∨
      sample.Buffered d.evictStale.tryEmitEarliest.1.parts [3] 2) := by
  have hbuf : sample.Buffered ((sample.run 2 [0]).1.buffer 2 ⟨[3], true, true⟩).parts [3] 2 := by decide +kernel
  refine ⟨hbuf, (((complete_frames_survive sample 2 [0] 2 rfl).1.2 fun frame first _ _ n hn => ?_) [3] 2 sample_span hbuf).2⟩
  have hnew : ((sample.run 2 [0]).1.buffer 2 ⟨[3], true, true⟩).newest = some 2 := by decide +kernel
  cases hnew.symm.trans hn
  exact le_add_left 2 first

/-- Packet 1 is lost, so the frame of packet 2 waits behind it, complete, until packet 5 pushes both out of the window. -/
theorem complete_frame_evicted :
    let d := (sample.run 2 [0, 2]).1.buffer 5 ⟨[6], true, true⟩
    sample.Span [3] 2 ∧ sample.Buffered d.parts [3] 2 ∧ ¬ sample.Buffered d.evictStale.parts [3] 2 ∧
      (sample.run 2 [0, 2, 5]).2.map (·.firstSeq) = [5] ∧ ¬ sample.Buffered (sample.run 2 [0, 2, 5]).1.parts [3] 2 :=
  ⟨sample_span, by decide +kernel⟩

end Sender

end Pulsebeam.Framing
