import Pulsebeam.Lib.Run
import Pulsebeam.Lib.Word
import Pulsebeam.Track

/-! One hop between shards: how a track numbers the frames it sends to other shards, and how the route at the far end counts
the frames it misses. -/

namespace Pulsebeam.Shard

open Pulsebeam.Lib List Option Nat Finset

structure RouteStats where
  received : ℕ := 0
  lost : ℕ := 0
  reordered : ℕ := 0
  duplicated : ℕ := 0

structure RouteRuntimeEntry where
  lastLinkSeq : Option ℕ := none
  stats : RouteStats := {}

def RouteRuntimeEntry.observe (e : RouteRuntimeEntry) (linkSeq : ℕ) : RouteRuntimeEntry :=
  let stats := { e.stats with received := Word.saturatingAdd 64 e.stats.received 1 }
  match e.lastLinkSeq with
  | none => ⟨some linkSeq, stats⟩
  | some last =>
    let delta := Word.signedSub 32 linkSeq last
    if delta = 0 then ⟨some last, { stats with duplicated := Word.saturatingAdd 64 stats.duplicated 1 }⟩
    else if 0 < delta then
      ⟨some linkSeq, { stats with lost := Word.saturatingAdd 64 stats.lost (delta.natAbs - 1) }⟩
    else
      -- The gap of a late frame was counted when a newer one passed it.
      ⟨some last, { stats with
        reordered := Word.saturatingAdd 64 stats.reordered 1
        lost := stats.lost - 1 }⟩

inductive Origin
  | local
  | remote
  deriving DecidableEq

/-- An RTP packet may come from a source that the cache of its track does not know. -/
inductive TrackPacket
  | rtp (known : Bool)
  | data

structure TrackRuntime where
  cached : Bool
  linkSeq : ℕ

structure Frame where
  address : NodeRouteAddress
  linkSeq : ℕ

def fanoutRemote : List NodeRouteAddress → ℕ → List Frame × ℕ
  | [], linkSeq => ([], linkSeq)
  | remote :: rest, linkSeq =>
    let (frames, next) := fanoutRemote rest (Word.wrappingAdd 32 linkSeq 1)
    (⟨remote, linkSeq⟩ :: frames, next)

namespace TrackRuntime

def drops (t : TrackRuntime) : TrackPacket → Bool
  | .rtp known => t.cached && !known
  | .data => false

def routePacketWithPlan (t : TrackRuntime) (origin : Origin) (packet : TrackPacket) (remote : List NodeRouteAddress) :
    TrackRuntime × List Frame :=
  if t.drops packet then (t, [])
  else
    match origin with
    | .remote => (t, [])
    | .local =>
      let (frames, linkSeq) := fanoutRemote remote t.linkSeq
      ({ t with linkSeq := linkSeq }, frames)

end TrackRuntime

structure Hop where
  runtime : TrackRuntime
  sent : List Frame := []
  entry : RouteRuntimeEntry := {}
  delivered : List ℕ := []

namespace Hop

inductive Op
  | route (origin : Origin) (packet : TrackPacket) (remote : List NodeRouteAddress)
  | deliver (frame : ℕ)

def route (h : Hop) (origin : Origin) (packet : TrackPacket) (remote : List NodeRouteAddress) : Hop :=
  let routed := h.runtime.routePacketWithPlan origin packet remote
  { h with runtime := routed.1, sent := h.sent ++ routed.2 }

def deliver (h : Hop) (i : ℕ) : Hop :=
  match h.sent[i]? with
  | none => h
  | some frame => { h with entry := h.entry.observe frame.linkSeq, delivered := h.delivered ++ [i] }

def step (h : Hop) : Op → Hop
  | .route origin packet remote => h.route origin packet remote
  | .deliver i => h.deliver i

def Addressed (h : Hop) (route : NodeRouteAddress) (i : ℕ) : Prop := h.sent[i]?.map (·.address) = some route

instance (h : Hop) (route : NodeRouteAddress) : DecidablePred (h.Addressed route) := fun _ => by
  unfold Addressed
  infer_instance

def Newest (h : Hop) (n : ℕ) : Prop := n ∈ h.delivered ∧ ∀ i ∈ h.delivered, i ≤ n

/-- Frames may be lost or overtaken, but are not repeated, and none is too far from the newest. -/
def Carries (route : NodeRouteAddress) (h : Hop) : Op → Prop
  | .route .. => True
  | .deliver i => h.Addressed route i ∧ i ∉ h.delivered ∧
      ∀ n ∈ h.delivered, (∀ j ∈ h.delivered, j ≤ n) → i < n + 2 ^ 31 ∧ n < i + 2 ^ 31

def Unmixed (h : Hop) (route : NodeRouteAddress) : Prop :=
  ∀ k < h.sent.length, ∀ j < k, ∀ i < j, h.Addressed route i → h.Addressed route k → h.Addressed route j

def NotBefore (h : Hop) : Op → Prop
  | .route .. => True
  | .deliver i => ∀ first ∈ h.delivered.head?, first ≤ i

def Alone (route : NodeRouteAddress) (h : Hop) (op : Op) : Prop :=
  (h.step op).Unmixed route ∧ (h.step op).sent.length < 2 ^ 64 ∧ h.NotBefore op

instance (route : NodeRouteAddress) (h : Hop) (op : Op) : Decidable (Carries route h op) :=
  match op with
  | .route .. => inferInstanceAs (Decidable True)
  | .deliver _ => inferInstanceAs (Decidable (_ ∧ _ ∧ _))

instance (h : Hop) (op : Op) : Decidable (h.NotBefore op) :=
  match op with
  | .route .. => inferInstanceAs (Decidable True)
  | .deliver i => inferInstanceAs (Decidable (∀ first ∈ h.delivered.head?, first ≤ i))

instance (h : Hop) (route : NodeRouteAddress) : Decidable (h.Unmixed route) :=
  inferInstanceAs (Decidable (∀ k < h.sent.length, _))

instance (route : NodeRouteAddress) (h : Hop) (op : Op) : Decidable (Alone route h op) :=
  inferInstanceAs (Decidable (_ ∧ _ ∧ _))

def machine (route : NodeRouteAddress) (condition : Hop → Op → Prop) : Machine Hop Op where
  init h := ∃ runtime : TrackRuntime, runtime.linkSeq < 2 ^ 32 ∧ h = { runtime := runtime }
  guard h op := Carries route h op ∧ condition h op
  step := step

instance {condition : Hop → Op → Prop} [∀ h op, Decidable (condition h op)] (route : NodeRouteAddress) (h : Hop) (op : Op) :
    Decidable ((machine route condition).guard h op) :=
  inferInstanceAs (Decidable (Carries route h op ∧ condition h op))

variable {start : ℕ}

section Numbering

lemma fanoutRemote_spec {remote : List NodeRouteAddress} {seq : ℕ} (hseq : seq < 2 ^ 32) :
    (fanoutRemote remote seq).1.map (·.address) = remote ∧
    (fanoutRemote remote seq).2 = (seq + remote.length) % 2 ^ 32 ∧
    ∀ i f, (fanoutRemote remote seq).1[i]? = some f → f.linkSeq = (seq + i) % 2 ^ 32 := by
  induction remote generalizing seq with
  | nil => exact ⟨rfl, (mod_eq_of_lt hseq).symm, by simp [fanoutRemote]⟩
  | cons r rest ih =>
    have hnext : Word.wrappingAdd 32 seq 1 = (seq + 1) % 2 ^ 32 := Word.wrappingAdd_eq_mod ..
    have hlt : Word.wrappingAdd 32 seq 1 < 2 ^ 32 := hnext ▸ mod_lt _ (by decide)
    obtain ⟨haddr, hend, hnum⟩ := ih hlt
    refine ⟨?_, ?_, ?_⟩
    · simp [fanoutRemote, haddr]
    · rw [fanoutRemote, hend, length_cons]
      omega
    · intro i f hf
      cases i with
      | zero =>
        simp only [fanoutRemote, getElem?_cons_zero, Option.some.injEq] at hf
        rw [← hf, add_zero, mod_eq_of_lt hseq]
      | succ i =>
        rw [hnum i f hf]
        omega

structure Numbered (start : ℕ) (h : Hop) : Prop where
  next : h.runtime.linkSeq = (start + h.sent.length) % 2 ^ 32
  frame : ∀ i f, h.sent[i]? = some f → f.linkSeq = (start + i) % 2 ^ 32

variable {h : Hop}

lemma Numbered.append (hn : Numbered start h) {runtime : TrackRuntime} {frames : List Frame}
    (hnext : runtime.linkSeq = (h.runtime.linkSeq + frames.length) % 2 ^ 32)
    (hframe : ∀ i f, frames[i]? = some f → f.linkSeq = (h.runtime.linkSeq + i) % 2 ^ 32) :
    Numbered start { h with runtime := runtime, sent := h.sent ++ frames } := by
  refine ⟨?_, ?_⟩
  · rw [hnext, hn.next, length_append]
    omega
  · intro i f hf
    rw [getElem?_append] at hf
    split at hf
    · exact hn.frame i f hf
    · rw [hframe _ f hf, hn.next]
      omega

lemma Numbered.route (hn : Numbered start h) (origin : Origin) (packet : TrackPacket)
    (remote : List NodeRouteAddress) : Numbered start (h.route origin packet remote) := by
  have hlt : h.runtime.linkSeq < 2 ^ 32 := by
    rw [hn.next]
    exact mod_lt _ (by decide)
  have hidle : Numbered start { h with runtime := h.runtime, sent := h.sent ++ [] } :=
    hn.append (by simpa using (mod_eq_of_lt hlt).symm) (by simp)
  unfold Hop.route TrackRuntime.routePacketWithPlan
  split
  · exact hidle
  split
  · exact hidle
  obtain ⟨haddr, hend, hnum⟩ := fanoutRemote_spec hlt
  refine hn.append ?_ hnum
  rw [← length_map, haddr]
  exact hend

lemma Numbered.deliver (hn : Numbered start h) (i : ℕ) : Numbered start (h.deliver i) := by
  unfold Hop.deliver
  split
  · exact hn
  · exact ⟨hn.next, hn.frame⟩

end Numbering

variable {h : Hop} {address : NodeRouteAddress} {first newest i : ℕ} {frame : Frame}

structure Tallied (start first newest : ℕ) (h : Hop) : Prop where
  head : h.delivered.head? = some first
  top : h.Newest newest
  lower : ∀ i ∈ h.delivered, first ≤ i
  nodup : h.delivered.Nodup
  last : h.entry.lastLinkSeq = some ((start + newest) % 2 ^ 32)
  lost : h.entry.stats.lost + h.delivered.length = newest + 1 - first
  duplicated : h.entry.stats.duplicated = 0
  reordered : h.delivered.Pairwise (· < ·) → h.entry.stats.reordered = 0

lemma Tallied.lost_pos (ht : Tallied start first newest h) (hi : i ∉ h.delivered) (hlow : first ≤ i)
    (hhigh : i ≤ newest) : 0 < h.entry.stats.lost := by
  have hsub : (i :: h.delivered).toFinset ⊆ Finset.Icc first newest := by
    intro j hj
    rw [List.mem_toFinset, List.mem_cons] at hj
    rw [mem_Icc]
    rcases hj with rfl | hj
    · exact ⟨hlow, hhigh⟩
    · exact ⟨ht.lower j hj, ht.top.2 j hj⟩
  have hcard := card_le_card hsub
  rw [toFinset_card_of_nodup (nodup_cons.2 ⟨hi, ht.nodup⟩), length_cons, card_Icc] at hcard
  have := ht.lost
  omega

lemma signedSub_linkSeq (start : ℕ) {n : ℕ} (hlow : n < i + 2 ^ 31) (hhigh : i < n + 2 ^ 31) :
    Word.signedSub 32 ((start + i) % 2 ^ 32) ((start + n) % 2 ^ 32) = (i : ℤ) - n := by
  have h := @Word.signedSub_eq 31 ((start + i) % 2 ^ 32) ((start + n) % 2 ^ 32) _ _
    (by push_cast; exact Int.mod_modEq _ _) (by push_cast; exact Int.mod_modEq _ _) (by omega) (by omega)
  rw [h]
  omega

lemma Tallied.deliver (ht : Tallied start first newest h) (hframe : frame.linkSeq = (start + i) % 2 ^ 32)
    (hi : i ∉ h.delivered) (hlow : first ≤ i) (hnear : i < newest + 2 ^ 31 ∧ newest < i + 2 ^ 31) (hlt : i < 2 ^ 64) :
    Tallied start first (max newest i)
      { h with entry := h.entry.observe frame.linkSeq, delivered := h.delivered ++ [i] } := by
  have hmax : Word.max 64 = 2 ^ 64 - 1 := rfl
  have hdelta := signedSub_linkSeq start hnear.2 hnear.1
  have hne : i ≠ newest := fun heq => hi (heq ▸ ht.top.1)
  have hmem := ht.lower newest ht.top.1
  have hlost := ht.lost
  have hhead : (h.delivered ++ [i]).head? = some first := by rw [head?_append, ht.head]; rfl
  have hnodup : (h.delivered ++ [i]).Nodup :=
    List.nodup_append.2 ⟨ht.nodup, List.nodup_singleton _, fun a ha b hb hab => hi (List.mem_singleton.1 hb ▸ hab ▸ ha)⟩
  have hlower : ∀ j ∈ h.delivered ++ [i], first ≤ j := by
    intro j hj
    rcases mem_append.1 hj with hj | hj
    · exact ht.lower j hj
    · exact (List.mem_singleton.1 hj) ▸ hlow
  have htop : ∀ j ∈ h.delivered ++ [i], j ≤ max newest i := by
    intro j hj
    rcases mem_append.1 hj with hj | hj
    · exact (ht.top.2 j hj).trans (le_max_left _ _)
    · exact (List.mem_singleton.1 hj) ▸ le_max_right _ _
  have hpair : (h.delivered ++ [i]).Pairwise (· < ·) → h.delivered.Pairwise (· < ·) ∧ newest < i := by
    intro hp
    obtain ⟨hp, _, hlast⟩ := pairwise_append.1 hp
    exact ⟨hp, hlast newest ht.top.1 i (List.mem_singleton_self i)⟩
  unfold RouteRuntimeEntry.observe
  rw [hframe, ht.last]
  dsimp only
  rw [if_neg (by omega)]
  rcases lt_or_gt_of_ne hne with hlate | hnew
  · have hpos := ht.lost_pos hi hlow hlate.le
    rw [if_neg (by omega), max_eq_left hlate.le]
    rw [max_eq_left hlate.le] at htop
    refine ⟨hhead, ⟨mem_append_left _ ht.top.1, htop⟩, hlower, hnodup, rfl, ?_, ht.duplicated, ?_⟩
    · rw [length_append, length_singleton]
      dsimp only
      omega
    · intro hp
      exact absurd (hpair hp).2 (by omega)
  · rw [if_pos (by omega), max_eq_right hnew.le]
    rw [max_eq_right hnew.le] at htop
    refine ⟨hhead, ⟨List.mem_append_right _ (List.mem_singleton_self i), htop⟩, hlower, hnodup, rfl, ?_,
      ht.duplicated, fun hp => ht.reordered (hpair hp).1⟩
    rw [length_append, length_singleton]
    dsimp only [Word.saturatingAdd]
    omega

lemma tallied_first (hframe : frame.linkSeq = (start + i) % 2 ^ 32) (hnil : h.delivered = []) (hentry : h.entry = {}) :
    Tallied start i i { h with entry := h.entry.observe frame.linkSeq, delivered := h.delivered ++ [i] } := by
  rw [hnil, hentry]
  refine ⟨rfl, ⟨List.mem_singleton_self i, by simp⟩, by simp, List.nodup_singleton i, ?_, ?_, rfl, fun _ => rfl⟩
  · exact congrArg some hframe
  · change 0 + 1 = i + 1 - i
    omega

structure Counted (start : ℕ) (route : NodeRouteAddress) (h : Hop) : Prop where
  numbered : Numbered start h
  tally : (h.delivered = [] ∧ h.entry = {}) ∨ ∃ first newest, Tallied start first newest h
  addressed : ∀ i ∈ h.delivered, h.Addressed route i
  unmixed : h.Unmixed route

lemma Addressed.route {route : NodeRouteAddress} (ha : h.Addressed route i) (origin : Origin) (packet : TrackPacket)
    (remote : List NodeRouteAddress) : (h.route origin packet remote).Addressed route i := by
  obtain ⟨f, hf, haddr⟩ := Option.map_eq_some_iff.1 ha
  have hlt := (List.getElem?_eq_some_iff.1 hf).1
  unfold Addressed Hop.route
  rw [List.getElem?_append_left hlt, hf, ← haddr]
  rfl

lemma Counted.step {route : NodeRouteAddress} (hc : Counted start route h) {op : Op} (hg : Carries route h op)
    (ha : Alone route h op) : Counted start route (h.step op) := by
  obtain ⟨hunmixed, hlen, hlow⟩ := ha
  cases op with
  | route origin packet remote =>
    refine ⟨hc.numbered.route origin packet remote, ?_, fun i hi => (hc.addressed i hi).route origin packet remote,
      hunmixed⟩
    rcases hc.tally with hnil | ⟨first, newest, ht⟩
    · exact .inl hnil
    · exact .inr ⟨first, newest, ht.head, ht.top, ht.lower, ht.nodup, ht.last, ht.lost, ht.duplicated, ht.reordered⟩
  | deliver i =>
    obtain ⟨haddr, hnew, hnear⟩ := hg
    obtain ⟨f, hf, hroute⟩ := map_eq_some_iff.1 haddr
    have hstep : h.step (.deliver i) = { h with entry := h.entry.observe f.linkSeq, delivered := h.delivered ++ [i] } := by
      change h.deliver i = _
      rw [Hop.deliver, hf]
    have hnum := hc.numbered.frame i f hf
    have hlt : i < 2 ^ 64 := by
      rw [hstep] at hlen
      exact (List.getElem?_eq_some_iff.1 hf).1.trans hlen
    refine ⟨hc.numbered.deliver i, ?_, ?_, hunmixed⟩
    · rw [hstep]
      rcases hc.tally with ⟨hnil, hentry⟩ | ⟨first, newest, ht⟩
      · exact .inr ⟨i, i, tallied_first hnum hnil hentry⟩
      · exact .inr ⟨first, _, ht.deliver hnum hnew (hlow first ht.head) (hnear newest ht.top.1 ht.top.2) hlt⟩
    · rw [hstep]
      intro j hj
      rcases mem_append.1 hj with hj | hj
      · exact hc.addressed j hj
      · exact (List.mem_singleton.1 hj) ▸ haddr

lemma counted {route : NodeRouteAddress} (hr : (machine route (Alone route)).Reachable h) :
    ∃ start, Counted start route h := by
  refine hr.invariant (I := fun h => ∃ start, Counted start route h) ?_ ?_
  · rintro _ ⟨runtime, hlt, rfl⟩
    refine ⟨runtime.linkSeq, ⟨?_, by simp⟩, .inl ⟨rfl, rfl⟩, by simp, ?_⟩
    · exact (mod_eq_of_lt hlt).symm
    · intro k hk
      cases hk
  · rintro h op ⟨start, hc⟩ hg
    exact ⟨start, hc.step hg.1 hg.2⟩

lemma Counted.addressed_between {route : NodeRouteAddress} (hc : Counted start route h)
    (ht : Tallied start first newest h) (hlow : first ≤ i) (hhigh : i ≤ newest) : h.Addressed route i := by
  have hfirst : h.Addressed route first := hc.addressed first (mem_of_mem_head? ht.head)
  have hnewest := hc.addressed newest ht.top.1
  obtain ⟨f, hf, _⟩ := map_eq_some_iff.1 hnewest
  rcases lt_or_eq_of_le hlow with hlt | rfl
  · rcases lt_or_eq_of_le hhigh with hlt' | rfl
    · exact hc.unmixed newest (List.getElem?_eq_some_iff.1 hf).1 i hlt' first hlt hfirst hnewest
    · exact hnewest
  · exact hfirst

def missing (h : Hop) (route : NodeRouteAddress) (first newest : ℕ) : Finset ℕ :=
  (Finset.Icc first newest).filter fun i => h.Addressed route i ∧ i ∉ h.delivered

lemma Counted.lost_eq {route : NodeRouteAddress} (hc : Counted start route h) (ht : Tallied start first newest h) :
    h.entry.stats.lost = (h.missing route first newest).card := by
  have hset : h.missing route first newest = Finset.Icc first newest \ h.delivered.toFinset := by
    ext i
    rw [missing, Finset.mem_filter, Finset.mem_sdiff, List.mem_toFinset]
    constructor
    · exact fun ⟨hi, _, hnot⟩ => ⟨hi, hnot⟩
    · intro ⟨hi, hnot⟩
      have hb := mem_Icc.1 hi
      exact ⟨hi, hc.addressed_between ht hb.1 hb.2, hnot⟩
  have hsub : h.delivered.toFinset ⊆ Finset.Icc first newest := by
    intro j hj
    rw [List.mem_toFinset] at hj
    exact mem_Icc.2 ⟨ht.lower j hj, ht.top.2 j hj⟩
  have hlost := ht.lost
  rw [hset, card_sdiff_of_subset hsub, card_Icc, toFinset_card_of_nodup ht.nodup]
  omega

/-- As long as a track sends to one route at a time and nothing arrives from before the first frame that did, the route
counts exactly the frames it misses, and none if all arrive in order. -/
theorem lost_eq_missing {route : NodeRouteAddress} (hr : (machine route (Alone route)).Reachable h) :
    (h.delivered <+: (List.range h.sent.length).filter (fun i => h.Addressed route i) →
      h.entry.stats.lost = 0 ∧ h.entry.stats.reordered = 0 ∧ h.entry.stats.duplicated = 0) ∧
    ∀ first newest, h.delivered.head? = some first → h.Newest newest →
      h.entry.stats.lost = (h.missing route first newest).card := by
  obtain ⟨start, hc⟩ := counted hr
  refine ⟨fun hprefix => ?_, fun first newest hfirst hnewest => ?_⟩
  · rcases hc.tally with ⟨_, hentry⟩ | ⟨first, newest, ht⟩
    · rw [hentry]
      exact ⟨rfl, rfl, rfl⟩
    obtain ⟨rest, hrest⟩ := hprefix
    have hsorted : (h.delivered ++ rest).Pairwise (· < ·) := hrest ▸ pairwise_lt_range.filter _
    obtain ⟨hinc, _, hafter⟩ := pairwise_append.1 hsorted
    refine ⟨?_, ht.reordered hinc, ht.duplicated⟩
    rw [hc.lost_eq ht, Finset.card_eq_zero, missing, filter_eq_empty_iff]
    rintro i hi ⟨haddr, hnot⟩
    obtain ⟨f, hf, _⟩ := map_eq_some_iff.1 haddr
    have hmem : i ∈ h.delivered ++ rest := by
      rw [hrest, List.mem_filter, List.mem_range]
      exact ⟨(List.getElem?_eq_some_iff.1 hf).1, decide_eq_true haddr⟩
    have hlate := hafter newest ht.top.1 i ((mem_append.1 hmem).resolve_left hnot)
    exact absurd (mem_Icc.1 hi).2 (by omega)
  · rcases hc.tally with ⟨hnil, _⟩ | ⟨first', newest', ht⟩
    · rw [hnil] at hfirst
      cases hfirst
    cases hfirst.symm.trans ht.head
    obtain rfl : newest = newest' := le_antisymm (ht.top.2 _ hnewest.1) (hnewest.2 _ ht.top.1)
    exact hc.lost_eq ht

section Runs

def near : NodeRouteAddress := ⟨1, 0, 0⟩

def far : NodeRouteAddress := ⟨2, 0, 0⟩

def fresh : Hop := { runtime := ⟨false, 0⟩ }

def sends (remote : List NodeRouteAddress) : Op := .route .local .data remote

lemma reachable_run {condition : Hop → Op → Prop} {route : NodeRouteAddress} {ops : List Op}
    (h : (machine route condition).Admits fresh ops) : (machine route condition).Reachable (ops.foldl step fresh) :=
  Machine.Reachable.run (.init ⟨⟨false, 0⟩, by decide, rfl⟩) h

def gappy : List Op := [sends [near], sends [near], sends [near], .deliver 0, .deliver 2]

theorem lost_eq_missing_gappy : (machine near (Alone near)).Reachable (gappy.foldl step fresh) ∧
    (gappy.foldl step fresh).entry.stats.lost = ((gappy.foldl step fresh).missing near 0 2).card ∧
    1 ∈ (gappy.foldl step fresh).missing near 0 2 := by
  have hreach : (machine near (Alone near)).Reachable (gappy.foldl step fresh) := reachable_run (by decide +kernel)
  have hdel : (gappy.foldl step fresh).delivered = [0, 2] := by decide +kernel
  refine ⟨hreach, (lost_eq_missing hreach).2 0 2 (by rw [hdel]; rfl) ?_, by decide +kernel⟩
  unfold Newest
  decide

def doubled : List Op := [sends [near, far], sends [near, far], .deliver 0, .deliver 2]

def overtaken : List Op := [sends [near], sends [near], sends [near], sends [near], .deliver 1, .deliver 3, .deliver 0]

/-- Another route has a share in the numbers; a frame from before the first makes up for one still missing. -/
theorem lost_miscounts :
    ((machine near fun _ _ => True).Reachable (doubled.foldl step fresh) ∧
      (doubled.foldl step fresh).delivered = (List.range (doubled.foldl step fresh).sent.length).filter
        (fun i => (doubled.foldl step fresh).Addressed near i) ∧
      (doubled.foldl step fresh).entry.stats.lost = 1) ∧
    (machine near fun _ _ => True).Reachable (overtaken.foldl step fresh) ∧
      (overtaken.foldl step fresh).delivered = [1, 3, 0] ∧ (overtaken.foldl step fresh).entry.stats.lost = 0 ∧
      2 ∈ (overtaken.foldl step fresh).missing near 1 3 := by
  exact ⟨⟨reachable_run (by decide +kernel), by decide +kernel, by decide +kernel⟩, reachable_run (by decide +kernel),
    by decide +kernel, by decide +kernel, by decide +kernel⟩

end Runs

end Hop

end Pulsebeam.Shard
