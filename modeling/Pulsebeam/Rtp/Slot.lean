import Pulsebeam.Lib.Run
import Pulsebeam.Rtp.CacheInvariant
import Pulsebeam.Rtp.SwitcherSpec

/-! Runs of one subscriber slot: a switcher, the operations its owner calls, and everything it has emitted. -/

namespace Pulsebeam.Rtp

open Pulsebeam.Lib

variable {pushes : List (SourceEncoding × RtpPacket)}

namespace TrackStreamCache

def Fed (P : SourceEncoding → RtpPacket → Prop) (t : TrackStreamCache) : Prop :=
  ∀ entry ∈ t.encodings, StreamCache.Fed (P entry.1) entry.2

variable {P : SourceEncoding → RtpPacket → Prop} {t : TrackStreamCache} {e : SourceEncoding}

lemma fed_empty : Fed P ⟨[]⟩ := by
  intro entry h
  cases h

lemma Fed.encoding (h : Fed P t) {c : StreamCache} (hc : t.encoding e = some c) : StreamCache.Fed (P e) c := by
  obtain ⟨entry, hfind, rfl⟩ := Option.map_eq_some_iff.1 hc
  obtain rfl : entry.1 = e := by simpa using List.find?_some hfind
  exact h entry (List.mem_of_find?_eq_some hfind)

lemma Fed.withSlot (h : Fed P t) (e : SourceEncoding) : ∀ entry ∈ t.withSlot e, StreamCache.Fed (P entry.1) entry.2 := by
  intro entry hentry
  rw [TrackStreamCache.withSlot] at hentry
  split at hentry
  · exact h entry hentry
  rcases List.mem_append.1 hentry with hentry | hentry
  · exact h entry hentry
  · rw [List.mem_singleton.1 hentry]
    exact .new

lemma Fed.pushEncoding (h : Fed P t) {pkt : RtpPacket} (hp : P e pkt) : Fed P (t.pushEncoding e pkt).1 := by
  simp only [TrackStreamCache.pushEncoding]
  split
  next key cache hget =>
    have hkey : key = e := by
      obtain ⟨hlt, heq⟩ := List.getElem?_eq_some_iff.1 hget
      have hfound := List.findIdx_getElem (w := hlt)
      rw [heq] at hfound
      exact beq_iff_eq.1 hfound
    intro entry hentry
    rcases List.mem_or_eq_of_mem_set hentry with hentry | rfl
    · exact h.withSlot e entry hentry
    · exact (h.withSlot e _ (List.mem_of_getElem? hget)).push (hkey ▸ hp)
  · exact h

def pushAll (pushes : List (SourceEncoding × RtpPacket)) : TrackStreamCache :=
  pushes.foldl (fun t x => (t.pushEncoding x.1 x.2).1) ⟨[]⟩

lemma fed_foldl (h : Fed P t) (hp : ∀ x ∈ pushes, P x.1 x.2) :
    Fed P (pushes.foldl (fun t x => (t.pushEncoding x.1 x.2).1) t) := by
  induction pushes generalizing t with
  | nil => exact h
  | cons x pushes ih =>
    exact ih (h.pushEncoding (hp x List.mem_cons_self)) fun y hy => hp y (List.mem_cons_of_mem x hy)

lemma fed_pushAll (hp : ∀ x ∈ pushes, P x.1 x.2) : Fed P (pushAll pushes) := fed_foldl fed_empty hp

end TrackStreamCache

abbrev Streams := StreamId → RtpPacket → Prop

def Streams.OnePerNumber (S : Streams) : Prop := ∀ stream p q, S stream p → S stream q → p.seqNo = q.seqNo → p = q

def Streams.ofList (trackId : TrackId) (l : List (SourceEncoding × RtpPacket)) : Streams :=
  fun stream p => stream.1 = trackId ∧ (stream.2, p) ∈ l

variable {l : List (SourceEncoding × RtpPacket)} {trackId : TrackId}

lemma Streams.ofList_onePerNumber (h : ∀ x ∈ l, ∀ y ∈ l, x.1 = y.1 → x.2.seqNo = y.2.seqNo → x.2 = y.2) :
    (ofList trackId l).OnePerNumber :=
  fun _ _ _ hp hq hseq => h _ hp.2 _ hq.2 rfl hseq

lemma roleCache_fed {S : Streams} {role : Option StreamId} {cache : TrackStreamCache} {encoding : StreamCache}
    (hfed : cache.Fed fun e => S (trackId, e)) (h : Switcher.roleCache role trackId cache = some encoding) :
    ∃ stream, role = some stream ∧ StreamCache.Fed (S stream) encoding := by
  simp only [Switcher.roleCache] at h
  split at h
  next stream =>
    split at h
    next htrack =>
      subst htrack
      exact ⟨stream, rfl, hfed.encoding h⟩
    · cases h
  · cases h

structure Emission where
  packet : RtpPacket
  opensBurst : Bool

structure Slot where
  switcher : Switcher
  log : List Emission

inductive SlotOp
  | switchTo (target : StreamId)
  | stop
  | setDecodeTarget (target : DecodeTargetSelection)
  | feed (trackId : TrackId) (cache : TrackStreamCache) (now : Instant)

def burstEmissions : List RtpPacket → List Emission
  | [] => []
  | first :: rest => ⟨first, true⟩ :: rest.map (⟨·, false⟩)

def Switcher.FeedOutput.emissions (o : Switcher.FeedOutput) : List Emission :=
  (o.pulled ++ o.drained).map (⟨·, false⟩) ++ burstEmissions o.burst

lemma map_packet_burstEmissions (l : List RtpPacket) : (burstEmissions l).map (·.packet) = l := by
  cases l with
  | nil => rfl
  | cons p l => simp [burstEmissions, Function.comp_def]

namespace Switcher

def plain (l : List RtpPacket) : List Emission := l.map (⟨·, false⟩)

lemma map_packet_plain (l : List RtpPacket) : (plain l).map (·.packet) = l := by
  simp [plain, Function.comp_def]

def Within (B : RtpPacket → Prop) (log : List Emission) : Prop := ∀ p ∈ log.map (·.packet), B p

def Gives (B : RtpPacket → Prop) (J : Switcher → List Emission → Prop) (log : List Emission)
    (r : Switcher × List RtpPacket) : Prop :=
  Within B (log ++ plain r.2) → J r.1 (log ++ plain r.2)

variable {B : RtpPacket → Prop} {J : Switcher → List Emission → Prop} {s : Switcher} {log log' : List Emission}

lemma Within.left (h : Within B (log ++ log')) : Within B log := fun p hp => by
  obtain ⟨e, he, rfl⟩ := List.mem_map.1 hp
  exact h _ (List.mem_map_of_mem (List.mem_append_left log' he))

lemma Within.packets {l : List RtpPacket} (h : Within B (log ++ plain l)) : ∀ p ∈ log.map (·.packet) ++ l, B p := by
  rwa [Within, List.map_append, map_packet_plain] at h

lemma gives_packets {I : Switcher → List RtpPacket → Prop} {r : Switcher × List RtpPacket}
    (h : (∀ p ∈ log.map (·.packet) ++ r.2, B p) → I r.1 (log.map (·.packet) ++ r.2)) :
    Gives B (fun s log => I s (log.map (·.packet))) log r := fun hB => by
  have hI := h hB.packets
  rwa [← map_packet_plain r.2, ← List.map_append] at hI

lemma gives_nil (h : J s log) : Gives B J log (s, []) := fun _ => by simpa [plain] using h

/-- What one turn of an emitting loop keeps of the log so far and of the items still to come, the loop keeps. -/
lemma emitEach_rule {α : Type} {body : Switcher → α → Switcher × List RtpPacket}
    {I : Switcher → List Emission → List α → Prop} {l : List α}
    (hstep : ∀ s log a l, I s log (a :: l) → Gives B (I · · l) log (body s a)) (h : I s log l) :
    Gives B (I · · []) log (emitEach body s l) := by
  induction l generalizing s log with
  | nil => exact gives_nil h
  | cons a l ih =>
    simp only [emitEach, Gives, plain, List.map_append, ← List.append_assoc]
    exact fun hB => ih (hstep s log a l h hB.left) hB

end Switcher

namespace Slot

def step (slot : Slot) : SlotOp → Slot
  | .switchTo target => { slot with switcher := slot.switcher.switchTo target }
  | .stop => { slot with switcher := slot.switcher.stop }
  | .setDecodeTarget target => { slot with switcher := slot.switcher.setDecodeTarget target }
  | .feed trackId cache now =>
    let (switcher, out) := slot.switcher.feed trackId cache now
    ⟨switcher, slot.log ++ out.emissions⟩

def packets (slot : Slot) : List RtpPacket := slot.log.map (·.packet)

def run (slot : Slot) (ops : List SlotOp) : Slot := ops.foldl step slot

def Feasible (S : Streams) : SlotOp → Prop
  | .feed trackId cache _ => cache.Fed fun e => S (trackId, e)
  | _ => True

@[simp] lemma feasible_switchTo {S : Streams} {target : StreamId} : Feasible S (.switchTo target) := trivial

@[simp] lemma feasible_setDecodeTarget {S : Streams} {target : DecodeTargetSelection} :
    Feasible S (.setDecodeTarget target) :=
  trivial

lemma feasible_pushAll {now : Instant} (h : ∀ x ∈ pushes, x ∈ l) :
    Feasible (Streams.ofList trackId l) (.feed trackId (TrackStreamCache.pushAll pushes) now) := by
  change TrackStreamCache.Fed (fun e => Streams.ofList trackId l _) _
  exact TrackStreamCache.fed_pushAll fun x hx => ⟨rfl, h x hx⟩

def machine (S : Streams) (rate : Frequency) (bound : RtpPacket → Prop) (cond : Switcher → SlotOp → Prop) :
    Machine Slot SlotOp where
  init slot := ∃ base < 2 ^ 16, slot = ⟨Switcher.new rate base, []⟩
  guard slot op := Feasible S op ∧ (∀ p ∈ (slot.step op).packets, bound p) ∧ cond slot.switcher op
  step := step

lemma map_packet_emissions (o : Switcher.FeedOutput) : o.emissions.map (·.packet) = o.all := by
  simp [Switcher.FeedOutput.emissions, Switcher.FeedOutput.all, map_packet_burstEmissions, Function.comp_def]

@[simp] lemma packets_feed (slot : Slot) (trackId : TrackId) (cache : TrackStreamCache) (now : Instant) :
    (slot.step (.feed trackId cache now)).packets = slot.packets ++ (slot.switcher.feed trackId cache now).2.all := by
  simp only [step, packets, List.map_append, map_packet_emissions]

lemma packets_prefix_step (slot : Slot) (op : SlotOp) : slot.packets <+: (slot.step op).packets := by
  cases op with
  | feed trackId cache now =>
    rw [packets_feed]
    exact List.prefix_append _ _
  | _ => exact List.prefix_rfl

lemma packets_prefix_run (slot : Slot) (ops : List SlotOp) : slot.packets <+: (slot.run ops).packets := by
  induction ops generalizing slot with
  | nil => exact List.prefix_rfl
  | cons op ops ih => exact (packets_prefix_step slot op).trans (ih _)

def OnFeed (cond : Switcher → TrackId → TrackStreamCache → Instant → Prop) (s : Switcher) : SlotOp → Prop
  | .feed trackId cache now => cond s trackId cache now
  | _ => True

instance OnFeed.decidable (cond : Switcher → TrackId → TrackStreamCache → Instant → Prop)
    [∀ s t c n, Decidable (cond s t c n)] (s : Switcher) : ∀ op, Decidable (OnFeed cond s op)
  | .feed trackId cache now => inferInstanceAs (Decidable (cond s trackId cache now))
  | .switchTo _ => .isTrue trivial
  | .stop => .isTrue trivial
  | .setDecodeTarget _ => .isTrue trivial

def Along (cond : Switcher → SlotOp → Prop) : Slot → List SlotOp → Prop
  | _, [] => True
  | slot, op :: ops => cond slot.switcher op ∧ Along cond (slot.step op) ops

instance Along.decidable (cond : Switcher → SlotOp → Prop) [∀ s op, Decidable (cond s op)] :
    ∀ slot ops, Decidable (Along cond slot ops)
  | _, [] => .isTrue trivial
  | slot, op :: ops => by
    haveI := Along.decidable cond (slot.step op) ops
    exact inferInstanceAs (Decidable (_ ∧ _))

lemma along_true (slot : Slot) (ops : List SlotOp) : Along (fun _ _ => True) slot ops := by
  induction ops generalizing slot with
  | nil => trivial
  | cons op ops ih => exact ⟨trivial, ih _⟩

variable {ops : List SlotOp} {slot : Slot}

lemma Along.mono {c d : Switcher → SlotOp → Prop} (hcd : ∀ s op, c s op → d s op)
    (h : Along c slot ops) : Along d slot ops := by
  induction ops generalizing slot with
  | nil => trivial
  | cons op ops ih => exact ⟨hcd _ _ h.1, ih h.2⟩

lemma reachable_run {S : Streams} {rate : Frequency} {bound : RtpPacket → Prop}
    {cond : Switcher → SlotOp → Prop} (hslot : (machine S rate bound cond).Reachable slot)
    (hops : ∀ op ∈ ops, Feasible S op) (hbound : ∀ p ∈ (slot.run ops).packets, bound p) (hcond : Along cond slot ops) :
    (machine S rate bound cond).Reachable (slot.run ops) := by
  induction ops generalizing slot with
  | nil => exact hslot
  | cons op ops ih =>
    have hnext : ∀ p ∈ (slot.step op).packets, bound p := fun p hp =>
      hbound p ((packets_prefix_run _ ops).subset hp)
    exact ih (.step op hslot ⟨hops op List.mem_cons_self, hnext, hcond.1⟩)
      (fun op' hop => hops op' (List.mem_cons_of_mem op hop)) hbound hcond.2

end Slot

end Pulsebeam.Rtp
