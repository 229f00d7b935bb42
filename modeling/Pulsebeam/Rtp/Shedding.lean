import Pulsebeam.Rtp.UniqueOutput

/-! Layer shedding: what the active stream gives out while one decode target is selected, over whole runs of a slot. -/

namespace Pulsebeam.Rtp

open Pulsebeam.Lib

def RtpPacket.InTarget (dt : ℕ) (p : RtpPacket) : Prop :=
  ∀ dd ∈ p.extVals.dependencyDescriptor, dd.isInDecodeTarget dt = true

instance (dt : ℕ) (p : RtpPacket) : Decidable (p.InTarget dt) :=
  inferInstanceAs (Decidable (∀ dd ∈ p.extVals.dependencyDescriptor, dd.isInDecodeTarget dt = true))

def DecodeTargetSelection.Covers : DecodeTargetSelection → RtpPacket → Prop
  | .full, _ => True
  | .target dt, p => p.InTarget dt

instance (p : RtpPacket) : (selection : DecodeTargetSelection) → Decidable (selection.Covers p)
  | .full => .isTrue trivial
  | .target dt => inferInstanceAs (Decidable (p.InTarget dt))

variable {dt base : ℕ} {pkt : RtpPacket}

lemma inTarget_of_decide (h : (DecodeTargetSelection.target dt).decide pkt = .forward) : pkt.InTarget dt := by
  intro dd hdd
  by_contra hnot
  simp [DecodeTargetSelection.decide, DecodeTargetSelection.keep, Option.mem_def.1 hdd, hnot] at h

lemma inTarget_translateDdFrame : (Timeline.translateDdFrame pkt base).InTarget dt ↔ pkt.InTarget dt := by
  rw [Timeline.translateDdFrame]
  split
  · rfl
  split
  · rfl
  next dd hdd => simp [RtpPacket.InTarget, hdd, DependencyDescriptor.isInDecodeTarget]

namespace Switcher

variable {s : Switcher} {cache : StreamCache}

lemma inTarget_emitRewritten (s : Switcher) : (s.emitRewritten pkt).2.InTarget dt ↔ pkt.InTarget dt := by
  change ((s.timeline.applyDd pkt).2).InTarget dt ↔ _
  rw [Timeline.applyDd]
  split
  · rfl
  · exact inTarget_translateDdFrame

lemma inTarget_pullPacket (hs : s.selector = .target dt) :
    (s.pullPacket pkt).1.selector = .target dt ∧ ∀ out ∈ (s.pullPacket pkt).2, out.InTarget dt := by
  have hsel : (s.recordInputHoles pkt.seqNo).selector = .target dt := (recordInputHoles_same s _).1.selector.trans hs
  rw [pullPacket]
  split
  · exact ⟨hs, by simp⟩
  dsimp only
  split
  · exact ⟨(shed_same _).selector.trans hsel, by simp⟩
  next hforward =>
    refine ⟨(breakSequence_same _ pkt).selector.trans hsel, fun out hout => ?_⟩
    rw [List.mem_singleton.1 hout, inTarget_emitRewritten]
    exact inTarget_of_decide (hsel ▸ hforward)

lemma inTarget_emitEach_pullPacket (hs : s.selector = .target dt) (l : List RtpPacket) :
    ∀ out ∈ (emitEach pullPacket s l).2, out.InTarget dt := by
  induction l generalizing s with
  | nil => exact nofun
  | cons pkt l ih =>
    obtain ⟨hs', hout⟩ := @inTarget_pullPacket dt pkt s hs
    intro out hmem
    rcases List.mem_append.1 hmem with h | h
    · exact hout out h
    · exact ih hs' out h

lemma inTarget_emitEach_backfillHole {l : List ℕ} (hl : ∀ h ∈ l, ∀ pkt ∈ cache.get h, pkt.InTarget dt) :
    ∀ out ∈ (emitEach (backfillHole cache) s l).2, out.InTarget dt := by
  induction l generalizing s with
  | nil => exact nofun
  | cons h l ih =>
    obtain ⟨hget, hl⟩ := List.forall_mem_cons.1 hl
    refine List.forall_mem_append.2 ⟨?_, ih hl⟩
    change ∀ out ∈ (backfillHole cache s h).2, _
    rw [backfillHole]
    split
    · simp
    next pkt hpkt => simpa [inTarget_emitRewritten] using hget pkt hpkt

/-- The pull renumbers the outputs, so that no earlier gap can be filled any more. -/
def renumbers (s : Switcher) (pkt : RtpPacket) : Bool :=
  !s.dropBackward pkt &&
    match s.selector.decide pkt with
    | .drop => s.atCleanFrameBoundary
    | .forward => s.hidesTruncation pkt

/-- The numbers that the live pull has passed since it last renumbered the outputs. -/
def passed : Switcher → List ℕ → List RtpPacket → List ℕ
  | _, since, [] => since
  | s, since, pkt :: l =>
    (s.pullPacket pkt).1.passed (if s.renumbers pkt then [pkt.seqNo] else pkt.seqNo :: since) l

def gaps (since : List ℕ) : List ℕ :=
  (List.range (since.foldr max 0)).filter fun n => n ∉ since ∧ ∃ lo ∈ since, lo < n

lemma mem_gaps {since : List ℕ} {n : ℕ} :
    n ∈ gaps since ↔ (∃ hi ∈ since, n < hi) ∧ n ∉ since ∧ ∃ lo ∈ since, lo < n := by
  have hmax : n < since.foldr max 0 ↔ ∃ hi ∈ since, n < hi := by
    induction since with
    | nil => simp
    | cons a l ih => simp [ih]
  simp [gaps, hmax]

/-- What a late packet may still fill lies in a gap of the numbers passed. -/
structure Joined (s : Switcher) (since : List ℕ) : Prop where
  idle : s.activeCursor = none → ∀ h, h ∉ s.activeInputHoles
  cursor : ∀ c, s.activeCursor = some c →
    c < 2 ^ 62 ∧ s.nextExpectedInput = some (c + 1) ∧ c ∈ since ∧ ∀ x ∈ since, x ≤ c
  holes : ∀ h ∈ s.activeInputHoles, h ∈ gaps since

structure Stays (s s' : Switcher) : Prop where
  activeCursor : s'.activeCursor = s.activeCursor
  nextExpectedInput : s'.nextExpectedInput = s.nextExpectedInput
  activeInputHoles : ∀ h ∈ s'.activeInputHoles, h ∈ s.activeInputHoles

lemma Stays.refl (s : Switcher) : Stays s s := ⟨rfl, rfl, fun _ hh => hh⟩

lemma Stays.trans {s' s'' : Switcher} (h : Stays s s') (h' : Stays s' s'') : Stays s s'' :=
  ⟨h'.1.trans h.1, h'.2.trans h.2, fun x hx => h.3 x (h'.3 x hx)⟩

lemma emitEach_stays {α : Type} {body : Switcher → α → Switcher × List RtpPacket} (hbody : ∀ s a, Stays s (body s a).1)
    (l : List α) : Stays s (emitEach body s l).1 := by
  induction l generalizing s with
  | nil => exact .refl s
  | cons a l ih => exact (hbody s a).trans ih

variable {since : List ℕ} {trackId : TrackId} {now : Instant}

lemma Joined.stays {s' : Switcher} (h : Joined s since) (hs : Stays s s') : Joined s' since :=
  ⟨fun hn x hx => h.idle (hs.activeCursor ▸ hn) x (hs.activeInputHoles x hx),
    fun c hc => hs.nextExpectedInput ▸ h.cursor c (hs.activeCursor ▸ hc), fun x hx => h.holes x (hs.activeInputHoles x hx)⟩

lemma mem_pullPacket {c h : ℕ} (he : s.nextExpectedInput = some (c + 1))
    (hh : h ∈ (s.pullPacket pkt).1.activeInputHoles) :
    s.renumbers pkt = false ∧ (h ∈ s.activeInputHoles ∨ c < h ∧ h < pkt.seqNo) := by
  obtain ⟨hr, hrt⟩ := recordInputHoles_same s pkt.seqNo
  have hclean : (s.recordInputHoles pkt.seqNo).atCleanFrameBoundary = s.atCleanFrameBoundary := by
    simp only [atCleanFrameBoundary, newestFrameLeftOpen, hr.lastOutput, hr.lastMarkerOutput, hr.holes, hr.frameStartOutput]
  have hhides : (s.recordInputHoles pkt.seqNo).hidesTruncation pkt = s.hidesTruncation pkt := by
    simp only [hidesTruncation, newestFrameLeftOpen, hr.lastOutput, hr.lastMarkerOutput, hr.maxOutputTs, hrt]
  rw [pullPacket] at hh
  split at hh
  next hback => exact ⟨by simp [renumbers, hback], .inl hh⟩
  simp only [hr.selector] at hh
  split at hh
  next hdrop =>
    rw [shed, hclean] at hh
    split at hh
    · exact absurd hh OrdSet.not_mem_empty
    next hopen => exact ⟨by simp [renumbers, hdrop, hopen], mem_recordInputHoles he hh⟩
  next hforward =>
    change h ∈ ((s.recordInputHoles pkt.seqNo).breakSequence pkt).activeInputHoles at hh
    rw [breakSequence, hhides] at hh
    split at hh
    · exact absurd hh OrdSet.not_mem_empty
    next hkeeps => exact ⟨by simp [renumbers, hforward, hkeeps], mem_recordInputHoles he hh⟩

lemma pullPacket_cursor {c : ℕ} (he : s.nextExpectedInput = some (c + 1)) (hi : c < pkt.seqNo) (hlt : pkt.seqNo < 2 ^ 62) :
    (s.pullPacket pkt).1.activeCursor = some pkt.seqNo ∧ (s.pullPacket pkt).1.nextExpectedInput = some (pkt.seqNo + 1) := by
  have hr := (recordInputHoles_same s pkt.seqNo).1
  rw [pullPacket]
  split
  · exact ⟨rfl, advanceCursor_nextExpectedInput he hi hlt⟩
  dsimp only
  split
  · exact ⟨rfl, advanceCursor_nextExpectedInput ((hr.trans (shed_same _)).nextExpectedInput.trans he) hi hlt⟩
  · have hem := emitRewritten_emitted ((s.recordInputHoles pkt.seqNo).breakSequence pkt) pkt
    exact ⟨rfl, advanceCursor_nextExpectedInput
      (hem.nextExpectedInput.trans ((hr.trans (breakSequence_same _ pkt)).nextExpectedInput.trans he)) hi hlt⟩

lemma Joined.pull {c : ℕ} (h : Joined s since) (hc : s.activeCursor = some c) (hi : c < pkt.seqNo)
    (hlt : pkt.seqNo < 2 ^ 62) :
    Joined (s.pullPacket pkt).1 (if s.renumbers pkt then [pkt.seqNo] else pkt.seqNo :: since) := by
  obtain ⟨-, he, hmem, hle⟩ := h.cursor c hc
  obtain ⟨hcur, hnext⟩ := pullPacket_cursor he hi hlt
  refine ⟨fun hn => absurd (hcur.symm.trans hn) (by simp), fun c' hc' => ?_, fun x hx => ?_⟩
  · obtain rfl := Option.some.inj (hcur.symm.trans hc')
    refine ⟨hlt, hnext, ?_⟩
    split
    · simp
    · exact ⟨List.mem_cons_self, List.forall_mem_cons.2 ⟨le_rfl, fun x hx => (hle x hx).trans hi.le⟩⟩
  · obtain ⟨hkeeps, hx⟩ := mem_pullPacket he hx
    rw [if_neg (by simp [hkeeps]), mem_gaps]
    rcases hx with hx | ⟨hcx, hxi⟩
    · obtain ⟨⟨hi', hmi, hxhi⟩, hnot, lo, hlo, hlx⟩ := mem_gaps.1 (h.holes x hx)
      have := hle hi' hmi
      exact ⟨⟨hi', List.mem_cons_of_mem _ hmi, hxhi⟩, List.not_mem_cons_of_ne_of_not_mem (by omega) hnot, lo,
        List.mem_cons_of_mem _ hlo, hlx⟩
    · refine ⟨⟨_, List.mem_cons_self, hxi⟩, List.not_mem_cons_of_ne_of_not_mem hxi.ne fun hx => ?_, c,
        List.mem_cons_of_mem _ hmem, hcx⟩
      have := hle x hx
      omega

lemma Joined.pullAll {c : ℕ} {l : List RtpPacket} (h : Joined s since) (hc : s.activeCursor = some c)
    (hl : ∀ p ∈ l, p.seqNo < 2 ^ 62 ∧ c < p.seqNo) (hsorted : l.Pairwise fun p q => p.seqNo < q.seqNo) :
    Joined (emitEach pullPacket s l).1 (s.passed since l) := by
  induction l generalizing s since c with
  | nil => exact h
  | cons pkt l ih =>
    obtain ⟨⟨hlt, hi⟩, hl⟩ := List.forall_mem_cons.1 hl
    obtain ⟨hp, hsorted⟩ := List.pairwise_cons.1 hsorted
    obtain ⟨-, he, -⟩ := h.cursor c hc
    exact ih (h.pull hc hi hlt) (pullPacket_cursor he hi hlt).1 (fun q hq => ⟨(hl q hq).1, hp q hq⟩) hsorted

lemma feedDrain_stays (cache : TrackStreamCache) : Stays s (s.feedDrain trackId cache now).1 := by
  rw [feedDrain]
  split
  · rw [drainTail]
    split
    · exact { Stays.refl s with }
    next tail _ =>
      split
      · exact { Stays.refl s with }
      have hloop : ∀ cache, Stays s (emitEach (drainHole cache tail) s tail.holes.elems).1 := fun cache =>
        emitEach_stays (fun s x => by rw [drainHole]; split <;> exact { Stays.refl s with }) _
      simp only
      split <;> exact { hloop _ with }
  · exact .refl s

lemma land_joined {first : RtpPacket} {rest : List RtpPacket}
    (hlt : ((first :: rest).getLast (List.cons_ne_nil first rest)).seqNo < 2 ^ 62) :
    Joined (s.land now first rest).1 [(s.land now first rest).1.activeCursor.getD 0] := by
  set newCursor := ((first :: rest).getLast _).seqNo
  obtain ⟨_, _, _, hc0, hh0, he0, _⟩ := prepareBurst_fields s now first newCursor
  have hsame := emitEach_sameStream (s.prepareBurst now first newCursor) (first :: rest)
  have hcur : (s.land now first rest).1.activeCursor = some newCursor := hsame.activeCursor.trans hc0
  rw [hcur]
  refine ⟨fun hn => absurd (hcur.symm.trans hn) (by simp), fun c hc => ?_, fun x hx => ?_⟩
  · obtain rfl := Option.some.inj (hcur.symm.trans hc)
    exact ⟨hlt, hsame.nextExpectedInput.trans (by rw [he0, Word.wrappingAdd_of_lt (by omega)]), by simp, by simp⟩
  · have hempty : (s.land now first rest).1.activeInputHoles = .empty := hsame.activeInputHoles.trans hh0
    rw [hempty] at hx
    exact absurd hx OrdSet.not_mem_empty

lemma trySwitch_joined {P : RtpPacket → Prop} (hw : cache.packets.Holds P) (hP : ∀ p, P p → p.seqNo < 2 ^ 62)
    (h : Joined s since) : Joined (s.trySwitch cache now).1
      (if (s.trySwitch cache now).2.isEmpty then since else [(s.trySwitch cache now).1.activeCursor.getD 0]) := by
  have hblocked : Joined { s with switchBlockedSince := s.blockedSince now } since := h.stays { Stays.refl s with }
  rw [trySwitch]
  split
  · split
    next first rest hreplay =>
      obtain ⟨q, hq, hle⟩ := StreamCache.replay_seqNo_le hw hreplay (List.getLast_mem (List.cons_ne_nil first rest))
      exact land_joined (hle.trans_lt (hP q hq))
    · exact hblocked
  · exact hblocked

def live (s : Switcher) (trackId : TrackId) (cache : TrackStreamCache) : List RtpPacket :=
  (roleCache s.active trackId cache).elim [] s.liveRange

def passedBy (s : Switcher) (since : List ℕ) (trackId : TrackId) (cache : TrackStreamCache) (now : Instant) : List ℕ :=
  if (s.feed trackId cache now).2.burst.isEmpty then s.passed since (s.live trackId cache)
  else [(s.feed trackId cache now).1.activeCursor.getD 0]

variable {S : Streams} {cache : TrackStreamCache}

lemma feedSwitch_joined (hS : ∀ stream p, S stream p → p.seqNo < 2 ^ 62) (hfed : cache.Fed fun e => S (trackId, e))
    (h : Joined s since) : Joined (s.feedSwitch trackId cache now).1 (if (s.feedSwitch trackId cache now).2.isEmpty then since
      else [(s.feedSwitch trackId cache now).1.activeCursor.getD 0]) := by
  rw [feedSwitch]
  split
  next encoding hrole =>
    obtain ⟨stream, -, hf⟩ := roleCache_fed hfed hrole
    exact trySwitch_joined hf.holds (hS stream) h
  · exact h

lemma Joined.feed (hS : ∀ stream p, S stream p → p.seqNo < 2 ^ 62) (hfed : cache.Fed fun e => S (trackId, e))
    (h : Joined s since) : Joined (s.feed trackId cache now).1 (s.passedBy since trackId cache now) := by
  have hpull : Joined (s.feedPull trackId cache).1 (s.passed since (s.live trackId cache)) := by
    rw [feedPull, live]
    cases hrole : roleCache s.active trackId cache with
    | none => exact h
    | some encoding =>
      obtain ⟨stream, -, hf⟩ := roleCache_fed hfed hrole
      simp only [Option.elim_some, pullActive]
      split
      next hempty =>
        rw [List.isEmpty_iff.1 hempty]
        refine h.stays (emitEach_stays (fun s x => ?_) _)
        rw [backfillHole]
        split
        · exact .refl s
        · exact ⟨rfl, rfl, fun y hy => (OrdSet.mem_erase.1 hy).1⟩
      · rw [liveRange]
        split
        next c hc =>
          obtain ⟨hmem, hsorted⟩ := StreamCache.rangeAfter_spec hf.holds c (by have := h.cursor c hc; omega)
          exact h.pullAll hc (fun p hp => ⟨hS stream p (hmem p hp).1, (hmem p hp).2⟩) hsorted
        · exact h
  exact feedSwitch_joined hS hfed (hpull.stays (feedDrain_stays cache))

lemma covers_pulled (h : Joined s since)
    (hlate : ∀ encoding ∈ roleCache s.active trackId cache, ∀ n ∈ gaps since, ∀ pkt ∈ encoding.get n, s.selector.Covers pkt) :
    ∀ out ∈ (s.feed trackId cache now).2.pulled, s.selector.Covers out := by
  cases hs : s.selector with
  | full => exact fun _ _ => trivial
  | target dt =>
    rw [hs] at hlate
    change ∀ out ∈ (s.feedPull trackId cache).2, out.InTarget dt
    rw [feedPull]
    split
    next encoding hrole =>
      rw [pullActive]
      split
      · exact inTarget_emitEach_backfillHole fun x hx => hlate encoding hrole x (h.holes x hx)
      · exact inTarget_emitEach_pullPacket hs _
    · simp

end Switcher

/-- A slot, the numbers its live pull has passed, and what it gave out of its active stream under which selection. -/
structure Viewing where
  slot : Slot
  since : List ℕ
  shown : List (DecodeTargetSelection × RtpPacket)

namespace Viewing

def step (v : Viewing) (op : SlotOp) : Viewing :=
  let s := v.slot.switcher
  match op with
  | .feed trackId cache now => ⟨v.slot.step op, s.passedBy v.since trackId cache now,
      v.shown ++ (s.feed trackId cache now).2.pulled.map (s.selector, ·)⟩
  | _ => { v with slot := v.slot.step op }

/-- What the active stream's cache holds by now in a gap of the numbers passed, so too late for the live pull, is of
the selected target. -/
def LateInTarget (v : Viewing) : SlotOp → Prop
  | .feed trackId cache _ => ∀ encoding ∈ Switcher.roleCache v.slot.switcher.active trackId cache,
      ∀ n ∈ Switcher.gaps v.since, ∀ pkt ∈ encoding.get n, v.slot.switcher.selector.Covers pkt
  | _ => True

instance (v : Viewing) : (op : SlotOp) → Decidable (v.LateInTarget op)
  | .feed trackId cache _ => inferInstanceAs (Decidable (∀ encoding ∈ Switcher.roleCache _ trackId cache,
      ∀ n ∈ Switcher.gaps v.since, ∀ pkt ∈ encoding.get n, _))
  | .switchTo _ | .stop | .setDecodeTarget _ => .isTrue trivial

def machine (S : Streams) (rate : Frequency) (late : Viewing → SlotOp → Prop) : Machine Viewing SlotOp where
  init v := ∃ base < 2 ^ 16, v = ⟨⟨.new rate base, []⟩, [], []⟩
  guard v op := Slot.Feasible S op ∧ late v op
  step := step

theorem shed_layers_stay_out (S : Streams) (rate : Frequency) (hS : ∀ stream p, S stream p → p.seqNo < 2 ^ 62)
    (v : Viewing) (h : (machine S rate LateInTarget).Reachable v) :
    ∀ x ∈ v.shown, x.1.Covers x.2 := by
  suffices hinv : v.slot.switcher.Joined v.since ∧ ∀ x ∈ v.shown, x.1.Covers x.2 from hinv.2
  refine h.invariant (I := fun v => v.slot.switcher.Joined v.since ∧ ∀ x ∈ v.shown, x.1.Covers x.2) ?_ ?_
  · rintro v ⟨base, -, rfl⟩
    exact ⟨⟨fun _ _ => OrdSet.not_mem_empty, nofun, fun _ hx => absurd hx OrdSet.not_mem_empty⟩, by simp⟩
  · rintro v op ⟨hj, hshown⟩ ⟨hfeasible, hlate⟩
    cases op with
    | switchTo target =>
      have hr := Switcher.switchTo_rests v.slot.switcher target
      exact ⟨hj.stays ⟨hr.activeCursor, hr.nextExpectedInput, hr.activeInputHoles⟩, hshown⟩
    | stop => exact ⟨⟨fun _ _ => OrdSet.not_mem_empty, nofun, fun _ hx => absurd hx OrdSet.not_mem_empty⟩, hshown⟩
    | setDecodeTarget target => exact ⟨hj.stays { Switcher.Stays.refl _ with }, hshown⟩
    | feed trackId cache now =>
      refine ⟨hj.feed hS hfeasible, List.forall_mem_append.2 ⟨hshown, fun x hx => ?_⟩⟩
      obtain ⟨out, hout, rfl⟩ := List.mem_map.1 hx
      exact Switcher.covers_pulled hj hlate out hout

end Viewing

namespace Slot

def latePushes (kept : Bool) : List (SourceEncoding × RtpPacket) :=
  [(lowEncoding, slotKeyframe 100 3000), (lowEncoding, slotPacket 101 6000 true true),
   (lowEncoding, slotPacket 103 12000 true true), (lowEncoding, slotPacket 102 9000 true kept),
   (lowEncoding, slotPacket 104 15000 true false)]

def lateOps (kept : Bool) : List SlotOp :=
  [.switchTo (slotTrack, lowEncoding), feedFirst (latePushes kept) 1 0, .setDecodeTarget (.target 0),
   feedFirst (latePushes kept) 3 1, feedFirst (latePushes kept) 4 2, feedFirst (latePushes kept) 5 3]

end Slot

namespace Viewing

open Slot

def start : Viewing := ⟨slotStart, [], []⟩

theorem shed_layers_stay_out_late :
    ((lateOps true).foldl step start).shown.map (fun x => (x.1, x.2.seqNo)) =
      [(.target 0, 2), (.target 0, 4), (.target 0, 3)] ∧
    ∀ x ∈ ((lateOps true).foldl step start).shown, x.1.Covers x.2 := by
  refine ⟨by decide +kernel, shed_layers_stay_out (Streams.ofList slotTrack (latePushes true)) .ninetyKhz ?_ _
    (Machine.Reachable.run (.init ⟨0, by decide, rfl⟩) ?_)⟩
  · have hall : ∀ x ∈ latePushes true, x.2.seqNo < 2 ^ 62 := by decide
    exact fun _ _ hp => hall _ hp.2
  · simp only [Machine.Admits, lateOps, machine, feasible_switchTo, feasible_setDecodeTarget, feasible_feedFirst, true_and]
    decide +kernel

theorem shed_layer_backfilled : ∃ (S : Streams) (v : Viewing), (∀ stream p, S stream p → p.seqNo < 2 ^ 62) ∧
    (machine S .ninetyKhz fun _ _ => True).Reachable v ∧ ¬ ∀ x ∈ v.shown, x.1.Covers x.2 := by
  refine ⟨Streams.ofList slotTrack (latePushes false), (lateOps false).foldl step start, ?_,
    Machine.Reachable.run (.init ⟨0, by decide, rfl⟩) ?_, by decide +kernel⟩
  · have hall : ∀ x ∈ latePushes false, x.2.seqNo < 2 ^ 62 := by decide
    exact fun _ _ hp => hall _ hp.2
  · simp [Machine.Admits, machine, lateOps]

end Viewing

end Pulsebeam.Rtp
