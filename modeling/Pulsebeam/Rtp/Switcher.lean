import Pulsebeam.Entity
import Pulsebeam.Lib.OrdSet
import Pulsebeam.Rtp.Cache
import Pulsebeam.Rtp.Timeline

namespace Pulsebeam.Rtp

open Pulsebeam.Lib

abbrev StreamId := TrackId × SourceEncoding

inductive FrameDecision
  | forward
  | drop
  deriving DecidableEq, Repr

inductive DecodeTargetSelection
  | full
  | target (dt : ℕ)
  deriving DecidableEq, Repr

def DecodeTargetSelection.keep (target : DecodeTargetSelection) (dd : DependencyDescriptor) : Bool :=
  match target with
  | .full => true
  | .target dt => dd.isInDecodeTarget dt

def DecodeTargetSelection.decide (target : DecodeTargetSelection) (pkt : RtpPacket) : FrameDecision :=
  match pkt.extVals.dependencyDescriptor with
  | some dd => if target.keep dd then .forward else .drop
  | none => .forward

def tailDrainWindow : Duration := Duration.fromMillis 200

def maxTrackedHoles : ℕ := 256

def frameAlignGrace : Duration := Duration.fromMillis 15

structure Tail where
  seqBase : ℕ
  tsBase : ℕ
  ddFrameBase : ℕ
  expiresAt : Instant
  holes : OrdSet ℕ

structure Switcher where
  timeline : Timeline
  selector : DecodeTargetSelection
  active : Option StreamId
  activeCursor : Option ℕ
  activeInputHoles : OrdSet ℕ
  nextExpectedInput : Option ℕ
  staging : Option StreamId
  draining : Option StreamId
  switchBlockedSince : Option Instant
  tail : Option Tail
  lastOutput : Option ℕ
  nextExpectedOutput : Option ℕ
  holes : OrdSet ℕ
  lastMarkerOutput : Option ℕ
  frameStartOutput : Option ℕ
  frameTs : Option ℕ
  maxOutputTs : Option ℕ

namespace Switcher

/-- `baseSeqNo` is the random 16-bit number the timeline starts from. -/
def new (clockRate : Frequency) (baseSeqNo : ℕ) : Switcher :=
  ⟨.newWithBase clockRate baseSeqNo, .full, none, none, .empty, none, none, none, none, none, none, none, .empty, none,
    none, none, none⟩

variable (s : Switcher)

def switchTo (target : StreamId) : Switcher :=
  if s.active = some target then
    if s.staging.isSome then { s with staging := none, switchBlockedSince := none } else s
  else if s.staging = some target then s
  else
    let s := if s.draining = some target then { s with draining := none, tail := none } else s
    { s with staging := some target, switchBlockedSince := none }

def stop : Switcher :=
  { s with
    active := none, activeCursor := none, activeInputHoles := .empty, nextExpectedInput := none, staging := none
    draining := none, switchBlockedSince := none, tail := none }

def setDecodeTarget (target : DecodeTargetSelection) : Switcher := { s with selector := target }

def newestFrameLeftOpen : Bool :=
  match s.lastOutput with
  | some last => s.lastMarkerOutput != some last
  | none => false

def atCleanFrameBoundary : Bool := !s.newestFrameLeftOpen && s.holes.noneFrom (s.frameStartOutput.getD 0)

def holesAfter (seq : ℕ) : OrdSet ℕ :=
  let holes := match s.nextExpectedOutput with
    | none => s.holes
    | some expected =>
      if seq = expected then s.holes
      else if expected < seq then
        if seq - expected ≤ maxTrackedHoles then s.holes.insertAll (List.range' expected (seq - expected)) else s.holes
      else s.holes.erase seq
  holes.trim maxTrackedHoles

def noteEmitted (seq : ℕ) (marker : Bool) (ts : ℕ) : Switcher :=
  { s with
    holes := s.holesAfter seq
    frameTs := some ts
    frameStartOutput := if s.frameTs = some ts then s.frameStartOutput else some seq
    nextExpectedOutput :=
      if s.nextExpectedOutput.all (fun e => decide (e ≤ seq)) then some (Word.saturatingAdd 64 seq 1)
      else s.nextExpectedOutput
    lastOutput := if s.lastOutput.all (fun last => decide (last < seq)) then some seq else s.lastOutput
    lastMarkerOutput :=
      if marker && s.lastMarkerOutput.all (fun last => decide (last < seq)) then some seq else s.lastMarkerOutput
    maxOutputTs := if s.maxOutputTs.all (fun m => decide (m < ts)) then some ts else s.maxOutputTs }

def noteOut (out : RtpPacket) : Switcher := s.noteEmitted out.seqNo out.marker out.rtpTs.ticks

def dropBackward (pkt : RtpPacket) : Bool :=
  s.lastOutput.all (fun last => decide (last < s.timeline.outputSeqOf pkt.seqNo)) &&
    s.maxOutputTs.any (fun m => decide (s.timeline.outputTsOf pkt.rtpTs.ticks < m))

def recordInputHoles (inputSeq : ℕ) : Switcher :=
  match s.nextExpectedInput with
  | some expected =>
    if expected < inputSeq ∧ inputSeq - expected ≤ maxTrackedHoles then
      { s with activeInputHoles :=
          (s.activeInputHoles.insertAll (List.range' expected (inputSeq - expected))).trim maxTrackedHoles }
    else s
  | none => s

def shed : Switcher :=
  if s.atCleanFrameBoundary then { s with activeInputHoles := .empty, timeline := s.timeline.dropInput } else s

def hidesTruncation (pkt : RtpPacket) : Bool :=
  s.newestFrameLeftOpen &&
    s.maxOutputTs.any (fun ts => decide (ts < s.timeline.outputTsOf pkt.rtpTs.ticks)) &&
    s.lastOutput.any (fun last => s.timeline.outputSeqOf pkt.seqNo == Word.wrappingAdd 64 last 1)

def breakSequence (pkt : RtpPacket) : Switcher :=
  if s.hidesTruncation pkt then { s with activeInputHoles := .empty, timeline := s.timeline.skipLiveSequence 1 } else s

def emitRewritten (pkt : RtpPacket) : Switcher × RtpPacket :=
  let (timeline, out) := s.timeline.rewrite pkt
  (({ s with timeline := timeline }).noteOut out, out)

def advanceCursor (inputSeq : ℕ) : Switcher :=
  { s with
    nextExpectedInput :=
      if s.nextExpectedInput.all (fun e => decide (e ≤ inputSeq)) then some (Word.wrappingAdd 64 inputSeq 1)
      else s.nextExpectedInput
    activeCursor := some inputSeq }

def pullPacket (pkt : RtpPacket) : Switcher × List RtpPacket :=
  if s.dropBackward pkt then (s.advanceCursor pkt.seqNo, [])
  else
    let s := s.recordInputHoles pkt.seqNo
    match s.selector.decide pkt with
    | .drop => (s.shed.advanceCursor pkt.seqNo, [])
    | .forward =>
      let (s, out) := (s.breakSequence pkt).emitRewritten pkt
      (s.advanceCursor pkt.seqNo, [out])

def emitEach {α : Type} (body : Switcher → α → Switcher × List RtpPacket) :
    Switcher → List α → Switcher × List RtpPacket
  | s, [] => (s, [])
  | s, a :: l =>
    let (s, out) := body s a
    let (s, rest) := emitEach body s l
    (s, out ++ rest)

def backfillHole (cache : StreamCache) (s : Switcher) (inputSeq : ℕ) : Switcher × List RtpPacket :=
  match cache.get inputSeq with
  | none => (s, [])
  | some pkt =>
    let (s, out) := s.emitRewritten pkt
    ({ s with activeInputHoles := s.activeInputHoles.erase inputSeq }, [out])

def backfillActiveHoles (cache : StreamCache) : Switcher × List RtpPacket :=
  emitEach (backfillHole cache) s s.activeInputHoles.elems

def liveRange (cache : StreamCache) : List RtpPacket :=
  match s.activeCursor with
  | some cursor => cache.rangeAfter cursor
  | none => []

def pullActive (cache : StreamCache) : Switcher × List RtpPacket :=
  if (s.liveRange cache).isEmpty then s.backfillActiveHoles cache else emitEach pullPacket s (s.liveRange cache)

def openTail (now : Instant) (reservedHole : Option ℕ) : Switcher :=
  let holes := OrdSet.empty.insertAll (s.activeInputHoles.elems.map s.timeline.outputSeqOf)
  let holes := match reservedHole with
    | some reserved => holes.insert reserved
    | none => holes
  { s with tail := some ⟨s.timeline.seqBase, s.timeline.tsBase, s.timeline.ddFrameBase.getD 0, now + tailDrainWindow, holes⟩ }

def reserveHole : Switcher × Option ℕ :=
  match s.lastOutput with
  | some last =>
    if s.newestFrameLeftOpen then
      let reserved := Word.wrappingAdd 64 last 1
      ({ s with timeline := s.timeline.skipOutputSequence 1, holes := s.holes.insert reserved }, some reserved)
    else (s, none)
  | none => (s, none)

def promote (newCursor : ℕ) : Switcher :=
  { s with
    draining := s.active
    active := s.staging
    staging := none
    activeCursor := some newCursor
    activeInputHoles := .empty
    selector := .full
    nextExpectedInput := some (Word.wrappingAdd 64 newCursor 1)
    switchBlockedSince := none }

def emitSequential (pkt : RtpPacket) : Switcher × RtpPacket :=
  let (timeline, out) := s.timeline.rewriteSequential pkt
  (({ s with timeline := timeline }).noteOut out, out)

def emitBurstPacket (pkt : RtpPacket) : Switcher × List RtpPacket :=
  let (s, out) := s.emitSequential pkt
  (s, [out])

def mayLand (now : Instant) : Bool :=
  s.atCleanFrameBoundary || decide (frameAlignGrace ≤ now - s.switchBlockedSince.getD now)

def blockedSince (now : Instant) : Option Instant :=
  if s.atCleanFrameBoundary then none else some (s.switchBlockedSince.getD now)

def prepareBurst (now : Instant) (first : RtpPacket) (newCursor : ℕ) : Switcher :=
  let (s, reserved) := s.reserveHole
  let s := if s.active.isSome then s.openTail now reserved else s
  let s := s.promote newCursor
  { s with timeline := s.timeline.rebase first }

def land (now : Instant) (first : RtpPacket) (rest : List RtpPacket) : Switcher × List RtpPacket :=
  let newCursor := ((first :: rest).getLast (List.cons_ne_nil first rest)).seqNo
  let (s, out) := emitEach emitBurstPacket (s.prepareBurst now first newCursor) (first :: rest)
  ({ s with timeline := s.timeline.resyncToInput newCursor }, out)

def trySwitch (cache : StreamCache) (now : Instant) : Switcher × List RtpPacket :=
  let blocked := { s with switchBlockedSince := s.blockedSince now }
  if s.mayLand now then
    match cache.replay with
    | some (first :: rest) => blocked.land now first rest
    | _ => (blocked, [])
  else (blocked, [])

def stragglerOut (tail : Tail) (pkt : RtpPacket) (outputSeq : ℕ) : RtpPacket :=
  let out := { pkt with
    seqNo := outputSeq
    rtpTs := ⟨Word.wrappingAdd 64 pkt.rtpTs.ticks tail.tsBase, pkt.rtpTs.frequency⟩ }
  Timeline.translateDdFrame out tail.ddFrameBase

def closeHole (outputSeq : ℕ) : Switcher :=
  { s with
    tail := s.tail.map fun t => { t with holes := t.holes.erase outputSeq }
    holes := s.holes.erase outputSeq }

def drainHole (cache : StreamCache) (tail : Tail) (s : Switcher) (outputSeq : ℕ) : Switcher × List RtpPacket :=
  match cache.get (Word.wrappingSub 64 outputSeq tail.seqBase) with
  | none => (s, [])
  | some pkt => (s.closeHole outputSeq, [stragglerOut tail pkt outputSeq])

def drainTail (cache : StreamCache) (now : Instant) : Switcher × List RtpPacket :=
  match s.tail with
  | none => ({ s with draining := none }, [])
  | some tail =>
    if tail.expiresAt ≤ now then ({ s with tail := none, draining := none }, [])
    else
      let (s, out) := emitEach (drainHole cache tail) s tail.holes.elems
      if s.tail.any (·.holes.isEmpty) then ({ s with tail := none, draining := none }, out) else (s, out)

def roleCache (role : Option StreamId) (trackId : TrackId) (cache : TrackStreamCache) : Option StreamCache :=
  match role with
  | some stream => if stream.1 = trackId then cache.encoding stream.2 else none
  | none => none

structure FeedOutput where
  pulled : List RtpPacket
  drained : List RtpPacket
  burst : List RtpPacket

def FeedOutput.all (o : FeedOutput) : List RtpPacket := o.pulled ++ o.drained ++ o.burst

def feedPull (trackId : TrackId) (cache : TrackStreamCache) : Switcher × List RtpPacket :=
  match roleCache s.active trackId cache with
  | some encoding => s.pullActive encoding
  | none => (s, [])

def feedDrain (trackId : TrackId) (cache : TrackStreamCache) (now : Instant) : Switcher × List RtpPacket :=
  match roleCache s.draining trackId cache with
  | some encoding => s.drainTail encoding now
  | none => (s, [])

def feedSwitch (trackId : TrackId) (cache : TrackStreamCache) (now : Instant) : Switcher × List RtpPacket :=
  match roleCache s.staging trackId cache with
  | some encoding => s.trySwitch encoding now
  | none => (s, [])

def feed (trackId : TrackId) (cache : TrackStreamCache) (now : Instant) : Switcher × FeedOutput :=
  let (s, pulled) := s.feedPull trackId cache
  let (s, drained) := s.feedDrain trackId cache now
  let (s, burst) := s.feedSwitch trackId cache now
  (s, ⟨pulled, drained, burst⟩)

end Switcher

end Pulsebeam.Rtp
