import Pulsebeam.Lib.Adjacent
import Pulsebeam.Lib.SlotRing
import Pulsebeam.Lib.Word
import Pulsebeam.Rtp.Packet

namespace Pulsebeam.Rtp

open Pulsebeam.Lib

def emptySlot : ℕ := Word.max 64

def packetWindowCapacity : ℕ := 512

instance : NeZero packetWindowCapacity := ⟨by decide⟩

def sequenceIsNewer (candidate reference : ℕ) : Bool :=
  let distance := Word.wrappingSub 64 candidate reference
  distance != 0 && decide (distance < 2 ^ 63)

def maxReplayFrames : ℕ := 3

def maxReplayPackets : ℕ := 96

def maxReplayPacketsHard : ℕ := 200

def maxReplaySpanMs : ℕ := 400

structure PacketWindow where
  ring : SlotRing packetWindowCapacity RtpPacket
  newestSeq : Option ℕ

namespace PacketWindow

def new : PacketWindow := ⟨SlotRing.empty _ _ emptySlot, none⟩

def get (w : PacketWindow) (seq : ℕ) : Option RtpPacket := w.ring.get seq

def tooOld (w : PacketWindow) (seq : ℕ) : Bool :=
  match w.newestSeq with
  | some newest => decide (Word.wrappingAdd 64 seq packetWindowCapacity ≤ newest)
  | none => false

def push (w : PacketWindow) (pkt : RtpPacket) : PacketWindow × Option RtpPacket :=
  if w.tooOld pkt.seqNo then (w, some pkt)
  else (⟨w.ring.put pkt.seqNo pkt, some ((w.newestSeq.map (max · pkt.seqNo)).getD pkt.seqNo)⟩, none)

def contiguousFrom (w : PacketWindow) : ℕ → ℕ → List RtpPacket
  | _, 0 => []
  | seq, n + 1 =>
    match w.get seq with
    | some p => p :: contiguousFrom w (seq + 1) n
    | none => []

def walkBack (w : PacketWindow) (frameTs : ℕ) : ℕ → ℕ → ℕ
  | start, 0 => start
  | 0, _ + 1 => 0
  | start + 1, n + 1 =>
    match w.get start with
    | some p => if p.rtpTs.ticks = frameTs then walkBack w frameTs start n else start + 1
    | none => start + 1

end PacketWindow

structure StreamCache where
  packets : PacketWindow
  segmentStartSeq : Option ℕ
  segmentTs : Option ℕ
  sps : Option RtpPacket
  spsSeq : Option ℕ
  pps : Option RtpPacket
  ppsSeq : Option ℕ

namespace StreamCache

def new : StreamCache := ⟨.new, none, none, none, none, none, none⟩

def newerThan (previous : Option ℕ) (seq : ℕ) : Bool :=
  match previous with
  | none => true
  | some previous => sequenceIsNewer seq previous

variable (c : StreamCache)

def keepSps (pkt : RtpPacket) : StreamCache :=
  if pkt.nal.sps && newerThan c.spsSeq pkt.seqNo then { c with sps := some pkt, spsSeq := some pkt.seqNo } else c

def keepPps (pkt : RtpPacket) : StreamCache :=
  if pkt.nal.pps && newerThan c.ppsSeq pkt.seqNo then { c with pps := some pkt, ppsSeq := some pkt.seqNo } else c

def newerSegment (seq frameTs : ℕ) : Bool :=
  match c.segmentStartSeq, c.segmentTs with
  | none, _ => true
  | _, none => true
  | some start, some previousTs =>
    if frameTs = previousTs then sequenceIsNewer start seq else sequenceIsNewer seq start

def openSegment (kfSeq frameTs : ℕ) : StreamCache :=
  { c with
    segmentStartSeq := some (c.packets.walkBack frameTs kfSeq packetWindowCapacity)
    segmentTs := some frameTs }

def dropOverwrittenSegment : StreamCache :=
  match c.segmentStartSeq, c.packets.newestSeq with
  | some start, some newest =>
    if Word.wrappingAdd 64 start packetWindowCapacity ≤ newest then
      { c with segmentTs := none, segmentStartSeq := none }
    else c
  | _, _ => c

def push (pkt : RtpPacket) : StreamCache × Option RtpPacket :=
  let c := (c.keepSps pkt).keepPps pkt
  match c.packets.push pkt with
  | (_, some rejected) => (c, some rejected)
  | (packets, none) =>
    let c := { c with packets := packets }
    let c :=
      if pkt.isKeyframe && c.newerSegment pkt.seqNo pkt.rtpTs.ticks then c.openSegment pkt.seqNo pkt.rtpTs.ticks
      else c
    (c.dropOverwrittenSegment, none)

def get (seq : ℕ) : Option RtpPacket := c.packets.get seq

def rangeAfter (cursor : ℕ) : List RtpPacket :=
  match c.packets.newestSeq with
  | some newest =>
    if cursor < newest then
      let lo := max (Word.wrappingAdd 64 cursor 1) (newest - (packetWindowCapacity - 1))
      (List.range' lo (newest + 1 - lo)).filterMap c.packets.get
    else []
  | none => []

def countFrames (segment : List RtpPacket) : ℕ × Option ℕ :=
  segment.foldl
    (fun (frames, seenTs) p => if seenTs ≠ some p.rtpTs.ticks then (frames + 1, some p.rtpTs.ticks) else (frames, seenTs))
    (0, none)

def replayable (segment : List RtpPacket) (segmentTs : ℕ) : Bool :=
  segment.any (·.isKeyframe) &&
  segment.head?.any (·.isFrameStart) &&
  (segment.getLast?.any (·.marker) && !anyAdjacent (fun a b => !a.rtpTs.sameTime b.rtpTs && !a.marker) segment) &&
  !(segment.any (fun p => p.nal.sps || p.nal.pps || p.nal.idr) && !segment.any (·.nal.idr)) &&
  !anyAdjacent (fun a b => decide (b.rtpTs.ticks < a.rtpTs.ticks)) segment &&
  decide ((countFrames segment).1 ≤ maxReplayFrames) &&
  decide (segment.length ≤ maxReplayPacketsHard) &&
  !(decide (1 < (countFrames segment).1) && decide (maxReplayPackets < segment.length)) &&
  segment.head?.any (fun first => decide (((countFrames segment).2.getD segmentTs) - segmentTs ≤
    Word.saturatingMul 64 first.rtpTs.frequency.hz maxReplaySpanMs / 1000))

def restamp (anchor : RtpPacket) (segmentTs n i : ℕ) (p : RtpPacket) : RtpPacket :=
  { p with
    rtpTs := ⟨segmentTs, p.rtpTs.frequency⟩
    arrivalTs := anchor.arrivalTs
    playoutTime := anchor.playoutTime
    marker := false
    seqNo := anchor.seqNo - (n - i) }

def missingSets (needsSps needsPps : Bool) : Option (List RtpPacket) :=
  (if needsSps then c.sps.map ([·]) else some []).bind fun sets =>
    if needsPps && !sets.any (·.nal.pps) then
      c.pps.map fun pps => if sets.any (fun p => p.ssrc == pps.ssrc && p.seqNo == pps.seqNo) then sets else sets ++ [pps]
    else some sets

def parameterSetPrefix (segment : List RtpPacket) (segmentTs : ℕ) : Option (List RtpPacket) :=
  let needsSps := !segment.any (·.nal.sps)
  let needsPps := !segment.any (·.nal.pps)
  if !needsSps && !needsPps then some []
  else do
    let anchor ← segment.head?
    let sets ← c.missingSets needsSps needsPps
    some (sets.mapIdx (restamp anchor segmentTs sets.length))

def rewriteBoundary (anchorDd : DependencyDescriptor) (prefixLen last index : ℕ) (p : RtpPacket) : RtpPacket :=
  let p := { p with isFrameStart := index == 0, marker := index == last }
  let setDescriptor (p : RtpPacket) : RtpPacket :=
    match p.extVals.dependencyDescriptor with
    | none => p
    | some existing =>
      let dd := if index < prefixLen then anchorDd else existing
      { p with extVals := { p.extVals with
          dependencyDescriptor := some { dd with startOfFrame := index == 0, endOfFrame := index == last } } }
  match p.extVals.rawDependencyDescriptor with
  | none => setDescriptor p
  | some [] => p
  | some (flags :: rest) =>
    let flags := (flags &&& 0x3f) ||| (if index = 0 then 0x80 else 0) ||| (if index = last then 0x40 else 0)
    setDescriptor { p with extVals := { p.extVals with rawDependencyDescriptor := some (flags :: rest) } }

def rewriteReplayFrameBoundaries (packets : List RtpPacket) (prefixLen frameEnd : ℕ) : List RtpPacket :=
  match packets[prefixLen]?.bind (·.extVals.dependencyDescriptor) with
  | none => packets
  | some anchorDd =>
    (packets.take frameEnd).mapIdx (rewriteBoundary anchorDd prefixLen (frameEnd - 1)) ++ packets.drop frameEnd

def segment : Option (List RtpPacket × ℕ) := do
  let segmentTs ← c.segmentTs
  let start ← c.segmentStartSeq
  let newest ← c.packets.newestSeq
  some (c.packets.contiguousFrom start (newest + 1 - start), segmentTs)

def replay : Option (List RtpPacket) :=
  c.segment.bind fun (segment, segmentTs) =>
    if !replayable segment segmentTs then none
    else
      let keyframePackets := (segment.takeWhile (fun p => p.rtpTs.ticks == segmentTs)).length
      (if segment.any (·.nal.idr) then c.parameterSetPrefix segment segmentTs else some []).map fun sets =>
        if sets.length = 0 then segment
        else rewriteReplayFrameBoundaries (sets ++ segment) sets.length (sets.length + keyframePackets)

end StreamCache

structure TrackStreamCache where
  encodings : List (SourceEncoding × StreamCache)

namespace TrackStreamCache

def encoding (t : TrackStreamCache) (e : SourceEncoding) : Option StreamCache :=
  (t.encodings.find? (fun entry => entry.1 == e)).map (·.2)

def withSlot (t : TrackStreamCache) (e : SourceEncoding) : List (SourceEncoding × StreamCache) :=
  if t.encodings.any (fun entry => entry.1 == e) then t.encodings else t.encodings ++ [(e, StreamCache.new)]

def pushEncoding (t : TrackStreamCache) (e : SourceEncoding) (pkt : RtpPacket) : TrackStreamCache × Option RtpPacket :=
  let pos := (t.withSlot e).findIdx (fun entry => entry.1 == e)
  match (t.withSlot e)[pos]? with
  | some (key, cache) => (⟨(t.withSlot e).set pos (key, (cache.push pkt).1)⟩, (cache.push pkt).2)
  | none => (t, some pkt)

end TrackStreamCache

end Pulsebeam.Rtp
