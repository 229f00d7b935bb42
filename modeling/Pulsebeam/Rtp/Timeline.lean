import Pulsebeam.Lib.Word
import Pulsebeam.Rtp.Packet

namespace Pulsebeam.Rtp

open Pulsebeam.Lib

structure Timeline where
  clockRate : Frequency
  maxOutput : ℕ
  seqBase : ℕ
  maxOutputTs : ℕ
  tsBase : ℕ
  epoch : Option (Instant × ℕ)
  frameInterval : Option ℕ
  awaitingFirstFrame : Bool
  maxOutputDdFrame : Option ℕ
  ddFrameBase : Option ℕ

namespace Timeline

def newWithBase (clockRate : Frequency) (baseSeqNo : ℕ) : Timeline :=
  ⟨clockRate, baseSeqNo, 0, 0, 0, none, none, false, none, none⟩

variable (t : Timeline)

def minSwitchAdvance : ℕ := max (t.clockRate.hz / 60) 1

def switchTarget (rawTarget : ℕ) : ℕ :=
  match t.frameInterval.filter (fun i => decide (0 < i)) with
  | none => max rawTarget (Word.saturatingAdd 64 t.maxOutputTs t.minSwitchAdvance)
  | some interval =>
    let advance := rawTarget - t.maxOutputTs
    let frames := max (Word.saturatingAdd 64 advance (interval / 2) / interval) 1
    Word.saturatingAdd 64 t.maxOutputTs (Word.saturatingMul 64 frames interval)

def plausibleInterval (delta : ℕ) : Bool := decide (0 < delta) && decide (delta ≤ t.clockRate.hz)

def ticks (d : Duration) : ℕ := min (d * t.clockRate.hz / 1000000000) (Word.max 64)

def rebase (packet : RtpPacket) : Timeline :=
  { t with
    seqBase := Word.wrappingSub 64 (Word.wrappingAdd 64 t.maxOutput 1) packet.seqNo
    tsBase :=
      match t.epoch with
      | none => 0
      | some (epochAt, epochTs) =>
        let rawTarget := Word.wrappingAdd 64 epochTs (t.ticks (packet.playoutTime - epochAt))
        Word.wrappingSub 64 (t.switchTarget rawTarget) packet.rtpTs.ticks
    awaitingFirstFrame := true
    ddFrameBase := none }

def translateDdFrame (pkt : RtpPacket) (base : ℕ) : RtpPacket :=
  if base = 0 then pkt
  else
    match pkt.extVals.dependencyDescriptor with
    | none => pkt
    | some dd =>
      { pkt with extVals := { pkt.extVals with
          dependencyDescriptor := some { dd with frameNumber := Word.wrappingAdd 16 dd.frameNumber base } } }

def skipOutputSequence (n : ℕ) : Timeline := { t with maxOutput := Word.wrappingAdd 64 t.maxOutput n }

def skipLiveSequence (n : ℕ) : Timeline := { t.skipOutputSequence n with seqBase := Word.wrappingAdd 64 t.seqBase n }

def resyncToInput (lastInputSeq : ℕ) : Timeline := { t with seqBase := Word.wrappingSub 64 t.maxOutput lastInputSeq }

def dropInput : Timeline := { t with seqBase := Word.wrappingSub 64 t.seqBase 1 }

def applyDd (pkt : RtpPacket) : Timeline × RtpPacket :=
  match pkt.extVals.dependencyDescriptor with
  | none => (t, pkt)
  | some dd =>
    let fresh := match t.maxOutputDdFrame with
      | none => 0
      | some last => Word.wrappingSub 16 (Word.wrappingAdd 16 last 1) dd.frameNumber
    let base := t.ddFrameBase.getD fresh
    let outputFrame := Word.wrappingAdd 16 dd.frameNumber base
    let advances := match t.maxOutputDdFrame with
      | none => true
      | some last =>
        let advance := Word.wrappingSub 16 outputFrame last
        decide (0 < advance) && decide (advance < 0x8000)
    ({ t with
        ddFrameBase := some base
        maxOutputDdFrame := if advances then some outputFrame else t.maxOutputDdFrame },
      translateDdFrame pkt base)

def advanceTs (outputTs : ℕ) : Timeline :=
  if t.maxOutputTs < outputTs then
    let delta := outputTs - t.maxOutputTs
    let t :=
      if t.awaitingFirstFrame then { t with awaitingFirstFrame := false }
      else if t.plausibleInterval delta then { t with frameInterval := some delta }
      else t
    { t with maxOutputTs := outputTs }
  else t

def advanceOutput (playoutTime : Instant) (outputSeq outputTs : ℕ) : Timeline :=
  match t.epoch with
  | none => { t with epoch := some (playoutTime, outputTs), maxOutput := outputSeq, maxOutputTs := outputTs }
  | some _ => ({ t with maxOutput := max t.maxOutput outputSeq }).advanceTs outputTs

def apply (pkt : RtpPacket) (outputSeq outputTs : ℕ) : Timeline × RtpPacket :=
  let (t, pkt) := t.applyDd pkt
  (t.advanceOutput pkt.playoutTime outputSeq outputTs, { pkt with seqNo := outputSeq, rtpTs := ⟨outputTs, t.clockRate⟩ })

def outputSeqOf (inputSeq : ℕ) : ℕ := Word.wrappingAdd 64 inputSeq t.seqBase

def outputTsOf (inputTs : ℕ) : ℕ := Word.wrappingAdd 64 inputTs t.tsBase

def rewrite (pkt : RtpPacket) : Timeline × RtpPacket :=
  t.apply pkt (t.outputSeqOf pkt.seqNo) (t.outputTsOf pkt.rtpTs.ticks)

def rewriteAudio (pkt : RtpPacket) : Option (Timeline × RtpPacket) :=
  if t.epoch.isSome ∧ t.outputSeqOf pkt.seqNo ≤ t.maxOutput then none
  else some (t.rewrite pkt)

def rewriteSequential (pkt : RtpPacket) : Timeline × RtpPacket :=
  t.apply pkt (Word.wrappingAdd 64 t.maxOutput 1) (t.outputTsOf pkt.rtpTs.ticks)

end Timeline

end Pulsebeam.Rtp
