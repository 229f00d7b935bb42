import Mathlib

/-! The packet as the forwarding path sees it: identity, timing, frame flags and the Dependency Descriptor. -/

namespace Pulsebeam.Rtp

abbrev Ssrc := ℕ

abbrev Rid := ℕ

abbrev Instant := ℕ

abbrev Duration := ℕ

def Duration.fromMillis (ms : ℕ) : Duration := ms * 1000000

structure Frequency where
  hz : ℕ
  pos : 0 < hz
  deriving DecidableEq, Repr

def Frequency.ninetyKhz : Frequency := ⟨90000, by decide⟩

/-- Extended RTP ticks and their clock rate. The source compares two media times after bringing
them to one clock, so equality is by cross multiplication and not by components. -/
structure MediaTime where
  ticks : ℕ
  frequency : Frequency
  deriving DecidableEq, Repr

def MediaTime.sameTime (a b : MediaTime) : Bool := a.ticks * b.frequency.hz == b.ticks * a.frequency.hz

structure NalFlags where
  sps : Bool
  pps : Bool
  idr : Bool
  deriving DecidableEq, Repr

inductive DecodeTargetIndication
  | notPresent
  | discardable
  | switch
  | required
  deriving DecidableEq, Repr

structure DependencyDescriptor where
  startOfFrame : Bool
  endOfFrame : Bool
  frameNumber : ℕ
  dtis : List DecodeTargetIndication
  deriving DecidableEq, Repr

def DependencyDescriptor.isInDecodeTarget (dd : DependencyDescriptor) (dt : ℕ) : Bool :=
  match dd.dtis[dt]? with
  | some dti => dti != .notPresent
  | none => false

structure RtpExtensions where
  rid : Option Rid
  rawDependencyDescriptor : Option (List UInt8)
  dependencyDescriptor : Option DependencyDescriptor
  deriving DecidableEq, Repr

structure RtpPacket where
  ssrc : Ssrc
  marker : Bool
  extVals : RtpExtensions
  seqNo : ℕ
  rtpTs : MediaTime
  arrivalTs : Instant
  playoutTime : Instant
  isKeyframe : Bool
  isFrameStart : Bool
  nal : NalFlags
  deriving DecidableEq, Repr

instance : Inhabited RtpPacket where
  default := ⟨1234, false, ⟨none, none, none⟩, 1, ⟨0, .ninetyKhz⟩, 0, 0, false, true, ⟨false, false, false⟩⟩

inductive SourceEncoding
  | rid (rid : Option Rid)
  | ssrc (ssrc : Ssrc)
  deriving DecidableEq, Repr

end Pulsebeam.Rtp
