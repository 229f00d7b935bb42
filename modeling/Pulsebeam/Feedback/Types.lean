import Pulsebeam.Lib.OrdSet
import Pulsebeam.Lib.Word

/-! The records of the transport feedback sender. Times are nanoseconds. -/

namespace Pulsebeam.Feedback

open Pulsebeam.Lib

abbrev SpaceId := ℕ

abbrev PacketId := ℕ

abbrev Epoch := ℕ

abbrev SentPacketId := ℕ

abbrev Duration := ℕ

def Duration.max : ℕ := 2 ^ 64 * 1000000000 - 1

def Duration.checkedAdd (a b : Duration) : Option Duration := if a + b ≤ Duration.max then some (a + b) else none

def checkedAdd (a b : ℕ) : Option ℕ := if a + b < 2 ^ 64 then some (a + b) else none

inductive Ecn
  | notEct
  | ect1
  | ect0
  | ce
  deriving DecidableEq, Repr

inductive ReceiverTime
  | micros (n : ℤ)
  | overRange
  | unavailable
  deriving DecidableEq, Repr

inductive FeedbackMode
  | continuous
  | independent
  deriving DecidableEq, Repr

inductive LossOrigin
  | reordering
  | historyExpiry
  deriving DecidableEq, Repr

inductive SenderError
  | exhausted
  | invalidCommit
  deriving DecidableEq, Repr

structure SenderConfig where
  capacity : ℕ
  retention : Duration
  maxExpirationsPerPoll : ℕ
  maxAckReordering : ℕ
  maxFeedbackStatuses : ℕ
  initialReorderingWindow : Duration
  maxReorderingWindow : Duration

def SenderConfig.validate (c : SenderConfig) : Bool :=
  !(c.capacity == 0 || decide (c.maxExpirationsPerPoll < 2) || c.maxFeedbackStatuses == 0 || c.retention == 0 ||
    decide (c.maxReorderingWindow < c.initialReorderingWindow))

structure SendIdentity where
  space : SpaceId
  packet : PacketId
  feedbackSequence : Option PacketId
  tag : ℕ

structure SendCommit where
  at' : Duration
  wireLen : ℕ
  pathEpoch : Epoch
  identity : SendIdentity

structure SendStatus where
  received : Bool
  arrival : Option ReceiverTime
  ecn : Option Ecn
  hold : Option Duration

structure IndependentReport where
  space : SpaceId
  base : PacketId
  generation : ℤ
  statuses : List SendStatus

inductive SendReport
  | continuous (baseSequence : PacketId) (referenceMicros generation : ℤ) (statuses : List SendStatus)
  | independent (reports : List IndependentReport)

structure SendFeedback where
  receivedAt : Duration
  pathEpoch : Epoch
  report : SendReport

structure SentObservation where
  sentId : SentPacketId
  space : SpaceId
  committedAt : Duration
  transportBytes : ℕ
  tag : ℕ
  received : Bool
  newlyAcked : Bool
  lost : Bool
  reportedLostForTheFirstTime : Bool
  recovered : Bool
  observedAt : Option Duration
  lossOrigin : Option LossOrigin
  receiverArrival : Option ReceiverTime
  ecn : Option Ecn
  deriving DecidableEq, Repr

structure FeedbackTiming where
  receivedAt : Duration
  feedbackHold : Option Duration
  newestSendAge : Option Duration

structure AvailabilityChange where
  epoch : Epoch
  available : Bool

structure SenderInputs where
  feedback : List SentObservation
  synthetic : List SentObservation
  exhausted : Bool
  timing : Option FeedbackTiming
  freshNetworkFeedback : Bool
  pathChange : Option AvailabilityChange
  applicationLimited : Bool
  bytesInFlight : ℕ

def SenderInputs.empty : SenderInputs := ⟨[], [], false, none, false, none, false, 0⟩

structure HistoryCounters where
  unknownFeedback : ℕ
  duplicateFeedback : ℕ
  staleFeedback : ℕ
  reorderedFeedback : ℕ
  wrongPathFeedback : ℕ
  expired : ℕ
  received : ℕ
  notReceived : ℕ

def HistoryCounters.zero : HistoryCounters := ⟨0, 0, 0, 0, 0, 0, 0, 0⟩

inductive Acknowledgment
  | pending
  | missing (since : Duration) (higherReceivedAt : Option Duration)
  | received
  | lost
  | retired
  deriving DecidableEq, Repr

def Acknowledgment.isTerminal : Acknowledgment → Bool
  | .received | .lost | .retired => true
  | _ => false

def Acknowledgment.isMissing : Acknowledgment → Bool
  | .missing _ _ => true
  | _ => false

inductive Readiness
  | retired (deadline : Option Duration) (space : SpaceId)
  | unscheduled (space : SpaceId)
  | missing (deadline : Duration) (sentId : SentPacketId)
  deriving DecidableEq, Repr

def Readiness.key : Readiness → ℕ ×ₗ ℕ ×ₗ ℕ
  | .retired deadline space => toLex (0, toLex (deadline.elim 0 (· + 1), space))
  | .unscheduled space => toLex (1, toLex (space, 0))
  | .missing deadline sentId => toLex (2, toLex (deadline, sentId))

lemma Readiness.key_injective : Function.Injective Readiness.key := by
  intro a b h
  have h' := congrArg (fun x => (ofLex x).1) h
  cases a with
  | retired d sp =>
    cases b with
    | retired d' sp' =>
      cases d <;> cases d' <;> simp_all [Readiness.key]
    | unscheduled sp' => simp [Readiness.key] at h'
    | missing d' id => simp [Readiness.key] at h'
  | unscheduled sp => cases b <;> simp_all [Readiness.key]
  | missing d id => cases b <;> simp_all [Readiness.key]

instance : LinearOrder Readiness := LinearOrder.lift' Readiness.key Readiness.key_injective

structure SentEntry where
  id : SentPacketId
  committedAt : Duration
  wireLen : ℕ
  pathEpoch : Epoch
  space : SpaceId
  packetSequence : ℕ
  feedbackSequence : Option ℕ
  tag : ℕ
  acknowledgment : Acknowledgment
  networkLossReported : Bool
  missingSince : Option Duration
  frozenReorderDeadline : Option Duration
  inFlight : Bool

namespace SentEntry

def reorderDeadline (e : SentEntry) (window : Duration) : Option Duration :=
  match e.acknowledgment with
  | .missing _ (some anchor) => e.frozenReorderDeadline.or (Duration.checkedAdd anchor window)
  | _ => none

def readiness (e : SentEntry) (window : Duration) : Option Readiness :=
  (e.reorderDeadline window).map fun deadline => .missing deadline e.id

end SentEntry

structure FeedbackIndex where
  sequence : ℕ
  sentId : SentPacketId

structure SpaceHistory where
  firstSequence : ℕ
  newestSequence : ℕ
  highestAckedSequence : Option ℕ
  bySequence : AList fun _ : ℕ => SentPacketId
  lastReportGeneration : Option (Epoch × ℤ)
  latestCommitAt : Option Duration
  terminal : Bool

def SpaceHistory.readiness (h : SpaceHistory) (space : SpaceId) (retention : Duration) : Readiness :=
  if h.terminal then
    match h.latestCommitAt with
    | none => .retired none space
    | some at' =>
      match Duration.checkedAdd at' retention with
      | some deadline => .retired (some deadline) space
      | none => .unscheduled space
  else .unscheduled space

/-- The answers of the allocator to the successive requests of one report. -/
structure Room where
  missing : ℕ → Bool
  feedback : ℕ → Bool

end Pulsebeam.Feedback
