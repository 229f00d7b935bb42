import Pulsebeam.Lib.OrdMap
import Pulsebeam.Lib.OrdSet
import Pulsebeam.Lib.Word

/-! Topics of the agent: their names, the frames on the wire and what the host and the application are told. -/

namespace Pulsebeam.Agent

open Pulsebeam.Lib

def maxTopicPayloadBytes : ℕ := 65536

def maxFrameBytes : ℕ := maxTopicPayloadBytes + 256

def topicHistoryCapacity : ℕ := 256

def topicReorderCapacity : ℕ := 256

def topicDeduplicationCapacity : ℕ := 256

def topicSendQueueCapacity : ℕ := 256

abbrev Generation := ℕ

abbrev OperationId := ℕ

abbrev TimerId := ℕ

abbrev ChannelId := ℕ

inductive TopicMode
  | latest
  | lossy
  | ordered
  deriving DecidableEq, Repr

structure TopicKey where
  topic : String
  mode : TopicMode
  deriving Repr

namespace TopicKey

def rank : TopicMode → ℕ
  | .latest => 0
  | .lossy => 1
  | .ordered => 2

def sortKey (k : TopicKey) : String ×ₗ ℕ := toLex (k.topic, rank k.mode)

lemma sortKey_injective : Function.Injective sortKey := by
  rintro ⟨t, m⟩ ⟨t', m'⟩ h
  obtain ⟨rfl, hrank⟩ : t = t' ∧ rank m = rank m' := Prod.mk.inj (toLex.injective h)
  cases m <;> cases m' <;> first | rfl | cases hrank

instance : LinearOrder TopicKey := LinearOrder.lift' sortKey sortKey_injective

end TopicKey

abbrev TopicPublisher := TopicKey

abbrev TopicSubscriber := TopicKey

inductive TopicChannel
  | publisher (publisher : TopicPublisher)
  | subscriber (subscriber : TopicSubscriber)
  deriving DecidableEq

structure WireMessage where
  dataTrackId : String
  sequence : ℕ
  payload : List UInt8
  deriving DecidableEq

inductive Body
  | message (message : WireMessage)
  | nack (dataTrackId : String) (fromSequence : ℕ)
  | probe (dataTrackId : String) (fromSequence : ℕ) (live : Bool)
  | frontier (dataTrackId : String) (nextSequence : ℕ)
  | floor (dataTrackId : String) (availableSequence : ℕ)
  deriving DecidableEq

def Body.dataTrackId : Body → String
  | .message m => m.dataTrackId
  | .nack id _ => id
  | .probe id _ _ => id
  | .frontier id _ => id
  | .floor id _ => id

def Body.Fits : Body → Prop
  | .message m => m.sequence ≤ Word.max 64
  | .nack _ n => n ≤ Word.max 64
  | .probe _ n _ => n ≤ Word.max 64
  | .frontier _ n => n ≤ Word.max 64
  | .floor _ n => n ≤ Word.max 64

structure Received where
  size : ℕ
  body : Option Body

inductive FrameError
  | tooLarge
  | malformed
  | invalidIdentity
  | invalidSequence
  deriving DecidableEq, Repr

def Received.decodeBounded (r : Received) : Except FrameError Body :=
  if maxFrameBytes < r.size then .error .tooLarge
  else
    match r.body with
    | none => .error .malformed
    | some body =>
      if body.dataTrackId.isEmpty ∨ 128 < body.dataTrackId.utf8ByteSize then .error .invalidIdentity
      else
        match body with
        | .message m =>
          if maxTopicPayloadBytes < m.payload.length then .error .tooLarge
          else if m.sequence = Word.max 64 then .error .invalidSequence
          else .ok body
        | _ => .ok body

inductive TopicDropReason
  | invalidPayload
  | notRegistered
  | channelUnavailable
  | queueFull
  | superseded
  | hostRejected
  | channelClosed
  | transportReplaced
  | sequenceExhausted
  deriving DecidableEq, Repr

inductive DataSendFailure
  | disconnected
  | terminalFailure
  | timedOut
  | transportReplaced
  | channelFailed
  | superseded
  | hostRejected
  | queueFull
  | sequenceExhausted
  deriving DecidableEq, Repr

inductive TopicError
  | invalidTopic (topic : String)
  | payloadTooLarge (actual maximum : ℕ)
  | publisherNotRegistered (topic : String)
  | publisherUnavailable (topic : String)
  | sendQueueFull (topic : String)
  | sequenceExhausted (topic : String)
  | malformedMessage
  | invalidControl
  | unknownChannel
  deriving DecidableEq

structure TopicMessage where
  topic : String
  mode : TopicMode
  dataTrackId : String
  sequence : ℕ
  participantId : String
  payload : List UInt8
  deriving DecidableEq

inductive Event
  /-- No output: a message enters the queue of its publisher. -/
  | queued (ticket : Option OperationId) (message : WireMessage)
  | send (operation : OperationId) (generation : Generation) (channel : ChannelId) (body : Body)
  | scheduleTimer (timer : TimerId)
  | cancelTimer (timer : TimerId)
  | sendAdmitted (publisher : TopicPublisher) (operation : OperationId) (dataTrackId : String) (sequence : ℕ)
  | sendDropped (publisher : TopicPublisher) (reason : TopicDropReason)
  | message (message : TopicMessage)
  | channelFailed (channel : TopicChannel) (message : String)
  | recoveryGap (subscriber : TopicSubscriber) (dataTrackId participantId : String)
      (expectedSequence availableSequence : ℕ)
  | dataSendFinished (send : OperationId) (error : Option DataSendFailure)
  deriving DecidableEq

end Pulsebeam.Agent
