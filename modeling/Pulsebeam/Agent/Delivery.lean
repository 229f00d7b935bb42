import Pulsebeam.Agent.TopicTypes

/-! What a subscriber keeps of one data track to deliver its messages. -/

namespace Pulsebeam.Agent

open Pulsebeam.Lib

structure LossyDelivery where
  floor : ℕ := 0
  seen : OrdSet ℕ := OrdSet.empty

def LossyDelivery.accept (d : LossyDelivery) (sequence : ℕ) : LossyDelivery × Bool :=
  if sequence < d.floor ∨ sequence ∈ d.seen then (d, false)
  else
    let seen := d.seen.insert sequence
    if seen.elems.getLast? = some sequence then
      let floor := sequence - (topicDeduplicationCapacity - 1)
      (⟨floor, ⟨seen.elems.filter (floor ≤ ·), seen.sorted.filter _⟩⟩, true)
    else (⟨d.floor, seen⟩, true)

structure OrderedDelivery where
  nextSequence : Option ℕ := none
  pending : OrdMap ℕ WireMessage := ∅

structure DeliveryResult where
  messages : List WireMessage
  nackFrom : Option ℕ

namespace OrderedDelivery

def drainLoop : ℕ → ℕ → OrdMap ℕ WireMessage → List WireMessage × ℕ × OrdMap ℕ WireMessage
  | 0, next, pending => ([], next, pending)
  | fuel + 1, next, pending =>
    match pending.get? next with
    | none => ([], next, pending)
    | some message =>
      let (messages, next, pending) := drainLoop fuel (Word.saturatingAdd 64 next 1) (pending.erase next)
      (message :: messages, next, pending)

variable (d : OrderedDelivery)

def drain : OrderedDelivery × DeliveryResult :=
  match d.nextSequence with
  | none => (d, ⟨[], none⟩)
  | some next =>
    -- One message leaves the map in each round, so its size bounds their number.
    let (messages, next, pending) := drainLoop d.pending.size next d.pending
    (⟨some next, pending⟩, ⟨messages, if pending.size = 0 then none else some next⟩)

def park (message : WireMessage) : OrderedDelivery :=
  match d.pending.get? message.sequence with
  | some _ => d
  | none =>
    if d.pending.size < topicReorderCapacity then { d with pending := d.pending.insert message.sequence message } else d

def accept (message : WireMessage) : OrderedDelivery × DeliveryResult :=
  match d.nextSequence with
  | none => (d, ⟨[], none⟩)
  | some next =>
    if message.sequence = next then
      let (d, result) := drain { d with nextSequence := some (Word.saturatingAdd 64 next 1) }
      (d, { result with messages := message :: result.messages })
    else
      let missing := next < message.sequence
      let (d, result) := (if missing then d.park message else d).drain
      (d, if missing ∧ result.messages.isEmpty then { result with nackFrom := d.nextSequence } else result)

def seek (next : ℕ) : OrderedDelivery :=
  match d.nextSequence with
  | none => { d with nextSequence := some next }
  | some _ => d

def clearPending : OrderedDelivery := { d with pending := ∅ }

def receive : Body → Option (OrderedDelivery × DeliveryResult × Option (ℕ × ℕ))
  | .frontier _ next =>
    let (d, result) := (d.seek next).drain
    some (d, result, none)
  | .floor _ available =>
    match d.nextSequence with
    | some expected =>
      if expected < available then
        let (d, result) := drain ⟨some available, d.pending.retain fun sequence _ => available ≤ sequence⟩
        some (d, result, some (expected, available))
      else
        let (d, result) := d.drain
        some (d, result, none)
    | none =>
      let (d, result) := d.drain
      some (d, result, none)
  | .message message =>
    let (d, result) := d.accept message
    some (d, result, none)
  | _ => none

end OrderedDelivery

end Pulsebeam.Agent
