import Pulsebeam.Feedback.Report
import Pulsebeam.Lib.Run

/-! Runs of the sender. -/

namespace Pulsebeam.Feedback

open Pulsebeam.Lib

inductive SenderOp
  | prepareFeedbackProfile (profile : FeedbackMode) (granted : Bool)
  | prepareCommit (context : SendCommit) (granted : Bool)
  | commitPreflighted (context : SendCommit) (room : Bool)
  | processFeedback (batch : SendFeedback) (room : Room)
  | rejectUnmappedFeedback (epoch : Epoch) (statuses : ℕ)
  | expire (now : Duration) (limit : ℕ)
  | clearObservations
  | setApplicationLimited (limited : Bool)
  | setAvailability (epoch : Epoch) (available : Bool)
  | retireSource (space : SpaceId)
  | clear (epoch : Epoch)
  | abort

namespace Sender

def orElse (s : Sender) : Except SenderError Sender → Sender
  | .ok s' => s'
  | .error _ => s

def apply (s : Sender) : SenderOp → Sender
  | .prepareFeedbackProfile profile granted => s.orElse (s.prepareFeedbackProfile profile granted)
  | .prepareCommit context granted => (s.prepareCommit context granted).2
  | .commitPreflighted context room => (s.commitPreflighted context room).2
  | .processFeedback batch room => s.processFeedback batch room
  | .rejectUnmappedFeedback epoch statuses => s.rejectUnmappedFeedback epoch statuses
  | .expire now limit => (s.expire now limit).1
  | .clearObservations => s.clearObservations
  | .setApplicationLimited limited => s.setApplicationLimited limited
  | .setAvailability epoch available => s.setAvailability epoch available
  | .retireSource space => s.retireSource space
  | .clear epoch => s.clear epoch
  | .abort => s.abort

def machine (config : SenderConfig) (guard : Sender → SenderOp → Prop) : Machine Sender SenderOp where
  init s := config.validate = true ∧ s = unfunded config
  guard := guard
  step := apply

def leakConfig : SenderConfig := ⟨8, 10, 2, 100, 8, 5, 50⟩

def grantAll : Room := ⟨fun _ => true, fun _ => true⟩

def leakCommit (at' sequence : ℕ) : List SenderOp :=
  [.prepareCommit ⟨at', 100, 1, ⟨0, sequence, some sequence, 0⟩⟩ true,
    .commitPreflighted ⟨at', 100, 1, ⟨0, sequence, some sequence, 0⟩⟩ true]

def leakOps : List SenderOp :=
  [.prepareFeedbackProfile .continuous true, .setAvailability 1 true] ++
    leakCommit 0 1 ++ leakCommit 0 2 ++ leakCommit 0 3 ++ leakCommit 5 4 ++
    [.processFeedback ⟨1, 1, .continuous 3 0 0 [noStatus]⟩ grantAll, .expire 10 2,
      .processFeedback ⟨10, 1, .continuous 3 0 1 [noStatus, ⟨true, none, none, none⟩]⟩ grantAll,
      .clearObservations, .expire 15 2]

lemma reachable_foldl {config : SenderConfig} {ops : List SenderOp} (hvalid : config.validate = true) :
    (machine config fun _ _ => True).Reachable (ops.foldl apply (unfunded config)) :=
  Machine.Reachable.run (.init ⟨hvalid, rfl⟩)
    (Machine.admits_of_forall (fun _ _ => trivial) _ ops)

end Sender

end Pulsebeam.Feedback
