import Pulsebeam.Feedback.Types

namespace Pulsebeam.Feedback

open Pulsebeam.Lib

structure Sender where
  config : SenderConfig
  mode : Option FeedbackMode
  entries : List (Option SentEntry)
  feedbackIndex : List (Option FeedbackIndex)
  spaces : AList fun _ : SpaceId => SpaceHistory
  readiness : OrdSet Readiness
  nextSentId : ℕ
  oldestSentId : ℕ
  oldestFeedback : Option ℕ
  newestFeedback : Option ℕ
  highestFeedbackAcked : Option ℕ
  feedbackReference : Option ℤ
  feedbackGeneration : Option ℤ
  activeEpoch : Option Epoch
  lastPath : Option (Epoch × Bool)
  inputs : SenderInputs
  counters : HistoryCounters
  bytesInFlight : ℕ
  reorderingWindow : Duration
  observedReorderingWindow : Duration
  missing : List SentPacketId
  lossWork : ℕ
  room : Room
  -- A mark left where an observation finds the synthetic list full; nothing reads it.
  overflowed : Bool := false

namespace Sender

def unfunded (config : SenderConfig) : Sender where
  config := config
  mode := none
  entries := []
  feedbackIndex := []
  spaces := ∅
  readiness := .empty
  nextSentId := 0
  oldestSentId := 0
  oldestFeedback := none
  newestFeedback := none
  highestFeedbackAcked := none
  feedbackReference := none
  feedbackGeneration := none
  activeEpoch := none
  lastPath := none
  inputs := .empty
  counters := .zero
  bytesInFlight := 0
  reorderingWindow := config.initialReorderingWindow
  observedReorderingWindow := config.initialReorderingWindow
  missing := []
  lossWork := 0
  room := ⟨fun _ => false, fun _ => false⟩

variable (s : Sender)

def prepareFeedbackProfile (profile : FeedbackMode) (granted : Bool) : Except SenderError Sender :=
  match s.mode with
  | none =>
    if granted then
      .ok { s with
        entries := List.replicate s.config.capacity none
        feedbackIndex := List.replicate s.config.capacity none
        inputs := { s.inputs with feedback := [], synthetic := [] }
        mode := some profile }
    else .error .exhausted
  | some current => if current = profile then .ok s else .error .invalidCommit

def slot (value : ℕ) : ℕ := value % s.config.capacity

def entryAt (i : ℕ) : Option SentEntry := s.entries[i]?.join

def entry (id : SentPacketId) : Option SentEntry := (s.entryAt (s.slot id)).filter fun e => e.id == id

def updateEntry (id : SentPacketId) (f : SentEntry → SentEntry) : Sender :=
  match s.entry id with
  | none => s
  | some e => { s with entries := s.entries.set (s.slot id) (some (f e)) }

def indexAt (sequence : ℕ) : Option FeedbackIndex := s.feedbackIndex[s.slot sequence]?.join

def feedbackSentId (sequence : ℕ) : Option SentPacketId :=
  ((s.indexAt sequence).filter fun index => index.sequence == sequence).map (·.sentId)

def lookupPacket (space : SpaceId) (sequence : ℕ) : Option SentPacketId :=
  ((s.spaces.lookup space).bind fun state => state.bySequence.lookup sequence).filter fun id =>
    (s.entry id).any fun e => e.space == space && e.packetSequence == sequence

def eraseKey (key : Option Readiness) : Sender :=
  match key with
  | some key => { s with readiness := s.readiness.erase key }
  | none => s

def insertKey (key : Option Readiness) : Sender :=
  match key with
  | some key => { s with readiness := s.readiness.insert key }
  | none => s

def updateSpace (space : SpaceId) (f : SpaceHistory → SpaceHistory) : Sender :=
  match s.spaces.lookup space with
  | none => s
  | some state => { s with spaces := s.spaces.insert space (f state) }

def addUnknown (count : ℕ) : Sender :=
  { s with counters := { s.counters with
      unknownFeedback := Word.saturatingAdd 64 s.counters.unknownFeedback count } }

def addStale (count : ℕ) : Sender :=
  { s with counters := { s.counters with staleFeedback := Word.saturatingAdd 64 s.counters.staleFeedback count } }

def addWrongPath (count : ℕ) : Sender :=
  { s with counters := { s.counters with
      wrongPathFeedback := Word.saturatingAdd 64 s.counters.wrongPathFeedback count } }

def addDuplicate : Sender :=
  { s with counters := { s.counters with
      duplicateFeedback := Word.saturatingAdd 64 s.counters.duplicateFeedback 1 } }

def exhaust : Sender := { s with inputs := { s.inputs with exhausted := true } }

def reserveMissingSlot : Sender × Bool :=
  ({ s with room := { s.room with missing := fun n => s.room.missing (n + 1) } }, s.room.missing 0)

def reserveFeedbackSlot : Sender × Bool :=
  ({ s with room := { s.room with feedback := fun n => s.room.feedback (n + 1) } }, s.room.feedback 0)

section Commit

variable (s : Sender)

def validateCommit (context : SendCommit) : Option SenderError :=
  let identity := context.identity
  if s.activeEpoch ≠ some context.pathEpoch ||
      (s.spaces.lookup identity.space).any (fun source =>
        source.terminal || (source.bySequence.lookup identity.packet).isSome) ||
      context.wireLen == 0 || decide (2 ^ 32 ≤ context.wireLen) ||
      !(match s.mode, identity.feedbackSequence with
        | some .continuous, some _ => true
        | some .independent, none => true
        | _, _ => false) ||
      decide (Word.max 64 ≤ s.nextSentId) || (checkedAdd s.bytesInFlight context.wireLen).isNone then
    some .invalidCommit
  else if identity.feedbackSequence.any fun packet => s.newestFeedback.any fun newest => decide (packet ≤ newest) then
    some .invalidCommit
  else if identity.feedbackSequence.any fun packet =>
      ((s.indexAt packet).bind fun index => s.entry index.sentId).any fun e =>
        e.pathEpoch == context.pathEpoch && !e.acknowledgment.isTerminal then
    some .exhausted
  else if (s.entryAt (s.slot s.nextSentId)).any fun previous =>
      !previous.acknowledgment.isTerminal && previous.pathEpoch == context.pathEpoch then
    some .exhausted
  else none

def prepareCommit (context : SendCommit) (granted : Bool) : Except SenderError Unit × Sender :=
  match s.validateCommit context with
  | some error => (.error error, s)
  | none =>
    if !granted then (.error .exhausted, s)
    else
      match s.spaces.lookup context.identity.space with
      | some _ => (.ok (), s)
      | none =>
        (.ok (), { s with
          spaces := s.spaces.insert context.identity.space
            ⟨context.identity.packet, context.identity.packet, none, ∅, none, none, false⟩
          readiness := s.readiness.insert (.unscheduled context.identity.space) })

def dropFeedback (e : SentEntry) : Sender :=
  match e.feedbackSequence with
  | none => s
  | some sequence =>
    let feedbackIndex :=
      if (s.indexAt sequence).any fun index => index.sentId == e.id then
        s.feedbackIndex.set (s.slot sequence) none
      else s.feedbackIndex
    { s with
      feedbackIndex := feedbackIndex
      oldestFeedback :=
        if s.oldestFeedback = some sequence then
          (feedbackIndex.filterMap fun index : Option FeedbackIndex =>
            (index.filter fun i => decide (sequence < i.sequence)).map (·.sequence)).min?
        else s.oldestFeedback }

def dropPacket (e : SentEntry) : Sender :=
  match s.spaces.lookup e.space with
  | none => s
  | some state =>
    if state.bySequence.lookup e.packetSequence = some e.id then
      { s with spaces := s.spaces.insert e.space { state with bySequence := state.bySequence.erase e.packetSequence } }
    else s

def removeIndexes (e : SentEntry) : Sender :=
  ((s.eraseKey (e.readiness s.reorderingWindow)).dropFeedback e).dropPacket e

def vacateSlot : Sender :=
  match s.entryAt (s.slot s.nextSentId) with
  | some previous => s.removeIndexes previous
  | none => s

def spaceAfterCommit (state : SpaceHistory) (context : SendCommit) (sentId : SentPacketId) : SpaceHistory :=
  let packetSequence := context.identity.packet
  let foreign := state.lastReportGeneration.any fun generation => generation.1 != context.pathEpoch
  { state with
    lastReportGeneration := if foreign then none else state.lastReportGeneration
    highestAckedSequence := if foreign then none else state.highestAckedSequence
    firstSequence := if state.bySequence.entries.isEmpty then packetSequence else min state.firstSequence packetSequence
    newestSequence :=
      if state.bySequence.entries.isEmpty then packetSequence else max state.newestSequence packetSequence
    bySequence := state.bySequence.insert packetSequence sentId
    latestCommitAt := some (state.latestCommitAt.elim context.at' (max · context.at')) }

def commitEntry (context : SendCommit) (sentId : SentPacketId) : SentEntry where
  id := sentId
  committedAt := context.at'
  wireLen := context.wireLen
  pathEpoch := context.pathEpoch
  space := context.identity.space
  packetSequence := context.identity.packet
  feedbackSequence := context.identity.feedbackSequence
  tag := context.identity.tag
  acknowledgment := .pending
  networkLossReported := false
  missingSince := none
  frozenReorderDeadline := none
  inFlight := true

def indexFeedback (feedbackSequence : Option ℕ) (sentId : SentPacketId) : Sender :=
  match feedbackSequence with
  | none => s
  | some sequence =>
    { s with
      oldestFeedback := some (s.oldestFeedback.getD sequence)
      newestFeedback := some sequence
      feedbackIndex := s.feedbackIndex.set (s.slot sequence) (some ⟨sequence, sentId⟩) }

def commitPreflighted (context : SendCommit) (room : Bool) : Except SenderError Unit × Sender :=
  match s.validateCommit context with
  | some error => (.error error, s)
  | none =>
    if (s.spaces.lookup context.identity.space).isNone || !room then (.error .exhausted, s)
    else
      let sentId := s.nextSentId
      let s := s.vacateSlot
      -- From here on the sender is written to in place, and an exit leaves it as far as it got.
      match s.spaces.lookup context.identity.space with
      | none => (.error .invalidCommit, s)
      | some state =>
        let s := { s with spaces := s.spaces.insert context.identity.space (spaceAfterCommit state context sentId) }
        let s := s.indexFeedback context.identity.feedbackSequence sentId
        let s := { s with entries := s.entries.set (s.slot sentId) (some (commitEntry context sentId)) }
        match checkedAdd s.nextSentId 1 with
        | none => (.error .exhausted, s)
        | some next =>
          let s := { s with nextSentId := next, oldestSentId := max s.oldestSentId (next - s.config.capacity) }
          match checkedAdd s.bytesInFlight context.wireLen with
          | none => (.error .exhausted, s)
          | some bytes => (.ok (), { s with bytesInFlight := bytes, inputs := { s.inputs with bytesInFlight := bytes } })

end Commit

def retireSource (space : SpaceId) : Sender :=
  match s.spaces.lookup space with
  | none => s
  | some source =>
    if source.terminal then s
    else
      let previous := source.readiness space s.config.retention
      let retired := { source with terminal := true }
      let next := retired.readiness space s.config.retention
      let s := { s with spaces := s.spaces.insert space retired }
      if previous ≠ next then { s with readiness := (s.readiness.erase previous).insert next } else s

def detach (e : SentEntry) : Sender :=
  (s.eraseKey (e.readiness s.reorderingWindow)).updateSpace e.space fun source =>
    { source with
      lastReportGeneration := none
      highestAckedSequence := none
      bySequence := source.bySequence.erase e.packetSequence }

def changePath (i : ℕ) : Sender :=
  match s.entryAt i with
  | none => s
  | some e =>
    let s := s.detach e
    if !e.acknowledgment.isTerminal && s.activeEpoch != some e.pathEpoch then
      { s with
        entries := s.entries.set i (some { e with acknowledgment := .retired, inFlight := false })
        bytesInFlight := if e.inFlight then s.bytesInFlight - e.wireLen else s.bytesInFlight }
    else s

def setAvailability (epoch : Epoch) (available : Bool) : Sender :=
  if s.lastPath = some (epoch, available) || (!available && s.lastPath.any fun path => !path.2) then s
  else
    let s := { s with
      lastPath := some (epoch, available)
      activeEpoch := if available then some epoch else none }
    let s := (List.range s.entries.length).foldl changePath s
    { s with
      inputs := { s.inputs with
        bytesInFlight := s.bytesInFlight
        feedback := []
        synthetic := []
        timing := none
        freshNetworkFeedback := false
        pathChange := some ⟨epoch, available⟩ }
      feedbackReference := none
      feedbackGeneration := none
      highestFeedbackAcked := none
      oldestFeedback := none
      missing := []
      reorderingWindow := s.config.initialReorderingWindow
      observedReorderingWindow := s.config.initialReorderingWindow }

def clearObservations : Sender :=
  { s with
    lossWork := 0
    inputs := { s.inputs with
      feedback := [], synthetic := [], timing := none, freshNetworkFeedback := false, pathChange := none } }

def setApplicationLimited (applicationLimited : Bool) : Sender :=
  { s with inputs := { s.inputs with applicationLimited := applicationLimited } }

def rejectUnmappedFeedback (epoch : Epoch) (statuses : ℕ) : Sender :=
  if s.inputs.exhausted then s
  else if s.activeEpoch = some epoch then s.addUnknown statuses
  else s.addWrongPath statuses

def clear (epoch : Epoch) : Sender :=
  let s := { s with
    entries := List.replicate s.entries.length none
    feedbackIndex := List.replicate s.feedbackIndex.length none
    spaces := ∅
    readiness := .empty
    missing := []
    oldestSentId := s.nextSentId
    oldestFeedback := none
    newestFeedback := none
    highestFeedbackAcked := none
    feedbackReference := none
    feedbackGeneration := none
    activeEpoch := some epoch
    lastPath := some (epoch, true)
    bytesInFlight := 0 }
  let s := s.clearObservations
  { s with
    inputs := { s.inputs with
      bytesInFlight := 0, exhausted := false, applicationLimited := false, pathChange := some ⟨epoch, true⟩ }
    reorderingWindow := s.config.initialReorderingWindow
    observedReorderingWindow := s.config.initialReorderingWindow }

def abort : Sender :=
  let s := s.clear (s.activeEpoch.getD 0)
  { s with
    entries := []
    feedbackIndex := []
    inputs := { s.inputs with feedback := [], synthetic := [], pathChange := none }
    missing := []
    mode := none
    activeEpoch := none
    lastPath := none }

end Sender

end Pulsebeam.Feedback
