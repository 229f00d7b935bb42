import Pulsebeam.Feedback.Sender

/-! What reports and expiry do to the sent window. -/

namespace Pulsebeam.Feedback

open Pulsebeam.Lib

namespace Sender

section Entries

variable (s : Sender)

def retireFromFlight (sentId : SentPacketId) : Sender :=
  match s.entry sentId with
  | none => s
  | some e =>
    if e.inFlight then
      { s with
        entries := s.entries.set (s.slot sentId) (some { e with inFlight := false })
        bytesInFlight := s.bytesInFlight - e.wireLen
        inputs := { s.inputs with bytesInFlight := s.bytesInFlight - e.wireLen } }
    else s

def markNewlyAcked (l : List SentObservation) : List SentObservation :=
  match l.getLast? with
  | none => l
  | some last => l.dropLast ++ [{ last with newlyAcked := true }]

structure Outcome where
  received : Bool
  newlyAcked : Bool
  lossOrigin : Option LossOrigin
  arrival : Option ReceiverTime
  ecn : Option Ecn
  observedAt : Option Duration

def observe (mode : Option FeedbackMode) (e : SentEntry) (o : Outcome) : SentObservation × SentEntry :=
  let reportedLost := mode == some .independent && !o.received && !e.networkLossReported &&
    (o.lossOrigin == some .reordering || e.acknowledgment.isMissing)
  let recovered := o.received && e.networkLossReported
  (⟨e.id, e.space, e.committedAt, min e.wireLen (2 ^ 32 - 1), e.tag, o.received, o.newlyAcked, o.lossOrigin.isSome,
      reportedLost, recovered, o.observedAt, o.lossOrigin, o.arrival, o.ecn⟩,
    { e with networkLossReported := if reportedLost then true else if recovered then false else e.networkLossReported })

def pushObservation (sample : SentObservation) : Sender :=
  if sample.lossOrigin.isSome then
    if s.inputs.synthetic.length < s.config.maxExpirationsPerPoll then
      { s with inputs := { s.inputs with synthetic := s.inputs.synthetic ++ [sample] } }
    else { s.exhaust with overflowed := true }
  else { s with inputs := { s.inputs with feedback := s.inputs.feedback ++ [sample] } }

def completesReportedLoss (sentId : SentPacketId) (o : Outcome) : Bool :=
  o.newlyAcked && !o.received && o.lossOrigin.isNone &&
    s.inputs.feedback.getLast?.any fun previous =>
      previous.sentId == sentId && previous.reportedLostForTheFirstTime && !previous.received

def emitObserved (sentId : SentPacketId) (o : Outcome) : Sender :=
  if s.completesReportedLoss sentId o then
    { s with inputs := { s.inputs with feedback := markNewlyAcked s.inputs.feedback } }
  else
    match s.entry sentId with
    | none => s
    | some e =>
      let (s, granted) := if o.lossOrigin.isNone then s.reserveFeedbackSlot else (s, true)
      if !granted then s.exhaust
      else
        let (sample, e) := observe s.mode e o
        ({ s with entries := s.entries.set (s.slot sentId) (some e) }).pushObservation sample

def emit (sentId : SentPacketId) (received newlyAcked : Bool) (lossOrigin : Option LossOrigin) : Sender :=
  s.emitObserved sentId ⟨received, newlyAcked, lossOrigin, none, none, none⟩

def reorderDeadline (e : SentEntry) : Option Duration := e.reorderDeadline s.reorderingWindow

def lossOriginOf (e : SentEntry) (origin : LossOrigin) : LossOrigin :=
  match origin, Duration.checkedAdd e.committedAt s.config.retention with
  | .historyExpiry, some expiry =>
    if (s.reorderDeadline e).any fun deadline => decide (deadline ≤ expiry) then .reordering else .historyExpiry
  | origin, _ => origin

def setLost (sentId : SentPacketId) (origin : LossOrigin) : Sender :=
  match s.entry sentId with
  | none => s
  | some e =>
    if e.acknowledgment.isTerminal then s
    else
      let previous := e.readiness s.reorderingWindow
      let s := s.updateEntry sentId fun e => { e with acknowledgment := .lost }
      let s := s.eraseKey previous
      let s := { s with counters := { s.counters with
        notReceived := Word.saturatingAdd 64 s.counters.notReceived 1 } }
      s.emit sentId false false (some origin)

def markLostUnbudgeted (sentId : SentPacketId) (origin : LossOrigin) : Sender :=
  match origin with
  | .historyExpiry =>
    match s.entry sentId with
    | none => s
    | some e =>
      let s := s.retireFromFlight sentId
      s.setLost sentId (s.lossOriginOf e origin)
  | .reordering => s.setLost sentId origin

def markLost (sentId : SentPacketId) (origin : LossOrigin) : Sender × Bool :=
  if (s.entry sentId).all fun e => e.acknowledgment.isTerminal then (s, true)
  else if s.lossWork = s.config.maxExpirationsPerPoll then (s, false)
  else (({ s with lossWork := s.lossWork + 1 }).markLostUnbudgeted sentId origin, true)

def setReceived (sentId : SentPacketId) (newlyAcked : Bool) (arrival : Option ReceiverTime)
    (ecn : Option Ecn) (receivedAt : Duration) : Sender :=
  match s.entry sentId with
  | none => s
  | some e =>
    if e.acknowledgment.isTerminal && !(e.acknowledgment == .lost && e.missingSince.isSome) then s.addDuplicate
    else
      let previous := e.readiness s.reorderingWindow
      let terminalLoss := e.acknowledgment == .lost
      let s := s.updateEntry sentId fun e =>
        { e with acknowledgment := if terminalLoss then e.acknowledgment else .received, missingSince := none }
      let s := s.eraseKey previous
      let s := if terminalLoss then s else { s with counters := { s.counters with
        received := Word.saturatingAdd 64 s.counters.received 1 } }
      s.emitObserved sentId ⟨true, newlyAcked, none, arrival, ecn, some receivedAt⟩

def setMissing (sentId : SentPacketId) (now : Duration) : Sender :=
  if (s.entry sentId).any fun e => e.acknowledgment == .pending then
    let (s, granted) := s.reserveMissingSlot
    if !granted then s.exhaust
    else
      let s := s.updateEntry sentId fun e => { e with acknowledgment := .missing now none, missingSince := some now }
      let s := { s with missing := s.missing ++ [sentId] }
      s.emitObserved sentId ⟨false, false, none, none, none, some now⟩
  else s

def aged (e : SentEntry) (now : Duration) : Bool := decide (s.config.retention ≤ now - e.committedAt)

def overdue (e : SentEntry) (now : Duration) : Bool := (s.reorderDeadline e).any fun deadline => decide (deadline ≤ now)

def observeWindow (receivedAt since : Duration) : Sender :=
  let observed := min (receivedAt - since) s.config.maxReorderingWindow
  { s with observedReorderingWindow := max s.observedReorderingWindow observed }

def takeMissingSince (sentId : SentPacketId) (receivedAt : Duration) : Sender :=
  match (s.entry sentId).bind (·.missingSince) with
  | none => s
  | some since => (s.updateEntry sentId fun e => { e with missingSince := none }).observeWindow receivedAt since

def advanceEntry (sentId : Option SentPacketId) (epoch : Epoch) (status : SendStatus)
    (receivedAt : Duration) : Sender :=
  match sentId with
  | none => s.addUnknown 1
  | some sentId =>
    match s.entry sentId with
    | none => s.addUnknown 1
    | some e =>
      if e.pathEpoch ≠ epoch then s.addWrongPath 1
      else if s.aged e receivedAt then (s.markLost sentId .historyExpiry).1
      else
        let (s, granted) := if !status.received && e.acknowledgment == .pending then s.reserveMissingSlot else (s, true)
        if !granted then s.exhaust
        else
          let s := s.retireFromFlight sentId
          if status.received then
            if s.overdue e receivedAt then
              let (s, marked) := s.markLost sentId .reordering
              if !marked then s else s.setReceived sentId true status.arrival status.ecn receivedAt
            else s.setReceived sentId true status.arrival status.ecn receivedAt
          else
            let s := s.setMissing sentId receivedAt
            if s.inputs.exhausted then s else s.emit sentId false true none

def rejectReplayedTerminalReceipt (sentId : Option SentPacketId) (epoch : Epoch) (receivedAt : Duration)
    (reportIsNew : Bool) : Sender × Bool :=
  match sentId.bind fun id => (s.entry id).map (id, ·) with
  | none => (s, false)
  | some (id, e) =>
    if !reportIsNew && e.pathEpoch == epoch && !s.aged e receivedAt &&
        (e.acknowledgment == .lost || s.overdue e receivedAt) then
      let s := s.takeMissingSince id receivedAt
      let (s, marked) := s.markLost id .reordering
      (if marked then s.addDuplicate else s, true)
    else (s, false)

def recover (sentId : Option SentPacketId) (epoch : Epoch) (status : SendStatus) (receivedAt : Duration) : Sender :=
  match sentId with
  | none => s.addUnknown 1
  | some sentId =>
    match s.entry sentId with
    | none => s.addUnknown 1
    | some e =>
      if e.pathEpoch ≠ epoch then s.addWrongPath 1
      else if s.aged e receivedAt then
        let (s, marked) := s.markLost sentId .historyExpiry
        if !marked then s else s.takeMissingSince sentId receivedAt
      else
        match e.acknowledgment with
        | .missing since _ =>
          let (s, marked) := if s.overdue e receivedAt then s.markLost sentId .reordering else (s, true)
          if !marked then s
          else (s.setReceived sentId false status.arrival status.ecn receivedAt).observeWindow receivedAt since
        | .lost =>
          match e.missingSince with
          | some since =>
            (s.observeWindow receivedAt since).setReceived sentId false status.arrival status.ecn receivedAt
          | none => s.addDuplicate
        | .received | .retired => s.addDuplicate
        | .pending => (s.retireFromFlight sentId).setReceived sentId false status.arrival status.ecn receivedAt

inductive ReceiptEdge
  | feedback (edge : ℕ)
  | inSpace (space : SpaceId) (edge : ℕ)

def ReceiptEdge.above (edge : ReceiptEdge) (e : SentEntry) : Bool :=
  match edge with
  | .feedback edge => e.feedbackSequence.any fun sequence => decide (sequence < edge)
  | .inSpace space edge => e.space == space && decide (e.packetSequence < edge)

def anchorEntry (edge : ReceiptEdge) (receivedAt : Duration) (s : Sender) (id : SentPacketId) : Sender :=
  match s.entry id with
  | none => s
  | some e =>
    match e.acknowledgment with
    | .missing since none =>
      if edge.above e then
        let anchored := { e with acknowledgment := .missing since (some receivedAt) }
        (s.updateEntry id fun _ => anchored).insertKey (anchored.readiness s.reorderingWindow)
      else s
    | _ => s

def anchorMissing (edge : ReceiptEdge) (receivedAt : Duration) : Sender :=
  s.missing.foldl (anchorEntry edge receivedAt) s

end Entries

section Reports

def inclusive (lo hi : ℕ) : List ℕ := List.range' lo (hi + 1 - lo)

def numbered (base : ℕ) (statuses : List SendStatus) : List (ℕ × SendStatus) :=
  statuses.zipIdx.map fun x => (Word.saturatingAdd 64 base x.2, x.1)

def receivedEdge (base floor : ℕ) (statuses : List SendStatus) : Option ℕ :=
  (((numbered base statuses).filter fun x => decide (floor ≤ x.1) && x.2.received).getLast?).map (·.1)

def statusAt (base : ℕ) (statuses : List SendStatus) (sequence : ℕ) : Option SendStatus :=
  if base ≤ sequence then statuses[sequence - base]? else none

def edgeStart (floor : ℕ) (oldEdge : Option ℕ) : ℕ :=
  oldEdge.elim floor fun previous => max floor (Word.saturatingAdd 64 previous 1)

variable (s : Sender)

def isLiveFeedbackEntry (e : SentEntry) (now : Duration) : Bool :=
  !e.acknowledgment.isTerminal && !s.aged e now && !s.overdue e now

def isRecoverableEntry (e : SentEntry) (now : Duration) : Bool :=
  (e.acknowledgment.isMissing || (e.acknowledgment == .lost && e.missingSince.isSome)) && !s.aged e now

def recoveryIsFresh (e : SentEntry) (now : Duration) (reportIsNew : Bool) : Bool :=
  s.isRecoverableEntry e now && (reportIsNew || s.isLiveFeedbackEntry e now)

inductive Lane
  | feedback
  | inSpace (space : SpaceId)

def resolve (lane : Lane) (sequence : ℕ) : Option SentPacketId :=
  match lane with
  | .feedback => s.feedbackSentId sequence
  | .inSpace space => s.lookupPacket space sequence

def resolveEntry (lane : Lane) (sequence : ℕ) : Option SentEntry := (s.resolve lane sequence).bind s.entry

def unresolved (lane : Lane) (epoch : Epoch) (sequence : ℕ) : Bool :=
  (s.resolveEntry lane sequence).all fun e => e.pathEpoch != epoch

structure Span where
  base : ℕ
  floor : ℕ
  lastReported : ℕ
  oldEdge : Option ℕ
  statuses : List SendStatus

def Span.receivedEdge (r : Span) : Option ℕ := Sender.receivedEdge r.base r.floor r.statuses

def Span.start (r : Span) : ℕ := edgeStart r.floor r.oldEdge

def rejectedStatuses (lane : Lane) (epoch : Epoch) (r : Span) : Option ℕ :=
  if r.statuses.isEmpty then none
  else if r.receivedEdge.any fun edge =>
      decide (r.start ≤ edge) && decide (s.config.maxFeedbackStatuses ≤ edge - r.start) then
    some r.statuses.length
  else
    let reported := ((inclusive (max r.base r.floor) r.lastReported).filter (s.unresolved lane epoch)).length
    let advance := match r.receivedEdge with
      | some edge =>
        if r.start ≤ edge then
          ((List.range' r.start (min r.base (Word.saturatingAdd 64 edge 1) - r.start)).filter
            (s.unresolved lane epoch)).length
        else 0
      | none => 0
    if reported + advance ≠ 0 then some (reported + advance) else none

def lateReceipt (lane : Lane) (r : Span) (receivedAt : Duration) (reportIsNew : Bool) : Bool :=
  (numbered r.base r.statuses).any fun x => decide (r.floor ≤ x.1) && x.2.received &&
    (s.resolveEntry lane x.1).any fun e => s.recoveryIsFresh e receivedAt reportIsNew

def hasLive (lane : Lane) (r : Span) (receivedAt : Duration) : Bool :=
  !r.statuses.isEmpty && (inclusive (max r.base r.floor) r.lastReported).any fun sequence =>
    (s.resolveEntry lane sequence).any fun e => s.isLiveFeedbackEntry e receivedAt

def settleStatus (lane : Lane) (r : Span) (epoch : Epoch) (receivedAt : Duration) (reportIsNew : Bool) (s : Sender)
    (x : ℕ × SendStatus) : Sender :=
  if x.1 < r.floor then s
  else
    let sentId := s.resolve lane x.1
    if !x.2.received then
      match sentId with
      | some sentId => s.setMissing sentId receivedAt
      | none => s
    else if r.oldEdge.any fun edge => decide (x.1 ≤ edge) then
      let (s, rejected) := s.rejectReplayedTerminalReceipt sentId epoch receivedAt reportIsNew
      if rejected then s else s.recover sentId epoch x.2 receivedAt
    else s

def settleStatuses (lane : Lane) (r : Span) (epoch : Epoch) (receivedAt : Duration) (reportIsNew : Bool) : Sender :=
  (numbered r.base r.statuses).foldl (settleStatus lane r epoch receivedAt reportIsNew) s

def advanceContinuous (base : ℕ) (statuses : List SendStatus) (epoch : Epoch) (receivedAt : Duration) (s : Sender)
    (sequence : ℕ) : Sender :=
  match statusAt base statuses sequence with
  | some status => s.advanceEntry (s.feedbackSentId sequence) epoch status receivedAt
  | none =>
    -- Credit for an unreported gap is no evidence of loss.
    match s.feedbackSentId sequence with
    | some sentId => (s.retireFromFlight sentId).emit sentId false true none
    | none => s

def advanceContinuousEdge (base : ℕ) (statuses : List SendStatus) (edge : ℕ) (epoch : Epoch)
    (receivedAt : Duration) : Sender :=
  let start := edgeStart (s.oldestFeedback.getD base) s.highestFeedbackAcked
  if edge < start || decide (s.config.maxFeedbackStatuses ≤ edge - start) then s
  else if s.unresolved .feedback epoch edge then s.addUnknown 1
  else
    let s := s.anchorMissing (.feedback edge) receivedAt
    let s := (inclusive start edge).foldl (advanceContinuous base statuses epoch receivedAt) s
    { s with highestFeedbackAcked := some edge }

def noteContinuous (reference generation : ℤ) (fresh : Bool) : Sender :=
  let s := if s.feedbackReference.all fun previous => decide (previous ≤ reference) then
      { s with feedbackReference := some reference }
    else s
  let s := if s.feedbackGeneration.any fun previous => decide (generation ≤ previous) then
      { s with counters := { s.counters with
        reorderedFeedback := Word.saturatingAdd 64 s.counters.reorderedFeedback 1 } }
    else { s with feedbackGeneration := some generation }
  { s with inputs := { s.inputs with freshNetworkFeedback := s.inputs.freshNetworkFeedback || fresh } }

def acceptContinuous (r : Span) (reference generation : ℤ) (epoch : Epoch) (receivedAt : Duration) : Sender :=
  match s.rejectedStatuses .feedback epoch r with
  | some count => s.addUnknown count
  | none =>
    let reportIsNew := s.feedbackGeneration.all fun previous => decide (previous < generation)
    let late := s.lateReceipt .feedback r receivedAt reportIsNew
    let fresh := !r.statuses.isEmpty && (reportIsNew || late) && (late || s.hasLive .feedback r receivedAt)
    let s := s.noteContinuous reference generation fresh
    match r.receivedEdge with
    | none => s.settleStatuses .feedback r epoch receivedAt reportIsNew
    | some edge =>
      let s := s.advanceContinuousEdge r.base r.statuses edge epoch receivedAt
      let s := s.settleStatuses .feedback r epoch receivedAt reportIsNew
      s.anchorMissing (.feedback edge) receivedAt

def spanOf (base floor newest : ℕ) (oldEdge : Option ℕ) (statuses : List SendStatus) : Sender ⊕ Span :=
  if s.config.maxAckReordering < newest - base then .inl (s.addStale statuses.length)
  else
    match checkedAdd base (statuses.length - 1) with
    | none => .inl (s.addUnknown statuses.length)
    | some lastReported =>
      if newest < base || newest < lastReported then .inl (s.addUnknown statuses.length)
      else if lastReported < floor then .inl (s.addStale statuses.length)
      else .inr ⟨base, floor, lastReported, oldEdge, statuses⟩

def processContinuous (base : ℕ) (reference generation : ℤ) (statuses : List SendStatus) (epoch : Epoch)
    (receivedAt : Duration) : Sender :=
  match s.newestFeedback, s.oldestFeedback with
  | some newest, some floor =>
    match s.spanOf base floor newest s.highestFeedbackAcked statuses with
    | .inl s => s
    | .inr r => s.acceptContinuous r reference generation epoch receivedAt
  | _, _ => s.addUnknown statuses.length

def noStatus : SendStatus := ⟨false, none, none, none⟩

def advanceIndependent (space : SpaceId) (r : Span) (epoch : Epoch) (receivedAt : Duration) (s : Sender)
    (sequence : ℕ) : Sender :=
  s.advanceEntry (s.lookupPacket space sequence) epoch ((statusAt r.base r.statuses sequence).getD noStatus) receivedAt

def advanceIndependentEdge (space : SpaceId) (r : Span) (epoch : Epoch) (receivedAt : Duration) : Sender :=
  match r.receivedEdge with
  | none => s
  | some edge =>
    if r.start ≤ edge then
      let s := s.anchorMissing (.inSpace space edge) receivedAt
      let s := (inclusive r.start edge).foldl (advanceIndependent space r epoch receivedAt) s
      s.updateSpace space fun state => { state with highestAckedSequence := some edge }
    else s

def minimumHold (space : SpaceId) (r : Span) (receivedAt : Duration) (reportIsNew : Bool)
    (known : Option Duration) : Option Duration :=
  (numbered r.base r.statuses).foldl (fun known x =>
    if x.2.received && (s.resolveEntry (.inSpace space) x.1).any fun e =>
        s.isLiveFeedbackEntry e receivedAt || s.recoveryIsFresh e receivedAt reportIsNew then
      match x.2.hold with
      | some hold => some (known.elim hold (min · hold))
      | none => known
    else known) known

def noteIndependent (space : SpaceId) (epoch : Epoch) (timestamp : ℤ) (fresh : Bool) : Sender :=
  let s := { s with inputs := { s.inputs with freshNetworkFeedback := s.inputs.freshNetworkFeedback || fresh } }
  s.updateSpace space fun state =>
    if state.lastReportGeneration.all fun g => g.1 != epoch || decide (g.2 ≤ timestamp) then
      { state with lastReportGeneration := some (epoch, timestamp) }
    else state

def acceptIndependent (space : SpaceId) (r : Span) (timestamp : ℤ) (reportIsNew : Bool) (epoch : Epoch)
    (receivedAt : Duration) (hold : Option Duration) : Sender × Option Duration :=
  let late := s.lateReceipt (.inSpace space) r receivedAt reportIsNew
  let live := s.hasLive (.inSpace space) r receivedAt
  match s.rejectedStatuses (.inSpace space) epoch r with
  | some count => (s.addUnknown count, hold)
  | none =>
    let hold := if r.statuses.isEmpty then hold else s.minimumHold space r receivedAt reportIsNew hold
    let s := if r.statuses.isEmpty then s else s.advanceIndependentEdge space r epoch receivedAt
    let s := s.noteIndependent space epoch timestamp ((live || late) && (reportIsNew || late))
    let s := s.settleStatuses (.inSpace space) r epoch receivedAt reportIsNew
    match r.receivedEdge with
    | some edge => (s.anchorMissing (.inSpace space edge) receivedAt, hold)
    | none => (s, hold)

def processIndependentReport (epoch : Epoch) (receivedAt : Duration) (acc : Sender × Option Duration)
    (report : IndependentReport) : Sender × Option Duration :=
  let (s, hold) := acc
  match s.spaces.lookup report.space with
  | none => (s.addUnknown report.statuses.length, hold)
  | some state =>
    if state.bySequence.entries.isEmpty then (s.addUnknown report.statuses.length, hold)
    else
      match s.spanOf report.base state.firstSequence state.newestSequence state.highestAckedSequence report.statuses with
      | .inl s => (s, hold)
      | .inr r =>
        let previous := (state.lastReportGeneration.filter fun g => g.1 == epoch).map (·.2)
        let reportIsNew := previous.all fun previous => decide (previous < report.generation)
        s.acceptIndependent report.space r report.generation reportIsNew epoch receivedAt hold

def processIndependent (reports : List IndependentReport) (epoch : Epoch) (receivedAt : Duration) :
    Sender × Option Duration :=
  reports.foldl (processIndependentReport epoch receivedAt) (s, none)

def rekeyEntry (now : Duration) (s : Sender) (i : ℕ) : Sender :=
  match s.entryAt i with
  | none => s
  | some e =>
    let previous := e.readiness s.reorderingWindow
    let frozen :=
      if e.frozenReorderDeadline.isNone && s.overdue e now then
        { e with frozenReorderDeadline := e.reorderDeadline s.reorderingWindow }
      else e
    let next := frozen.readiness s.observedReorderingWindow
    let s := { s with entries := s.entries.set i (some frozen) }
    if previous ≠ next then (s.eraseKey previous).insertKey next else s

def applyReorderingWindow (now : Duration) : Sender :=
  if s.observedReorderingWindow ≤ s.reorderingWindow then s
  else
    let s := (List.range s.entries.length).foldl (rekeyEntry now) s
    { s with reorderingWindow := s.observedReorderingWindow }

def statusCount (report : SendReport) : ℕ :=
  match report with
  | .continuous _ _ _ statuses => statuses.length
  | .independent reports => reports.foldl (fun n r => Word.saturatingAdd 64 n r.statuses.length) 0

def validStatus (status : SendStatus) : Bool :=
  status.received || (status.arrival.isNone && status.ecn.isNone && status.hold.isNone)

def validReport (report : SendReport) : Bool :=
  match report with
  | .continuous _ _ _ statuses => statuses.all validStatus
  | .independent reports => reports.all fun report => report.statuses.all validStatus

def matchesMode (mode : Option FeedbackMode) (report : SendReport) : Bool :=
  match mode, report with
  | some .continuous, .continuous .. => true
  | some .independent, .independent _ => true
  | _, _ => false

def continuousHold (priorEvidence base : ℕ) (statuses : List SendStatus) : Option Duration :=
  ((s.inputs.feedback.drop priorEvidence).filterMap fun sample =>
    if sample.received then
      ((s.entry sample.sentId).bind (·.feedbackSequence)).bind fun packet =>
        (statusAt base statuses packet).bind (·.hold)
    else none).min?

def applyReport (batch : SendFeedback) : Sender × Option Duration :=
  match batch.report with
  | .continuous base reference generation statuses =>
    let priorEvidence := s.inputs.feedback.length
    let s := s.processContinuous base reference generation statuses batch.pathEpoch batch.receivedAt
    (s, s.continuousHold priorEvidence base statuses)
  | .independent reports => s.processIndependent reports batch.pathEpoch batch.receivedAt

def noteTiming (priorEvidence : ℕ) (receivedAt : Duration) (feedbackHold : Option Duration) : Sender :=
  let newestSendAge := ((s.inputs.feedback.drop priorEvidence).filterMap fun sample =>
    (s.entry sample.sentId).map fun e => receivedAt - e.committedAt).min?
  if priorEvidence < s.inputs.feedback.length && newestSendAge.isSome then
    { s with inputs := { s.inputs with timing := some ⟨receivedAt, feedbackHold, newestSendAge⟩ } }
  else s

/-- `room` holds the answers the allocator will give; nothing is asked of it once exhaustion is reported. -/
def processFeedback (batch : SendFeedback) (room : Room) : Sender :=
  if s.inputs.exhausted then s
  else
    let s := { s with room := room }
    if (match batch.report with
      | .independent reports => decide (s.config.maxFeedbackStatuses < reports.length)
      | _ => false) then
      s.addUnknown (match batch.report with
        | .independent reports => reports.length
        | _ => 0)
    else if s.activeEpoch ≠ some batch.pathEpoch then s.addWrongPath (statusCount batch.report)
    else if !matchesMode s.mode batch.report || decide (s.config.maxFeedbackStatuses < statusCount batch.report) ||
        !validReport batch.report then
      s.addUnknown (statusCount batch.report)
    else
      let priorEvidence := s.inputs.feedback.length
      let (s, feedbackHold) := s.applyReport batch
      (s.applyReorderingWindow batch.receivedAt).noteTiming priorEvidence batch.receivedAt feedbackHold

end Reports

section Expiry

def confirmLoss (now : Duration) (s : Sender) (sentId : SentPacketId) : Sender :=
  let s := { s with lossWork := s.lossWork + 1 }
  match s.entry sentId with
  | none => s
  | some e =>
    if e.acknowledgment.isMissing then
      match s.reorderDeadline e with
      | none => { s with missing := s.missing ++ [sentId] }
      | some deadline =>
        if now < deadline then { s with missing := s.missing ++ [sentId] }
        else s.markLostUnbudgeted sentId .reordering
    else s

def confirmLoop (now : Duration) : ℕ → Sender → Sender × ℕ
  | 0, s => (s, 0)
  | n + 1, s =>
    match s.missing with
    | [] => (s, 0)
    | sentId :: rest =>
      let (s, work) := confirmLoop now n (({ s with missing := rest }).confirmLoss now sentId)
      (s, work + 1)

variable (s : Sender)

def confirmLosses (now : Duration) (limit : ℕ) : Sender × ℕ :=
  confirmLoop now (min (min limit s.missing.length) (s.config.maxExpirationsPerPoll - s.lossWork)) s

def reclaimSources (now : Duration) : ℕ → Sender → Sender × ℕ
  | 0, s => (s, 0)
  | n + 1, s =>
    if s.lossWork < s.config.maxExpirationsPerPoll then
      match s.readiness.elems.head? with
      | some (.retired deadline space) =>
        if deadline.any fun deadline => decide (now < deadline) then (s, 0)
        else
          let s := { s with
            readiness := s.readiness.erase (.retired deadline space)
            spaces := s.spaces.erase space
            lossWork := s.lossWork + 1 }
          let (s, work) := reclaimSources now n s
          (s, work + 1)
      | _ => (s, 0)
    else (s, 0)

def expireEntry (id : SentPacketId) (e : SentEntry) : Sender :=
  let s := { s with lossWork := s.lossWork + 1 }
  let s := if e.acknowledgment.isTerminal then s
    else
      let s := s.markLostUnbudgeted id .historyExpiry
      { s with counters := { s.counters with expired := Word.saturatingAdd 64 s.counters.expired 1 } }
  { s with oldestSentId := s.oldestSentId + 1 }

def expireLoop (now : Duration) : ℕ → Sender → Sender × ℕ
  | 0, s => (s, 0)
  | n + 1, s =>
    if s.lossWork < s.config.maxExpirationsPerPoll && decide (s.oldestSentId < s.nextSentId) then
      match s.entry s.oldestSentId with
      | none =>
        let (s, work) := expireLoop now n { s with oldestSentId := s.oldestSentId + 1, lossWork := s.lossWork + 1 }
        (s, work + 1)
      | some e =>
        match Duration.checkedAdd e.committedAt s.config.retention with
        | none => (s, 0)
        | some deadline =>
          if now < deadline then (s, 0)
          else
            let (s, work) := expireLoop now n (s.expireEntry s.oldestSentId e)
            (s, work + 1)
    else (s, 0)

def expire (now : Duration) (limit : ℕ) : Sender × ℕ :=
  let (s, confirmed) := s.confirmLosses now (min limit (s.config.maxExpirationsPerPoll / 2))
  let (s, reclaimed) := reclaimSources now ((limit - confirmed + 1) / 2) s
  let (s, expired) := expireLoop now (limit - (confirmed + reclaimed)) s
  (s, confirmed + reclaimed + expired)

def firstMissing : Option Duration :=
  s.readiness.elems.findSome? fun key => match key with
    | .missing deadline _ => some deadline
    | _ => none

def nextDeadline (now : Duration) : Option Duration :=
  let sent := if s.oldestSentId < s.nextSentId then
      (s.entry s.oldestSentId).bind fun e => Duration.checkedAdd e.committedAt s.config.retention
    else none
  let source := match s.readiness.elems.head? with
    | some (.retired deadline _) => some (deadline.getD now)
    | _ => none
  ([sent, s.firstMissing, source].filterMap id).min?

end Expiry

end Sender

end Pulsebeam.Feedback
