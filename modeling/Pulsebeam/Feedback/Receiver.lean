import Pulsebeam.Feedback.Types
import Pulsebeam.Lib.Ranked
import Pulsebeam.Lib.Run

/-! The feedback receiver: which packets have arrived, and which statuses are due. -/

namespace Pulsebeam.Feedback

open Pulsebeam.Lib List

def Duration.saturatingAdd (a b : Duration) : Duration := min (a + b) Duration.max

inductive ReceiverError
  | invalidConfig
  | invalidRange
  | wrongEpoch
  | wrongSpace
  | staleReport
  | exhausted
  deriving DecidableEq, Repr

inductive ReportOrder
  | continuous (space : SpaceId)
  | independent
  deriving DecidableEq, Repr

structure ReceiverConfig where
  capacity : ℕ
  maxReportStatuses : ℕ
  interval : Duration
  order : ReportOrder
  deriving DecidableEq, Repr

structure Receipt where
  space : SpaceId
  packet : PacketId
  arrivedAt : Duration
  ecn : Option Ecn
  tag : ℕ
  deriving DecidableEq, Repr

structure ReceiptEntry where
  receipt : Receipt
  pending : Bool
  deriving DecidableEq, Repr

def ReceiptEntry.packet (e : ReceiptEntry) : PacketId := e.receipt.packet

inductive Observation
  | inserted (retired : ℕ)
  | duplicate
  | tooOld
  deriving DecidableEq, Repr

structure ReportWindow where
  epoch : Epoch
  space : SpaceId
  base : PacketId
  count : ℕ
  version : ℕ
  deriving DecidableEq, Repr

structure Receiver where
  config : ReceiverConfig
  epoch : Epoch
  receipts : List ReceiptEntry
  highest : Option ℕ
  next : Option ℕ
  deadline : Option Duration
  version : ℕ
  funded : Bool
  deriving DecidableEq, Repr

namespace Receiver

section Model

def new (config : ReceiverConfig) (epoch : Epoch) (entryBytes : ℕ) : Except ReceiverError Receiver :=
  if config.capacity = 0 || config.maxReportStatuses = 0 || config.interval = 0 ||
      decide (2 ^ 64 ≤ config.capacity * entryBytes) || decide (2 ^ 64 ≤ config.capacity) ||
      decide (2 ^ 64 ≤ config.maxReportStatuses) then
    .error .invalidConfig
  else .ok ⟨config, epoch, [], none, none, none, 0, false⟩

variable (r : Receiver)

def reserve (granted : Bool) : Except ReceiverError Receiver :=
  if granted then .ok { r with funded := true } else .error .exhausted

def receipt (space : SpaceId) (packet : PacketId) : Option Receipt :=
  match r.config.order with
  | .continuous expected =>
    if expected = space then (r.receipts.find? fun e => e.packet == packet).map (·.receipt) else none
  | .independent =>
    (r.receipts.find? fun e => e.receipt.space == space && e.packet == packet).map (·.receipt)

def insertionIndex (receipts : List ReceiptEntry) (packet : PacketId) : Option ℕ :=
  if receipts.any fun e => e.packet == packet then none else some (Ranked.rank ReceiptEntry.packet packet receipts)

def insert (version index retired : ℕ) (receipt : Receipt) : Receiver × Observation :=
  let full := r.receipts.length == r.config.capacity
  let receipts := if full then r.receipts.tail else r.receipts
  let index := if full then index - 1 else index
  ({ r with
      receipts := receipts.insertIdx index ⟨receipt, true⟩
      version := version
      deadline := some (r.deadline.getD (receipt.arrivedAt.saturatingAdd r.config.interval)) },
    .inserted (if full then retired + 1 else retired))

def below (floor : ℕ) (e : ReceiptEntry) : Bool := decide (e.packet < floor)

def advance (highest floor sequence : ℕ) : Receiver :=
  { r with
    receipts := r.receipts.dropWhile (below floor)
    highest := some highest
    next := some (max (r.next.elim sequence (min · sequence)) floor) }

def observeContinuous (version : ℕ) (receipt : Receipt) : Receiver × Observation :=
  let sequence := receipt.packet
  let highest := r.highest.elim sequence (max · sequence)
  let floor := highest - (r.config.capacity - 1)
  if sequence < floor then (r, .tooOld)
  else
    match insertionIndex r.receipts sequence with
    | none => (r, .duplicate)
    | some index =>
      let retired := (r.receipts.takeWhile (below floor)).length
      (r.advance highest floor sequence).insert version (index - retired) retired receipt

def observe (epoch : Epoch) (receipt : Receipt) : Except ReceiverError (Receiver × Observation) :=
  if epoch ≠ r.epoch then .error .wrongEpoch
  else if receipt.packet = Word.max 64 then .error .invalidRange
  else if !r.funded then .error .exhausted
  else
    match checkedAdd r.version 1 with
    | none => .error .exhausted
    | some version =>
      match r.config.order with
      | .continuous space =>
        if space ≠ receipt.space then .error .wrongSpace else .ok (r.observeContinuous version receipt)
      | .independent =>
        if (r.receipt receipt.space receipt.packet).isSome then .ok (r, .duplicate)
        else .ok (r.insert version r.receipts.length 0 receipt)

def pendingIn (space : SpaceId) : List ℕ :=
  (r.receipts.filter fun e => e.receipt.space == space && e.pending).map (·.packet)

def preceding (space : SpaceId) (first : ℕ) : ℕ :=
  ((r.receipts.filter fun e => e.receipt.space == space && !e.pending && decide (e.packet < first)).map
    fun e => Word.saturatingAdd 64 e.packet 1).max?.getD first

def span : Option (SpaceId × ℕ × ℕ) :=
  match r.config.order with
  | .continuous space => do
    let base ← r.next
    let highest ← r.highest
    let last ← checkedAdd highest 1
    some (space, base, min (Word.saturatingAdd 64 base r.config.maxReportStatuses) last)
  | .independent => do
    let entry ← r.receipts.find? (·.pending)
    let space := entry.receipt.space
    let first ← (r.pendingIn space).min?
    let base := max (r.preceding space first) (first - (r.config.maxReportStatuses - 1))
    let last ← ((r.pendingIn space).map fun packet => Word.saturatingAdd 64 packet 1).max?
    some (space, base, min last (Word.saturatingAdd 64 base r.config.maxReportStatuses))

def report (now : Duration) : Option ReportWindow := do
  let deadline ← r.deadline
  if now < deadline then none
  else
    let (space, base, last) ← r.span
    if last < base || last - base = 0 then none else some ⟨r.epoch, space, base, last - base, r.version⟩

def unreported : Bool :=
  match r.config.order with
  | .continuous _ => r.next.any fun next => r.highest.any fun highest => decide (next ≤ highest)
  | .independent => r.receipts.any (·.pending)

def settle (report : ReportWindow) (last : ℕ) (e : ReceiptEntry) : ReceiptEntry :=
  if e.receipt.space = report.space && decide (report.base ≤ e.packet) && decide (e.packet < last) then
    { e with pending := false }
  else e

def accept (report : ReportWindow) (count : ℕ) (now : Duration) : Except ReceiverError Receiver :=
  if r.report now ≠ some report then .error .staleReport
  else if count = 0 || decide (report.count < count) then .error .invalidRange
  else
    match checkedAdd r.version 1, checkedAdd report.base count with
    | none, _ => .error .exhausted
    | _, none => .error .invalidRange
    | some version, some last =>
      let r := { r with receipts := r.receipts.map (settle report last) }
      match r.config.order with
      | .continuous _ => .ok { r with
          next := some last
          deadline := if r.highest.any fun highest => decide (last ≤ highest) then some now else none
          version := version }
      | .independent => .ok { r with
          deadline := if r.receipts.any (·.pending) then some now else none
          version := version }

def defer (now until' : Duration) : Except ReceiverError Receiver :=
  if r.deadline.isNone || decide (until' ≤ now) then .error .invalidRange
  else
    match checkedAdd r.version 1 with
    | none => .error .exhausted
    | some version => .ok { r with deadline := some until', version := version }

def clear (epoch : Epoch) : Receiver :=
  { r with
    receipts := []
    epoch := epoch
    highest := none
    next := none
    deadline := none
    version := Word.saturatingAdd 64 r.version 1 }

def abort : Receiver := { r.clear r.epoch with funded := false }

end Model

inductive Op
  | reserve (granted : Bool)
  | observe (epoch : Epoch) (receipt : Receipt)
  | accept (report : ReportWindow) (count : ℕ) (now : Duration)
  | defer (now until' : Duration)
  | clear (epoch : Epoch)
  | abort

def orElse (r : Receiver) : Except ReceiverError Receiver → Receiver
  | .ok r' => r'
  | .error _ => r

def apply (r : Receiver) : Op → Receiver
  | .reserve granted => r.orElse (r.reserve granted)
  | .observe epoch receipt => r.orElse ((r.observe epoch receipt).map (·.1))
  | .accept report count now => r.orElse (r.accept report count now)
  | .defer now until' => r.orElse (r.defer now until')
  | .clear epoch => r.clear epoch
  | .abort => r.abort

def Fits : Op → Prop
  | .observe _ receipt => receipt.packet ≤ Word.max 64
  | _ => True

instance : ∀ op : Op, Decidable (Fits op)
  | .observe _ receipt => inferInstanceAs (Decidable (receipt.packet ≤ Word.max 64))
  | .reserve _ | .accept .. | .defer .. | .clear _ | .abort => inferInstanceAs (Decidable True)

def machine (config : ReceiverConfig) (entryBytes : ℕ) : Machine Receiver Op where
  init r := ∃ epoch, new config epoch entryBytes = .ok r
  guard _ op := Fits op
  step := apply

instance (config : ReceiverConfig) (entryBytes : ℕ) (r : Receiver) (op : Op) :
    Decidable ((machine config entryBytes).guard r op) := inferInstanceAs (Decidable (Fits op))

section Sound

variable {r r' : Receiver} {space : SpaceId} {config : ReceiverConfig} {entryBytes : ℕ} {epoch : Epoch}

structure Sound (r : Receiver) : Prop where
  capacity : 0 < r.config.capacity
  statuses : 0 < r.config.maxReportStatuses
  length : r.receipts.length ≤ r.config.capacity
  known : ∀ e ∈ r.receipts, e.packet < Word.max 64
  highest : ∀ h, r.highest = some h → h < Word.max 64
  ordered : ∀ space, r.config.order = .continuous space → Ranked.Sorted ReceiptEntry.packet r.receipts ∧
    ∀ e ∈ r.receipts, ∃ h, r.highest = some h ∧ h - (r.config.capacity - 1) ≤ e.packet ∧ e.packet ≤ h
  due : r.deadline.isSome = r.unreported

lemma sound_new (h : new config epoch entryBytes = .ok r) : Sound r := by
  unfold new at h
  split at h
  · cases h
  next hvalid =>
    cases h
    simp only [Bool.or_eq_true, not_or, decide_eq_true_eq] at hvalid
    refine ⟨Nat.pos_of_ne_zero hvalid.1.1.1.1.1, Nat.pos_of_ne_zero hvalid.1.1.1.1.2, Nat.zero_le _,
      nofun, nofun, fun _ _ => ⟨.nil, nofun⟩, ?_⟩
    cases hc : config.order <;> simp [unreported, hc]

lemma Sound.clear (hs : Sound r) (epoch : Epoch) : Sound (r.clear epoch) := by
  refine ⟨hs.capacity, hs.statuses, Nat.zero_le _, nofun, nofun, fun _ _ => ⟨.nil, nofun⟩, ?_⟩
  cases hc : r.config.order <;> simp [Receiver.clear, unreported, hc]

section Insert

variable {version index retired : ℕ} {receipt : Receipt}

lemma insert_receipts :
    ∃ l i, (r.insert version index retired receipt).1.receipts = l.insertIdx i ⟨receipt, true⟩ ∧
      (l = r.receipts.tail ∧ i = index - 1 ∧ r.receipts.length = r.config.capacity ∨
        l = r.receipts ∧ i = index ∧ r.receipts.length ≠ r.config.capacity) := by
  unfold insert
  by_cases hfull : r.receipts.length = r.config.capacity
  · simp only [hfull, beq_self_eq_true]
    exact ⟨_, _, rfl, .inl ⟨rfl, rfl, trivial⟩⟩
  · simp only [beq_eq_false_iff_ne.2 hfull]
    exact ⟨_, _, rfl, .inr ⟨rfl, rfl, hfull⟩⟩

lemma mem_insert {e : ReceiptEntry} (h : e ∈ (r.insert version index retired receipt).1.receipts) :
    e = ⟨receipt, true⟩ ∨ e ∈ r.receipts := by
  obtain ⟨l, i, heq, hl⟩ := insert_receipts
  rw [heq] at h
  refine (eq_or_mem_of_mem_insertIdx h).imp_right fun hmem => ?_
  rcases hl with ⟨rfl, -⟩ | ⟨rfl, -⟩
  · exact mem_of_mem_tail hmem
  · exact hmem

lemma insert_mem (hindex : index ≤ r.receipts.length) :
    ⟨receipt, true⟩ ∈ (r.insert version index retired receipt).1.receipts := by
  obtain ⟨l, i, heq, hl⟩ := insert_receipts
  rw [heq, mem_insertIdx]
  · exact .inl rfl
  rcases hl with ⟨rfl, rfl, -⟩ | ⟨rfl, rfl, -⟩
  · rw [length_tail]
    omega
  · exact hindex

lemma length_insert (hlen : r.receipts.length ≤ r.config.capacity) (hcap : 0 < r.config.capacity) :
    (r.insert version index retired receipt).1.receipts.length ≤ r.config.capacity := by
  obtain ⟨l, i, heq, hl⟩ := insert_receipts
  have hle : (l.insertIdx i (⟨receipt, true⟩ : ReceiptEntry)).length ≤ l.length + 1 := length_insertIdx_le_succ
  rw [heq]
  rcases hl with ⟨rfl, -, hfull⟩ | ⟨rfl, -, hfull⟩
  · rw [length_tail] at hle
    omega
  · omega

lemma sorted_insert (hs : Ranked.Sorted ReceiptEntry.packet r.receipts)
    (hindex : index = Ranked.rank ReceiptEntry.packet receipt.packet r.receipts)
    (hnew : ∀ e ∈ r.receipts, e.packet ≠ receipt.packet) :
    Ranked.Sorted ReceiptEntry.packet (r.insert version index retired receipt).1.receipts := by
  obtain ⟨l, i, heq, hl⟩ := insert_receipts
  rw [heq]
  rcases hl with ⟨rfl, rfl, -⟩ | ⟨rfl, rfl, -⟩
  · rw [hindex, ← hs.rank_tail]
    exact hs.tail.insertIdx fun e he => hnew e (mem_of_mem_tail he)
  · rw [hindex]
    exact hs.insertIdx hnew

end Insert

section Observe

variable {version : ℕ} {receipt : Receipt} {highest : ℕ}

lemma advance_next_le {floor : ℕ} (hfloor : floor ≤ highest) (hle : receipt.packet ≤ highest) :
    ∃ next, (r.advance highest floor receipt.packet).next = some next ∧ next ≤ highest := by
  refine ⟨_, rfl, max_le ?_ hfloor⟩
  cases r.next with
  | none => exact hle
  | some n => exact (min_le_right _ _).trans hle

variable (hs : Sound r)

include hs

lemma Sound.insert_advance {floor retired : ℕ} (horder : r.config.order = .continuous space)
    (hmax : highest < Word.max 64) (hfl : highest - (r.config.capacity - 1) = floor)
    (hold : ∀ h, r.highest = some h → h ≤ highest) (hpacket : floor ≤ receipt.packet) (hle : receipt.packet ≤ highest)
    (hnew : ∀ e ∈ r.receipts, e.packet ≠ receipt.packet)
    (hretired : retired = (r.receipts.takeWhile (below floor)).length) :
    Sound ((r.advance highest floor receipt.packet).insert version
      (Ranked.rank ReceiptEntry.packet receipt.packet r.receipts - retired) retired receipt).1 := by
  obtain ⟨hsorted, hin⟩ := hs.ordered space horder
  have hmem : ∀ e ∈ (r.advance highest floor receipt.packet).receipts, e ∈ r.receipts := fun e he =>
    (dropWhile_sublist _).mem he
  have hlen := (dropWhile_sublist (l := r.receipts) (below floor)).length_le
  have hrank : Ranked.rank ReceiptEntry.packet receipt.packet r.receipts - retired =
      Ranked.rank ReceiptEntry.packet receipt.packet (r.advance highest floor receipt.packet).receipts := by
    rw [hretired]
    exact (Ranked.rank_dropWhile r.receipts hpacket).symm
  refine ⟨hs.capacity, hs.statuses, length_insert (hlen.trans hs.length) hs.capacity, fun e he => ?_, fun h hh => ?_,
    fun _ _ => ⟨?_, fun e he => ?_⟩, ?_⟩
  · rcases mem_insert he with rfl | he
    · exact hle.trans_lt hmax
    · exact hs.known e (hmem e he)
  · cases hh
    exact hmax
  · exact sorted_insert (hsorted.dropWhile _) hrank fun e he => hnew e (hmem e he)
  · refine ⟨highest, rfl, ?_⟩
    change highest - (r.config.capacity - 1) ≤ e.packet ∧ e.packet ≤ highest
    rw [hfl]
    rcases mem_insert he with rfl | he
    · exact ⟨hpacket, hle⟩
    · obtain ⟨h, hh, -, heh⟩ := hin e (hmem e he)
      exact ⟨hsorted.floor_le he, heh.trans (hold h hh)⟩
  · obtain ⟨next, hnext, hnle⟩ := advance_next_le (hpacket.trans hle) hle
    change true = match r.config.order with
      | .continuous _ => (r.advance highest floor receipt.packet).next.any fun next =>
          (some highest).any fun highest => decide _
      | .independent => _
    rw [horder, hnext]
    simp [hnle]

lemma Sound.observeContinuous (horder : r.config.order = .continuous space)
    (hpacket : receipt.packet < Word.max 64) : Sound (r.observeContinuous version receipt).1 := by
  unfold Receiver.observeContinuous
  dsimp only
  generalize hhigh : r.highest.elim receipt.packet _ = highest
  split
  · exact hs
  next hfloor =>
    split
    · exact hs
    next index hindex =>
      unfold insertionIndex at hindex
      split at hindex
      · cases hindex
      next hnew =>
        cases hindex
        simp only [any_eq_true, beq_iff_eq, not_exists, not_and] at hnew
        refine hs.insert_advance horder ?_ rfl (fun h hh => ?_) (not_lt.1 hfloor) ?_ hnew rfl
        · rw [← hhigh]
          cases hh : r.highest with
          | none => exact hpacket
          | some h => exact max_lt (hs.highest h hh) hpacket
        · rw [← hhigh, hh]
          exact le_max_left _ _
        · rw [← hhigh]
          cases r.highest with
          | none => exact le_rfl
          | some h => exact le_max_right _ _

lemma Sound.insertIndependent (horder : r.config.order = .independent)
    (hpacket : receipt.packet < Word.max 64) : Sound (r.insert version r.receipts.length 0 receipt).1 := by
  refine ⟨hs.capacity, hs.statuses, length_insert hs.length hs.capacity, fun e he => ?_, hs.highest, fun space hc => ?_,
    ?_⟩
  · rcases mem_insert he with rfl | he
    · exact hpacket
    · exact hs.known e he
  · cases horder.symm.trans hc
  have hmem : ⟨receipt, true⟩ ∈ (r.insert version r.receipts.length 0 receipt).1.receipts := insert_mem le_rfl
  change true = match r.config.order with
    | .continuous _ => _
    | .independent => (r.insert version r.receipts.length 0 receipt).1.receipts.any (·.pending)
  rw [horder]
  exact (any_eq_true.2 ⟨_, hmem, rfl⟩).symm

lemma Sound.observe (hfits : receipt.packet ≤ Word.max 64) {observation : Observation}
    (h : r.observe epoch receipt = .ok (r', observation)) : Sound r' := by
  unfold Receiver.observe at h
  split at h
  · cases h
  split at h
  · cases h
  next hpacket =>
    have hlt := lt_of_le_of_ne hfits hpacket
    split at h
    · cases h
    split at h
    · cases h
    split at h
    next space horder =>
      split at h
      · cases h
      · have hres : _ = r' := congrArg Prod.fst (Except.ok.inj h)
        exact hres ▸ hs.observeContinuous horder hlt
    next horder =>
      split at h
      · cases h
        exact hs
      · have hres : _ = r' := congrArg Prod.fst (Except.ok.inj h)
        exact hres ▸ hs.insertIndependent horder hlt

end Observe

section Accept

variable {report : ReportWindow} {count : ℕ} {now : Duration}

@[simp] lemma packet_settle (report : ReportWindow) (last : ℕ) (e : ReceiptEntry) :
    (settle report last e).packet = e.packet := by
  unfold settle
  split <;> rfl

section

variable (hs : Sound r)

include hs

lemma Sound.accept (h : r.accept report count now = .ok r') : Sound r' := by
  unfold Receiver.accept at h
  split at h
  · cases h
  split at h
  · cases h
  split at h
  · cases h
  · cases h
  next version last _ _ =>
    have hmem : ∀ e ∈ r.receipts.map (settle report last), ∃ x ∈ r.receipts, x.packet = e.packet := by
      intro e he
      obtain ⟨x, hx, rfl⟩ := mem_map.1 he
      exact ⟨x, hx, (packet_settle report last x).symm⟩
    have hlen : (r.receipts.map (settle report last)).length ≤ r.config.capacity := by
      rw [length_map]
      exact hs.length
    have hknown : ∀ e ∈ r.receipts.map (settle report last), e.packet < Word.max 64 := by
      intro e he
      obtain ⟨x, hx, heq⟩ := hmem e he
      exact heq ▸ hs.known x hx
    have hordered : ∀ space, r.config.order = .continuous space →
        Ranked.Sorted ReceiptEntry.packet (r.receipts.map (settle report last)) ∧
          ∀ e ∈ r.receipts.map (settle report last), ∃ h, r.highest = some h ∧
            h - (r.config.capacity - 1) ≤ e.packet ∧ e.packet ≤ h := by
      intro space hc
      obtain ⟨hsorted, hin⟩ := hs.ordered space hc
      refine ⟨pairwise_map.2 (hsorted.imp ?_), fun e he => ?_⟩
      · simp
      · obtain ⟨x, hx, heq⟩ := hmem e he
        exact heq ▸ hin x hx
    dsimp only at h
    split at h
    all_goals
      cases h
      refine ⟨hs.capacity, hs.statuses, hlen, hknown, hs.highest, hordered, ?_⟩
      simp only [unreported]
      split <;> simp_all

lemma Sound.defer {until' : Duration} (h : r.defer now until' = .ok r') : Sound r' := by
  unfold Receiver.defer at h
  split at h
  · cases h
  next hdue =>
    split at h
    · cases h
    cases h
    refine { hs with due := ?_ }
    have hsome : r.deadline.isSome = true := by
      simp only [Bool.or_eq_true, not_or, Bool.not_eq_true, Option.isNone_eq_false_iff] at hdue
      exact hdue.1
    exact hsome.symm.trans hs.due

lemma Sound.fund (funded : Bool) : Sound { r with funded := funded } := { hs with }

lemma Sound.orElse {result : Except ReceiverError Receiver} (h : ∀ r', result = .ok r' → Sound r') :
    Sound (r.orElse result) := by
  cases result with
  | ok r' => exact h r' rfl
  | error _ => exact hs

lemma Sound.apply {op : Op} (hfits : Fits op) : Sound (r.apply op) := by
  cases op with
  | reserve granted =>
    refine hs.orElse fun r' h => ?_
    unfold Receiver.reserve at h
    split at h
    · cases h
      exact hs.fund true
    · cases h
  | observe epoch receipt =>
    refine hs.orElse fun r' h => ?_
    cases hobs : r.observe epoch receipt with
    | error _ =>
      rw [hobs] at h
      cases h
    | ok result =>
      rw [hobs] at h
      cases h
      exact hs.observe hfits hobs
  | accept report count now => exact hs.orElse fun _ => hs.accept
  | defer now until' => exact hs.orElse fun _ => hs.defer
  | clear epoch => exact hs.clear epoch
  | abort => exact (hs.clear r.epoch).fund false

end

lemma sound (h : (machine config entryBytes).Reachable r) : Sound r := by
  refine h.invariant ?_ fun _ _ hs hfits => hs.apply hfits
  rintro r ⟨epoch, hnew⟩
  exact sound_new hnew

end Accept

section Report

lemma Sound.span_continuous (hs : Sound r) (horder : r.config.order = .continuous space) (hdue : r.unreported = true) :
    ∃ base last, r.span = some (space, base, last) ∧ base < last ∧ last ≤ base + r.config.maxReportStatuses := by
  simp only [unreported, horder, Option.any_eq_true, decide_eq_true_eq] at hdue
  obtain ⟨next, hnext, highest, hhighest, hle⟩ := hdue
  have hmax := hs.highest highest hhighest
  have hstatuses := hs.statuses
  have hsucc : checkedAdd highest 1 = some _ := if_pos (Nat.add_lt_of_lt_sub hmax)
  refine ⟨next, min (Word.saturatingAdd 64 next r.config.maxReportStatuses) (highest + 1), ?_, ?_, ?_⟩
  · simp [span, horder, hnext, hhighest, hsucc]
  all_goals
    rw [Word.saturatingAdd]
    omega

lemma preceding_le {first : ℕ} : r.preceding space first ≤ first := by
  have hall : ∀ m ∈ (r.receipts.filter fun e => e.receipt.space == space && !e.pending && decide (e.packet < first)).map
      (fun e => Word.saturatingAdd 64 e.packet 1), m ≤ first := by
    intro m hm
    obtain ⟨e, he, rfl⟩ := mem_map.1 hm
    have hlt := (mem_filter.1 he).2
    simp only [Bool.and_eq_true, decide_eq_true_eq] at hlt
    exact (min_le_left _ _).trans hlt.2
  unfold preceding
  revert hall
  generalize (r.receipts.filter _).map _ = l
  intro hall
  cases hmax : l.max? with
  | none => exact le_rfl
  | some m => exact hall m (max?_mem hmax)

lemma Sound.span_independent (hs : Sound r) (horder : r.config.order = .independent) (hdue : r.unreported = true) :
    ∃ space base last, r.span = some (space, base, last) ∧ base < last ∧ last ≤ base + r.config.maxReportStatuses := by
  simp only [unreported, horder] at hdue
  obtain ⟨entry, hentry⟩ : ∃ entry, r.receipts.find? (·.pending) = some entry :=
    Option.isSome_iff_exists.1 (by simpa using hdue)
  have hmem : entry.packet ∈ r.pendingIn entry.receipt.space := by
    refine mem_map.2 ⟨entry, mem_filter.2 ⟨mem_of_find?_eq_some hentry, ?_⟩, rfl⟩
    have hpending : entry.pending = true := find?_some hentry
    simp [hpending]
  have hknown : ∀ q ∈ r.pendingIn entry.receipt.space, q < Word.max 64 := by
    intro q hq
    obtain ⟨e, he, rfl⟩ := mem_map.1 hq
    exact hs.known e (mem_filter.1 he).1
  obtain ⟨first, hfirst⟩ := Option.isSome_iff_exists.1 (isSome_min?_of_mem hmem)
  have hin := min?_mem hfirst
  have hlast := mem_map_of_mem (f := fun packet => Word.saturatingAdd 64 packet 1) hin
  obtain ⟨last, hmax⟩ := Option.isSome_iff_exists.1 (isSome_max?_of_mem hlast)
  have hge : Word.saturatingAdd 64 first 1 ≤ last := (max?_eq_some_iff.1 hmax).2 _ hlast
  have htop := hknown first hin
  have hpre : r.preceding entry.receipt.space first ≤ first := preceding_le
  have hstatuses := hs.statuses
  refine ⟨entry.receipt.space, max (r.preceding entry.receipt.space first) (first - (r.config.maxReportStatuses - 1)),
    min last (Word.saturatingAdd 64 (max (r.preceding entry.receipt.space first)
      (first - (r.config.maxReportStatuses - 1))) r.config.maxReportStatuses), ?_, ?_, ?_⟩
  · simp [span, horder, hentry, hfirst, hmax]
  all_goals
    rw [Word.saturatingAdd] at hge ⊢
    omega

lemma Sound.report {deadline now : Duration} (hs : Sound r) (hdeadline : r.deadline = some deadline)
    (hnow : deadline ≤ now) :
    ∃ window, r.report now = some window ∧ 1 ≤ window.count ∧ window.count ≤ r.config.maxReportStatuses := by
  have hdue : r.unreported = true := by rw [← hs.due, hdeadline]; rfl
  obtain ⟨space, base, last, hspan, hlt, hle⟩ : ∃ space base last, r.span = some _ ∧ base < last ∧
      last ≤ base + r.config.maxReportStatuses := by
    cases horder : r.config.order with
    | continuous space => exact ⟨space, hs.span_continuous horder hdue⟩
    | independent => exact hs.span_independent horder hdue
  refine ⟨⟨r.epoch, space, base, last - base, r.version⟩, ?_, ?_, ?_⟩
  · simp only [Receiver.report, hdeadline, hspan, Option.bind_eq_bind, Option.bind_some, if_neg (not_lt.2 hnow)]
    rw [if_neg]
    simp only [Bool.or_eq_true, decide_eq_true_eq]
    omega
  all_goals
    dsimp only
    omega

end Report

/-- In every run the receipts of a continuous receiver are in order and within its window, a deadline stands exactly
while something is unreported, and once it has passed there is a report to make. -/
theorem report_due {config : ReceiverConfig} {entryBytes : ℕ} (h : (machine config entryBytes).Reachable r) :
    (∀ space, r.config.order = .continuous space →
      r.receipts.Pairwise (fun a b => a.packet < b.packet) ∧
      (∀ e ∈ r.receipts, ∃ highest, r.highest = some highest ∧ highest - (r.config.capacity - 1) ≤ e.packet ∧
        e.packet ≤ highest)) ∧
    r.receipts.length ≤ r.config.capacity ∧
    (r.deadline.isSome = true ↔ match r.config.order with
      | .continuous _ => ∃ next highest, r.next = some next ∧ r.highest = some highest ∧ next ≤ highest
      | .independent => ∃ e ∈ r.receipts, e.pending = true) ∧
    ∀ deadline now, r.deadline = some deadline → deadline ≤ now →
      ∃ window, r.report now = some window ∧ 1 ≤ window.count ∧ window.count ≤ r.config.maxReportStatuses := by
  have hs := sound h
  refine ⟨hs.ordered, hs.length, ?_, fun deadline now hd hnow => hs.report hd hnow⟩
  rw [hs.due, unreported]
  cases r.config.order with
  | continuous space => simp [Option.any_eq_true]
  | independent => simp

def dueConfig : ReceiverConfig := ⟨8, 3, 7, .continuous 42⟩

def dueOps : List Op :=
  [.reserve true, .observe 9 ⟨42, 100, 0, none, 0⟩, .observe 9 ⟨42, 103, 2, none, 0⟩,
    .accept ⟨9, 42, 100, 3, 2⟩ 2 7, .observe 9 ⟨42, 101, 8, none, 0⟩]

def dueReceiver : Receiver := dueOps.foldl apply ⟨dueConfig, 9, [], none, none, none, 0, false⟩

theorem report_due_late :
    (machine dueConfig 48).Reachable dueReceiver ∧ dueReceiver.deadline = some 7 ∧
      dueReceiver.receipts.map (·.packet) = [100, 101, 103] ∧
      ∃ window, dueReceiver.report 9 = some window ∧ 1 ≤ window.count ∧ window.count ≤ 3 := by
  have h : (machine dueConfig 48).Reachable dueReceiver := Machine.Reachable.run (.init ⟨9, rfl⟩) (by decide +kernel)
  exact ⟨h, by decide +kernel, by decide +kernel, (report_due h).2.2.2 7 9 (by decide +kernel) (by decide)⟩

end Sound

end Receiver

end Pulsebeam.Feedback
