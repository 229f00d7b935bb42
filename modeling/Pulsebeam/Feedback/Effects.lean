import Pulsebeam.Feedback.Settling

/-! What each report primitive writes: one entry, its key, the missing queue, the observations. -/

namespace Pulsebeam.Feedback.Sender

open Pulsebeam.Lib

variable {s s' s'' : Sender} {e e' : SentEntry} {id : SentPacketId} {x : SentPacketId}

structure Aside (s s' : Sender) : Prop extends Fixed s s' where
  spaces : s'.spaces = s.spaces
  oldestSentId : s'.oldestSentId = s.oldestSentId
  highestFeedbackAcked : s'.highestFeedbackAcked = s.highestFeedbackAcked
  lastPath : s'.lastPath = s.lastPath
  reorderingWindow : s'.reorderingWindow = s.reorderingWindow
  exhausted : s.inputs.exhausted = true → s'.inputs.exhausted = true

lemma Aside.refl (s : Sender) : Aside s s := ⟨.refl s, rfl, rfl, rfl, rfl, rfl, fun h => h⟩

lemma Aside.trans (h : Aside s s') (h' : Aside s' s'') : Aside s s'' where
  toFixed := h.toFixed.trans h'.toFixed
  spaces := h'.spaces.trans h.spaces
  oldestSentId := h'.oldestSentId.trans h.oldestSentId
  highestFeedbackAcked := h'.highestFeedbackAcked.trans h.highestFeedbackAcked
  lastPath := h'.lastPath.trans h.lastPath
  reorderingWindow := h'.reorderingWindow.trans h.reorderingWindow
  exhausted := fun he => h'.exhausted (h.exhausted he)

structure SameLists (s s' : Sender) : Prop where
  feedback : s'.inputs.feedback = s.inputs.feedback
  synthetic : s'.inputs.synthetic = s.inputs.synthetic

structure Still (s s' : Sender) : Prop extends Aside s s', SameLists s s' where
  entries : s'.entries = s.entries
  readiness : s'.readiness = s.readiness
  missing : s'.missing = s.missing

lemma Still.refl (s : Sender) : Still s s := ⟨.refl s, ⟨rfl, rfl⟩, rfl, rfl, rfl⟩

lemma Still.trans (h : Still s s') (h' : Still s' s'') : Still s s'' :=
  ⟨h.toAside.trans h'.toAside, ⟨h'.feedback.trans h.feedback, h'.synthetic.trans h.synthetic⟩,
    h'.entries.trans h.entries, h'.readiness.trans h.readiness, h'.missing.trans h.missing⟩

lemma Still.entry (h : Still s s') (id : SentPacketId) : s'.entry id = s.entry id := by
  simp only [Sender.entry, entryAt, slot, h.entries, h.config]

structure Writes (s s' : Sender) (id : SentPacketId) (e e' : SentEntry) : Prop extends Aside s s' where
  found : s.entry id = some e
  entries : s'.entries = s.entries.set (s.slot id) (some e')
  kin : e.Kin e'
  keys : (∀ k, e.readiness s.reorderingWindow = some k → k ∈ s.readiness) → ∀ k, k ∈ s'.readiness ↔
    (k ∈ s.readiness ∧ e.readiness s.reorderingWindow ≠ some k) ∨ e'.readiness s.reorderingWindow = some k

section

variable (h : Writes s s' id e e')

include h

lemma Writes.entry_self : s'.entry id = some e' := by
  obtain ⟨hi, hid⟩ := entry_eq_some.1 h.found
  have hlt := (List.getElem?_eq_some_iff.1 (getElem?_of_entryAt hi)).1
  rw [entry_eq_some, slot, h.config, ← slot, entryAt, h.entries, List.getElem?_set_self hlt]
  exact ⟨rfl, h.kin.id.trans hid⟩

lemma Writes.entry_ne (hx : x ≠ id) : s'.entry x = s.entry x := by
  have hid := (entry_eq_some.1 h.found).2
  have hi := (entry_eq_some.1 h.found).1
  have hlt := (List.getElem?_eq_some_iff.1 (getElem?_of_entryAt hi)).1
  by_cases hs : s.slot x = s.slot id
  · have hn : s.entry x = none := by
      rw [Sender.entry, hs, hi]
      simpa [hid] using Ne.symm hx
    rw [hn, Sender.entry, slot, h.config, ← slot, entryAt, h.entries, hs, List.getElem?_set_self hlt, Option.join,
      Option.bind_some, id_eq, Option.filter_some, if_neg]
    simpa [h.kin.id, hid] using Ne.symm hx
  · rw [Sender.entry, Sender.entry, slot, h.config, ← slot, entryAt, h.entries, List.getElem?_set_ne (Ne.symm hs),
      entryAt]

lemma Writes.entry_cases {y : SentEntry} (hy : s'.entry x = some y) :
    (x = id ∧ y = e') ∨ (x ≠ id ∧ s.entry x = some y) := by
  by_cases hx : x = id
  · subst hx
    rw [h.entry_self] at hy
    exact .inl ⟨rfl, (Option.some.inj hy).symm⟩
  · exact .inr ⟨hx, h.entry_ne hx ▸ hy⟩

lemma Writes.amend {e'' : SentEntry} (ha : Aside s' s'')
    (hent : s''.entries = s'.entries.set (s'.slot id) (some e'')) (hk : e'.Kin e'') (hr : s''.readiness = s'.readiness)
    (hkey : e''.readiness s.reorderingWindow = e'.readiness s.reorderingWindow) : Writes s s'' id e e'' where
  toAside := h.toAside.trans ha
  found := h.found
  entries := by rw [hent, h.entries, slot, slot, h.config, List.set_set]
  kin := h.kin.trans hk
  keys := by
    intro hkeys k
    rw [hr, hkey]
    exact h.keys hkeys k

lemma Writes.still (hs : Still s' s'') : Writes s s'' id e e' where
  toAside := h.toAside.trans hs.toAside
  found := h.found
  entries := hs.entries.trans h.entries
  kin := h.kin
  keys := by
    rw [hs.readiness]
    exact h.keys

end

section Primitives

lemma counters_still (c : HistoryCounters) : Still s { s with counters := c } := { Still.refl s with }

lemma exhaust_still : Still s s.exhaust := ⟨{ Aside.refl s with exhausted := fun _ => rfl }, ⟨rfl, rfl⟩, rfl, rfl, rfl⟩

lemma room_still (room : Room) : Still s { s with room := room } := { Still.refl s with }

lemma observeWindow_still {receivedAt since : Duration} : Still s (s.observeWindow receivedAt since) :=
  { Still.refl s with }

lemma set_self_of_entry (he : s.entry id = some e) : s.entries.set (s.slot id) (some e) = s.entries := by
  obtain ⟨hlt, hget⟩ := List.getElem?_eq_some_iff.1 (getElem?_of_entryAt (entry_eq_some.1 he).1)
  rw [← hget, List.set_getElem_self]

lemma updateEntry_writes (he : s.entry id = some e) (f : SentEntry → SentEntry) (hk : e.Kin (f e))
    (hkey : (f e).readiness s.reorderingWindow = e.readiness s.reorderingWindow) :
    Writes s (s.updateEntry id f) id e (f e) := by
  unfold updateEntry
  rw [he]
  refine ⟨{ Aside.refl s with }, he, rfl, hk, fun hkeys k => ?_⟩
  rw [hkey]
  constructor
  · intro hm
    by_cases h : e.readiness s.reorderingWindow = some k
    · exact .inr h
    · exact .inl ⟨hm, h⟩
  · rintro (⟨hm, -⟩ | h)
    · exact hm
    · exact hkeys k h

lemma updateEntry_eraseKey_writes (he : s.entry id = some e) (f : SentEntry → SentEntry) (hk : e.Kin (f e))
    (hkey : (f e).readiness s.reorderingWindow = none) :
    Writes s ((s.updateEntry id f).eraseKey (e.readiness s.reorderingWindow)) id e (f e) := by
  unfold updateEntry
  rw [he]
  unfold eraseKey
  cases hr : e.readiness s.reorderingWindow with
  | none =>
    refine ⟨{ Aside.refl s with }, he, rfl, hk, fun _ k => ?_⟩
    simp [hkey, hr]
  | some key =>
    refine ⟨{ Aside.refl s with }, he, rfl, hk, fun _ k => ?_⟩
    simp [hkey, hr, eq_comm]

def Pushed (s s' : Sender) (sample : SentObservation) : Prop :=
  (s'.inputs.feedback = s.inputs.feedback ++ [sample] ∧ s'.inputs.synthetic = s.inputs.synthetic) ∨
    (s'.inputs.feedback = s.inputs.feedback ∧ s'.inputs.synthetic = s.inputs.synthetic ++ [sample])

def Tells (s s' : Sender) (e : SentEntry) (o : Outcome) (reported : Bool) : Prop :=
  (SameLists s s' ∧ s'.inputs.exhausted = true) ∨
    (Pushed s s' (observe s.mode e o).1 ∧ reported = (observe s.mode e o).2.networkLossReported)

structure Emits (s s' : Sender) (id : SentPacketId) (e : SentEntry) (o : Outcome) (reported : Bool) : Prop
    extends Aside s s' where
  entries : s'.entries = s.entries.set (s.slot id) (some { e with networkLossReported := reported })
  readiness : s'.readiness = s.readiness
  missing : s'.missing = s.missing
  tells : Tells s s' e o reported

lemma entries_aside {l : List (Option SentEntry)} : Aside s { s with entries := l } := { Aside.refl s with }

lemma pushObservation_cases {sample : SentObservation} :
    Still s (s.pushObservation sample) ∧ (s.pushObservation sample).inputs.exhausted = true ∨
      Pushed s (s.pushObservation sample) sample ∧ Aside s (s.pushObservation sample) ∧
        (s.pushObservation sample).entries = s.entries ∧ (s.pushObservation sample).readiness = s.readiness ∧
        (s.pushObservation sample).missing = s.missing := by
  unfold pushObservation
  split
  · split
    · exact .inr ⟨.inr ⟨rfl, rfl⟩, { Aside.refl s with }, rfl, rfl, rfl⟩
    · exact .inl ⟨⟨{ Aside.refl s with exhausted := fun _ => rfl }, ⟨rfl, rfl⟩, rfl, rfl, rfl⟩, rfl⟩
  · exact .inr ⟨.inl ⟨rfl, rfl⟩, { Aside.refl s with }, rfl, rfl, rfl⟩

variable {o : Outcome}

lemma emitObserved_emits (he : s.entry id = some e) (hc : s.completesReportedLoss id o = false) :
    ∃ reported, Emits s (s.emitObserved id o) id e o reported := by
  unfold emitObserved
  rw [hc, he]
  simp only [Bool.false_eq_true, if_false]
  have hr : Still s (if o.lossOrigin.isNone then s.reserveFeedbackSlot else (s, true)).1 := by
    split
    · exact room_still _
    · exact .refl s
  revert hr
  generalize (if o.lossOrigin.isNone then s.reserveFeedbackSlot else _) = r
  obtain ⟨s1, granted⟩ := r
  intro hr
  split
  · have hx := hr.trans (exhaust_still)
    refine ⟨e.networkLossReported, hx.toAside, ?_, hx.readiness, hx.missing, .inl ⟨hx.toSameLists, rfl⟩⟩
    exact hx.entries.trans (set_self_of_entry he).symm
  have hs : s1.slot id = s.slot id := by rw [slot, slot, hr.config]
  refine ⟨(observe s.mode e o).2.networkLossReported, ?_⟩
  have hobs : observe s1.mode e o = observe s.mode e o := by rw [hr.mode]
  have hent : s1.entries.set (s1.slot id) (some (observe s.mode e o).2) = s.entries.set (s.slot id)
      (some { e with networkLossReported := (observe s.mode e o).2.networkLossReported }) := by
    rw [hr.entries, hs]
    rfl
  rw [hobs]
  rcases pushObservation_cases with ⟨h, hex⟩ | ⟨hp, ha, hent', hread, hmiss⟩
  · refine ⟨(hr.toAside.trans (entries_aside)).trans h.toAside, h.entries.trans hent, h.readiness.trans hr.readiness,
      h.missing.trans hr.missing, .inl ⟨⟨h.feedback.trans hr.feedback, h.synthetic.trans hr.synthetic⟩, hex⟩⟩
  refine ⟨(hr.toAside.trans (entries_aside)).trans ha, hent'.trans hent, hread.trans hr.readiness, hmiss.trans hr.missing,
    .inr ⟨?_, rfl⟩⟩
  unfold Pushed at hp ⊢
  rw [← hr.feedback, ← hr.synthetic]
  exact hp

lemma Emits.writes {reported : Bool} (h : Emits s s' id e o reported) (he : s.entry id = some e) :
    Writes s s' id e { e with networkLossReported := reported } := by
  have hu := updateEntry_writes he (fun e => e) (.refl e) rfl
  have hid : s.updateEntry id (fun e => e) = s := by
    unfold updateEntry
    rw [he]
    dsimp only
    rw [set_self_of_entry he]
  rw [hid] at hu
  exact hu.amend h.toAside h.entries (by constructor <;> rfl) h.readiness rfl

lemma Writes.emitObserved {s1 : Sender} {e1 : SentEntry} (h : Writes s s1 id e e1) (hl : SameLists s s1)
    {l : List SentPacketId} (hm : s1.missing = l) (hc : s1.completesReportedLoss id o = false) :
    ∃ reported, Writes s (s1.emitObserved id o) id e { e1 with networkLossReported := reported } ∧
      (s1.emitObserved id o).missing = l ∧ Tells s (s1.emitObserved id o) e1 o reported := by
  obtain ⟨reported, hem⟩ := emitObserved_emits h.entry_self hc
  refine ⟨reported, h.amend hem.toAside hem.entries (by constructor <;> rfl) hem.readiness rfl,
    hem.missing.trans hm, ?_⟩
  rcases hem.tells with ⟨hs, hex⟩ | ⟨hp, hr⟩
  · exact .inl ⟨⟨hs.feedback.trans hl.feedback, hs.synthetic.trans hl.synthetic⟩, hex⟩
  rw [h.mode] at hp hr
  refine .inr ⟨?_, hr⟩
  unfold Pushed at hp ⊢
  rwa [hl.feedback, hl.synthetic] at hp

lemma eraseKey_sameLists (key : Option Readiness) : SameLists s (s.eraseKey key) := by
  cases key <;> exact ⟨rfl, rfl⟩

lemma eraseKey_missing (key : Option Readiness) : (s.eraseKey key).missing = s.missing := by cases key <;> rfl

lemma updateEntry_sameLists (f : SentEntry → SentEntry) : SameLists s (s.updateEntry id f) := by
  unfold updateEntry
  split <;> exact ⟨rfl, rfl⟩

lemma updateEntry_missing (f : SentEntry → SentEntry) : (s.updateEntry id f).missing = s.missing := by
  unfold updateEntry
  split <;> rfl

lemma SameLists.trans (h : SameLists s s') (h' : SameLists s' s'') : SameLists s s'' :=
  ⟨h'.feedback.trans h.feedback, h'.synthetic.trans h.synthetic⟩

end Primitives

section Outcomes

section

variable (s : Sender)

variable (id : SentPacketId)

lemma setLost_cases (origin : LossOrigin) :
    (s.setLost id origin = s ∧ ∀ e, s.entry id = some e → e.acknowledgment.isTerminal = true) ∨
      ∃ e, e.acknowledgment.isTerminal = false ∧ ∃ reported,
      Writes s (s.setLost id origin) id e { e with acknowledgment := .lost, networkLossReported := reported } ∧
      (s.setLost id origin).missing = s.missing ∧
      Tells s (s.setLost id origin) { e with acknowledgment := .lost } ⟨false, false, some origin, none, none, none⟩
        reported := by
  unfold setLost
  cases he : s.entry id with
  | none => exact .inl ⟨rfl, nofun⟩
  | some e =>
    dsimp only
    split
    next ht =>
      refine .inl ⟨rfl, fun x hx => ?_⟩
      cases hx
      exact ht
    next ht =>
      right
      have hw := updateEntry_eraseKey_writes he (fun e => { e with acknowledgment := .lost })
        ⟨rfl, rfl, rfl, rfl, rfl, rfl, rfl⟩ rfl
      have hl := (@updateEntry_sameLists s id fun e => { e with acknowledgment := .lost }).trans
        (eraseKey_sameLists (e.readiness s.reorderingWindow))
      have htold := fun c => (hw.still (counters_still c)).emitObserved (hl.trans ⟨rfl, rfl⟩)
        (o := ⟨false, false, some origin, none, none, none⟩) ((eraseKey_missing _).trans (updateEntry_missing _)) rfl
      exact ⟨e, by simpa using ht, htold _⟩

/-- A loss that is paid for first. -/
lemma charged_cases (work : ℕ) (origin : LossOrigin) :
    (Still s (setLost { s with lossWork := work } id origin) ∧
        ∀ e, s.entry id = some e → e.acknowledgment.isTerminal = true) ∨
      ∃ e, e.acknowledgment.isTerminal = false ∧ ∃ reported,
      Writes s (setLost { s with lossWork := work } id origin) id e
        { e with acknowledgment := .lost, networkLossReported := reported } ∧
      (setLost { s with lossWork := work } id origin).missing = s.missing ∧
      Tells s (setLost { s with lossWork := work } id origin) { e with acknowledgment := .lost }
        ⟨false, false, some origin, none, none, none⟩ reported := by
  rcases setLost_cases { s with lossWork := work } id origin with ⟨h, hterm⟩ | ⟨e, hlive, b, hw, hm, ht⟩
  · rw [h]
    exact .inl ⟨{ Still.refl s with }, hterm⟩
  · refine .inr ⟨e, hlive, b, { hw with }, hm, ht.imp (fun h => ?_) fun h => h⟩
    exact ⟨{ h.1 with }, h.2⟩

lemma setReceived_cases (acked : Bool) (arrival : Option ReceiverTime)
    (ecn : Option Ecn) (receivedAt : Duration) :
    Still s (s.setReceived id acked arrival ecn receivedAt) ∨ ∃ e,
      (e.acknowledgment.isTerminal = false ∨ e.acknowledgment = .lost ∧ e.missingSince ≠ none) ∧ ∃ reported,
      Writes s (s.setReceived id acked arrival ecn receivedAt) id e
        { e with
          acknowledgment := if e.acknowledgment == .lost then e.acknowledgment else .received
          missingSince := none
          networkLossReported := reported } ∧
      (s.setReceived id acked arrival ecn receivedAt).missing = s.missing ∧
      Tells s (s.setReceived id acked arrival ecn receivedAt)
        { e with
          acknowledgment := if e.acknowledgment == .lost then e.acknowledgment else .received
          missingSince := none }
        ⟨true, acked, none, arrival, ecn, some receivedAt⟩ reported := by
  unfold setReceived
  cases he : s.entry id with
  | none => exact .inl (.refl s)
  | some e =>
    dsimp only
    split
    · exact .inl (counters_still _)
    next ht =>
      right
      have hgone : e.acknowledgment.isTerminal = false ∨ e.acknowledgment = .lost ∧ e.missingSince ≠ none := by
        cases hterm : e.acknowledgment.isTerminal with
        | false => exact .inl rfl
        | true => simpa [hterm] using ht
      have hkey : (SentEntry.readiness { e with
          acknowledgment := if e.acknowledgment == .lost then e.acknowledgment else .received
          missingSince := none } s.reorderingWindow) = none := by
        by_cases hlost : e.acknowledgment = .lost
        · simp [SentEntry.readiness, SentEntry.reorderDeadline, hlost]
        · simp [SentEntry.readiness, SentEntry.reorderDeadline, hlost]
      have hw := updateEntry_eraseKey_writes he (fun x => { x with
          acknowledgment := if e.acknowledgment == .lost then x.acknowledgment else .received
          missingSince := none }) (by constructor <;> rfl) hkey
      have hl := (@updateEntry_sameLists s id fun x => { x with
          acknowledgment := if e.acknowledgment == .lost then x.acknowledgment else .received
          missingSince := none }).trans (eraseKey_sameLists (e.readiness s.reorderingWindow))
      have hm : ((s.updateEntry id fun x => { x with
          acknowledgment := if e.acknowledgment == .lost then x.acknowledgment else .received
          missingSince := none }).eraseKey (e.readiness s.reorderingWindow)).missing = s.missing :=
        (eraseKey_missing _).trans (updateEntry_missing _)
      refine ⟨e, hgone, ?_⟩
      have hc : ∀ s1 : Sender, s1.completesReportedLoss id ⟨true, acked, none, arrival, ecn, some receivedAt⟩ = false := by
        simp [completesReportedLoss]
      generalize (e.acknowledgment == .lost) = terminalLoss at hw hl hm ⊢
      cases terminalLoss with
      | true => exact hw.emitObserved hl hm (hc _)
      | false =>
        have htold := fun c => (hw.still (counters_still c)).emitObserved (hl.trans ⟨rfl, rfl⟩) hm (hc _)
        exact htold _

lemma setMissing_cases (now : Duration) :
    Still s (s.setMissing id now) ∨ ∃ e, e.acknowledgment = .pending ∧ ∃ reported,
      Writes s (s.setMissing id now) id e { e with
        acknowledgment := .missing now none, missingSince := some now, networkLossReported := reported } ∧
      (s.setMissing id now).missing = s.missing ++ [id] ∧
      Tells s (s.setMissing id now) { e with acknowledgment := .missing now none, missingSince := some now }
        ⟨false, false, none, none, none, some now⟩ reported := by
  unfold setMissing
  split
  next hp =>
    obtain ⟨e, he, hp⟩ := (Option.any_eq_true _ _).1 hp
    have hp : e.acknowledgment = .pending := by simpa using hp
    dsimp only
    split
    · exact .inl ((room_still _).trans (exhaust_still))
    right
    have hkey : (SentEntry.readiness { e with acknowledgment := .missing now none, missingSince := some now }
        s.reorderingWindow) = e.readiness s.reorderingWindow := by
      simp [SentEntry.readiness, SentEntry.reorderDeadline, hp]
    have he1 : s.reserveMissingSlot.1.entry id = some e := he
    have hw1 := updateEntry_writes he1
      (fun e => { e with acknowledgment := .missing now none, missingSince := some now })
      ⟨rfl, rfl, rfl, rfl, rfl, rfl, rfl⟩ hkey
    have hl := (@updateEntry_sameLists s.reserveMissingSlot.1 id
      fun e => { e with acknowledgment := .missing now none, missingSince := some now })
    have hm := (@updateEntry_missing s.reserveMissingSlot.1 id
      fun e => { e with acknowledgment := .missing now none, missingSince := some now })
    revert hw1 hl hm
    generalize s.reserveMissingSlot.1.updateEntry id
      (fun e => { e with acknowledgment := .missing now none, missingSince := some now }) = s1
    intro hw1 hl hm
    have hw : Writes s { s1 with missing := s1.missing ++ [id] } id e
        { e with acknowledgment := .missing now none, missingSince := some now } :=
      { hw1 with toAside := { hw1 with }, found := he }
    exact ⟨e, hp, hw.emitObserved ⟨hl.feedback, hl.synthetic⟩ (congrArg (· ++ [id]) hm) rfl⟩
  · exact .inl (.refl s)

lemma emitAck_cases :
    s.emit id false true none = s ∨
      (∃ l last, s.inputs.feedback = l ++ [last] ∧ last.sentId = id ∧
        s.emit id false true none =
          { s with inputs := { s.inputs with feedback := l ++ [{ last with newlyAcked := true }] } }) ∨
      ∃ e reported, Writes s (s.emit id false true none) id e { e with networkLossReported := reported } ∧
        (s.emit id false true none).missing = s.missing ∧
        Tells s (s.emit id false true none) e ⟨false, true, none, none, none, none⟩ reported := by
  unfold emit
  cases hc : s.completesReportedLoss id ⟨false, true, none, none, none, none⟩ with
  | true =>
    right
    left
    have hany := (Bool.and_eq_true_iff.1 hc).2
    obtain ⟨last, hlast, hid⟩ := (Option.any_eq_true _ _).1 hany
    obtain ⟨l, hl⟩ := List.getLast?_eq_some_iff.1 hlast
    refine ⟨l, last, hl, ?_, ?_⟩
    · simp only [Bool.and_eq_true, beq_iff_eq] at hid
      exact hid.1.1
    · unfold emitObserved
      rw [if_pos hc, markNewlyAcked, hlast]
      rw [hl, List.dropLast_concat]
  | false =>
    cases he : s.entry id with
    | none =>
      left
      unfold emitObserved
      rw [hc, he]
      rfl
    | some e =>
      right
      right
      obtain ⟨reported, hem⟩ := emitObserved_emits he hc
      exact ⟨e, reported, hem.writes he, hem.missing, hem.tells⟩

lemma retireFromFlight_cases :
    s.retireFromFlight id = s ∨ ∃ e, Writes s (s.retireFromFlight id) id e { e with inFlight := false } ∧
      (s.retireFromFlight id).missing = s.missing ∧ SameLists s (s.retireFromFlight id) := by
  unfold retireFromFlight
  cases he : s.entry id with
  | none => exact .inl rfl
  | some e =>
    dsimp only
    split
    · right
      have hw := updateEntry_writes he (fun e => { e with inFlight := false }) (by constructor <;> rfl) rfl
      unfold updateEntry at hw
      rw [he] at hw
      exact ⟨e, ⟨{ Aside.refl s with }, he, rfl, hw.kin, hw.keys⟩, rfl, rfl, rfl⟩
    · exact .inl rfl

lemma takeMissingSince_cases (receivedAt : Duration) :
    s.takeMissingSince id receivedAt = s ∨ ∃ e, Writes s (s.takeMissingSince id receivedAt) id e
        { e with missingSince := none } ∧
      (s.takeMissingSince id receivedAt).missing = s.missing ∧ SameLists s (s.takeMissingSince id receivedAt) := by
  unfold takeMissingSince
  cases hb : (s.entry id).bind (·.missingSince) with
  | none => exact .inl rfl
  | some since =>
    right
    obtain ⟨e, he, -⟩ := Option.bind_eq_some_iff.1 hb
    have hw := updateEntry_writes he (fun e => { e with missingSince := none }) (by constructor <;> rfl) rfl
    have hl := @updateEntry_sameLists s id fun e => { e with missingSince := none }
    exact ⟨e, hw.still (observeWindow_still), updateEntry_missing _, hl.feedback, hl.synthetic⟩

end

lemma anchorEntry_cases (edge : ReceiptEdge) (receivedAt : Duration) (s : Sender) (id : SentPacketId) :
    anchorEntry edge receivedAt s id = s ∨ ∃ e since, e.acknowledgment = .missing since none ∧
      Writes s (anchorEntry edge receivedAt s id) id e { e with acknowledgment := .missing since (some receivedAt) } ∧
      (anchorEntry edge receivedAt s id).missing = s.missing ∧ SameLists s (anchorEntry edge receivedAt s id) := by
  unfold anchorEntry
  cases he : s.entry id with
  | none => exact .inl rfl
  | some e =>
    dsimp only
    split
    next since hack =>
      split
      · right
        refine ⟨e, since, hack, ?_⟩
        have hold : e.readiness s.reorderingWindow = none := by
          simp [SentEntry.readiness, SentEntry.reorderDeadline, hack]
        unfold updateEntry
        rw [he]
        unfold insertKey
        cases hr : SentEntry.readiness { e with acknowledgment := .missing since _ }
            s.reorderingWindow with
        | none =>
          refine ⟨⟨{ Aside.refl s with }, he, rfl, by constructor <;> rfl, fun _ k => ?_⟩, rfl, rfl, rfl⟩
          simp [hr, hold]
        | some key =>
          refine ⟨⟨{ Aside.refl s with }, he, rfl, by constructor <;> rfl, fun _ k => ?_⟩, rfl, rfl, rfl⟩
          simp [hr, hold, eq_comm, or_comm]
      · exact .inl rfl
    · exact .inl rfl

end Outcomes

section Apart

structure Budget where
  limit : ℕ
  work : ℕ
  told : ℕ
  overflowed : Bool

def budget (s : Sender) : Budget :=
  ⟨s.config.maxExpirationsPerPoll, s.lossWork, s.inputs.synthetic.length, s.overflowed⟩

def heard (s : Sender) : ℕ × ℕ := (s.counters.unknownFeedback, s.counters.staleFeedback)

/-- What the primitives of a report leave alone unless they report a loss. -/
def apart (s : Sender) : Budget × ℕ × ℕ := (s.budget, s.heard)

lemma budget_of_apart (h : s'.apart = s.apart) : s'.budget = s.budget := congrArg Prod.fst h

lemma heard_of_apart (h : s'.apart = s.apart) : s'.heard = s.heard := congrArg Prod.snd h

lemma apart_foldl {α : Type*} {f : Sender → α → Sender} (hf : ∀ s x, (f s x).apart = s.apart) (l : List α)
    (s : Sender) : (l.foldl f s).apart = s.apart := by
  induction l generalizing s with
  | nil => rfl
  | cons x l ih => exact (ih _).trans (hf s x)

variable (s : Sender)

@[simp] lemma apart_updateEntry (id : SentPacketId) (f : SentEntry → SentEntry) :
    (s.updateEntry id f).apart = s.apart := by
  unfold updateEntry
  split <;> rfl

@[simp] lemma apart_eraseKey (key : Option Readiness) : (s.eraseKey key).apart = s.apart := by
  cases key <;> rfl

@[simp] lemma apart_insertKey (key : Option Readiness) : (s.insertKey key).apart = s.apart := by
  cases key <;> rfl

lemma apart_updateSpace (space : SpaceId) (f : SpaceHistory → SpaceHistory) :
    (s.updateSpace space f).apart = s.apart := by
  unfold updateSpace
  split <;> rfl

lemma apart_retireFromFlight (id : SentPacketId) : (s.retireFromFlight id).apart = s.apart := by
  unfold retireFromFlight
  split
  · rfl
  · split <;> rfl

lemma apart_takeMissingSince (id : SentPacketId) (receivedAt : Duration) :
    (s.takeMissingSince id receivedAt).apart = s.apart := by
  unfold takeMissingSince
  split
  · rfl
  · exact apart_updateEntry ..

lemma apart_emitObserved {o : Outcome} (ho : o.lossOrigin = none) (id : SentPacketId) :
    (s.emitObserved id o).apart = s.apart := by
  unfold emitObserved
  split
  · rfl
  split
  · rfl
  simp only [ho, Option.isNone_none, if_true]
  split
  · rfl
  · simp only [observe, ho]
    rfl

lemma apart_setReceived (id : SentPacketId) (acked : Bool) (arrival : Option ReceiverTime) (ecn : Option Ecn)
    (receivedAt : Duration) : (s.setReceived id acked arrival ecn receivedAt).apart = s.apart := by
  unfold setReceived
  split
  · rfl
  split
  · rfl
  · rw [apart_emitObserved _ rfl]
    split <;> exact (apart_eraseKey ..).trans (apart_updateEntry ..)

lemma apart_setMissing (id : SentPacketId) (now : Duration) : (s.setMissing id now).apart = s.apart := by
  unfold setMissing
  split
  · dsimp only
    split
    · rfl
    · exact (apart_emitObserved _ rfl _).trans (apart_updateEntry ..)
  · rfl

lemma apart_anchorEntry (edge : ReceiptEdge) (receivedAt : Duration) (id : SentPacketId) :
    (anchorEntry edge receivedAt s id).apart = s.apart := by
  unfold anchorEntry
  split
  · rfl
  split
  · split
    · simp
    · rfl
  · rfl

lemma apart_applyReorderingWindow (now : Duration) : (s.applyReorderingWindow now).apart = s.apart := by
  unfold applyReorderingWindow
  split
  · rfl
  refine apart_foldl (fun s i => ?_) _ s
  rcases rekeyEntry_cases now s i with ⟨h, -⟩ | ⟨e, f, keys, -, h, -⟩
  · rw [h]
  · rw [h]
    rfl

end Apart

end Pulsebeam.Feedback.Sender
