import Pulsebeam.Feedback.Report

/-! The ledger of in-flight bytes, and what each report primitive does to it. -/

namespace Pulsebeam.Feedback

open Pulsebeam.Lib List Option Nat Bool

variable {i : ℕ} {e'' : SentEntry}

lemma sum_map_set {α : Type*} (f : α → ℕ) {l : List α} {a : α} (h : l[i]? = some a) (b : α) :
    ((l.set i b).map f).sum + f a = (l.map f).sum + f b := by
  induction l generalizing i with
  | nil => simp at h
  | cons c l ih =>
    cases i with
    | zero =>
      obtain rfl : c = a := by simpa using h
      simp only [set_cons_zero, map_cons, sum_cons]
      omega
    | succ i =>
      have := ih (by simpa using h)
      simp only [set_cons_succ, map_cons, sum_cons]
      omega

namespace SentEntry

def flightBytes (e : SentEntry) : ℕ := if e.inFlight then e.wireLen else 0

def weight (e : SentEntry) : ℕ := if e.acknowledgment.isTerminal then 0 else 1

def anchored (e : SentEntry) : Bool :=
  match e.acknowledgment with
  | .missing _ (some _) => true
  | _ => false

structure Kin (e e' : SentEntry) : Prop where
  id : e'.id = e.id
  committedAt : e'.committedAt = e.committedAt
  wireLen : e'.wireLen = e.wireLen
  pathEpoch : e'.pathEpoch = e.pathEpoch
  space : e'.space = e.space
  packetSequence : e'.packetSequence = e.packetSequence
  feedbackSequence : e'.feedbackSequence = e.feedbackSequence

lemma Kin.refl (e : SentEntry) : Kin e e := by constructor <;> rfl

lemma Kin.trans {e e' : SentEntry} (h : Kin e e') (h' : Kin e' e'') : Kin e e'' :=
  ⟨h'.id.trans h.id, h'.committedAt.trans h.committedAt, h'.wireLen.trans h.wireLen, h'.pathEpoch.trans h.pathEpoch,
    h'.space.trans h.space, h'.packetSequence.trans h.packetSequence, h'.feedbackSequence.trans h.feedbackSequence⟩

lemma reorderDeadline_eq_none {e : SentEntry} (h : e.anchored = false) (w : Duration) : e.reorderDeadline w = none := by
  simp only [anchored] at h
  simp only [reorderDeadline]
  generalize e.acknowledgment = a at h
  cases a with
  | missing _ anchor =>
    cases anchor with
    | none => rfl
    | some _ => cases h
  | _ => rfl

end SentEntry

namespace Sender

def InFlight (s : Sender) (e : SentEntry) : Prop := some e ∈ s.entries ∧ e.inFlight = true

def inFlightBytes (s : Sender) : ℕ := (s.entries.map fun o => o.elim 0 SentEntry.flightBytes).sum

def outstanding (s : Sender) : ℕ := (s.entries.map fun o => o.elim 0 SentEntry.weight).sum

structure Credited (s : Sender) : Prop where
  credit : s.bytesInFlight = s.inFlightBytes
  inputs : s.inputs.bytesInFlight = s.bytesInFlight
  terminal : ∀ e, some e ∈ s.entries → e.acknowledgment.isTerminal = true → e.inFlight = false

structure Led (s : Sender) : Prop extends Credited s where
  ring : ∀ i e, s.entryAt i = some e → s.slot e.id = i

def Starved (s : Sender) : Prop := ∀ n, s.room.missing n = false

variable {s s' s'' : Sender} {e e' : SentEntry} {id : SentPacketId}

lemma mem_entries : some e ∈ s.entries ↔ ∃ i, s.entryAt i = some e := by
  simp only [entryAt, join_eq_some_iff, mem_iff_getElem?]

lemma entry_eq_some : s.entry id = some e ↔ s.entryAt (s.slot id) = some e ∧ e.id = id := by
  simp [entry]

lemma Led.entry (h : Led s) (he : some e ∈ s.entries) : s.entry e.id = some e := by
  obtain ⟨i, hi⟩ := mem_entries.1 he
  rw [entry_eq_some, h.ring i e hi]
  exact ⟨hi, rfl⟩

lemma mem_of_entry (h : s.entry id = some e) : some e ∈ s.entries := mem_entries.2 ⟨_, (entry_eq_some.1 h).1⟩

structure Fixed (s s' : Sender) : Prop where
  config : s'.config = s.config
  mode : s'.mode = s.mode
  activeEpoch : s'.activeEpoch = s.activeEpoch
  feedbackIndex : s'.feedbackIndex = s.feedbackIndex
  oldestFeedback : s'.oldestFeedback = s.oldestFeedback
  newestFeedback : s'.newestFeedback = s.newestFeedback
  nextSentId : s'.nextSentId = s.nextSentId

lemma Fixed.refl (s : Sender) : Fixed s s := by constructor <;> rfl

lemma Fixed.trans (h : Fixed s s') (h' : Fixed s' s'') : Fixed s s'' where
  config := h'.config.trans h.config
  mode := h'.mode.trans h.mode
  activeEpoch := h'.activeEpoch.trans h.activeEpoch
  feedbackIndex := h'.feedbackIndex.trans h.feedbackIndex
  oldestFeedback := h'.oldestFeedback.trans h.oldestFeedback
  newestFeedback := h'.newestFeedback.trans h.newestFeedback
  nextSentId := h'.nextSentId.trans h.nextSentId

structure Frame (s s' : Sender) : Prop extends Fixed s s' where
  lastPath : s'.lastPath = s.lastPath
  highestFeedbackAcked : s'.highestFeedbackAcked = s.highestFeedbackAcked
  spaces : s'.spaces = s.spaces
  exhausted : s.inputs.exhausted = true → s'.inputs.exhausted = true
  room : ∃ k, s'.room.missing = fun n => s.room.missing (n + k)

lemma Frame.refl (s : Sender) : Frame s s := ⟨.refl s, rfl, rfl, rfl, fun h => h, 0, rfl⟩

lemma Frame.trans (h : Frame s s') (h' : Frame s' s'') : Frame s s'' where
  toFixed := h.toFixed.trans h'.toFixed
  lastPath := h'.lastPath.trans h.lastPath
  highestFeedbackAcked := h'.highestFeedbackAcked.trans h.highestFeedbackAcked
  spaces := h'.spaces.trans h.spaces
  exhausted := fun he => h'.exhausted (h.exhausted he)
  room := by
    obtain ⟨k, hk⟩ := h.room
    obtain ⟨k', hk'⟩ := h'.room
    refine ⟨k' + k, ?_⟩
    rw [hk', hk]
    funext n
    exact congrArg _ (add_assoc n k' k)

lemma Frame.starved (h : Frame s s') (hs : Starved s) : Starved s' := by
  obtain ⟨k, hk⟩ := h.room
  intro n
  rw [hk]
  exact hs _

structure Carried (A : SentEntry → Prop) (s : Sender) (e e' : SentEntry) : Prop where
  kin : e.Kin e'
  inFlight : e.inFlight = true
  ack : e'.acknowledgment = e.acknowledgment ∨
    (¬ s.Starved ∧ e.acknowledgment = .pending ∧ ∃ since, e'.acknowledgment = .missing since none) ∨
    (A e ∧ (e.acknowledgment.isMissing = true ∨ ¬ s.Starved) ∧ e'.acknowledgment.isMissing = true)

structure Settles (A : SentEntry → Prop) (s s' : Sender) : Prop extends Frame s s' where
  led : Led s'
  kin : ∀ e', some e' ∈ s'.entries → ∃ e, some e ∈ s.entries ∧ e.Kin e'
  flight : ∀ e', s'.InFlight e' → ∃ e, s.InFlight e ∧ s.Carried A e e'
  spent : s'.lossWork + s'.outstanding ≤ s.lossWork + s.outstanding
  length : s'.entries.length = s.entries.length

def KinClosed (A : SentEntry → Prop) : Prop := ∀ e e', e.Kin e' → A e' → A e

lemma kinClosed_false : KinClosed fun _ => False := fun _ _ _ h => h

variable {A : SentEntry → Prop}

lemma Carried.refl (he : e.inFlight = true) : s.Carried A e e := ⟨.refl e, he, .inl rfl⟩

lemma Settles.refl (h : Led s) : Settles A s s :=
  ⟨.refl s, h, fun e he => ⟨e, he, .refl e⟩, fun e he => ⟨e, he, .refl he.2⟩, le_rfl, rfl⟩

lemma Carried.trans (hA : KinClosed A) (hs : Frame s s') (h : s.Carried A e e') (h' : s'.Carried A e' e'') :
    s.Carried A e e'' := by
  refine ⟨h.kin.trans h'.kin, h.inFlight, ?_⟩
  have hst : ¬ s'.Starved → ¬ s.Starved := fun hn hst => hn (hs.starved hst)
  rcases h.ack with ha | ⟨hr, hp, since, hm⟩ | ⟨hr, hp, hm⟩
  · rcases h'.ack with ha' | ⟨hr', hp', hm'⟩ | ⟨hr', hp', hm'⟩
    · exact .inl (ha'.trans ha)
    · exact .inr (.inl ⟨hst hr', ha ▸ hp', hm'⟩)
    · exact .inr (.inr ⟨hA _ _ h.kin hr', hp'.imp (fun hp => ha ▸ hp) hst, hm'⟩)
  · rcases h'.ack with ha' | ⟨hr', hp', hm'⟩ | ⟨hr', hp', hm'⟩
    · exact .inr (.inl ⟨hr, hp, since, ha'.trans hm⟩)
    · rw [hm] at hp'
      cases hp'
    · exact .inr (.inr ⟨hA _ _ h.kin hr', .inr hr, hm'⟩)
  · rcases h'.ack with ha' | ⟨hr', hp', hm'⟩ | ⟨hr', hp', hm'⟩
    · exact .inr (.inr ⟨hr, hp, by rw [ha']; exact hm⟩)
    · rw [hp'] at hm
      cases hm
    · exact .inr (.inr ⟨hr, hp, hm'⟩)

lemma Settles.trans (hA : KinClosed A) (h : Settles A s s') (h' : Settles A s' s'') : Settles A s s'' where
  toFrame := h.toFrame.trans h'.toFrame
  led := h'.led
  kin := by
    intro e'' he''
    obtain ⟨e', he', hk'⟩ := h'.kin e'' he''
    obtain ⟨e, he, hk⟩ := h.kin e' he'
    exact ⟨e, he, hk.trans hk'⟩
  flight := by
    intro e'' he''
    obtain ⟨e', he', hc'⟩ := h'.flight e'' he''
    obtain ⟨e, he, hc⟩ := h.flight e' he'
    exact ⟨e, he, hc.trans hA h.toFrame hc'⟩
  spent := h'.spent.trans h.spent
  length := h'.length.trans h.length

lemma Settles.idle (h : Led s) (hf : Frame s s') (hent : s'.entries = s.entries)
    (hbytes : s'.bytesInFlight = s.bytesInFlight) (hin : s'.inputs.bytesInFlight = s.inputs.bytesInFlight)
    (hwork : s'.lossWork = s.lossWork) : Settles A s s' where
  toFrame := hf
  led := by
    refine ⟨⟨?_, ?_, ?_⟩, ?_⟩
    · rw [hbytes, h.credit, inFlightBytes, inFlightBytes, hent]
    · rw [hin, hbytes, h.inputs]
    · rw [hent]
      exact h.terminal
    · intro i e he
      rw [slot, hf.config]
      apply h.ring i e
      rwa [entryAt, hent] at he
  kin := by
    rw [hent]
    exact fun e he => ⟨e, he, .refl e⟩
  flight := by
    rintro e ⟨he, hfl⟩
    rw [hent] at he
    exact ⟨e, ⟨he, hfl⟩, .refl hfl⟩
  spent := by rw [hwork, outstanding, outstanding, hent]
  length := congrArg List.length hent

lemma getElem?_of_entryAt (h : s.entryAt i = some e) : s.entries[i]? = some (some e) := join_eq_some_iff.1 h

lemma mem_set {l : List (Option SentEntry)} {x : SentEntry} (h : some x ∈ l.set i (some e')) :
    x = e' ∨ ∃ j, j ≠ i ∧ l[j]? = some (some x) := by
  obtain ⟨j, hj⟩ := mem_iff_getElem?.1 h
  rw [getElem?_set] at hj
  by_cases hij : i = j
  · rw [if_pos hij] at hj
    split at hj
    · left
      simpa using hj.symm
    · cases hj
  · rw [if_neg hij] at hj
    exact .inr ⟨j, Ne.symm hij, hj⟩

lemma Settles.update (h : Led s) (he : s.entryAt i = some e) (hf : Frame s s')
    (hent : s'.entries = s.entries.set i (some e')) (hk : e.Kin e')
    (hcredit : s'.bytesInFlight + e.flightBytes = s.bytesInFlight + e'.flightBytes)
    (hin : s'.inputs.bytesInFlight = s'.bytesInFlight)
    (hterm : e'.acknowledgment.isTerminal = true → e'.inFlight = false) (hfl : e'.inFlight = true → s.Carried A e e')
    (hspent : s'.lossWork + e'.weight ≤ s.lossWork + e.weight) : Settles A s s' where
  toFrame := hf
  led := by
    have hsum := sum_map_set (fun o : Option SentEntry => o.elim 0 SentEntry.flightBytes) (getElem?_of_entryAt he)
      (some e')
    refine ⟨⟨?_, hin, ?_⟩, ?_⟩
    · have hc := h.credit
      simp only [inFlightBytes, hent] at hc ⊢
      simp only [Option.elim] at hsum hc ⊢
      omega
    · intro x hx hxt
      rw [hent] at hx
      rcases mem_set hx with rfl | ⟨j, -, hj⟩
      · exact hterm hxt
      · exact h.terminal x (mem_iff_getElem?.2 ⟨j, hj⟩) hxt
    · intro j x hx
      rw [slot, hf.config, ← slot]
      rw [entryAt, hent, getElem?_set] at hx
      by_cases hij : i = j
      · rw [if_pos hij] at hx
        split at hx
        · obtain rfl : e' = x := by simpa using hx
          rw [hk.id, h.ring i e he, hij]
        · simp at hx
      · rw [if_neg hij] at hx
        exact h.ring j x hx
  kin := by
    intro x hx
    rw [hent] at hx
    rcases mem_set hx with rfl | ⟨j, -, hj⟩
    · exact ⟨e, mem_entries.2 ⟨i, he⟩, hk⟩
    · exact ⟨x, mem_iff_getElem?.2 ⟨j, hj⟩, .refl x⟩
  flight := by
    rintro x ⟨hx, hxf⟩
    rw [hent] at hx
    rcases mem_set hx with rfl | ⟨j, -, hj⟩
    · exact ⟨e, ⟨mem_entries.2 ⟨i, he⟩, (hfl hxf).inFlight⟩, hfl hxf⟩
    · exact ⟨x, ⟨mem_iff_getElem?.2 ⟨j, hj⟩, hxf⟩, .refl hxf⟩
  spent := by
    have hsum := sum_map_set (fun o : Option SentEntry => o.elim 0 SentEntry.weight) (getElem?_of_entryAt he) (some e')
    simp only [outstanding, hent]
    simp only [Option.elim] at hsum ⊢
    omega
  length := by rw [hent, length_set]

def Retired (s : Sender) (id : SentPacketId) : Prop := ∀ e, s.InFlight e → e.id ≠ id

lemma Settles.retired (h : Settles A s s') (hr : s.Retired id) : s'.Retired id := by
  intro e' he' heq
  obtain ⟨e, he, hc⟩ := h.flight e' he'
  exact hr e he (hc.kin.id ▸ heq)

lemma Retired.inFlight (hr : s.Retired id) (he : s.entry id = some e) : e.inFlight = false := by
  by_contra hf
  exact hr e ⟨mem_of_entry he, by simpa using hf⟩ (entry_eq_some.1 he).2

lemma Led.retired (h : Led s) (he : ∀ e, s.entry id = some e → e.inFlight = false) : s.Retired id := by
  rintro e ⟨hm, hf⟩ rfl
  have := he e (h.entry hm)
  rw [hf] at this
  cases this

lemma Led.wireLen_le (h : Led s) (he : s.entryAt i = some e) (hf : e.inFlight = true) :
    e.wireLen ≤ s.bytesInFlight := by
  have hsum := sum_map_set (fun o : Option SentEntry => o.elim 0 SentEntry.flightBytes) (getElem?_of_entryAt he) none
  have hc := h.credit
  simp only [inFlightBytes] at hc
  have he' : e.flightBytes = e.wireLen := if_pos hf
  simp only [Option.elim] at hsum hc
  omega

section Primitives

variable {key : Option Readiness}

section

variable (h : Led s)

include h

lemma eraseKey_settles : Settles A s (s.eraseKey key) := by
  cases key with
  | none => exact .refl h
  | some key => exact .idle h { Frame.refl s with } rfl rfl rfl rfl

lemma insertKey_settles : Settles A s (s.insertKey key) := by
  cases key with
  | none => exact .refl h
  | some key => exact .idle h { Frame.refl s with } rfl rfl rfl rfl

lemma counters_settles (c : HistoryCounters) : Settles A s { s with counters := c } :=
  .idle h { Frame.refl s with } rfl rfl rfl rfl

lemma exhaust_settles : Settles A s s.exhaust := .idle h { Frame.refl s with exhausted := fun _ => rfl } rfl rfl rfl rfl

lemma reserveMissingSlot_settles : Settles A s s.reserveMissingSlot.1 :=
  .idle h { Frame.refl s with room := ⟨1, rfl⟩ } rfl rfl rfl rfl

lemma reserveFeedbackSlot_settles : Settles A s s.reserveFeedbackSlot.1 := .idle h { Frame.refl s with } rfl rfl rfl rfl

lemma observeWindow_settles {receivedAt since : Duration} : Settles A s (s.observeWindow receivedAt since) :=
  .idle h { Frame.refl s with } rfl rfl rfl rfl

lemma pushObservation_settles {sample : SentObservation} : Settles A s (s.pushObservation sample) := by
  unfold pushObservation
  split
  · split
    · exact .idle h { Frame.refl s with } rfl rfl rfl rfl
    · exact .idle h { Frame.refl s with exhausted := fun _ => rfl } rfl rfl rfl rfl
  · exact .idle h { Frame.refl s with } rfl rfl rfl rfl

lemma updateEntry_settles (f : SentEntry → SentEntry)
    (hf : ∀ e, s.entry id = some e → e.Kin (f e) ∧ (f e).inFlight = e.inFlight ∧ (f e).weight ≤ e.weight ∧
      (e.inFlight = true → (f e).acknowledgment.isTerminal = false ∧ s.Carried A e (f e))) :
    Settles A s (s.updateEntry id f) := by
  unfold updateEntry
  cases he : s.entry id with
  | none => exact .refl h
  | some e =>
    obtain ⟨hk, hfl, hw, hc⟩ := hf e he
    refine .update h (entry_eq_some.1 he).1 { Frame.refl s with } rfl hk
      ?_ h.inputs ?_ (fun hfe => (hc (hfl ▸ hfe)).2) (Nat.add_le_add_left hw _)
    · simp only [SentEntry.flightBytes, hfl, hk.wireLen]
    intro ht
    by_contra hfe
    rw [hfl] at hfe
    rw [(hc (by simpa using hfe)).1] at ht
    cases ht

lemma retireFromFlight_settles (id : SentPacketId) : Settles A s (s.retireFromFlight id) := by
  unfold retireFromFlight
  cases he : s.entry id with
  | none => exact .refl h
  | some e =>
    have hi := (entry_eq_some.1 he).1
    dsimp only
    split
    next hf =>
      refine .update h hi { Frame.refl s with } rfl
        ⟨rfl, rfl, rfl, rfl, rfl, rfl, rfl⟩ ?_ rfl (fun _ => rfl) nofun le_rfl
      have := h.wireLen_le hi hf
      simp only [SentEntry.flightBytes, if_pos hf, false_eq_true, if_false]
      omega
    · exact .refl h

lemma retireFromFlight_retired (id : SentPacketId) : (s.retireFromFlight id).Retired id := by
  unfold retireFromFlight
  cases he : s.entry id with
  | none => exact h.retired fun e hn => by rw [he] at hn; cases hn
  | some e =>
    dsimp only
    split
    next hf =>
      rintro x ⟨hx, hxf⟩ hid
      rcases mem_set hx with rfl | ⟨j, hj, hjx⟩
      · cases hxf
      · exact hj (by rw [← h.ring j x (join_eq_some_iff.2 hjx), hid])
    next hf =>
      refine h.retired fun x hx => ?_
      rw [he] at hx
      cases hx
      simpa using hf

end

lemma emitObserved_settles (hA : KinClosed A) (h : Led s) (id : SentPacketId) (o : Outcome) :
    Settles A s (s.emitObserved id o) := by
  unfold emitObserved
  split
  · exact .idle h { Frame.refl s with } rfl rfl rfl rfl
  cases he : s.entry id with
  | none => exact .refl h
  | some e =>
    have hr : Settles A s (if o.lossOrigin.isNone then s.reserveFeedbackSlot else (s, true)).1 := by
      split
      · exact reserveFeedbackSlot_settles h
      · exact .refl h
    have hre : (if o.lossOrigin.isNone then s.reserveFeedbackSlot else (s, true)).1.entries = s.entries := by
      split <;> rfl
    revert hr hre
    generalize (if o.lossOrigin.isNone then s.reserveFeedbackSlot else _) = r
    obtain ⟨s1, granted⟩ := r
    intro hr hre
    dsimp only at hr hre ⊢
    split
    · exact hr.trans hA (exhaust_settles hr.led)
    have hi : s1.entryAt (s1.slot id) = some e := by
      rw [slot, hr.config, entryAt, hre]
      exact (entry_eq_some.1 he).1
    have hu : Settles A s1 { s1 with entries := s1.entries.set (s1.slot id) (some (observe s1.mode e o).2) } := by
      refine .update hr.led hi { Frame.refl s1 with } rfl
        ⟨rfl, rfl, rfl, rfl, rfl, rfl, rfl⟩ rfl hr.led.inputs
        (fun ht => hr.led.terminal e (mem_entries.2 ⟨_, hi⟩) ht) (fun hf => ?_) le_rfl
      exact ⟨⟨rfl, rfl, rfl, rfl, rfl, rfl, rfl⟩, hf, .inl rfl⟩
    exact (hr.trans hA hu).trans hA (pushObservation_settles hu.led)

end Primitives

abbrev Keeps (s s' : Sender) : Prop := Settles (fun _ => False) s s'

lemma Keeps.trans (h : Keeps s s') (h' : Keeps s' s'') : Keeps s s'' := Settles.trans kinClosed_false h h'

lemma Keeps.next (h : Keeps s s') (h' : Led s' → Keeps s' s'') : Keeps s s'' := Keeps.trans h (h' h.led)

lemma Led.bump (h : Led s) (w : ℕ) : Led { s with lossWork := w } := ⟨⟨h.credit, h.inputs, h.terminal⟩, h.ring⟩

lemma Settles.of_bump {w : ℕ} (h : Settles A { s with lossWork := w } s')
    (hs : s'.lossWork + s'.outstanding ≤ s.lossWork + s.outstanding) : Settles A s s' where
  toFrame := { h with }
  led := h.led
  kin := h.kin
  flight := by
    intro e' he'
    obtain ⟨e, he, hc⟩ := h.flight e' he'
    exact ⟨e, he, hc.kin, hc.inFlight, hc.ack⟩
  spent := hs
  length := h.length

section Outcomes

lemma emit_keeps (h : Led s) (id : SentPacketId) (received newlyAcked : Bool) (origin : Option LossOrigin) :
    Keeps s (s.emit id received newlyAcked origin) :=
  emitObserved_settles kinClosed_false h id _

lemma updateEntry_outstanding (he : s.entry id = some e) (f : SentEntry → SentEntry) :
    (s.updateEntry id f).outstanding + e.weight = s.outstanding + (f e).weight := by
  unfold updateEntry
  rw [he]
  exact sum_map_set (fun o : Option SentEntry => o.elim 0 SentEntry.weight)
    (getElem?_of_entryAt (entry_eq_some.1 he).1) _

lemma updateEntry_lossWork (f : SentEntry → SentEntry) : (s.updateEntry id f).lossWork = s.lossWork := by
  unfold updateEntry
  split <;> rfl

lemma weight_of_terminal (h : e.acknowledgment.isTerminal = true) : e.weight = 0 := if_pos h

lemma weight_of_live (h : e.acknowledgment.isTerminal = false) : e.weight = 1 := by
  rw [SentEntry.weight, h]
  rfl

lemma updateEntry_retired_keeps (h : Led s) (hr : s.Retired id) (f : SentEntry → SentEntry)
    (hf : ∀ e, s.entry id = some e → e.Kin (f e) ∧ (f e).inFlight = e.inFlight ∧ (f e).weight ≤ e.weight) :
    Keeps s (s.updateEntry id f) := by
  apply updateEntry_settles h
  intro e he
  obtain ⟨hk, hi, hw⟩ := hf e he
  refine ⟨hk, hi, hw, fun hfl => ?_⟩
  rw [hr.inFlight he] at hfl
  cases hfl

lemma setLost_spec (h : Led s) (hr : s.Retired id) (origin : LossOrigin) (he : s.entry id = some e)
    (ht : e.acknowledgment.isTerminal = false) :
    Keeps s (s.setLost id origin) ∧
      (s.setLost id origin).lossWork + (s.setLost id origin).outstanding + 1 ≤ s.lossWork + s.outstanding := by
  have hu : Keeps s (s.updateEntry id fun e => { e with acknowledgment := .lost }) := by
    refine updateEntry_retired_keeps h hr _ fun x hx => ⟨by constructor <;> rfl, rfl, ?_⟩
    exact zero_le _
  have hk : Keeps (s.updateEntry id fun e => { e with acknowledgment := .lost }) (s.setLost id origin) := by
    simp only [setLost, he, ht]
    refine Keeps.next ?_ fun h => emit_keeps h _ _ _ _
    refine Keeps.next ?_ fun h => counters_settles h _
    exact eraseKey_settles hu.led
  refine ⟨Keeps.trans hu hk, ?_⟩
  have hs := hk.spent
  have ho := updateEntry_outstanding he fun e => { e with acknowledgment := .lost }
  rw [weight_of_live ht, weight_of_terminal rfl] at ho
  rw [updateEntry_lossWork] at hs
  omega

lemma setLost_terminal {origin : LossOrigin} (ht : ∀ e, s.entry id = some e → e.acknowledgment.isTerminal = true) :
    s.setLost id origin = s := by
  unfold setLost
  split
  · rfl
  next e he => rw [if_pos (ht e he)]

lemma setLost_keeps (h : Led s) (hr : s.Retired id) (origin : LossOrigin) : Keeps s (s.setLost id origin) := by
  by_cases ht : ∃ e, s.entry id = some e ∧ e.acknowledgment.isTerminal = false
  · obtain ⟨e, he, ht⟩ := ht
    exact (setLost_spec h hr origin he ht).1
  · rw [setLost_terminal fun e he => by_contra fun hn => ht ⟨e, he, by simpa using hn⟩]
    exact .refl h

lemma markLostUnbudgeted_reordering_keeps (h : Led s) (hr : s.Retired id) :
    Keeps s (s.markLostUnbudgeted id .reordering) :=
  setLost_keeps h hr .reordering

lemma markLostUnbudgeted_expiry_keeps (h : Led s) (id : SentPacketId) :
    Keeps s (s.markLostUnbudgeted id .historyExpiry) ∧ (s.markLostUnbudgeted id .historyExpiry).Retired id := by
  simp only [markLostUnbudgeted]
  cases he : s.entry id with
  | none => exact ⟨.refl h, h.retired fun e hn => by rw [he] at hn; cases hn⟩
  | some e =>
    have hk : Keeps s _ := retireFromFlight_settles h id
    have hr := retireFromFlight_retired h id
    have hl := setLost_keeps hk.led hr ((s.retireFromFlight id).lossOriginOf e .historyExpiry)
    exact ⟨Keeps.trans hk hl, hl.retired hr⟩

lemma retireFromFlight_entry (he : s.entry id = some e) :
    ∃ e', (s.retireFromFlight id).entry id = some e' ∧ e'.acknowledgment = e.acknowledgment := by
  unfold retireFromFlight
  rw [he]
  dsimp only
  split
  · refine ⟨{ e with inFlight := false }, ?_, rfl⟩
    obtain ⟨hi, hid⟩ := entry_eq_some.1 he
    rw [entry_eq_some]
    refine ⟨?_, hid⟩
    have hlt := (List.getElem?_eq_some_iff.1 (getElem?_of_entryAt hi)).1
    exact congrArg Option.join (getElem?_set_self hlt)
  · exact ⟨e, he, rfl⟩

lemma exists_live (ht : ¬ (s.entry id).all (fun e => e.acknowledgment.isTerminal) = true) :
    ∃ e, s.entry id = some e ∧ e.acknowledgment.isTerminal = false := by
  cases he : s.entry id with
  | none => simp [he] at ht
  | some e => exact ⟨e, rfl, by simpa [he] using ht⟩

variable (h : Led s)

include h

lemma markLost_reordering_keeps (hr : s.Retired id) : Keeps s (s.markLost id .reordering).1 := by
  unfold markLost
  split
  · exact .refl h
  next ht =>
    split
    · exact .refl h
    obtain ⟨e, he, ht⟩ := exists_live ht
    obtain ⟨hk, hs⟩ := setLost_spec (s := { s with lossWork := s.lossWork + 1 }) (h.bump _) hr .reordering he ht
    refine Settles.of_bump hk (Nat.le_of_add_le_add_right (hs.trans ?_))
    exact le_of_eq (Nat.add_right_comm _ _ _)

lemma markLost_expiry_keeps (id : SentPacketId) : Keeps s (s.markLost id .historyExpiry).1 := by
  unfold markLost
  split
  · exact .refl h
  next ht =>
    split
    · exact .refl h
    obtain ⟨e, he, ht⟩ := exists_live ht
    have hb : Led { s with lossWork := s.lossWork + 1 } := h.bump _
    refine Settles.of_bump (markLostUnbudgeted_expiry_keeps hb id).1 ?_
    have he' : ({ s with lossWork := s.lossWork + 1 } : Sender).entry id = some e := he
    obtain ⟨e', hr', hack⟩ := retireFromFlight_entry he'
    have hk : Keeps _ _ := retireFromFlight_settles hb id
    have hs := (setLost_spec hk.led (retireFromFlight_retired hb id)
      (lossOriginOf (retireFromFlight { s with lossWork := s.lossWork + 1 } id) e .historyExpiry) hr'
      (hack ▸ ht)).2
    have hsp := hs.trans hk.spent
    simp only [markLostUnbudgeted, he']
    exact Nat.le_of_add_le_add_right (hsp.trans (le_of_eq (Nat.add_right_comm _ _ _)))

lemma markLost_expiry_retired (hw : s.lossWork ≠ s.config.maxExpirationsPerPoll) :
    (s.markLost id .historyExpiry).1.Retired id := by
  unfold markLost
  split
  next ht =>
    refine h.retired fun e he => h.terminal e (mem_of_entry he) ?_
    simpa [he] using ht
  · exact (markLostUnbudgeted_expiry_keeps (h.bump _) id).2

lemma setReceived_keeps (hr : s.Retired id) (newlyAcked : Bool) (arrival : Option ReceiverTime)
    (ecn : Option Ecn) (receivedAt : Duration) : Keeps s (s.setReceived id newlyAcked arrival ecn receivedAt) := by
  unfold setReceived
  cases he : s.entry id with
  | none => exact .refl h
  | some e =>
    dsimp only
    split
    · exact counters_settles h _
    refine Keeps.next ?_ fun h => emitObserved_settles kinClosed_false h _ _
    generalize (e.acknowledgment == .lost) = terminalLoss
    cases terminalLoss with
    | true =>
      refine Keeps.next ?_ fun h => eraseKey_settles h
      exact updateEntry_retired_keeps h hr _ fun x hx => ⟨by constructor <;> rfl, rfl, le_rfl⟩
    | false =>
      refine Keeps.next ?_ fun h => counters_settles h _
      refine Keeps.next ?_ fun h => eraseKey_settles h
      exact updateEntry_retired_keeps h hr _ fun x hx => ⟨by constructor <;> rfl, rfl, zero_le _⟩

lemma takeMissingSince_keeps (id : SentPacketId) (receivedAt : Duration) :
    Keeps s (s.takeMissingSince id receivedAt) := by
  unfold takeMissingSince
  split
  · exact .refl h
  refine Keeps.next ?_ fun h => observeWindow_settles h
  refine updateEntry_settles h _ fun e he => ⟨by constructor <;> rfl, rfl, le_rfl, fun hf => ⟨?_, ?_⟩⟩
  · by_contra ht
    have := h.terminal e (mem_of_entry he) (by simpa using ht)
    rw [hf] at this
    cases this
  · exact ⟨by constructor <;> rfl, hf, .inl rfl⟩

lemma setMissing_granted_keeps (now : Duration) (hroom : s.room.missing 0 = true)
    (hp : (s.entry id).any (fun e => e.acknowledgment == .pending) = true) :
    Keeps s (s.reserveMissingSlot.1.updateEntry id fun e =>
      { e with acknowledgment := .missing now none, missingSince := some now }) := by
  obtain ⟨e, he, hp⟩ := (any_eq_true _ _).1 hp
  have he' : s.reserveMissingSlot.1.entry id = some e := he
  have hp : e.acknowledgment = .pending := by simpa using hp
  unfold updateEntry
  rw [he']
  refine Settles.update h (entry_eq_some.1 he).1
    { Frame.refl s with room := ⟨1, rfl⟩ } rfl (by constructor <;> rfl) rfl
    h.inputs nofun (fun hf => ?_) ?_
  · refine ⟨by constructor <;> rfl, hf, .inr (.inl ⟨fun hs => ?_, hp, now, rfl⟩)⟩
    rw [hs 0] at hroom
    cases hroom
  · simp [SentEntry.weight, hp, Acknowledgment.isTerminal, reserveMissingSlot]

lemma missing_settles {l : List SentPacketId} : Settles A s { s with missing := l } :=
  .idle h { Frame.refl s with } rfl rfl rfl rfl

lemma setMissing_keeps (id : SentPacketId) (now : Duration) : Keeps s (s.setMissing id now) := by
  unfold setMissing
  split
  next hp =>
    by_cases hroom : s.room.missing 0 = true
    · have hk := setMissing_granted_keeps h now hroom hp
      have hg : s.reserveMissingSlot.2 = true := hroom
      simp only [hg, Bool.not_true, Bool.false_eq_true, if_false]
      refine Keeps.next ?_ fun h => emitObserved_settles kinClosed_false h _ _
      exact Keeps.next hk fun h => missing_settles h
    · have hg : s.reserveMissingSlot.2 = false := by simpa [reserveMissingSlot] using hroom
      simp only [hg]
      exact Keeps.next (reserveMissingSlot_settles h) fun h => exhaust_settles h
  · exact .refl h

end Outcomes

end Sender

end Pulsebeam.Feedback
