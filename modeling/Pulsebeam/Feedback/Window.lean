import Pulsebeam.Feedback.SenderRun
import Pulsebeam.Feedback.Steps

/-! What each operation does to the sent window, and the shape the window keeps in every run. -/

namespace Pulsebeam.Feedback.Sender

open Pulsebeam.Lib List Option Nat

variable {s s' s'' : Sender} {e e' : SentEntry} {id : SentPacketId} {available granted : Bool} {epoch : Epoch} {q i : ℕ}
  {result : Except SenderError Sender} {o : Option SpaceHistory} {profile : FeedbackMode} {st' st : SpaceHistory}

section Commit

variable {x : FeedbackIndex} {context : SendCommit} {o' : ℕ} {j : ℕ}

lemma dropFeedback_index (h : (s.dropFeedback e).feedbackIndex[j]? = some (some x)) :
    s.feedbackIndex[j]? = some (some x) := by
  unfold dropFeedback at h
  split at h
  · exact h
  split at h
  · rw [getElem?_set] at h
    split at h
    · split at h <;> cases h
    · exact h
  · exact h

lemma dropFeedback_keep (h : s.feedbackIndex[j]? = some (some x)) (hx : x.sentId ≠ e.id) :
    (s.dropFeedback e).feedbackIndex[j]? = some (some x) := by
  unfold dropFeedback
  split
  · exact h
  next q _ =>
    split
    next hown =>
      rw [getElem?_set_ne]
      · exact h
      rintro rfl
      rw [indexAt, h] at hown
      exact hx (by simpa using hown)
    · exact h

lemma dropFeedback_oldest {o : ℕ} (h : (s.dropFeedback e).oldestFeedback = some o) :
    s.oldestFeedback = some o ∨ ∃ x, some x ∈ (s.dropFeedback e).feedbackIndex ∧ x.sequence = o := by
  unfold dropFeedback at h ⊢
  split at h
  · exact .inl h
  next q hq =>
    dsimp only at h ⊢
    split at h
    · right
      obtain ⟨y, hy, hyo⟩ := mem_filterMap.1 (min?_mem h)
      obtain ⟨x, hx, rfl⟩ := map_eq_some_iff.1 hyo
      obtain ⟨rfl, -⟩ := filter_eq_some_iff.1 hx
      exact ⟨x, hy, rfl⟩
    · exact .inl h

lemma dropFeedback_oldest_le {o : ℕ} (ho : s.oldestFeedback = some o) (hx : some x ∈ (s.dropFeedback e).feedbackIndex)
    (hle : o ≤ x.sequence) (hne : e.feedbackSequence ≠ some x.sequence) :
    ∃ o', (s.dropFeedback e).oldestFeedback = some o' ∧ o' ≤ x.sequence := by
  unfold dropFeedback at hx ⊢
  split at hx
  · exact ⟨o, ho, hle⟩
  next q hq =>
    rw [hq] at hne
    generalize (if (s.indexAt q).any _ = true then _ else _) = index at hx ⊢
    split
    next hoq =>
      have hlt : q < x.sequence := by
        cases ho.symm.trans hoq
        exact lt_of_le_of_ne hle fun heq => hne (congrArg some heq)
      have hmem : x.sequence ∈ index.filterMap fun i : Option FeedbackIndex =>
          (i.filter fun i => decide (q < i.sequence)).map (·.sequence) :=
        mem_filterMap.2 ⟨some x, hx, by simp [hlt]⟩
      obtain ⟨m, hm⟩ := isSome_iff_exists.1 (isSome_min?_of_mem hmem)
      exact ⟨m, hm, (min?_eq_some_iff.1 hm).2 _ hmem⟩
    · exact ⟨o, ho, hle⟩

lemma dropFeedback_frame : (s.dropFeedback e).config = s.config ∧ (s.dropFeedback e).mode = s.mode ∧
    (s.dropFeedback e).feedbackIndex.length = s.feedbackIndex.length := by
  unfold dropFeedback
  split
  · exact ⟨rfl, rfl, rfl⟩
  refine ⟨rfl, rfl, ?_⟩
  split
  · exact length_set
  · rfl

lemma feedbackSentId_eq_some : s.feedbackSentId q = some id ↔ s.feedbackIndex[s.slot q]? = some (some ⟨q, id⟩) := by
  unfold feedbackSentId indexAt
  constructor
  · intro h
    obtain ⟨⟨q', id'⟩, hx, rfl⟩ := map_eq_some_iff.1 h
    obtain ⟨hx, hq⟩ := filter_eq_some_iff.1 hx
    obtain rfl : q' = q := eq_of_beq hq
    exact join_eq_some_iff.1 hx
  · intro h
    rw [h]
    simp [Option.filter]

structure Validated (s : Sender) (context : SendCommit) : Prop where
  active : s.activeEpoch = some context.pathEpoch
  fresh : ∀ st, s.spaces.lookup context.identity.space = some st → st.bySequence.lookup context.identity.packet = none
  mode : (s.mode = some .continuous ∧ ∃ q, context.identity.feedbackSequence = some q) ∨
    (s.mode = some .independent ∧ context.identity.feedbackSequence = none)
  newer : ∀ q n, context.identity.feedbackSequence = some q → s.newestFeedback = some n → n < q
  indexFree : ∀ q x e, context.identity.feedbackSequence = some q → s.indexAt q = some x →
    s.entry x.sentId = some e → e.pathEpoch = context.pathEpoch → e.acknowledgment.isTerminal = true
  slotFree : ∀ e, s.entryAt (s.slot s.nextSentId) = some e → e.pathEpoch = context.pathEpoch →
    e.acknowledgment.isTerminal = true
  next : checkedAdd s.nextSentId 1 = some (s.nextSentId + 1)
  bytes : checkedAdd s.bytesInFlight context.wireLen = some (s.bytesInFlight + context.wireLen)

lemma validated_of_none (h : s.validateCommit context = none) : s.Validated context := by
  unfold validateCommit at h
  dsimp only at h
  split_ifs at h with h1 h2 h3 h4
  simp only [Bool.or_eq_true, not_or, decide_eq_true_eq, not_not] at h1
  obtain ⟨⟨⟨⟨⟨⟨hact, hfresh⟩, -⟩, -⟩, hmode⟩, hnext⟩, hbytes⟩ := h1
  refine ⟨hact, fun st hst => ?_, ?_, fun q n hq hn => ?_, fun q x e hq hx he hp => ?_, fun e he hp => ?_, ?_, ?_⟩
  · by_contra hne
    rw [hst] at hfresh
    simp [ne_none_iff_isSome.1 hne] at hfresh
  · split at hmode <;> simp_all
  · simpa [hq, hn] using h2
  · simpa [hq, hx, he, hp] using h3
  · simpa [he, hp] using h4
  · rw [Word.max] at hnext
    exact if_pos (by omega)
  · by_contra hne
    exact hbytes (by simpa [checkedAdd] using hne)

structure Thins (previous : Option SentEntry) (h h' : SpaceHistory) : Prop where
  packets : ∀ k v, h'.bySequence.lookup k = some v → h.bySequence.lookup k = some v
  kept : ∀ k v, h.bySequence.lookup k = some v → (∀ e, previous = some e → v ≠ e.id) → h'.bySequence.lookup k = some v
  firstSequence : h'.firstSequence = h.firstSequence
  highestAckedSequence : h'.highestAckedSequence = h.highestAckedSequence
  lastReportGeneration : h'.lastReportGeneration = h.lastReportGeneration
  latestCommitAt : h'.latestCommitAt = h.latestCommitAt
  terminal : h'.terminal = h.terminal

lemma Thins.refl (previous : Option SentEntry) (h : SpaceHistory) : Thins previous h h :=
  ⟨fun _ _ h => h, fun _ _ h _ => h, rfl, rfl, rfl, rfl, rfl⟩

structure Beside (s s' : Sender) : Prop where
  config : s'.config = s.config
  mode : s'.mode = s.mode
  entries : s'.entries = s.entries
  nextSentId : s'.nextSentId = s.nextSentId
  oldestSentId : s'.oldestSentId = s.oldestSentId
  highestFeedbackAcked : s'.highestFeedbackAcked = s.highestFeedbackAcked
  activeEpoch : s'.activeEpoch = s.activeEpoch
  lastPath : s'.lastPath = s.lastPath
  inputs : s'.inputs = s.inputs
  reorderingWindow : s'.reorderingWindow = s.reorderingWindow
  missing : s'.missing = s.missing
  bytesInFlight : s'.bytesInFlight = s.bytesInFlight
  room : s'.room = s.room

lemma Beside.refl (s : Sender) : Beside s s := by constructor <;> rfl

lemma Beside.trans (h : Beside s s') (h' : Beside s' s'') : Beside s s'' :=
  ⟨h'.config.trans h.config, h'.mode.trans h.mode, h'.entries.trans h.entries, h'.nextSentId.trans h.nextSentId,
    h'.oldestSentId.trans h.oldestSentId, h'.highestFeedbackAcked.trans h.highestFeedbackAcked,
    h'.activeEpoch.trans h.activeEpoch, h'.lastPath.trans h.lastPath, h'.inputs.trans h.inputs,
    h'.reorderingWindow.trans h.reorderingWindow, h'.missing.trans h.missing, h'.bytesInFlight.trans h.bytesInFlight,
    h'.room.trans h.room⟩

lemma eraseKey_beside (key : Option Readiness) : Beside s (s.eraseKey key) := by
  cases key <;> constructor <;> rfl

lemma eraseKey_spaces (key : Option Readiness) : (s.eraseKey key).spaces = s.spaces := by cases key <;> rfl

lemma mem_eraseKey (key : Option Readiness) (k : Readiness) :
    k ∈ (s.eraseKey key).readiness ↔ k ∈ s.readiness ∧ key ≠ some k := by
  cases key with
  | none => simp [eraseKey]
  | some key => simp [eraseKey, eq_comm]

lemma dropFeedback_beside : Beside s (s.dropFeedback e) ∧ (s.dropFeedback e).spaces = s.spaces ∧
    (s.dropFeedback e).readiness = s.readiness ∧ (s.dropFeedback e).newestFeedback = s.newestFeedback := by
  unfold dropFeedback
  split <;> exact ⟨by constructor <;> rfl, rfl, rfl, rfl⟩

lemma dropFeedback_floor (h : (s.dropFeedback e).oldestFeedback = some o') :
    ∃ o, s.oldestFeedback = some o ∧ o ≤ o' := by
  unfold dropFeedback at h
  split at h
  · exact ⟨o', h, le_rfl⟩
  next q _ =>
    dsimp only at h
    split at h
    next ho =>
      refine ⟨q, ho, ?_⟩
      obtain ⟨y, -, hyo⟩ := mem_filterMap.1 (min?_mem h)
      obtain ⟨x, hx, rfl⟩ := map_eq_some_iff.1 hyo
      exact (of_decide_eq_true (filter_eq_some_iff.1 hx).2).le
    · exact ⟨o', h, le_rfl⟩

lemma dropFeedback_passed (h : (s.dropFeedback e).oldestFeedback = some o') : e.feedbackSequence ≠ some o' := by
  intro hq
  unfold dropFeedback at h
  rw [hq] at h
  dsimp only at h
  split at h
  · obtain ⟨y, -, hyo⟩ := mem_filterMap.1 (min?_mem h)
    obtain ⟨x, hx, hxo⟩ := map_eq_some_iff.1 hyo
    exact absurd hxo (of_decide_eq_true (filter_eq_some_iff.1 hx).2).ne'
  next hne => exact hne h

lemma dropPacket_beside : Beside s (s.dropPacket e) ∧ (s.dropPacket e).readiness = s.readiness ∧
    (s.dropPacket e).feedbackIndex = s.feedbackIndex ∧ (s.dropPacket e).oldestFeedback = s.oldestFeedback ∧
    (s.dropPacket e).newestFeedback = s.newestFeedback := by
  unfold dropPacket
  split
  · exact ⟨.refl s, rfl, rfl, rfl, rfl⟩
  split
  · exact ⟨by constructor <;> rfl, rfl, rfl, rfl, rfl⟩
  · exact ⟨.refl s, rfl, rfl, rfl, rfl⟩

lemma dropPacket_thins (sp : SpaceId) :
    Option.Rel (Thins (some e)) (s.spaces.lookup sp) ((s.dropPacket e).spaces.lookup sp) := by
  unfold dropPacket
  cases hst : s.spaces.lookup e.space with
  | none => exact rel_refl (.refl _)
  | some st =>
    dsimp only
    split
    next hown =>
      by_cases hsp : sp = e.space
      · subst hsp
        rw [hst, AList.lookup_insert]
        refine .some ⟨fun k v hk => ?_, fun k v hk hv => ?_, rfl, rfl, rfl, rfl, rfl⟩
        · by_cases hke : k = e.packetSequence
          · subst hke
            rw [AList.lookup_erase] at hk
            cases hk
          · rwa [AList.lookup_erase_ne hke] at hk
        · by_cases hke : k = e.packetSequence
          · subst hke
            exact absurd (Option.some.inj (hk.symm.trans hown)) (hv e rfl)
          · rwa [AList.lookup_erase_ne hke]
      · rw [AList.lookup_insert_ne hsp]
        exact rel_refl (.refl _)
    · exact rel_refl (.refl _)

structure Removes (s s' : Sender) (previous : Option SentEntry) : Prop extends Beside s s' where
  newestFeedback : s'.newestFeedback = s.newestFeedback
  keys : ∀ k, k ∈ s'.readiness ↔ k ∈ s.readiness ∧ ∀ e, previous = some e → e.readiness s.reorderingWindow ≠ some k
  index : ∀ (j : ℕ) x, s'.feedbackIndex[j]? = some (some x) → s.feedbackIndex[j]? = some (some x)
  indexLength : s'.feedbackIndex.length = s.feedbackIndex.length
  floor : ∀ o', s'.oldestFeedback = some o' → ∃ o, s.oldestFeedback = some o ∧ o ≤ o'
  spaces : ∀ sp, Option.Rel (Thins previous) (s.spaces.lookup sp) (s'.spaces.lookup sp)
  kept : ∀ (j : ℕ) x, s.feedbackIndex[j]? = some (some x) → (∀ e, previous = some e → x.sentId ≠ e.id) →
    s'.feedbackIndex[j]? = some (some x)
  passed : ∀ o' e, s'.oldestFeedback = some o' → previous = some e → e.feedbackSequence ≠ some o'
  found : ∀ o', s'.oldestFeedback = some o' → s.oldestFeedback = some o' ∨
    ∃ (j : ℕ) (x : FeedbackIndex), s.feedbackIndex[j]? = some (some x) ∧ x.sequence = o'
  reach : ∀ o (j : ℕ) x, s.oldestFeedback = some o → s.feedbackIndex[j]? = some (some x) → o ≤ x.sequence →
    (∀ e, previous = some e → x.sentId ≠ e.id ∧ e.feedbackSequence ≠ some x.sequence) →
    ∃ o', s'.oldestFeedback = some o' ∧ o' ≤ x.sequence

lemma removeIndexes_removes (s : Sender) (e : SentEntry) : Removes s (s.removeIndexes e) (some e) := by
  have h1 := eraseKey_beside (s := s) (e.readiness s.reorderingWindow)
  obtain ⟨h2, hsp2, hr2, hn2⟩ := dropFeedback_beside
  obtain ⟨h3, hr3, hi3, ho3, hn3⟩ := dropPacket_beside
  have hfi : (s.eraseKey (e.readiness s.reorderingWindow)).feedbackIndex = s.feedbackIndex := by
    unfold eraseKey
    split <;> rfl
  have hof : (s.eraseKey (e.readiness s.reorderingWindow)).oldestFeedback = s.oldestFeedback := by
    unfold eraseKey
    split <;> rfl
  have hnf : (s.eraseKey (e.readiness s.reorderingWindow)).newestFeedback = s.newestFeedback := by
    unfold eraseKey
    split <;> rfl
  unfold removeIndexes
  refine ⟨(h1.trans h2).trans h3, hn3.trans (hn2.trans hnf), fun k => ?_, fun j x hx => ?_, ?_, fun o' ho' => ?_,
    fun sp => ?_, fun j x hx hne => ?_, fun o' p ho' hp => ?_, fun o' ho' => ?_, fun o j x ho hx hle hne => ?_⟩
  · rw [hr3, hr2, mem_eraseKey]
    simp
  · rw [hi3] at hx
    exact hfi ▸ dropFeedback_index hx
  · rw [hi3, (dropFeedback_frame).2.2, hfi]
  · rw [ho3] at ho'
    rw [← hof]
    exact dropFeedback_floor ho'
  · have := dropPacket_thins (s := (s.eraseKey (e.readiness s.reorderingWindow)).dropFeedback e) (e := e) sp
    rwa [hsp2, eraseKey_spaces] at this
  · rw [hi3]
    exact dropFeedback_keep (hfi.symm ▸ hx) (hne e rfl)
  · cases hp
    exact dropFeedback_passed (ho3 ▸ ho')
  · rw [ho3] at ho'
    rcases dropFeedback_oldest ho' with ho | ⟨x, hx, rfl⟩
    · exact .inl (hof ▸ ho)
    · obtain ⟨j, hj⟩ := mem_iff_getElem?.1 hx
      exact .inr ⟨j, x, hfi ▸ dropFeedback_index hj, rfl⟩
  · rw [ho3]
    have hkeep := dropFeedback_keep (hfi.symm ▸ hx) (hne e rfl).1
    exact dropFeedback_oldest_le (hof.trans ho) (mem_of_getElem? hkeep) hle (hne e rfl).2

lemma removes_refl : Removes s s none :=
  ⟨.refl s, rfl, fun _ => ⟨fun h => ⟨h, nofun⟩, fun h => h.1⟩, fun _ _ h => h, rfl,
    fun o ho => ⟨o, ho, le_rfl⟩, fun _ => rel_refl (.refl _), fun _ _ h _ => h, nofun,
    fun _ h => .inl h, fun o _ _ ho _ hle _ => ⟨o, ho, hle⟩⟩

structure Commits (s s' : Sender) (context : SendCommit) : Prop where
  valid : s.Validated context
  live : ∀ st, s.spaces.lookup context.identity.space = some st → st.terminal = false
  config : s'.config = s.config
  mode : s'.mode = s.mode
  activeEpoch : s'.activeEpoch = s.activeEpoch
  lastPath : s'.lastPath = s.lastPath
  highestFeedbackAcked : s'.highestFeedbackAcked = s.highestFeedbackAcked
  reorderingWindow : s'.reorderingWindow = s.reorderingWindow
  missing : s'.missing = s.missing
  lists : SameLists s s'
  exhausted : s'.inputs.exhausted = s.inputs.exhausted
  nextSentId : s'.nextSentId = s.nextSentId + 1
  oldestSentId : s'.oldestSentId = max s.oldestSentId (s.nextSentId + 1 - s.config.capacity)
  entries : s'.entries = s.entries.set (s.slot s.nextSentId) (some (commitEntry context s.nextSentId))
  keys : ∀ k, k ∈ s'.readiness ↔ k ∈ s.readiness ∧
    ∀ e, s.entryAt (s.slot s.nextSentId) = some e → e.readiness s.reorderingWindow ≠ some k
  newestFeedback : s'.newestFeedback = context.identity.feedbackSequence.or s.newestFeedback
  index : ∀ (j : ℕ) x, s'.feedbackIndex[j]? = some (some x) → s.feedbackIndex[j]? = some (some x) ∨
    context.identity.feedbackSequence = some x.sequence ∧ x.sentId = s.nextSentId
  indexLength : s'.feedbackIndex.length = s.feedbackIndex.length
  floor : ∀ o', s'.oldestFeedback = some o' →
    (∃ o, s.oldestFeedback = some o ∧ o ≤ o') ∨ context.identity.feedbackSequence = some o'
  spaces : ∀ sp, Option.Rel (fun st st' => ∃ st1, Thins (s.entryAt (s.slot s.nextSentId)) st st1 ∧
    st' = if sp = context.identity.space then spaceAfterCommit st1 context s.nextSentId else st1)
    (s.spaces.lookup sp) (s'.spaces.lookup sp)
  kept : ∀ (j : ℕ) x, s.feedbackIndex[j]? = some (some x) →
    (∀ e, s.entryAt (s.slot s.nextSentId) = some e → x.sentId ≠ e.id) →
    (∀ q, context.identity.feedbackSequence = some q → s.slot q ≠ j) → s'.feedbackIndex[j]? = some (some x)
  placed : ∀ q, context.identity.feedbackSequence = some q → s.slot q < s.feedbackIndex.length →
    s'.feedbackIndex[s.slot q]? = some (some ⟨q, s.nextSentId⟩)
  passed : ∀ o' e, s'.oldestFeedback = some o' → s.entryAt (s.slot s.nextSentId) = some e →
    e.feedbackSequence = some o' → context.identity.feedbackSequence = some o'
  found : ∀ o', s'.oldestFeedback = some o' → s.oldestFeedback = some o' ∨
    (∃ (j : ℕ) (x : FeedbackIndex), s.feedbackIndex[j]? = some (some x) ∧ x.sequence = o') ∨
    context.identity.feedbackSequence = some o'
  reach : ∀ o (j : ℕ) x, s.oldestFeedback = some o → s.feedbackIndex[j]? = some (some x) → o ≤ x.sequence →
    (∀ e, s.entryAt (s.slot s.nextSentId) = some e → x.sentId ≠ e.id ∧ e.feedbackSequence ≠ some x.sequence) →
    ∃ o', s'.oldestFeedback = some o' ∧ o' ≤ x.sequence
  opened : ∀ q, context.identity.feedbackSequence = some q → ∃ o', s'.oldestFeedback = some o'
  known : (s.spaces.lookup context.identity.space).isSome = true
  bytesInFlight : s'.bytesInFlight = s.bytesInFlight + context.wireLen
  credit : s'.inputs.bytesInFlight = s'.bytesInFlight
  room : s'.room = s.room

lemma live_of_validateCommit (h : s.validateCommit context = none)
    (hst : s.spaces.lookup context.identity.space = some st) : st.terminal = false := by
  unfold validateCommit at h
  dsimp only at h
  split_ifs at h with h1
  simp only [Bool.or_eq_true, not_or] at h1
  have hany := h1.1.1.1.1.1.2
  rw [hst] at hany
  simp only [any_some, Bool.or_eq_true, not_or] at hany
  simpa using hany.1

lemma updateSpace_beside (s : Sender) (space : SpaceId) (f : SpaceHistory → SpaceHistory) :
    Beside s (s.updateSpace space f) ∧ (s.updateSpace space f).readiness = s.readiness ∧
      (s.updateSpace space f).feedbackIndex = s.feedbackIndex ∧
      (s.updateSpace space f).oldestFeedback = s.oldestFeedback ∧
      (s.updateSpace space f).newestFeedback = s.newestFeedback := by
  unfold updateSpace
  split
  · exact ⟨.refl s, rfl, rfl, rfl, rfl⟩
  · exact ⟨by constructor <;> rfl, rfl, rfl, rfl, rfl⟩

lemma updateSpace_rel (s : Sender) (space : SpaceId) (f : SpaceHistory → SpaceHistory) (sp : SpaceId) :
    Option.Rel (fun st st' => st' = if sp = space then f st else st) (s.spaces.lookup sp)
      ((s.updateSpace space f).spaces.lookup sp) := by
  have hsame : sp ≠ space → Option.Rel (fun st st' => st' = if sp = space then f st else st) (s.spaces.lookup sp)
      (s.spaces.lookup sp) := by
    intro hne
    cases s.spaces.lookup sp with
    | none => exact .none
    | some st => exact .some (if_neg hne).symm
  unfold updateSpace
  cases hst : s.spaces.lookup space with
  | none =>
    by_cases hsp : sp = space
    · subst hsp
      rw [hst]
      exact .none
    · exact hsame hsp
  | some st =>
    by_cases hsp : sp = space
    · subst hsp
      rw [hst, AList.lookup_insert]
      exact .some (if_pos rfl).symm
    · rw [AList.lookup_insert_ne hsp]
      exact hsame hsp

lemma indexFeedback_frame (s : Sender) (fs : Option ℕ) (id : SentPacketId) :
    Beside s (s.indexFeedback fs id) ∧ (s.indexFeedback fs id).spaces = s.spaces ∧
      (s.indexFeedback fs id).readiness = s.readiness ∧
      (s.indexFeedback fs id).newestFeedback = fs.or s.newestFeedback ∧
      (s.indexFeedback fs id).feedbackIndex.length = s.feedbackIndex.length ∧
      (∀ o', (s.indexFeedback fs id).oldestFeedback = some o' → s.oldestFeedback = some o' ∨ fs = some o') ∧
      ∀ (j : ℕ) x, (s.indexFeedback fs id).feedbackIndex[j]? = some (some x) →
        s.feedbackIndex[j]? = some (some x) ∨ fs = some x.sequence ∧ x.sentId = id := by
  unfold indexFeedback
  cases fs with
  | none => exact ⟨.refl s, rfl, rfl, rfl, rfl, fun _ h => .inl h, fun _ _ h => .inl h⟩
  | some q =>
    refine ⟨by constructor <;> rfl, rfl, rfl, rfl, length_set, fun o' h => ?_, fun j x h => ?_⟩
    · cases ho : s.oldestFeedback with
      | none =>
        simp only [ho] at h
        exact .inr h
      | some o =>
        simp only [ho] at h
        exact .inl h
    · simp only [getElem?_set] at h
      split at h
      · split at h
        · right
          obtain rfl : (⟨q, id⟩ : FeedbackIndex) = x := by simpa using h
          exact ⟨rfl, rfl⟩
        · cases h
      · exact .inl h

lemma indexFeedback_index (s : Sender) (fs : Option ℕ) (id : SentPacketId) :
    (∀ (j : ℕ) x, s.feedbackIndex[j]? = some (some x) → (∀ q, fs = some q → s.slot q ≠ j) →
      (s.indexFeedback fs id).feedbackIndex[j]? = some (some x)) ∧
    (∀ q, fs = some q → s.slot q < s.feedbackIndex.length →
      (s.indexFeedback fs id).feedbackIndex[s.slot q]? = some (some ⟨q, id⟩)) ∧
    (∀ o, s.oldestFeedback = some o → (s.indexFeedback fs id).oldestFeedback = some o) ∧
    ∀ q, fs = some q → ∃ o', (s.indexFeedback fs id).oldestFeedback = some o' := by
  unfold indexFeedback
  cases fs with
  | none => exact ⟨fun _ _ h _ => h, nofun, fun _ h => h, nofun⟩
  | some q =>
    refine ⟨fun j x h hne => ?_, fun q' hq hlt => ?_, fun o ho => ?_, fun _ _ => ⟨_, rfl⟩⟩
    · exact (getElem?_set_ne (hne q rfl)).trans h
    · cases hq
      exact getElem?_set_self hlt
    · simp only [ho, getD_some]

def recordEntry (s : Sender) (e : SentEntry) : Sender :=
  { s with
    entries := s.entries.set (s.slot e.id) (some e)
    nextSentId := s.nextSentId + 1
    oldestSentId := max s.oldestSentId (s.nextSentId + 1 - s.config.capacity)
    bytesInFlight := s.bytesInFlight + e.wireLen
    inputs := { s.inputs with bytesInFlight := s.bytesInFlight + e.wireLen } }

lemma vacateSlot_removes (s : Sender) : Removes s s.vacateSlot (s.entryAt (s.slot s.nextSentId)) := by
  unfold vacateSlot
  split
  next previous heq => exact heq ▸ removeIndexes_removes s previous
  next heq => exact heq ▸ removes_refl

lemma Removes.commits {s1 : Sender} (hrem : Removes s s1 (s.entryAt (s.slot s.nextSentId)))
    (hv : s.validateCommit context = none) (hknown : (s.spaces.lookup context.identity.space).isSome = true) :
    Commits s (((s1.updateSpace context.identity.space fun state => spaceAfterCommit state context s.nextSentId)
      |>.indexFeedback context.identity.feedbackSequence s.nextSentId).recordEntry (commitEntry context s.nextSentId))
      context := by
  obtain ⟨hb, hread, hidx, hold, hnew1⟩ := updateSpace_beside s1 context.identity.space
    fun state => spaceAfterCommit state context s.nextSentId
  have hrel := updateSpace_rel s1 context.identity.space fun state => spaceAfterCommit state context s.nextSentId
  revert hb hread hidx hold hnew1 hrel
  generalize s1.updateSpace context.identity.space (fun state => spaceAfterCommit state context s.nextSentId) = s2
  intro hb hread hidx hold hnew1 hrel
  obtain ⟨hi, hsp, hkeys, hnew, hlen, hfloor, hindex⟩ :=
    indexFeedback_frame s2 context.identity.feedbackSequence s.nextSentId
  obtain ⟨hkept, hplaced, hstays, hopens⟩ := indexFeedback_index s2 context.identity.feedbackSequence s.nextSentId
  revert hi hsp hkeys hnew hlen hfloor hindex hkept hplaced hstays hopens
  generalize s2.indexFeedback context.identity.feedbackSequence s.nextSentId = s3
  intro hi hsp hkeys hnew hlen hfloor hindex hkept hplaced hstays hopens
  have hslot : ∀ q, s2.slot q = s.slot q := fun q => by rw [slot, slot, (hrem.toBeside.trans hb).config]
  have hs := (hrem.toBeside.trans hb).trans hi
  refine ⟨validated_of_none hv, fun st hst => live_of_validateCommit hv hst, hs.config, hs.mode, hs.activeEpoch,
    hs.lastPath, hs.highestFeedbackAcked, hs.reorderingWindow, hs.missing, ⟨?_, ?_⟩, ?_, congrArg (· + 1) hs.nextSentId,
    ?_, ?_, fun k => ?_, ?_, fun j x hx => ?_, ?_, fun o' ho' => ?_, fun sp => ?_, fun j x hx hne hq => ?_,
    fun q hq hlt => ?_, fun o' e ho' he heq => ?_, fun o' ho' => ?_, fun o j x ho hx hle hne => ?_, hopens, hknown,
    congrArg (· + context.wireLen) hs.bytesInFlight, rfl, hs.room⟩
  · exact (congrArg SenderInputs.feedback hs.inputs :)
  · exact (congrArg SenderInputs.synthetic hs.inputs :)
  · exact (congrArg SenderInputs.exhausted hs.inputs :)
  · simp only [recordEntry, hs.nextSentId, hs.oldestSentId, hs.config]
  · simp only [recordEntry, slot, hs.entries, hs.config]
    rfl
  · exact (by rw [hkeys, hread] : k ∈ s3.readiness ↔ k ∈ s1.readiness).trans (hrem.keys k)
  · exact hnew.trans (by rw [hnew1, hrem.newestFeedback])
  · rcases hindex j x hx with hx | hx
    · exact .inl (hrem.index j x (hidx ▸ hx))
    · exact .inr hx
  · exact hlen.trans ((congrArg _ hidx).trans hrem.indexLength)
  · rcases hfloor o' ho' with ho | ho
    · exact .inl (hrem.floor o' (hold ▸ ho))
    · exact .inr ho
  · have h1 := hrem.spaces sp
    have h2 := hrel sp
    have h3 : s3.spaces.lookup sp = s2.spaces.lookup sp := by rw [hsp]
    change Option.Rel _ _ (s3.spaces.lookup sp)
    rw [h3]
    exact rel_trans h1 h2 fun ht heq => ⟨_, ht, heq⟩
  · exact hkept j x (hidx.symm ▸ hrem.kept j x hx hne) fun q hfs => hslot q ▸ hq q hfs
  · have hlen2 : s.slot q < s2.feedbackIndex.length := by rwa [hidx, hrem.indexLength]
    exact hslot q ▸ hplaced q hq (hslot q ▸ hlen2)
  · rcases hfloor o' ho' with ho | ho
    · exact absurd heq (hrem.passed o' e (hold ▸ ho) he)
    · exact ho
  · rcases hfloor o' ho' with ho | ho
    · exact (hrem.found o' (hold ▸ ho)).imp_right .inl
    · exact .inr (.inr ho)
  · obtain ⟨o', ho', hle'⟩ := hrem.reach o j x ho hx hle hne
    exact ⟨o', hstays o' (hold.trans ho'), hle'⟩

/-- A commit is refused as it is or goes through: what it checks again once it has begun to write holds by then. -/
lemma commitPreflighted_spec (s : Sender) (context : SendCommit) (room : Bool) :
    (∃ error, s.commitPreflighted context room = (.error error, s)) ∨
      ∃ s', s.commitPreflighted context room = (.ok (), s') ∧ Commits s s' context := by
  unfold commitPreflighted
  cases hv : s.validateCommit context with
  | some error => exact .inl ⟨error, rfl⟩
  | none =>
    dsimp only
    split
    · exact .inl ⟨_, rfl⟩
    next hspace =>
      simp only [Bool.or_eq_true, not_or, isNone_iff_eq_none] at hspace
      have hknown := isSome_iff_ne_none.2 hspace.1
      have hrem := s.vacateSlot_removes
      have hcommits := hrem.commits hv hknown
      have hvalid := validated_of_none hv
      generalize s.vacateSlot = s1 at hrem hcommits ⊢
      have hrel := hrem.spaces context.identity.space
      cases hstate : s1.spaces.lookup context.identity.space with
      | none =>
        rw [hstate] at hrel
        generalize s.spaces.lookup context.identity.space = state at hrel hknown
        cases hrel
        cases hknown
      | some state =>
        rw [updateSpace, hstate] at hcommits
        obtain ⟨hi, -⟩ := indexFeedback_frame { s1 with
          spaces := s1.spaces.insert context.identity.space (spaceAfterCommit state context s.nextSentId) }
          context.identity.feedbackSequence s.nextSentId
        have hnext := hi.nextSentId.trans hrem.nextSentId
        have hbytes := hi.bytesInFlight.trans hrem.bytesInFlight
        simp only [hnext, hbytes, hvalid.next, hvalid.bytes]
        simp only [recordEntry, hnext, hbytes] at hcommits
        exact .inr ⟨_, rfl, hcommits⟩

lemma commitPreflighted_keep {P : Sender → Prop} {room : Bool} (hs : P s) (h : ∀ s', Commits s s' context → P s') :
    P (s.commitPreflighted context room).2 := by
  rcases s.commitPreflighted_spec context room with ⟨error, heq⟩ | ⟨s', heq, hc⟩ <;> rw [heq]
  · exact hs
  · exact h s' hc

end Commit

/-- What the shape of the sent window is made of; its entries may turn. -/
structure Shape (s s' : Sender) : Prop where
  config : s'.config = s.config
  mode : s'.mode = s.mode
  nextSentId : s'.nextSentId = s.nextSentId
  oldestSentId : s'.oldestSentId = s.oldestSentId
  feedbackIndex : s'.feedbackIndex = s.feedbackIndex
  newestFeedback : s'.newestFeedback = s.newestFeedback
  length : s'.entries.length = s.entries.length
  entryAt : ∀ i, Option.Rel Turns (s.entryAt i) (s'.entryAt i)

lemma Shape.refl (s : Sender) : Shape s s := ⟨rfl, rfl, rfl, rfl, rfl, rfl, rfl, fun _ => rel_refl .refl⟩

lemma Shape.trans (h : Shape s s') (h' : Shape s' s'') : Shape s s'' :=
  ⟨h'.1.trans h.1, h'.2.trans h.2, h'.3.trans h.3, h'.4.trans h.4, h'.5.trans h.5, h'.6.trans h.6, h'.7.trans h.7,
    fun i => rel_trans (h.entryAt i) (h'.entryAt i) .trans⟩

section Switch

structure Fades (h h' : SpaceHistory) : Prop where
  terminal : h'.terminal = h.terminal
  latestCommitAt : h'.latestCommitAt = h.latestCommitAt
  packets : ∀ k v, h'.bySequence.lookup k = some v → h.bySequence.lookup k = some v
  edge : ∀ q, h'.highestAckedSequence = some q → h.highestAckedSequence = some q

lemma Fades.trans {h h' h'' : SpaceHistory} (hf : Fades h h') (hf' : Fades h' h'') : Fades h h'' :=
  ⟨hf'.terminal.trans hf.terminal, hf'.latestCommitAt.trans hf.latestCommitAt,
    fun k v hk => hf.packets k v (hf'.packets k v hk), fun q hq => hf.edge q (hf'.edge q hq)⟩

lemma lookup_erase_sub {β : Type*} {m : AList fun _ : ℕ => β} {a k : ℕ} {v : β} (h : (m.erase a).lookup k = some v) :
    m.lookup k = some v := by
  by_cases hk : k = a
  · subst hk
    rw [AList.lookup_erase] at h
    cases h
  · rwa [AList.lookup_erase_ne hk] at h

lemma detach_beside (s : Sender) (e : SentEntry) : Beside s (s.detach e) ∧ Shape s (s.detach e) := by
  obtain ⟨hb, -, hidx, -, hnew⟩ := updateSpace_beside _ e.space
    fun source => { source with
      lastReportGeneration := none
      highestAckedSequence := none
      bySequence := source.bySequence.erase e.packetSequence }
  have hd : Beside s (s.detach e) := (eraseKey_beside _).trans hb
  refine ⟨hd, hd.config, hd.mode, hd.nextSentId, hd.oldestSentId, hidx.trans ?_, hnew.trans ?_, congrArg _ hd.entries,
    fun i => ?_⟩
  · cases e.readiness s.reorderingWindow <;> rfl
  · cases e.readiness s.reorderingWindow <;> rfl
  · rw [entryAt, entryAt, hd.entries]
    exact rel_refl .refl

lemma mem_detach (e : SentEntry) (k : Readiness) :
    k ∈ (s.detach e).readiness ↔ k ∈ s.readiness ∧ e.readiness s.reorderingWindow ≠ some k := by
  unfold detach
  rw [(updateSpace_beside _ _ _).2.1, mem_eraseKey]

lemma detach_fades (e : SentEntry) (sp : SpaceId) :
    Option.Rel (fun st st' => Fades st st' ∧ (sp = e.space → st'.bySequence.lookup e.packetSequence = none))
      (s.spaces.lookup sp) ((s.detach e).spaces.lookup sp) := by
  have hrel := updateSpace_rel (s.eraseKey (e.readiness s.reorderingWindow)) e.space
    (fun source => { source with
      lastReportGeneration := none
      highestAckedSequence := none
      bySequence := source.bySequence.erase e.packetSequence }) sp
  rw [eraseKey_spaces] at hrel
  unfold detach
  refine rel_imp hrel fun {st st'} _ heq => ?_
  subst heq
  split
  next hsp => exact ⟨⟨rfl, rfl, fun k v hk => lookup_erase_sub hk, nofun⟩, fun _ => AList.lookup_erase _ _⟩
  next hsp => exact ⟨⟨rfl, rfl, fun _ _ h => h, fun _ h => h⟩, fun h => absurd h hsp⟩

/-- The first `k` entries have left the readiness keys and their sources' indexes. -/
structure Unlists (s : Sender) (k : ℕ) (t : Sender) : Prop where
  keys : ∀ key, key ∈ t.readiness ↔ key ∈ s.readiness ∧
    ∀ j e, j < k → s.entryAt j = some e → e.readiness s.reorderingWindow ≠ some key
  spaces : ∀ sp, Option.Rel Fades (s.spaces.lookup sp) (t.spaces.lookup sp)
  erased : ∀ j e st', j < k → s.entryAt j = some e → t.spaces.lookup e.space = some st' →
    st'.bySequence.lookup e.packetSequence = none

structure Leaves (s : Sender) (k : ℕ) (t : Sender) : Prop extends Shape s t, Unlists s k t where
  activeEpoch : t.activeEpoch = s.activeEpoch
  lastPath : t.lastPath = s.lastPath
  reorderingWindow : t.reorderingWindow = s.reorderingWindow
  inputs : t.inputs = s.inputs
  done : ∀ j e', j < k → t.entryAt j = some e' → e'.acknowledgment.isTerminal = true ∨ s.activeEpoch = some e'.pathEpoch
  rest : ∀ j, k ≤ j → t.entryAt j = s.entryAt j
  written : ∀ j e', t.entryAt j = some e' → s.entryAt j = some e' ∨ ∃ e, s.entryAt j = some e ∧
    e.acknowledgment.isTerminal = false ∧ e' = { e with acknowledgment := .retired, inFlight := false }
  credit : s.bytesInFlight = s.inFlightBytes → t.bytesInFlight = t.inFlightBytes

lemma leaves_zero : Leaves s 0 s :=
  ⟨.refl s, ⟨fun _ => ⟨fun h => ⟨h, fun j _ hj => absurd hj (not_lt_zero j)⟩, fun h => h.1⟩, fun sp => by
      cases s.spaces.lookup sp with
      | none => exact .none
      | some st => exact .some ⟨rfl, rfl, fun _ _ h => h, fun _ h => h⟩,
    fun j _ _ hj => absurd hj (not_lt_zero j)⟩, rfl, rfl, rfl, rfl, fun j _ hj => absurd hj (not_lt_zero j),
    fun _ _ => rfl, fun _ _ h => .inl h, fun h => h⟩

variable {k : ℕ} {t : Sender}

lemma Leaves.skip (h : Leaves s k t) (hk : s.entryAt k = none) : Leaves s (k + 1) t := by
  have hlt : ∀ {j e}, j < k + 1 → s.entryAt j = some e → j < k := by
    intro j e hj he
    rcases Nat.lt_succ_iff_lt_or_eq.1 hj with hj | rfl
    · exact hj
    · rw [hk] at he
      cases he
  refine { h with
    keys := fun key => ?_
    erased := fun j e st' hj he => h.erased j e st' (hlt hj he) he
    done := fun j e' hj he' => ?_
    rest := fun j hj => h.rest j (le_of_succ_le hj) }
  · rw [h.keys]
    refine and_congr_right fun _ => ⟨fun hn j e hj he => hn j e (hlt hj he) he, fun hn j e hj => hn j e (by omega)⟩
  obtain ⟨e, he, -⟩ := rel_some_right (he' ▸ h.entryAt j)
  exact h.done j e' (hlt hj he) he'

lemma Unlists.detach (h : Unlists s k t) (hw : t.reorderingWindow = s.reorderingWindow) (hse : s.entryAt k = some e) :
    Unlists s (k + 1) (t.detach e) := by
  have hfades := detach_fades (s := t) e
  refine ⟨fun key => ?_, fun sp => rel_trans (h.spaces sp) (hfades sp) fun hf hf' => hf.trans hf'.1,
    fun j x st' hj hx hst' => ?_⟩
  · rw [mem_detach, h.keys, hw]
    constructor
    · rintro ⟨⟨hm, hn⟩, hne⟩
      refine ⟨hm, fun j x hj hx => ?_⟩
      rcases Nat.lt_succ_iff_lt_or_eq.1 hj with hj | rfl
      · exact hn j x hj hx
      rw [hse] at hx
      cases hx
      exact hne
    · rintro ⟨hm, hn⟩
      exact ⟨⟨hm, fun j x hj hx => hn j x (by omega) hx⟩, hn k e (lt_succ_self k) hse⟩
  · obtain ⟨st, hst, hfade, hgone⟩ := rel_some_right (hst' ▸ hfades x.space)
    rcases Nat.lt_succ_iff_lt_or_eq.1 hj with hj | rfl
    · have hnone := h.erased j x st hj hx hst
      by_contra hne
      obtain ⟨v, hv⟩ := ne_none_iff_exists'.1 hne
      cases hnone.symm.trans (hfade.packets _ _ hv)
    · rw [hse] at hx
      cases hx
      exact hgone rfl

lemma entryAt_set {r : SentEntry} (hk : k < s.entries.length) (j : ℕ) :
    (s.entries.set k (some r))[j]?.join = if j = k then some r else s.entryAt j := by
  by_cases hj : j = k
  · rw [if_pos hj, hj, getElem?_set_self hk]
    rfl
  · rw [if_neg hj, getElem?_set_ne (Ne.symm hj)]
    rfl

lemma Leaves.step (h : Leaves s k t) : Leaves s (k + 1) (t.changePath k) := by
  unfold changePath
  cases he : t.entryAt k with
  | none => exact h.skip (h.rest k le_rfl ▸ he)
  | some e =>
    have hse : s.entryAt k = some e := h.rest k le_rfl ▸ he
    obtain ⟨hb, hshape⟩ := detach_beside t e
    have hu := h.toUnlists.detach h.reorderingWindow hse
    dsimp only
    generalize t.detach e = u at hb hshape hu ⊢
    have hat : ∀ j, u.entryAt j = t.entryAt j := fun j => by rw [Sender.entryAt, Sender.entryAt, hb.entries]
    have hlt : k < u.entries.length := (List.getElem?_eq_some_iff.1 (getElem?_of_entryAt ((hat k).trans he))).1
    split
    next hc =>
      simp only [Bool.and_eq_true, Bool.not_eq_true'] at hc
      have hretire : Turns e { e with acknowledgment := .retired, inFlight := false } :=
        ⟨by constructor <;> rfl, fun ht => by rw [hc.1] at ht; cases ht⟩
      refine ⟨h.toShape.trans (hshape.trans { Shape.refl u with
          length := length_set
          entryAt := rel_set ((hat k).trans he) hretire rfl }), ⟨hu.keys, hu.spaces, hu.erased⟩,
        hb.activeEpoch.trans h.activeEpoch, hb.lastPath.trans h.lastPath, hb.reorderingWindow.trans h.reorderingWindow,
        hb.inputs.trans h.inputs, fun j e' hj he' => ?_, fun j hj => ?_, fun j e' he' => ?_, fun hcredit => ?_⟩
      · rw [Sender.entryAt, entryAt_set hlt] at he'
        split at he'
        · cases he'
          exact .inl rfl
        next hne => exact h.done j e' (by omega) (hat j ▸ he')
      · rw [Sender.entryAt, entryAt_set hlt, if_neg (by omega), hat]
        exact h.rest j (by omega)
      · rw [Sender.entryAt, entryAt_set hlt] at he'
        split at he'
        next hj =>
          cases he'
          exact .inr ⟨e, hj ▸ hse, hc.1, rfl⟩
        · exact h.written j e' (hat j ▸ he')
      · have hsum := sum_map_set (fun o : Option SentEntry => o.elim 0 SentEntry.flightBytes) (getElem?_of_entryAt he)
          (some { e with acknowledgment := .retired, inFlight := false })
        have hcredit := h.credit hcredit
        simp only [inFlightBytes] at hcredit
        simp only [inFlightBytes, hb.entries, hb.bytesInFlight]
        simp only [Option.elim, SentEntry.flightBytes, Bool.false_eq_true, if_false] at hsum hcredit ⊢
        split
        next hf =>
          rw [if_pos hf] at hsum
          omega
        next hf =>
          rw [if_neg hf] at hsum
          omega
    next hc =>
      refine ⟨h.toShape.trans hshape, hu, hb.activeEpoch.trans h.activeEpoch, hb.lastPath.trans h.lastPath,
        hb.reorderingWindow.trans h.reorderingWindow, hb.inputs.trans h.inputs, fun j e' hj he' => ?_,
        fun j hj => (hat j).trans (h.rest j (by omega)), fun j e' he' => h.written j e' (hat j ▸ he'), fun hcredit => ?_⟩
      · rw [hat] at he'
        rcases Nat.lt_succ_iff_lt_or_eq.1 hj with hj | rfl
        · exact h.done j e' hj he'
        rw [he] at he'
        cases he'
        by_contra hn
        apply hc
        rw [hb.activeEpoch, h.activeEpoch]
        simpa using hn
      · rw [hb.bytesInFlight, h.credit hcredit, inFlightBytes, inFlightBytes, hb.entries]

lemma leaves_foldl (s : Sender) (k : ℕ) : Leaves s k ((List.range k).foldl changePath s) := by
  induction k with
  | zero => exact leaves_zero
  | succ k ih =>
    rw [range_succ, foldl_append]
    exact ih.step

def switches (s : Sender) (epoch : Epoch) (available : Bool) : Bool :=
  !(decide (s.lastPath = some (epoch, available)) || (!available && s.lastPath.any fun path => !path.2))

structure Switches (s s' : Sender) (epoch : Epoch) (available : Bool) : Prop extends Shape s s' where
  lastPath : s'.lastPath = some (epoch, available)
  activeEpoch : s'.activeEpoch = if available then some epoch else none
  oldestFeedback : s'.oldestFeedback = none
  highestFeedbackAcked : s'.highestFeedbackAcked = none
  missing : s'.missing = []
  feedback : s'.inputs.feedback = []
  synthetic : s'.inputs.synthetic = []
  exhausted : s'.inputs.exhausted = s.inputs.exhausted
  keys : ∀ key, key ∈ s'.readiness ↔ key ∈ s.readiness ∧
    ∀ i e, s.entryAt i = some e → e.readiness s.reorderingWindow ≠ some key
  spaces : ∀ sp, Option.Rel Fades (s.spaces.lookup sp) (s'.spaces.lookup sp)
  erased : ∀ i e st', s.entryAt i = some e → s'.spaces.lookup e.space = some st' →
    st'.bySequence.lookup e.packetSequence = none
  done : ∀ i e', s'.entryAt i = some e' → e'.acknowledgment.isTerminal = true ∨ s'.activeEpoch = some e'.pathEpoch
  written : ∀ i e', s'.entryAt i = some e' → s.entryAt i = some e' ∨ ∃ e, s.entryAt i = some e ∧
    e.acknowledgment.isTerminal = false ∧ e' = { e with acknowledgment := .retired, inFlight := false }
  credit : s.bytesInFlight = s.inFlightBytes → s'.bytesInFlight = s'.inFlightBytes
  inputs : s'.inputs.bytesInFlight = s'.bytesInFlight

lemma lt_length_of_entryAt (h : s.entryAt i = some e) : i < s.entries.length :=
  (List.getElem?_eq_some_iff.1 (getElem?_of_entryAt h)).1

lemma setAvailability_same (h : s.switches epoch available = false) : s.setAvailability epoch available = s := by
  rw [switches, Bool.not_eq_false'] at h
  exact if_pos h

lemma setAvailability_switches (h : s.switches epoch available = true) :
    Switches s (s.setAvailability epoch available) epoch available := by
  rw [switches, Bool.not_eq_true', ← Bool.not_eq_true] at h
  unfold setAvailability
  rw [if_neg h]
  dsimp only
  have hl := leaves_foldl { s with
    lastPath := some (epoch, available), activeEpoch := if available then some epoch else none } s.entries.length
  revert hl
  generalize (List.range s.entries.length).foldl changePath _ = t
  intro hl
  refine ⟨{ hl.toShape with }, hl.lastPath, hl.activeEpoch, rfl, rfl, rfl, rfl, rfl, ?_, fun key => ?_, hl.spaces,
    fun i e st' he => ?_, fun i e' he' => ?_, hl.written, hl.credit, rfl⟩
  · exact (congrArg SenderInputs.exhausted hl.inputs :)
  · refine (hl.keys key).trans (and_congr_right fun _ => ?_)
    exact ⟨fun hn i e he => hn i e (lt_length_of_entryAt he) he, fun hn i e _ he => hn i e he⟩
  · exact hl.erased i e st' (lt_length_of_entryAt he) he
  have hlt := lt_length_of_entryAt he'
  rcases hl.done i e' (hl.length ▸ hlt) he' with ht | ha
  · exact .inl ht
  · exact .inr (hl.activeEpoch.trans ha)

end Switch

section Tidy

structure Tidies (s s' : Sender) : Prop extends Fixed s s' where
  entries : s'.entries = s.entries
  oldestSentId : s'.oldestSentId = s.oldestSentId
  lastPath : s'.lastPath = s.lastPath
  highestFeedbackAcked : s'.highestFeedbackAcked = s.highestFeedbackAcked
  exhausted : s'.inputs.exhausted = s.inputs.exhausted
  lists : SameLists s s' ∨ s'.inputs.feedback = [] ∧ s'.inputs.synthetic = []
  spaces : ∀ sp st', s'.spaces.lookup sp = some st' →
    (s.spaces.lookup sp = none ∧ st'.bySequence = ∅ ∧ st'.highestAckedSequence = none) ∨
    ∃ st, s.spaces.lookup sp = some st ∧ (st'.bySequence = st.bySequence ∧ st'.firstSequence = st.firstSequence) ∧
      st'.highestAckedSequence = st.highestAckedSequence ∧ st'.lastReportGeneration = st.lastReportGeneration
  kept : ∀ sp st, s.spaces.lookup sp = some st → ∃ st', s'.spaces.lookup sp = some st' ∧ st'.bySequence = st.bySequence
  bytesInFlight : s'.bytesInFlight = s.bytesInFlight
  credit : s'.inputs.bytesInFlight = s.inputs.bytesInFlight
  room : s'.room = s.room

lemma Tidies.refl (s : Sender) : Tidies s s :=
  ⟨.refl s, rfl, rfl, rfl, rfl, rfl, .inl ⟨rfl, rfl⟩, fun _ st h => .inr ⟨st, h, ⟨rfl, rfl⟩, rfl, rfl⟩,
    fun _ st h => ⟨st, h, rfl⟩, rfl, rfl, rfl⟩

lemma lookup_insert_kept {sp space : SpaceId} (hst : s.spaces.lookup sp = some st)
    (hsame : ∀ x, s.spaces.lookup space = some x → st'.bySequence = x.bySequence) :
    ∃ y, (s.spaces.insert space st').lookup sp = some y ∧ y.bySequence = st.bySequence := by
  by_cases hsp : sp = space
  · subst hsp
    exact ⟨st', AList.lookup_insert _, hsame st hst⟩
  · exact ⟨st, (AList.lookup_insert_ne hsp).trans hst, rfl⟩

lemma Tidies.entry (h : Tidies s s') (id : SentPacketId) : s'.entry id = s.entry id := by
  unfold Sender.entry Sender.entryAt Sender.slot
  rw [h.entries, h.config]

lemma Tidies.lookupPacket (h : Tidies s s') {space : SpaceId} (hl : s'.lookupPacket space q = some id) :
    s.lookupPacket space q = some id := by
  obtain ⟨⟨st', hst', hlook⟩, e, he, hsp, hq⟩ := lookupPacket_eq_some.1 hl
  rcases h.spaces space st' hst' with ⟨-, hempty, -⟩ | ⟨st, hst, ⟨hsame, -⟩, -, -⟩
  · rw [hempty] at hlook
    cases hlook
  · exact lookupPacket_eq_some.2 ⟨⟨st, hst, hsame ▸ hlook⟩, e, h.entry id ▸ he, hsp, hq⟩

lemma prepareCommit_tidies {context : SendCommit} : Tidies s (s.prepareCommit context granted).2 := by
  unfold Sender.prepareCommit
  split
  · exact .refl s
  split
  · exact .refl s
  split
  · exact .refl s
  next hnone =>
    refine { Tidies.refl s with
      lists := .inl ⟨rfl, rfl⟩
      spaces := fun sp st' hst' => ?_
      kept := fun sp st hst => lookup_insert_kept hst fun x hx => by rw [hnone] at hx; cases hx }
    rcases lookup_insert_cases hst' with ⟨rfl, rfl⟩ | hst'
    · exact .inl ⟨hnone, rfl, rfl⟩
    · exact .inr ⟨st', hst', ⟨rfl, rfl⟩, rfl, rfl⟩

lemma retireSource_tidies {space : SpaceId} : Tidies s (s.retireSource space) := by
  unfold Sender.retireSource
  split
  · exact .refl s
  next source hsource =>
    split
    · exact .refl s
    have hsource : Tidies s { s with spaces := s.spaces.insert space { source with terminal := true } } := by
      refine { Tidies.refl s with
        lists := .inl ⟨rfl, rfl⟩
        spaces := fun sp st' hst' => ?_
        kept := fun sp st hst => lookup_insert_kept hst fun x hx => by cases hsource.symm.trans hx; rfl }
      rcases lookup_insert_cases hst' with ⟨rfl, rfl⟩ | hst'
      · exact .inr ⟨source, hsource, ⟨rfl, rfl⟩, rfl, rfl⟩
      · exact .inr ⟨st', hst', ⟨rfl, rfl⟩, rfl, rfl⟩
    dsimp only
    split <;> exact { hsource with lists := .inl ⟨rfl, rfl⟩ }

lemma counters_tidies {c : HistoryCounters} : Tidies s { s with counters := c } :=
  { Tidies.refl s with lists := .inl ⟨rfl, rfl⟩ }

lemma rejectUnmappedFeedback_tidies {statuses : ℕ} : Tidies s (s.rejectUnmappedFeedback epoch statuses) := by
  unfold rejectUnmappedFeedback
  split
  · exact .refl s
  · split <;> exact counters_tidies

end Tidy

section Windowed

structure Windowed (s : Sender) : Prop where
  capacity : 0 < s.config.capacity
  sized : s.mode ≠ none → s.entries.length = s.config.capacity
  indexed : s.mode ≠ none → s.feedbackIndex.length = s.config.capacity
  bare : s.mode = none → (∀ i, s.entryAt i = none) ∧ s.oldestSentId = s.nextSentId
  ring : ∀ i e, s.entryAt i = some e → s.slot e.id = i
  known : ∀ i e, s.entryAt i = some e → e.id < s.nextSentId
  oldest : s.oldestSentId ≤ s.nextSentId
  retained : ∀ id, s.oldestSentId ≤ id → id < s.nextSentId → ∃ e, s.entry id = some e
  path : ∀ epoch, s.activeEpoch = some epoch → s.lastPath = some (epoch, true)
  live : ∀ i e, s.entryAt i = some e → e.acknowledgment.isTerminal = false → s.activeEpoch = some e.pathEpoch
  index : ∀ (j : ℕ) x, s.feedbackIndex[j]? = some (some x) → x.sentId < s.nextSentId ∧
    (∃ n, s.newestFeedback = some n ∧ x.sequence ≤ n) ∧
    ∀ e, s.entry x.sentId = some e → e.feedbackSequence = some x.sequence

section

variable (hw : Windowed s)

include hw

lemma Windowed.entry (he : s.entryAt i = some e) : s.entry e.id = some e := by
  rw [entry_eq_some, hw.ring i e he]
  exact ⟨he, rfl⟩

lemma Windowed.shapes (h : Shape s s')
    (hpath : ∀ epoch, s'.activeEpoch = some epoch → s'.lastPath = some (epoch, true))
    (hlive : ∀ i e, s'.entryAt i = some e → e.acknowledgment.isTerminal = false → s'.activeEpoch = some e.pathEpoch) :
    Windowed s' := by
  have hslot : ∀ n, s'.slot n = s.slot n := fun n => by rw [slot, slot, h.config]
  refine ⟨h.config ▸ hw.capacity, fun hm => ?_, fun hm => ?_, fun hm => ?_, fun i e' he' => ?_, fun i e' he' => ?_, ?_,
    fun id ho hn => ?_, hpath, hlive, fun j x hx => ?_⟩
  · rw [h.length, h.config]
    exact hw.sized (h.mode ▸ hm)
  · rw [h.feedbackIndex, h.config]
    exact hw.indexed (h.mode ▸ hm)
  · obtain ⟨hb, ho⟩ := hw.bare (h.mode ▸ hm)
    refine ⟨fun i => ?_, by rw [h.oldestSentId, h.nextSentId, ho]⟩
    by_contra hne
    obtain ⟨e', he'⟩ := ne_none_iff_exists'.1 hne
    obtain ⟨e, he, -⟩ := rel_some_right (he' ▸ h.entryAt i)
    cases he.symm.trans (hb i)
  · obtain ⟨e, he, ht⟩ := rel_some_right (he' ▸ h.entryAt i)
    rw [hslot, ht.kin.id]
    exact hw.ring i e he
  · obtain ⟨e, he, ht⟩ := rel_some_right (he' ▸ h.entryAt i)
    rw [h.nextSentId, ht.kin.id]
    exact hw.known i e he
  · rw [h.oldestSentId, h.nextSentId]
    exact hw.oldest
  · obtain ⟨e, he⟩ := hw.retained id (h.oldestSentId ▸ ho) (h.nextSentId ▸ hn)
    obtain ⟨hi, hid⟩ := entry_eq_some.1 he
    obtain ⟨e', hi', ht⟩ := rel_some_left (hi ▸ h.entryAt _)
    exact ⟨e', entry_eq_some.2 ⟨by rw [hslot, hi'], ht.kin.id.trans hid⟩⟩
  · obtain ⟨hlt, hn, hall⟩ := hw.index j x (h.feedbackIndex ▸ hx)
    refine ⟨h.nextSentId.symm ▸ hlt, h.newestFeedback.symm ▸ hn, fun e' he' => ?_⟩
    obtain ⟨hi', hid⟩ := entry_eq_some.1 he'
    rw [hslot] at hi'
    obtain ⟨e, hi, ht⟩ := rel_some_right (hi' ▸ h.entryAt _)
    rw [ht.kin.feedbackSequence]
    exact hall e (entry_eq_some.2 ⟨hi, ht.kin.id.symm.trans hid⟩)

lemma Windowed.same (h : Shape s s') (ha : s'.activeEpoch = s.activeEpoch) (hl : s'.lastPath = s.lastPath) :
    Windowed s' := by
  refine hw.shapes h (fun epoch hE => hl.trans (hw.path epoch (ha ▸ hE))) fun i e' he' ht' => ?_
  obtain ⟨e, he, ht⟩ := rel_some_right (he' ▸ h.entryAt i)
  rw [ha, ht.kin.pathEpoch]
  apply hw.live i e he
  by_contra hterm
  rw [ht.terminal (by simpa using hterm)] at ht'
  exact hterm ht'

lemma Windowed.follows (h : Follows s s') : Windowed s' :=
  hw.same ⟨h.config, h.mode, h.nextSentId, h.oldestSentId, h.feedbackIndex, h.newestFeedback, h.length, h.entryAt⟩
    h.activeEpoch h.lastPath

lemma Windowed.steps {acks : SentPacketId → Prop} {edges : Prop} (h : Steps acks edges s s') :
    Windowed s' := hw.follows h.follows

lemma Windowed.tidies (h : Tidies s s') : Windowed s' := by
  refine hw.same ⟨h.config, h.mode, h.nextSentId, h.oldestSentId, h.feedbackIndex, h.newestFeedback, congrArg _ h.entries,
    fun i => ?_⟩ h.activeEpoch h.lastPath
  rw [entryAt, entryAt, h.entries]
  exact rel_refl .refl

lemma Windowed.chore (h : Chore s s') : Windowed s' := by
  cases h with
  | requeue | reclaim => exact hw.same { Shape.refl s with } rfl rfl
  | @confirm id rest hwork =>
    have hw1 : Windowed { s with missing := rest } := hw.same { Shape.refl s with } rfl rfl
    exact hw1.follows (confirm_micro hwork id).follows
  | oldest hlt =>
    refine { hw with bare := fun hm => ?_, oldest := hlt, retained := fun id ho hn => ?_ }
    · exact absurd (hw.bare hm).2 (Nat.ne_of_lt hlt)
    · exact hw.retained id (le_of_succ_le ho) hn

lemma Windowed.expires (h : Expires s s') : Windowed s' :=
  h.keep (fun _ _ h hw => Windowed.follows hw h.follows) (fun _ _ h hw => Windowed.chore hw h) hw

end

variable {context : SendCommit} {m : ℕ} {n : ℕ}

section

variable (h : Commits s s' context)

include h

lemma Commits.slot_lt (hw : Windowed s) : s.slot s.nextSentId < s.entries.length := by
  have hm : s.mode ≠ none := by
    rcases h.valid.mode with ⟨hm, -⟩ | ⟨hm, -⟩ <;> simp [hm]
  rw [hw.sized hm]
  exact mod_lt _ hw.capacity

lemma Commits.entryAt (hw : Windowed s) (i : ℕ) :
    s'.entryAt i = if i = s.slot s.nextSentId then some (commitEntry context s.nextSentId) else s.entryAt i := by
  rw [Sender.entryAt, h.entries]
  exact entryAt_set (h.slot_lt hw) i

lemma Commits.slot (n : ℕ) : s'.slot n = s.slot n := by
  rw [Sender.slot, Sender.slot, h.config]

lemma Commits.space {sp : SpaceId} (hst' : s'.spaces.lookup sp = some st') :
    ∃ st st1, s.spaces.lookup sp = some st ∧ Thins (s.entryAt (s.slot s.nextSentId)) st st1 ∧
      st' = if sp = context.identity.space then spaceAfterCommit st1 context s.nextSentId else st1 := by
  obtain ⟨st, hst, st1, hthin, heq⟩ := rel_some_right (hst' ▸ h.spaces sp)
  exact ⟨st, st1, hst, hthin, heq⟩

lemma Commits.feedbackSentId (hid : s.feedbackSentId q = some e.id)
    (he : s.entry e.id = some e) (hlive : e.acknowledgment.isTerminal = false) (hp : s.activeEpoch = some e.pathEpoch)
    (hapart : ∀ p, s.entryAt (s.slot s.nextSentId) = some p → e.id ≠ p.id) : s'.feedbackSentId q = some e.id := by
  have hx := feedbackSentId_eq_some.1 hid
  refine feedbackSentId_eq_some.2 ?_
  rw [h.slot]
  refine h.kept _ _ hx hapart fun q' hq' hslot => ?_
  have hat : s.indexAt q' = some ⟨q, e.id⟩ := by
    rw [indexAt, hslot, hx]
    rfl
  have hterm := h.valid.indexFree q' _ e hq' hat he (Option.some.inj (hp.symm.trans h.valid.active))
  rw [hlive] at hterm
  cases hterm

lemma Commits.feedbackSentId_new (hw : Windowed s)
    (hq : context.identity.feedbackSequence = some q) : s'.feedbackSentId q = some s.nextSentId := by
  refine feedbackSentId_eq_some.2 ?_
  rw [h.slot]
  refine h.placed q hq ?_
  rw [hw.indexed (by rcases h.valid.mode with ⟨hm, -⟩ | ⟨hm, -⟩ <;> simp [hm])]
  exact mod_lt _ hw.capacity

lemma Commits.newer (hq : context.identity.feedbackSequence = some q)
    (hm : ∃ n, s.newestFeedback = some n ∧ m ≤ n) : m < q := by
  obtain ⟨n, hn, hle⟩ := hm
  exact hle.trans_lt (h.valid.newer q n hq hn)

lemma Commits.newest (hm : ∃ n, s.newestFeedback = some n ∧ m ≤ n) : ∃ n, s'.newestFeedback = some n ∧ m ≤ n := by
  rw [h.newestFeedback]
  cases hq : context.identity.feedbackSequence with
  | none => exact hm
  | some q => exact ⟨q, rfl, (h.newer hq hm).le⟩

variable (hw : Windowed s)

include hw

lemma Commits.entry_new : s'.entry s.nextSentId = some (commitEntry context s.nextSentId) := by
  rw [entry_eq_some, h.slot, h.entryAt hw, if_pos rfl]
  exact ⟨rfl, rfl⟩

lemma Commits.entry_cases {x : SentPacketId} {y : SentEntry}
    (hy : s'.entry x = some y) :
    (x = s.nextSentId ∧ y = commitEntry context s.nextSentId) ∨ (x ≠ s.nextSentId ∧ s.entry x = some y) := by
  obtain ⟨hat, hid⟩ := entry_eq_some.1 hy
  rw [h.slot, h.entryAt hw] at hat
  split at hat
  · cases hat
    exact .inl ⟨hid.symm, rfl⟩
  refine .inr ⟨?_, entry_eq_some.2 ⟨hat, hid⟩⟩
  rintro rfl
  exact absurd (hw.known _ y hat) (hid ▸ lt_irrefl _)

lemma Commits.windowed : Windowed s' := by
  have hcases : ∀ i e, s'.entryAt i = some e →
      (i = s.slot s.nextSentId ∧ e = commitEntry context s.nextSentId) ∨ s.entryAt i = some e := by
    intro i e he
    rw [h.entryAt hw] at he
    split at he
    next hi =>
      cases he
      exact .inl ⟨hi, rfl⟩
    · exact .inr he
  refine ⟨h.config ▸ hw.capacity, fun hm => ?_, fun hm => ?_, fun hm => ?_, fun i e he => ?_, fun i e he => ?_, ?_,
    fun id ho hn => ?_, fun epoch hE => ?_, fun i e he ht => ?_, fun j x hx => ?_⟩
  · rw [h.entries, length_set, h.config]
    exact hw.sized (h.mode ▸ hm)
  · rw [h.indexLength, h.config]
    exact hw.indexed (h.mode ▸ hm)
  · rw [h.mode] at hm
    rcases h.valid.mode with ⟨hm', -⟩ | ⟨hm', -⟩ <;> simp [hm'] at hm
  · rw [h.slot]
    rcases hcases i e he with ⟨hi, rfl⟩ | he
    · exact hi.symm
    · exact hw.ring i e he
  · rw [h.nextSentId]
    rcases hcases i e he with ⟨-, rfl⟩ | he
    · exact lt_succ_self _
    · exact lt_succ_of_lt (hw.known i e he)
  · rw [h.oldestSentId, h.nextSentId]
    have := hw.oldest
    omega
  · rw [h.oldestSentId] at ho
    rw [h.nextSentId] at hn
    by_cases hid : id = s.nextSentId
    · exact ⟨_, hid ▸ h.entry_new hw⟩
    obtain ⟨e, he⟩ := hw.retained id (le_trans (le_max_left _ _) ho) (by omega)
    obtain ⟨hat, heid⟩ := entry_eq_some.1 he
    refine ⟨e, entry_eq_some.2 ⟨?_, heid⟩⟩
    rw [h.slot, h.entryAt hw, if_neg]
    · exact hat
    -- Two of the latest `capacity` numbers never share a slot.
    intro hslot
    have hmod : id % s.config.capacity = s.nextSentId % s.config.capacity := hslot
    have hdvd := (modEq_iff_dvd' (by omega : id ≤ s.nextSentId)).1 hmod
    have hle := le_of_dvd (by omega) hdvd
    omega
  · rw [h.lastPath]
    exact hw.path epoch (h.activeEpoch ▸ hE)
  · rw [h.activeEpoch]
    rcases hcases i e he with ⟨-, rfl⟩ | he
    · exact h.valid.active
    · exact hw.live i e he ht
  · rw [h.nextSentId, h.newestFeedback]
    rcases h.index j x hx with hx | ⟨hq, hid⟩
    · obtain ⟨hlt, ⟨n, hn, hle⟩, hall⟩ := hw.index j x hx
      refine ⟨lt_succ_of_lt hlt, ?_, fun e he => ?_⟩
      · cases hfs : context.identity.feedbackSequence with
        | none => exact ⟨n, by rw [none_or]; exact hn, hle⟩
        | some q => exact ⟨q, rfl, hle.trans (h.valid.newer q n hfs hn).le⟩
      · rcases h.entry_cases hw he with ⟨hid, -⟩ | ⟨-, he⟩
        · exact absurd hlt (hid ▸ lt_irrefl _)
        · exact hall e he
    · refine ⟨hid ▸ lt_succ_self _, ⟨x.sequence, by rw [hq]; rfl, le_rfl⟩, fun e he => ?_⟩
      rcases h.entry_cases hw he with ⟨-, rfl⟩ | ⟨hne, -⟩
      · exact hq
      · exact absurd hid hne

lemma Commits.resolve {lane : Lane} (hq : s'.resolve lane q = some id)
    (hf : lane = .feedback → ∃ floor, s'.oldestFeedback = some floor ∧ floor ≤ q) :
    id = s.nextSentId ∨ s.resolve lane q = some id ∧
      (lane = .feedback → ∃ floor, s.oldestFeedback = some floor ∧ floor ≤ q) := by
  cases lane with
  | feedback =>
    obtain ⟨floor, hfloor, hle⟩ := hf rfl
    have hx := feedbackSentId_eq_some.1 hq
    rcases h.index _ _ hx with hx | ⟨-, hid⟩
    · right
      rcases h.floor floor hfloor with ⟨o, ho, hof⟩ | hnew
      · exact ⟨feedbackSentId_eq_some.2 (h.slot q ▸ hx), fun _ => ⟨o, ho, hof.trans hle⟩⟩
      · obtain ⟨-, ⟨n, hn, hqn⟩, -⟩ := hw.index _ _ hx
        exact absurd (h.valid.newer floor n hnew hn) (not_lt.2 (hle.trans hqn))
    · exact .inl hid
  | inSpace sp =>
    obtain ⟨⟨st', hst', hl⟩, e', he', hsp, hpq⟩ := lookupPacket_eq_some.1 hq
    rcases h.entry_cases hw he' with ⟨hid, -⟩ | ⟨hne, he⟩
    · exact .inl hid
    right
    obtain ⟨st, st1, hst, hthin, heq⟩ := h.space hst'
    refine ⟨lookupPacket_eq_some.2 ⟨⟨st, hst, hthin.packets q id ?_⟩, e', he, hsp, hpq⟩, nofun⟩
    split at heq
    · subst heq
      change (st1.bySequence.insert context.identity.packet s.nextSentId).lookup q = some id at hl
      by_cases hk : q = context.identity.packet
      · rw [hk, AList.lookup_insert] at hl
        cases hl
        exact absurd rfl hne
      · rwa [AList.lookup_insert_ne hk] at hl
    · exact heq ▸ hl

end

lemma Switches.windowed (h : Switches s s' epoch available) (hw : Windowed s) : Windowed s' := by
  refine hw.shapes h.toShape (fun E hE => ?_) fun i e' he' ht' => ?_
  · rw [h.activeEpoch] at hE
    rw [h.lastPath]
    cases available with
    | false => cases hE
    | true =>
      cases hE
      rfl
  · rcases h.done i e' he' with ht | ha
    · rw [ht] at ht'
      cases ht'
    · exact ha

lemma Switches.terminal (h : Switches s s' epoch available) (hw : Windowed s) (hs : s.switches epoch available = true)
    (he' : s'.entryAt i = some e') : e'.acknowledgment.isTerminal = true := by
  rcases h.done i e' he' with ht | ha
  · exact ht
  by_contra hterm
  obtain ⟨e, he, ht⟩ := rel_some_right (he' ▸ h.entryAt i)
  have hlive : e.acknowledgment.isTerminal = false := by
    by_contra hn
    rw [ht.terminal (by simpa using hn)] at hterm
    exact hn (by simpa using hterm)
  have hpath := hw.path _ (hw.live i e he hlive)
  rw [h.activeEpoch, ht.kin.pathEpoch] at ha
  cases available with
  | false => cases ha
  | true =>
    cases ha
    simp [switches, hpath] at hs

lemma Switches.lookupPacket (h : Switches s s' epoch available) (space : SpaceId) (q : ℕ) :
    s'.lookupPacket space q = none := by
  by_contra hne
  obtain ⟨id, hid⟩ := ne_none_iff_exists'.1 hne
  obtain ⟨⟨st', hst', hl⟩, e', he', hsp, hq⟩ := lookupPacket_eq_some.1 hid
  obtain ⟨e, he, ht⟩ := rel_some_right ((entry_eq_some.1 he').1 ▸ h.entryAt _)
  have := h.erased _ e st' he (by rw [← ht.kin.space, hsp]; exact hst')
  rw [← ht.kin.packetSequence, hq, hl] at this
  cases this

lemma windowed_blank (hcap : 0 < s.config.capacity) (hent : ∀ i, s.entryAt i = none)
    (hidx : ∀ (j : ℕ) x, s.feedbackIndex[j]? ≠ some (some x)) (hsized : s.mode ≠ none → s.entries.length = s.config.capacity)
    (hindexed : s.mode ≠ none → s.feedbackIndex.length = s.config.capacity) (hold : s.oldestSentId = s.nextSentId)
    (hpath : ∀ epoch, s.activeEpoch = some epoch → s.lastPath = some (epoch, true)) :
    Windowed s := by
  have hno : ∀ {i e}, s.entryAt i ≠ some e := fun {i e} h => by rw [hent i] at h; cases h
  exact ⟨hcap, hsized, hindexed, fun _ => ⟨hent, hold⟩, fun i e he => absurd he hno, fun i e he => absurd he hno, hold.le,
    fun id ho hn => absurd (hold ▸ ho) (not_le.2 hn), hpath, fun i e he => absurd he hno,
    fun j x hx => absurd hx (hidx j x)⟩

lemma replicate_none_getElem? {α : Type*} (x : α) : (List.replicate n (none : Option α))[i]? ≠ some (some x) := by
  intro h
  have := eq_of_mem_replicate (mem_of_getElem? h)
  cases this

lemma entryAt_replicate (h : s.entries = List.replicate n none) (i : ℕ) : s.entryAt i = none := by
  cases hi : s.entryAt i with
  | none => rfl
  | some e => exact absurd (h ▸ getElem?_of_entryAt hi) (replicate_none_getElem? e)

lemma windowed_unfunded {config : SenderConfig} (h : config.validate = true) : Windowed (unfunded config) := by
  have hcap : 0 < config.capacity := by
    by_contra hn
    have : config.capacity = 0 := by omega
    simp [SenderConfig.validate, this] at h
  exact windowed_blank hcap (fun _ => rfl) nofun (fun hm => absurd rfl hm) (fun hm => absurd rfl hm)
    rfl nofun

section

variable (hw : Windowed s)

include hw

lemma Windowed.clear (epoch : Epoch) : Windowed (s.clear epoch) := by
  refine windowed_blank hw.capacity (entryAt_replicate rfl) (fun j x => replicate_none_getElem? x) (fun hm => ?_)
    (fun hm => ?_) rfl fun E hE => ?_
  · exact length_replicate.trans (hw.sized hm)
  · exact length_replicate.trans (hw.indexed hm)
  · cases hE
    rfl

lemma Windowed.abort : Windowed s.abort :=
  windowed_blank hw.capacity (fun _ => rfl) nofun (fun hm => absurd rfl hm) (fun hm => absurd rfl hm)
    rfl nofun

lemma Windowed.prepareFeedbackProfile (h : s.prepareFeedbackProfile profile granted = .ok s') : Windowed s' := by
  unfold Sender.prepareFeedbackProfile at h
  split at h
  next hm =>
    split at h
    · cases h
      exact windowed_blank hw.capacity (entryAt_replicate rfl) (fun j x => replicate_none_getElem? x)
        (fun _ => length_replicate) (fun _ => length_replicate) (hw.bare hm).2 hw.path
    · cases h
  · split at h
    · cases h
      exact hw
    · cases h

lemma Windowed.setAvailability (epoch : Epoch) (available : Bool) : Windowed (s.setAvailability epoch available) := by
  cases hs : s.switches epoch available with
  | false => rwa [setAvailability_same hs]
  | true => exact (setAvailability_switches hs).windowed hw

end

lemma orElse_keep {P : Sender → Prop} (hs : P s) (h : ∀ s', result = .ok s' → P s') : P (s.orElse result) := by
  cases result with
  | ok s' => exact h s' rfl
  | error _ => exact hs

lemma Windowed.apply (hw : Windowed s) (op : SenderOp) : Windowed (s.apply op) := by
  cases op with
  | prepareFeedbackProfile profile granted => exact orElse_keep hw fun _ => hw.prepareFeedbackProfile
  | prepareCommit context granted => exact hw.tidies prepareCommit_tidies
  | commitPreflighted context room => exact commitPreflighted_keep hw fun _ h => h.windowed hw
  | processFeedback batch room => exact hw.steps (processFeedback_steps s batch room)
  | rejectUnmappedFeedback epoch statuses => exact hw.tidies rejectUnmappedFeedback_tidies
  | expire now limit => exact hw.expires (expire_expires s now limit)
  | clearObservations => exact hw.same { Shape.refl s with } rfl rfl
  | setApplicationLimited limited => exact hw.same { Shape.refl s with } rfl rfl
  | setAvailability epoch available => exact hw.setAvailability epoch available
  | retireSource space => exact hw.tidies retireSource_tidies
  | clear epoch => exact hw.clear epoch
  | abort => exact hw.abort

end Windowed

section Change

structure Blanks (s s' : Sender) : Prop where
  nextSentId : s'.nextSentId = s.nextSentId
  entryAt : ∀ i, s'.entryAt i = none
  index : ∀ (j : ℕ) x, s'.feedbackIndex[j]? ≠ some (some x)
  oldestFeedback : s'.oldestFeedback = none ∨ s.mode = none ∧ s'.oldestFeedback = s.oldestFeedback
  highestFeedbackAcked : s'.highestFeedbackAcked = s.highestFeedbackAcked ∨ s'.highestFeedbackAcked = none
  spaces : s'.spaces = s.spaces ∨ s'.spaces = ∅
  feedback : s'.inputs.feedback = []
  synthetic : s'.inputs.synthetic = []
  edges : s'.oldestFeedback = none ∧ s'.highestFeedbackAcked = none ∨ s'.oldestFeedback = s.oldestFeedback ∧
    s'.highestFeedbackAcked = s.highestFeedbackAcked ∧ s'.newestFeedback = s.newestFeedback
  bytesInFlight : s'.bytesInFlight = 0 ∨ s.mode = none ∧ s'.bytesInFlight = s.bytesInFlight
  credit : s.inputs.bytesInFlight = s.bytesInFlight → s'.inputs.bytesInFlight = s'.bytesInFlight

inductive Adjusts (s s' : Sender) : Prop
  | tidy (h : Tidies s s')
  | blank (h : Blanks s s')
  | switch (epoch : Epoch) (available : Bool) (hs : s.switches epoch available = true)
      (h : Switches s s' epoch available)

inductive Change (s s' : Sender) : Prop
  | tidy (h : Tidies s s')
  | blank (h : Blanks s s')
  | report (batch : SendFeedback) (room : Room) (h : s' = s.processFeedback batch room)
  | expiry (h : Expires s s')
  | switch (epoch : Epoch) (available : Bool) (hs : s.switches epoch available = true)
      (h : Switches s s' epoch available)

lemma Blanks.entry (h : Blanks s s') (id : SentPacketId) : s'.entry id = none := by
  unfold Sender.entry
  rw [h.entryAt]
  rfl

lemma Blanks.resolve (h : Blanks s s') (lane : Lane) (q : ℕ) : s'.resolve lane q = none := by
  by_contra hne
  obtain ⟨id, hid⟩ := ne_none_iff_exists'.1 hne
  cases lane with
  | feedback =>
    exact h.index _ _ (feedbackSentId_eq_some.1 hid)
  | inSpace sp =>
    obtain ⟨-, e, he, -⟩ := lookupPacket_eq_some.1 hid
    rw [h.entry] at he
    cases he

lemma prepareFeedbackProfile_adjusts (h : s.prepareFeedbackProfile profile granted = .ok s') : Adjusts s s' := by
  unfold Sender.prepareFeedbackProfile at h
  split at h
  next hm =>
    split at h
    · cases h
      exact .blank ⟨rfl, entryAt_replicate rfl, fun j x => replicate_none_getElem? x, .inr ⟨hm, rfl⟩, .inl rfl,
        .inl rfl, rfl, rfl, .inr ⟨rfl, rfl, rfl⟩, .inr ⟨hm, rfl⟩, fun h => h⟩
    · cases h
  · split at h
    · cases h
      exact .tidy (.refl s)
    · cases h

lemma orElse_adjusts (h : ∀ s', result = .ok s' → Adjusts s s') : Adjusts s (s.orElse result) := by
  cases result with
  | ok s' => exact h s' rfl
  | error _ => exact .tidy (.refl s)

def plain : SenderOp → Bool
  | .commitPreflighted .. => false
  | .processFeedback .. => false
  | .expire .. => false
  | _ => true

lemma apply_adjusts {op : SenderOp} (hp : plain op = true) : Adjusts s (s.apply op) := by
  cases op with
  | commitPreflighted => cases hp
  | processFeedback => cases hp
  | expire => cases hp
  | prepareFeedbackProfile profile granted => exact orElse_adjusts fun _ => prepareFeedbackProfile_adjusts
  | prepareCommit context granted => exact .tidy prepareCommit_tidies
  | rejectUnmappedFeedback epoch statuses => exact .tidy rejectUnmappedFeedback_tidies
  | clearObservations =>
    exact .tidy { Tidies.refl s with lists := .inr ⟨rfl, rfl⟩ }
  | setApplicationLimited limited =>
    exact .tidy { Tidies.refl s with lists := .inl ⟨rfl, rfl⟩ }
  | setAvailability epoch available =>
    change Adjusts s (s.setAvailability epoch available)
    cases hs : s.switches epoch available with
    | false =>
      rw [setAvailability_same hs]
      exact .tidy (.refl s)
    | true => exact .switch epoch available hs (setAvailability_switches hs)
  | retireSource space => exact .tidy retireSource_tidies
  | clear epoch =>
    exact .blank ⟨rfl, entryAt_replicate rfl, fun j x => replicate_none_getElem? x, .inl rfl, .inr rfl, .inr rfl, rfl,
      rfl, .inl ⟨rfl, rfl⟩, .inl rfl, fun _ => rfl⟩
  | abort =>
    exact .blank ⟨rfl, fun _ => rfl, nofun, .inl rfl, .inr rfl, .inr rfl, rfl, rfl, .inl ⟨rfl, rfl⟩,
      .inl rfl, fun _ => rfl⟩

lemma Adjusts.change (h : Adjusts s s') : Change s s' := by
  cases h with
  | tidy h => exact .tidy h
  | blank h => exact .blank h
  | switch epoch available hs h => exact .switch epoch available hs h

def committed (s : Sender) : SenderOp → Option SendCommit
  | .commitPreflighted context room =>
    match (s.commitPreflighted context room).1 with
    | .ok _ => some context
    | .error _ => none
  | _ => none

lemma apply_cases {op : SenderOp} :
    (∃ context, s.committed op = some context ∧ Commits s (s.apply op) context) ∨
      s.committed op = none ∧ Change s (s.apply op) := by
  cases op with
  | commitPreflighted context room =>
    simp only [committed, apply]
    rcases s.commitPreflighted_spec context room with ⟨error, heq⟩ | ⟨s', heq, hc⟩ <;> rw [heq]
    · exact .inr ⟨rfl, .tidy (.refl s)⟩
    · exact .inl ⟨context, rfl, hc⟩
  | processFeedback batch room => exact .inr ⟨rfl, .report batch room rfl⟩
  | expire now limit => exact .inr ⟨rfl, .expiry (expire_expires s now limit)⟩
  | _ => exact .inr ⟨rfl, (apply_adjusts rfl).change⟩

end Change

end Pulsebeam.Feedback.Sender
