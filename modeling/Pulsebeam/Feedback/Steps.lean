import Pulsebeam.Feedback.Credit
import Pulsebeam.Feedback.Effects

/-! Reports and expiry as sequences of small steps. -/

namespace Pulsebeam.Feedback.Sender

open Pulsebeam.Lib List

variable {s s' s'' : Sender} {e e' : SentEntry} {id : SentPacketId} {space : SpaceId} {P : Sender → Prop} {q : ℕ}

section Follows

structure Turns (e e' : SentEntry) : Prop where
  kin : e.Kin e'
  terminal : e.acknowledgment.isTerminal = true → e'.acknowledgment = e.acknowledgment

lemma Turns.refl (e : SentEntry) : Turns e e := ⟨.refl e, fun _ => rfl⟩

lemma Turns.trans {e'' : SentEntry} (h : Turns e e') (h' : Turns e' e'') : Turns e e'' :=
  ⟨h.kin.trans h'.kin, fun ht => (h'.terminal (by rw [h.terminal ht]; exact ht)).trans (h.terminal ht)⟩

section Rel

variable {α β γ : Type*} {R : α → β → Prop} {Q : β → γ → Prop} {T : α → γ → Prop} {o : Option α} {o' : Option β}
  {o'' : Option γ}

lemma rel_refl {R : α → α → Prop} (hR : ∀ a, R a a) : Option.Rel R o o := by
  cases o with
  | none => exact .none
  | some a => exact .some (hR a)

lemma rel_trans (h : Option.Rel R o o') (h' : Option.Rel Q o' o'') (hT : ∀ {a b c}, R a b → Q b c → T a c) :
    Option.Rel T o o'' := by
  cases h with
  | none => cases h' with | none => exact .none
  | some h => cases h' with | some h' => exact .some (hT h h')

lemma rel_imp {R' : α → β → Prop} (h : Option.Rel R o o') (hR : ∀ {a b}, o = some a → R a b → R' a b) :
    Option.Rel R' o o' := by
  cases h with
  | none => exact .none
  | some h => exact .some (hR rfl h)

lemma rel_some_left {a : α} (h : Option.Rel R (some a) o') : ∃ b, o' = some b ∧ R a b := by
  cases h with
  | some h => exact ⟨_, rfl, h⟩

lemma rel_some_right {b : β} (h : Option.Rel R o (some b)) : ∃ a, o = some a ∧ R a b := by
  cases h with
  | some h => exact ⟨_, rfl, h⟩

end Rel

structure Preserves (s s' : Sender) : Prop extends Fixed s s' where
  entryAt : ∀ i, Option.Rel Turns (s.entryAt i) (s'.entryAt i)

lemma Preserves.refl (s : Sender) : Preserves s s := ⟨.refl s, fun _ => rel_refl .refl⟩

lemma Preserves.trans (h : Preserves s s') (h' : Preserves s' s'') : Preserves s s'' :=
  ⟨h.toFixed.trans h'.toFixed, fun i => rel_trans (h.entryAt i) (h'.entryAt i) .trans⟩

structure Follows (s s' : Sender) : Prop extends Preserves s s' where
  lastPath : s'.lastPath = s.lastPath
  oldestSentId : s'.oldestSentId = s.oldestSentId
  exhausted : s.inputs.exhausted = true → s'.inputs.exhausted = true
  length : s'.entries.length = s.entries.length
  packets : ∀ sp, (s'.spaces.lookup sp).map (·.bySequence) = (s.spaces.lookup sp).map (·.bySequence)

lemma Follows.refl (s : Sender) : Follows s s := ⟨.refl s, rfl, rfl, fun h => h, rfl, fun _ => rfl⟩

lemma Follows.trans (h : Follows s s') (h' : Follows s' s'') : Follows s s'' where
  toPreserves := h.toPreserves.trans h'.toPreserves
  lastPath := h'.lastPath.trans h.lastPath
  oldestSentId := h'.oldestSentId.trans h.oldestSentId
  exhausted := fun he => h'.exhausted (h.exhausted he)
  length := h'.length.trans h.length
  packets := fun sp => (h'.packets sp).trans (h.packets sp)

lemma Aside.follows (h : Aside s s') (hlen : s'.entries.length = s.entries.length)
    (hent : ∀ i, Option.Rel Turns (s.entryAt i) (s'.entryAt i)) : Follows s s' :=
  { h with length := hlen, entryAt := hent, packets := fun sp => by rw [h.spaces] }

lemma Still.follows (h : Still s s') : Follows s s' :=
  h.toAside.follows (congrArg _ h.entries) fun i => by
    rw [entryAt, entryAt, h.entries]
    exact rel_refl .refl

lemma rel_set {i : ℕ} (he : s.entryAt i = some e) (ht : Turns e e') (hent : s'.entries = s.entries.set i (some e'))
    (j : ℕ) : Option.Rel Turns (s.entryAt j) (s'.entryAt j) := by
  have hlt := (List.getElem?_eq_some_iff.1 (getElem?_of_entryAt he)).1
  by_cases hj : i = j
  · subst hj
    rw [he, entryAt, hent, List.getElem?_set_self hlt]
    exact .some ht
  have hsame : s'.entryAt j = s.entryAt j := by rw [entryAt, hent, List.getElem?_set_ne hj, entryAt]
  rw [hsame]
  exact rel_refl .refl

lemma Writes.follows (h : Writes s s' id e e') (ht : e.acknowledgment.isTerminal = true →
    e'.acknowledgment = e.acknowledgment) : Follows s s' :=
  h.toAside.follows (by rw [h.entries, length_set])
    (rel_set (entry_eq_some.1 h.found).1 ⟨h.kin, ht⟩ h.entries)

lemma Fixed.slot (h : Fixed s s') (n : ℕ) : s'.slot n = s.slot n := by rw [Sender.slot, Sender.slot, h.config]

lemma Preserves.entry (h : Preserves s s') (he : s.entry id = some e) : ∃ e', s'.entry id = some e' ∧ Turns e e' := by
  obtain ⟨hi, hid⟩ := entry_eq_some.1 he
  obtain ⟨e', hat, ht⟩ := rel_some_left (hi ▸ h.entryAt _)
  exact ⟨e', entry_eq_some.2 ⟨by rw [h.slot, hat], ht.kin.id.trans hid⟩, ht⟩

lemma Preserves.entry_back (h : Preserves s s') (he : s'.entry id = some e') : ∃ e, s.entry id = some e ∧ Turns e e' := by
  obtain ⟨hi, hid⟩ := entry_eq_some.1 he
  rw [h.slot] at hi
  obtain ⟨e, hat, ht⟩ := rel_some_right (hi ▸ h.entryAt _)
  exact ⟨e, entry_eq_some.2 ⟨hat, ht.kin.id.symm.trans hid⟩, ht⟩

lemma lookupPacket_iff :
    s.lookupPacket space q = some id ↔
      (((s.spaces.lookup space).map (·.bySequence)).bind fun index => index.lookup q) = some id ∧
        ∃ e, s.entry id = some e ∧ e.space = space ∧ e.packetSequence = q := by
  rw [lookupPacket_eq_some]
  cases s.spaces.lookup space <;> simp

lemma Follows.lookupPacket (h : Follows s s') (space : SpaceId) (q : ℕ) :
    s'.lookupPacket space q = s.lookupPacket space q := by
  refine Option.ext fun id => ?_
  rw [lookupPacket_iff, lookupPacket_iff, h.packets]
  refine and_congr_right fun _ => ⟨?_, ?_⟩
  · rintro ⟨e', he', hsp, hq⟩
    obtain ⟨e, he, ht⟩ := h.entry_back he'
    exact ⟨e, he, ht.kin.space.symm.trans hsp, ht.kin.packetSequence.symm.trans hq⟩
  · rintro ⟨e, he, hsp, hq⟩
    obtain ⟨e', he', ht⟩ := h.entry he
    exact ⟨e', he', ht.kin.space.trans hsp, ht.kin.packetSequence.trans hq⟩

lemma Follows.resolve (h : Follows s s') (lane : Lane) (q : ℕ) : s'.resolve lane q = s.resolve lane q := by
  cases lane with
  | feedback => exact h.feedbackSentId q
  | inSpace space => exact h.lookupPacket space q

end Follows

section Micro

def Named (s : Sender) (id : SentPacketId) : Prop :=
  ∃ lane q, s.resolve lane q = some id ∧ (lane = .feedback → ∃ floor, s.oldestFeedback = some floor ∧ floor ≤ q)

def OnPath (s : Sender) (id : SentPacketId) : Prop := ∃ e, s.entry id = some e ∧ s.activeEpoch = some e.pathEpoch

lemma Follows.named (h : Follows s s') (hn : s.Named id) : s'.Named id := by
  obtain ⟨lane, q, hq, hf⟩ := hn
  exact ⟨lane, q, (h.resolve lane q).trans hq, fun hl => h.oldestFeedback.symm ▸ hf hl⟩

lemma Follows.onPath (h : Follows s s') (hp : s.OnPath id) : s'.OnPath id := by
  obtain ⟨e, he, ha⟩ := hp
  obtain ⟨e', he', ht⟩ := h.entry he
  exact ⟨e', he', by rw [h.activeEpoch, ht.kin.pathEpoch, ha]⟩

structure Noted (h h' : SpaceHistory) : Prop where
  bySequence : h'.bySequence = h.bySequence
  terminal : h'.terminal = h.terminal
  latestCommitAt : h'.latestCommitAt = h.latestCommitAt

/-- The small steps of a report: `acks` are the packets it may acknowledge, `edges` says whether it moves receipt
edges. -/
inductive Micro (acks : SentPacketId → Prop) (edges : Prop) : Sender → Sender → Prop
  | still {s s' : Sender} : Still s s' → s'.budget = s.budget → Micro acks edges s s'
  | flight (s : Sender) (id : SentPacketId) : Micro acks edges s (s.retireFromFlight id)
  | take (s : Sender) (id : SentPacketId) (receivedAt : Duration) :
      Micro acks edges s (s.takeMissingSince id receivedAt)
  | lose (s : Sender) (id : SentPacketId) (origin : LossOrigin) : s.lossWork ≠ s.config.maxExpirationsPerPoll →
      Micro acks edges s (setLost { s with lossWork := s.lossWork + 1 } id origin)
  | receive {s : Sender} {id : SentPacketId} (acked : Bool) (arrival : Option ReceiverTime) (ecn : Option Ecn)
      (receivedAt : Duration) : s.Named id → s.OnPath id → (acked = true → acks id) →
      Micro acks edges s (s.setReceived id acked arrival ecn receivedAt)
  | miss (s : Sender) (id : SentPacketId) (now : Duration) : Micro acks edges s (s.setMissing id now)
  | ack {s : Sender} {id : SentPacketId} : s.Named id → s.OnPath id → acks id →
      Micro acks edges s (s.emit id false true none)
  | anchor (s : Sender) (edge : ReceiptEdge) (receivedAt : Duration) (id : SentPacketId) :
      Micro acks edges s (anchorEntry edge receivedAt s id)
  | window (s : Sender) (now : Duration) : Micro acks edges s (s.applyReorderingWindow now)
  | edge (s : Sender) (q : ℕ) : edges → Micro acks edges s { s with highestFeedbackAcked := some q }
  | note (s : Sender) (space : SpaceId) (f : SpaceHistory → SpaceHistory) : edges → (∀ st, Noted st (f st)) →
      Micro acks edges s (s.updateSpace space f)

abbrev Steps (acks : SentPacketId → Prop) (edges : Prop) : Sender → Sender → Prop :=
  Relation.ReflTransGen (Micro acks edges)

variable {acks acks' : SentPacketId → Prop} {edges edges' : Prop} {x : SentObservation} {now : Duration}

lemma Micro.mono (ha : ∀ id, acks id → acks' id) (he : edges → edges') (h : Micro acks edges s s') :
    Micro acks' edges' s s' := by
  cases h with
  | still h hb => exact .still h hb
  | flight id => exact .flight _ id
  | take id t => exact .take _ id t
  | lose id origin hwork => exact .lose _ id origin hwork
  | receive acked arrival ecn t hn hp hack => exact .receive acked arrival ecn t hn hp fun h => ha _ (hack h)
  | miss id now => exact .miss _ id now
  | ack hn hp hack => exact .ack hn hp (ha _ hack)
  | anchor edge t id => exact .anchor _ edge t id
  | window now => exact .window _ now
  | edge q hq => exact .edge _ q (he hq)
  | note space f hq hf => exact .note _ space f (he hq) hf

lemma Steps.mono (ha : ∀ id, acks id → acks' id) (he : edges → edges') (h : Steps acks edges s s') :
    Steps acks' edges' s s' := by
  induction h with
  | refl => exact .refl
  | tail _ h ih => exact ih.tail (h.mono ha he)

lemma rekeyEntry_rel (now : Duration) (s : Sender) (i j : ℕ) :
    Option.Rel Turns (s.entryAt j) ((rekeyEntry now s i).entryAt j) := by
  rcases rekeyEntry_cases now s i with ⟨h, -⟩ | ⟨e, f, keys, he, h, -⟩
  · rw [h]
    exact rel_refl .refl
  · rw [h]
    refine rel_set he ?_ rfl j
    exact ⟨by constructor <;> rfl, fun _ => rfl⟩

lemma rekeyEntry_aside (now : Duration) (s : Sender) (i : ℕ) :
    Aside s (rekeyEntry now s i) ∧ (rekeyEntry now s i).entries.length = s.entries.length ∧
      SameLists s (rekeyEntry now s i) ∧ (rekeyEntry now s i).missing = s.missing := by
  rcases rekeyEntry_cases now s i with ⟨h, -⟩ | ⟨e, f, keys, he, h, -⟩
  · rw [h]
    exact ⟨.refl s, rfl, ⟨rfl, rfl⟩, rfl⟩
  · rw [h]
    exact ⟨{ Aside.refl s with }, length_set, ⟨rfl, rfl⟩, rfl⟩

lemma rekeyEntry_follows (now : Duration) (s : Sender) (i : ℕ) : Follows s (rekeyEntry now s i) := by
  obtain ⟨ha, hlen, -, -⟩ := rekeyEntry_aside now s i
  exact ha.follows hlen (rekeyEntry_rel now s i)

lemma foldl_follows {α : Type*} {f : Sender → α → Sender} (hf : ∀ s x, Follows s (f s x)) (l : List α) (s : Sender) :
    Follows s (l.foldl f s) := by
  induction l generalizing s with
  | nil => exact .refl s
  | cons x l ih => exact (hf s x).trans (ih _)

lemma applyReorderingWindow_follows : Follows s (s.applyReorderingWindow now) := by
  unfold applyReorderingWindow
  split
  · exact .refl s
  · refine (foldl_follows (rekeyEntry_follows now) (List.range s.entries.length) s).trans ?_
    exact { Follows.refl _ with }

lemma rekeyEntry_entry {i : ℕ} (h : (rekeyEntry now s i).entry id = some e') :
    ∃ e f, s.entry id = some e ∧ e' = { e with frozenReorderDeadline := f } := by
  obtain ⟨hat, hid⟩ := entry_eq_some.1 h
  rcases rekeyEntry_cases now s i with ⟨hr, -⟩ | ⟨x, f, keys, hi, hr, -⟩
  · rw [hr] at h
    exact ⟨e', e'.frozenReorderDeadline, h, rfl⟩
  rw [hr] at hat
  change (s.entries.set i _)[s.slot id]?.join = some e' at hat
  by_cases hsi : i = s.slot id
  · subst hsi
    rw [List.getElem?_set_self (List.getElem?_eq_some_iff.1 (getElem?_of_entryAt hi)).1] at hat
    cases hat
    exact ⟨x, f, entry_eq_some.2 ⟨hi, hid⟩, rfl⟩
  · rw [getElem?_set_ne hsi] at hat
    exact ⟨e', e'.frozenReorderDeadline, entry_eq_some.2 ⟨hat, hid⟩, rfl⟩

lemma applyReorderingWindow_entry (h : (s.applyReorderingWindow now).entry id = some e') :
    ∃ e f, s.entry id = some e ∧ e' = { e with frozenReorderDeadline := f } := by
  unfold applyReorderingWindow at h
  split at h
  · exact ⟨e', e'.frozenReorderDeadline, h, rfl⟩
  next hgrows =>
    clear hgrows
    revert h
    generalize List.range s.entries.length = l
    intro h
    induction l generalizing s with
    | nil => exact ⟨e', e'.frozenReorderDeadline, h, rfl⟩
    | cons i l ih =>
      obtain ⟨e1, f1, he1, rfl⟩ := ih h
      obtain ⟨e, f, he, rfl⟩ := rekeyEntry_entry he1
      exact ⟨e, f1, he, rfl⟩

lemma applyReorderingWindow_lists (s : Sender) (now : Duration) :
    SameLists s (s.applyReorderingWindow now) ∧ (s.applyReorderingWindow now).missing = s.missing := by
  unfold applyReorderingWindow
  split
  · exact ⟨⟨rfl, rfl⟩, rfl⟩
  next hgrows =>
    clear hgrows
    have hfold : SameLists s ((List.range s.entries.length).foldl (rekeyEntry now) s) ∧
        ((List.range s.entries.length).foldl (rekeyEntry now) s).missing = s.missing := by
      generalize List.range s.entries.length = l
      induction l generalizing s with
      | nil => exact ⟨⟨rfl, rfl⟩, rfl⟩
      | cons i l ih =>
        obtain ⟨-, -, hl, hm⟩ := rekeyEntry_aside now s i
        exact ⟨hl.trans (ih _).1, (ih _).2.trans hm⟩
    exact ⟨⟨hfold.1.feedback, hfold.1.synthetic⟩, hfold.2⟩

lemma applyReorderingWindow_edges (s : Sender) (now : Duration) :
    (s.applyReorderingWindow now).spaces = s.spaces ∧
      (s.applyReorderingWindow now).highestFeedbackAcked = s.highestFeedbackAcked := by
  unfold applyReorderingWindow
  split
  · exact ⟨rfl, rfl⟩
  next hgrows =>
    clear hgrows
    generalize List.range s.entries.length = l
    induction l generalizing s with
    | nil => exact ⟨rfl, rfl⟩
    | cons i l ih =>
      obtain ⟨ha, -⟩ := rekeyEntry_aside now s i
      exact ⟨(ih _).1.trans ha.spaces, (ih _).2.trans ha.highestFeedbackAcked⟩

lemma updateSpace_follows {f : SpaceHistory → SpaceHistory} (hf : ∀ st, Noted st (f st)) :
    Follows s (s.updateSpace space f) := by
  unfold updateSpace
  cases hs : s.spaces.lookup space with
  | none => exact .refl s
  | some st =>
    refine { Follows.refl s with packets := fun sp => ?_ }
    by_cases hsp : sp = space
    · subst hsp
      simp [hs, (hf st).bySequence]
    · simp [AList.lookup_insert_ne hsp]

inductive Does (edges : Prop) (s : Sender) : Sender → Prop
  | still {s' : Sender} : Still s s' → Does edges s s'
  | writes {s' : Sender} {id : SentPacketId} {e e' : SentEntry} : Writes s s' id e e' →
      (e.acknowledgment.isTerminal = true → e'.acknowledgment = e.acknowledgment) →
      (s'.missing = s.missing ∧ (e'.acknowledgment.isMissing = true → e.acknowledgment.isMissing = true) ∧
          (e'.acknowledgment = .pending → e.acknowledgment = .pending) ∨
        s'.missing = s.missing ++ [id] ∧ e.acknowledgment = .pending ∧ e'.acknowledgment.isMissing = true) →
      (SameLists s s' ∨ (∃ e1 o b, Tells s s' e1 o b ∧ e1.id = e.id) ∧
        (e.acknowledgment.isTerminal = false ∨ s.Named id ∧ s.OnPath id)) → Does edges s s'
  | last {l : List SentObservation} {last : SentObservation} : s.inputs.feedback = l ++ [last] →
      Does edges s { s with inputs := { s.inputs with feedback := l ++ [{ last with newlyAcked := true }] } }
  | window (now : Duration) : Does edges s (s.applyReorderingWindow now)
  | edge (q : ℕ) : edges → Does edges s { s with highestFeedbackAcked := some q }
  | note (space : SpaceId) (f : SpaceHistory → SpaceHistory) : edges → (∀ st, Noted st (f st)) →
      Does edges s (s.updateSpace space f)

lemma setLost_does (s : Sender) (work : ℕ) (id : SentPacketId) (origin : LossOrigin) :
    Does edges s (setLost { s with lossWork := work } id origin) := by
  rcases charged_cases s id work origin with ⟨h, -⟩ | ⟨e, hlive, b, hw, hm, ht⟩
  · exact .still h
  · exact .writes hw (fun h => by simp [hlive] at h) (.inl ⟨hm, (fun h => by cases h), fun h => by cases h⟩)
      (.inr ⟨⟨_, _, b, ht, rfl⟩, .inl hlive⟩)

lemma Micro.does (h : Micro acks edges s s') : Does edges s s' := by
  have hsame : ∀ {t}, t = s → Does edges s t := by
    rintro _ rfl
    exact .still (.refl _)
  cases h with
  | still h _ => exact .still h
  | flight id =>
    rcases retireFromFlight_cases s id with h | ⟨e, hw, hm, hl⟩
    · exact hsame h
    · exact .writes hw (fun _ => rfl) (.inl ⟨hm, fun h => h, fun h => h⟩) (.inl hl)
  | take id t =>
    rcases takeMissingSince_cases s id t with h | ⟨e, hw, hm, hl⟩
    · exact hsame h
    · exact .writes hw (fun _ => rfl) (.inl ⟨hm, fun h => h, fun h => h⟩) (.inl hl)
  | lose id origin hwork => exact setLost_does s _ id origin
  | receive acked arrival ecn t hn hp hack =>
    rcases setReceived_cases s _ acked arrival ecn t with h | ⟨e, hopen, b, hw, hm, ht⟩
    · exact .still h
    refine .writes hw (fun h => ?_) (.inl ⟨hm, fun h => ?_, fun h => ?_⟩) (.inr ⟨⟨_, _, b, ht, rfl⟩, .inr ⟨hn, hp⟩⟩)
    · rcases hopen with hlive | ⟨hlost, -⟩
      · simp [hlive] at h
      · simp [hlost]
    · split at h
      · exact h
      · cases h
    · split at h
      · exact h
      · cases h
  | miss id now =>
    rcases setMissing_cases s id now with h | ⟨e, hp, b, hw, hm, ht⟩
    · exact .still h
    · exact .writes hw (fun h => by simp [hp, Acknowledgment.isTerminal] at h) (.inr ⟨hm, hp, rfl⟩)
        (.inr ⟨⟨_, _, b, ht, rfl⟩, .inl (by rw [hp]; rfl)⟩)
  | ack hn hp hack =>
    rcases emitAck_cases s _ with h | ⟨l, last, hl, -, h⟩ | ⟨e, b, hw, hm, ht⟩
    · exact hsame h
    · exact h ▸ .last hl
    · exact .writes hw (fun _ => rfl) (.inl ⟨hm, fun h => h, fun h => h⟩) (.inr ⟨⟨_, _, b, ht, rfl⟩, .inr ⟨hn, hp⟩⟩)
  | anchor edge t id =>
    rcases anchorEntry_cases edge t s id with h | ⟨e, since, hack, hw, hm, hl⟩
    · exact hsame h
    · exact .writes hw (fun h => by simp [hack, Acknowledgment.isTerminal] at h)
        (.inl ⟨hm, fun _ => by rw [hack]; rfl, fun h => by cases h⟩) (.inl hl)
  | window now => exact .window now
  | edge q hq => exact .edge q hq
  | note space f hq hf => exact .note space f hq hf

lemma Does.follows (h : Does edges s s') : Follows s s' := by
  cases h with
  | still h => exact h.follows
  | writes hw ht _ _ => exact hw.follows ht
  | last _ => exact { Follows.refl s with }
  | window now => exact applyReorderingWindow_follows
  | edge q _ => exact { Follows.refl s with }
  | note space f _ hf => exact updateSpace_follows hf

lemma Micro.follows (h : Micro acks edges s s') : Follows s s' := h.does.follows

lemma Steps.follows (h : Steps acks edges s s') : Follows s s' := by
  induction h with
  | refl => exact .refl s
  | tail _ h ih => exact ih.trans h.follows

lemma Micro.edges_eq (h : Micro acks False s s') :
    s'.spaces = s.spaces ∧ s'.highestFeedbackAcked = s.highestFeedbackAcked := by
  cases h.does with
  | still h => exact ⟨h.spaces, h.highestFeedbackAcked⟩
  | writes hw _ _ _ => exact ⟨hw.spaces, hw.highestFeedbackAcked⟩
  | last _ => exact ⟨rfl, rfl⟩
  | window now => exact applyReorderingWindow_edges s now
  | edge q hq => exact hq.elim
  | note space f hq hf => exact hq.elim

lemma Steps.edges_eq (h : Steps acks False s s') :
    s'.spaces = s.spaces ∧ s'.highestFeedbackAcked = s.highestFeedbackAcked := by
  induction h with
  | refl => exact ⟨rfl, rfl⟩
  | tail _ h ih =>
    obtain ⟨hs, hf⟩ := h.edges_eq
    exact ⟨hs.trans ih.1, hf.trans ih.2⟩

lemma Steps.keep (hP : ∀ s s', Micro acks edges s s' → P s → P s') (h : Steps acks edges s s') (hs : P s) : P s' := by
  induction h with
  | refl => exact hs
  | tail _ h ih => exact hP _ _ h ih

def observations (s : Sender) : List SentObservation := s.inputs.feedback ++ s.inputs.synthetic

lemma SameLists.observations (h : SameLists s s') : s'.observations = s.observations := by
  rw [Sender.observations, Sender.observations, h.feedback, h.synthetic]

lemma Pushed.mem {sample : SentObservation} (h : Pushed s s' sample) (hx : x ∈ s'.observations) :
    x = sample ∨ x ∈ s.observations := by
  unfold Sender.observations at hx ⊢
  rcases h with ⟨hf, hs⟩ | ⟨hf, hs⟩
  · rw [hf, hs] at hx
    simp only [mem_append, mem_singleton] at hx ⊢
    tauto
  rw [hf, hs] at hx
  simp only [mem_append, mem_singleton] at hx ⊢
  tauto

lemma Tells.mem {o : Outcome} {reported : Bool} (h : Tells s s' e o reported) (hx : x ∈ s'.observations) :
    x.sentId = e.id ∨ x ∈ s.observations := by
  rcases h with ⟨hl, -⟩ | ⟨hp, -⟩
  · exact .inr (hl.observations ▸ hx)
  · exact (hp.mem hx).imp (fun h => by rw [h]; rfl) fun h => h

lemma Micro.observed (h : Micro acks edges s s') (hx : x ∈ s'.observations) :
    (∃ y ∈ s.observations, y.sentId = x.sentId) ∨
      (∃ e, s.entry x.sentId = some e ∧
        (e.acknowledgment.isTerminal = false ∨ s.Named x.sentId ∧ s.OnPath x.sentId)) := by
  have hold : ∀ {s' : Sender}, SameLists s s' → x ∈ s'.observations → ∃ y ∈ s.observations, y.sentId = x.sentId :=
    fun hl hx => ⟨x, hl.observations ▸ hx, rfl⟩
  cases h.does with
  | still h => exact .inl (hold h.toSameLists hx)
  | writes hw _ _ htold =>
    rcases htold with hl | ⟨⟨e1, o, b, ht, hid⟩, hwhy⟩
    · exact .inl (hold hl hx)
    rcases ht.mem hx with h | h
    · right
      rw [h, hid, (entry_eq_some.1 hw.found).2]
      exact ⟨_, hw.found, hwhy⟩
    · exact .inl ⟨x, h, rfl⟩
  | last hl =>
    left
    simp only [Sender.observations, hl, mem_append, mem_singleton] at hx ⊢
    rcases hx with (hx | rfl) | hx
    · exact ⟨x, .inl (.inl hx), rfl⟩
    · exact ⟨_, .inl (.inr rfl), rfl⟩
    · exact ⟨x, .inr hx, rfl⟩
  | window now => exact .inl (hold (applyReorderingWindow_lists s now).1 hx)
  | edge q hq => exact .inl ⟨x, hx, rfl⟩
  | note space f hq hf =>
    refine .inl ⟨x, ?_, rfl⟩
    unfold updateSpace at hx
    split at hx <;> exact hx

end Micro

section Entries

abbrev Quiet : Sender → Sender → Prop := Steps (fun _ => False) False

/-- Nothing a report settles changes, and nothing is paid. -/
structure Costless (s s' : Sender) : Prop extends Still s s' where
  budget : s'.budget = s.budget

lemma Costless.refl (s : Sender) : Costless s s := ⟨.refl s, rfl⟩

lemma Costless.quiet (h : Costless s s') : Quiet s s' := .single (.still h.toStill h.budget)

lemma Still.quiet (h : Still s s') (hb : s'.budget = s.budget := by rfl) : Quiet s s' := .single (.still h hb)

variable {edges : Prop}

lemma Quiet.steps {acks : SentPacketId → Prop} (h : Quiet s s') : Steps acks edges s s' :=
  h.mono (fun _ h => h.elim) fun h => h.elim

lemma foldl_quiet {α : Type*} {f : Sender → α → Sender} (hf : ∀ s x, Quiet s (f s x)) (l : List α) (s : Sender) :
    Quiet s (l.foldl f s) := by
  induction l generalizing s with
  | nil => exact .refl
  | cons x l ih => exact (hf s x).trans (ih _)

lemma retireFromFlight_charge (work : ℕ) :
    retireFromFlight { s with lossWork := work } id = { s.retireFromFlight id with lossWork := work } := by
  have he : ({ s with lossWork := work } : Sender).entry id = s.entry id := rfl
  unfold retireFromFlight
  rw [he]
  split
  · rfl
  · split <;> rfl

lemma markLostUnbudgeted_quiet (he : s.entry id = some e) (hwork : s.lossWork ≠ s.config.maxExpirationsPerPoll)
    (origin : LossOrigin) : Quiet s (markLostUnbudgeted { s with lossWork := s.lossWork + 1 } id origin) := by
  cases origin with
  | reordering => exact .single (.lose s id _ hwork)
  | historyExpiry =>
    have he' : ({ s with lossWork := s.lossWork + 1 } : Sender).entry id = some e := he
    have hb := budget_of_apart (apart_retireFromFlight s id)
    have hw : (s.retireFromFlight id).lossWork = s.lossWork := congrArg Budget.work hb
    have hl : (s.retireFromFlight id).config.maxExpirationsPerPoll = _ := congrArg Budget.limit hb
    simp only [markLostUnbudgeted, he', retireFromFlight_charge]
    rw [← hw]
    exact .tail (.single (.flight s id)) (.lose _ id _ (by rw [hw, hl]; exact hwork))

lemma markLost_quiet (s : Sender) (id : SentPacketId) (origin : LossOrigin) : Quiet s (s.markLost id origin).1 := by
  unfold markLost
  cases he : s.entry id with
  | none => exact .refl
  | some e =>
    split
    · exact .refl
    split
    · exact .refl
    next hwork => exact markLostUnbudgeted_quiet he hwork origin

inductive Acks (id : SentPacketId) (received : Bool) (s : Sender) : Sender → Prop
  | none : Acks id received s s
  | receipt (arrival : Option ReceiverTime) (ecn : Option Ecn) (receivedAt : Duration) : s.Named id → s.OnPath id →
      Acks id received s (s.setReceived id true arrival ecn receivedAt)
  | gap : received = false → s.Named id → s.OnPath id → Acks id received s (s.emit id false true none)

variable {received : Bool}

lemma Acks.micro (h : Acks id received s s') : Micro (· = id) edges s s' := by
  cases h with
  | none => exact .still (.refl s) rfl
  | receipt arrival ecn receivedAt hn hp => exact .receive true arrival ecn receivedAt hn hp fun _ => rfl
  | gap _ hn hp => exact .ack hn hp rfl

def Advances (id : SentPacketId) (received : Bool) (s s' : Sender) : Prop := ∃ s1, Quiet s s1 ∧ Acks id received s1 s'

lemma Quiet.advances (h : Quiet s s') : Advances id received s s' := ⟨s', h, .none⟩

lemma Advances.steps (h : Advances id received s s') : Steps (fun _ => True) edges s s' := by
  obtain ⟨s1, hq, ha⟩ := h
  exact hq.steps.tail (ha.micro.mono (fun _ _ => trivial) fun h => h)

variable {epoch : Epoch}

lemma onPath_of_entry (hE : s.activeEpoch = some epoch) (he : s.entry id = some e) (hp : e.pathEpoch = epoch) :
    s.OnPath id := ⟨e, he, hp ▸ hE⟩

lemma advanceEntry_advances (hE : s.activeEpoch = some epoch) (hn : s.Named id) (status : SendStatus)
    (receivedAt : Duration) : Advances id status.received s (s.advanceEntry (some id) epoch status receivedAt) := by
  dsimp only [advanceEntry]
  cases he : s.entry id with
  | none => exact (counters_still _).quiet.advances
  | some e =>
    dsimp only
    split
    · exact (counters_still _).quiet.advances
    next hp =>
      have hpath := onPath_of_entry hE he (not_not.1 hp)
      split
      · exact (markLost_quiet s id _).advances
      have hr : Quiet s (if !status.received && e.acknowledgment == .pending then s.reserveMissingSlot else (s, true)).1 := by
        split
        · exact (room_still _).quiet
        · exact .refl
      revert hr
      generalize (if !status.received && e.acknowledgment == .pending then s.reserveMissingSlot else _) = r
      intro hr
      split
      · exact Quiet.advances (hr.trans (exhaust_still).quiet)
      have hf : Quiet s _ := hr.tail (.flight _ id)
      cases hrec : status.received with
      | true =>
        rw [if_pos rfl]
        split
        · have hm : Quiet s _ := hf.trans (markLost_quiet _ id .reordering)
          split
          · exact hm.advances
          · exact ⟨_, hm, .receipt _ _ _ (hm.follows.named hn) (hm.follows.onPath hpath)⟩
        · exact ⟨_, hf, .receipt _ _ _ (hf.follows.named hn) (hf.follows.onPath hpath)⟩
      | false =>
        rw [if_neg Bool.false_ne_true]
        have hm : Quiet s ((r.1.retireFromFlight id).setMissing id receivedAt) := hf.tail (.miss _ id _)
        split
        · exact hm.advances
        · exact ⟨_, hm, .gap rfl (hm.follows.named hn) (hm.follows.onPath hpath)⟩

lemma rejectReplayedTerminalReceipt_quiet (s : Sender) (sentId : Option SentPacketId) (epoch : Epoch)
    (receivedAt : Duration) (reportIsNew : Bool) :
    Quiet s (s.rejectReplayedTerminalReceipt sentId epoch receivedAt reportIsNew).1 := by
  unfold rejectReplayedTerminalReceipt
  split
  · exact .refl
  next id e _ =>
    split
    · have hm : Quiet s ((s.takeMissingSince id receivedAt).markLost id .reordering).1 :=
        (Relation.ReflTransGen.single (.take s id receivedAt)).trans (markLost_quiet _ id _)
      dsimp only
      split
      · exact hm.trans (counters_still _).quiet
      · exact hm
    · exact .refl

lemma recover_quiet {sentId : Option SentPacketId} (hE : s.activeEpoch = some epoch)
    (hn : ∀ id, sentId = some id → s.Named id) (status : SendStatus) (receivedAt : Duration) :
    Quiet s (s.recover sentId epoch status receivedAt) := by
  cases sentId with
  | none => exact (counters_still _).quiet
  | some id =>
    have hn := hn id rfl
    dsimp only [recover]
    cases he : s.entry id with
    | none => exact (counters_still _).quiet
    | some e =>
      dsimp only
      split
      · exact (counters_still _).quiet
      next hp =>
        have hpath := onPath_of_entry hE he (not_not.1 hp)
        have hreceive : ∀ s1, Quiet s s1 →
            Quiet s (s1.setReceived id false status.arrival status.ecn receivedAt) := fun s1 h =>
          h.tail (.receive false _ _ _ (h.follows.named hn) (h.follows.onPath hpath) nofun)
        split
        · have hm := markLost_quiet s id .historyExpiry
          split
          · exact hm
          · exact hm.tail (.take _ id _)
        split
        next since _ _ =>
          have hm : Quiet s (if s.overdue e receivedAt then s.markLost id .reordering else (s, true)).1 := by
            split
            · exact markLost_quiet s id _
            · exact .refl
          revert hm
          generalize (if s.overdue e receivedAt then s.markLost id .reordering else (s, true)) = r
          intro hm
          split
          · exact hm
          · exact (hreceive _ hm).trans (observeWindow_still).quiet
        · split
          · exact hreceive _ (observeWindow_still).quiet
          · exact (counters_still _).quiet
        · exact (counters_still _).quiet
        · exact (counters_still _).quiet
        · exact hreceive _ (.single (.flight s id))

lemma anchorMissing_quiet (s : Sender) (edge : ReceiptEdge) (receivedAt : Duration) :
    Quiet s (s.anchorMissing edge receivedAt) :=
  foldl_quiet (fun s id => .single (.anchor s edge receivedAt id)) s.missing s

end Entries

section Reports

structure Listens (lane : Lane) (floor : ℕ) (epoch : Epoch) (s : Sender) : Prop where
  epoch : s.activeEpoch = some epoch
  floor : lane = .feedback → s.oldestFeedback = some floor

variable {lane : Lane} {floor : ℕ} {epoch : Epoch} {r : Span} {newest edge : ℕ} {statuses : List SendStatus}
  {receivedAt : Duration} {base : ℕ} {hold : Option Duration} {generation reference : ℤ} {l : List ℕ} {edges : Prop}

lemma Listens.follows (hl : Listens lane floor epoch s) (h : Follows s s') : Listens lane floor epoch s' :=
  ⟨h.activeEpoch.trans hl.epoch, fun hlane => h.oldestFeedback.trans (hl.floor hlane)⟩

lemma Listens.named (hl : Listens lane floor epoch s) (hq : floor ≤ q) (hr : s.resolve lane q = some id) : s.Named id :=
  ⟨lane, q, hr, fun hlane => ⟨floor, hl.floor hlane, hq⟩⟩

lemma settleStatus_quiet (hl : Listens lane r.floor epoch s) (receivedAt : Duration) (reportIsNew : Bool)
    (x : ℕ × SendStatus) : Quiet s (settleStatus lane r epoch receivedAt reportIsNew s x) := by
  unfold settleStatus
  split
  · exact .refl
  next hx =>
    dsimp only
    split
    · split
      · exact .single (.miss s _ receivedAt)
      · exact .refl
    split
    · have hq := rejectReplayedTerminalReceipt_quiet s (s.resolve lane x.1) epoch receivedAt reportIsNew
      split
      · exact hq
      · exact hq.trans (recover_quiet (hl.follows hq.follows).epoch
          (fun id hid => hq.follows.named (hl.named (not_lt.1 hx) hid)) _ _)
    · exact .refl

lemma settleStatuses_quiet (hl : Listens lane r.floor epoch s) (receivedAt : Duration) (reportIsNew : Bool) :
    Quiet s (s.settleStatuses lane r epoch receivedAt reportIsNew) := by
  unfold settleStatuses
  generalize numbered r.base r.statuses = l
  induction l generalizing s with
  | nil => exact .refl
  | cons x l ih =>
    have hq := settleStatus_quiet hl receivedAt reportIsNew x
    exact hq.trans (ih (hl.follows hq.follows))

lemma mem_numbered {x : ℕ × SendStatus} :
    x ∈ numbered base statuses ↔ ∃ i, statuses[i]? = some x.2 ∧ Word.saturatingAdd 64 base i = x.1 := by
  obtain ⟨q, status⟩ := x
  simp only [numbered, mem_map, Prod.mk.injEq, Prod.exists, mem_zipIdx_iff_getElem?]
  constructor
  · rintro ⟨a, i, hi, rfl, rfl⟩
    exact ⟨i, hi, rfl⟩
  · rintro ⟨i, hi, rfl⟩
    exact ⟨status, i, hi, rfl, rfl⟩

lemma statusAt_receivedEdge (hw : r.Within newest) (h : r.receivedEdge = some edge) :
    ∃ status, statusAt r.base r.statuses edge = some status ∧ status.received = true := by
  obtain ⟨x, hx, rfl⟩ := Option.map_eq_some_iff.1 h
  obtain ⟨hm, hf⟩ := List.mem_filter.1 (List.mem_of_getLast? hx)
  obtain ⟨i, hi, hsat⟩ := mem_numbered.1 hm
  have hlt := (List.getElem?_eq_some_iff.1 hi).1
  have hexact : Word.saturatingAdd 64 r.base i = r.base + i := by
    have := hw.last
    have := hw.bounded
    simp only [Word.saturatingAdd]
    omega
  rw [hexact] at hsat
  refine ⟨x.2, ?_, (Bool.and_eq_true_iff.1 hf).2⟩
  rw [statusAt, if_pos (by omega), ← hsat, Nat.add_sub_cancel_left, hi]

lemma gap_known (hw : r.Within newest) (hrej : s.rejectedStatuses lane epoch r = none)
    (hedge : r.receivedEdge = some edge) (hq : r.start ≤ q) (hqe : q ≤ edge) (hst : statusAt r.base r.statuses q = none) :
    ∃ e, s.resolveEntry lane q = some e ∧ e.pathEpoch = epoch := by
  obtain ⟨hne, -, hbase, hlast⟩ := receivedEdge_bounds hw hedge
  have hlt : q < r.base := by
    by_contra hle
    rw [statusAt, if_pos (not_lt.1 hle), getElem?_eq_none_iff] at hst
    have hlen : 0 < r.statuses.length := by
      cases hs : r.statuses with
      | nil => simp [hs] at hne
      | cons => simp
    have := hw.last
    omega
  simp only [rejectedStatuses, hne, Bool.false_eq_true, if_false, hedge, Option.any_some, Bool.and_eq_true,
    decide_eq_true_eq] at hrej
  split at hrej
  · cases hrej
  simp only [ite_eq_right_iff, reduceCtorEq, imp_false, not_not, if_pos (hq.trans hqe)] at hrej
  have hempty := eq_nil_of_length_eq_zero (Nat.eq_zero_of_add_eq_zero_left hrej)
  have hmem : q ∈ List.range' r.start (min r.base (Word.saturatingAdd 64 edge 1) - r.start) := by
    have hb := hw.bounded
    simp only [mem_range'_1, Word.saturatingAdd]
    generalize Word.max 64 = top at hb ⊢
    omega
  have hun : s.unresolved lane epoch q = false := by simpa using filter_eq_nil_iff.1 hempty q hmem
  cases hr : s.resolveEntry lane q with
  | none => simp [unresolved, hr] at hun
  | some e => exact ⟨e, rfl, by simpa [unresolved, hr] using hun⟩

def GapsOnPath (lane : Lane) (r : Span) (edge : ℕ) (s : Sender) : Prop :=
  ∀ q id, r.start ≤ q → q ≤ edge → statusAt r.base r.statuses q = none → s.resolve lane q = some id → s.OnPath id

lemma GapsOnPath.follows (hg : GapsOnPath lane r edge s) (h : Follows s s') : GapsOnPath lane r edge s' :=
  fun q id hq hqe hst hr => h.onPath (hg q id hq hqe hst (h.resolve lane q ▸ hr))

lemma gapsOnPath (hE : s.activeEpoch = some epoch) (hw : r.Within newest)
    (hrej : s.rejectedStatuses lane epoch r = none) (hedge : r.receivedEdge = some edge) :
    GapsOnPath lane r edge s := by
  intro q id hq hqe hst hr
  obtain ⟨e, he, hp⟩ := gap_known hw hrej hedge hq hqe hst
  rw [resolveEntry, hr] at he
  exact onPath_of_entry hE he hp

def Span.receives (r : Span) (q : ℕ) : Bool := (statusAt r.base r.statuses q).any (·.received)

inductive Passes (lane : Lane) (r : Span) : List ℕ → Sender → Sender → Prop
  | nil (s : Sender) : Passes lane r [] s s
  | cons {q : ℕ} {l : List ℕ} {s s1 s' : Sender} :
      (∀ id, s.resolve lane q = some id → Advances id (r.receives q) s s1) →
      (s.resolve lane q = none → Quiet s s1) → Passes lane r l s1 s' → Passes lane r (q :: l) s s'

lemma Passes.steps (h : Passes lane r l s s') : Steps (fun _ => True) edges s s' := by
  induction h with
  | nil => exact .refl
  | @cons q l s s1 s' ha hn _ ih =>
    cases hr : s.resolve lane q with
    | none => exact (hn hr).steps.trans ih
    | some id => exact (ha id hr).steps.trans ih

lemma advanceContinuous_passes (hl : Listens .feedback r.floor epoch s) (hg : GapsOnPath .feedback r edge s)
    (receivedAt : Duration) (hq : r.floor ≤ q) (hqs : r.start ≤ q) (hqe : q ≤ edge) :
    (∀ id, s.resolve .feedback q = some id →
        Advances id (r.receives q) s (advanceContinuous r.base r.statuses epoch receivedAt s q)) ∧
      (s.resolve .feedback q = none → Quiet s (advanceContinuous r.base r.statuses epoch receivedAt s q)) := by
  unfold advanceContinuous Span.receives
  cases hst : statusAt r.base r.statuses q with
  | some status =>
    refine ⟨fun id hr => ?_, fun hr => ?_⟩
    · have : s.feedbackSentId q = some id := hr
      simp only [this]
      exact advanceEntry_advances hl.epoch (hl.named hq hr) status receivedAt
    · have : s.feedbackSentId q = none := hr
      simp only [this]
      exact (counters_still _).quiet
  | none =>
    refine ⟨fun id hr => ?_, fun hr => ?_⟩
    · have : s.feedbackSentId q = some id := hr
      simp only [this]
      have hf : Quiet s _ := .single (.flight s id)
      exact ⟨_, hf, .gap rfl (hf.follows.named (hl.named hq hr)) (hf.follows.onPath (hg q id hqs hqe hst hr))⟩
    · have : s.feedbackSentId q = none := hr
      simp only [this]
      exact .refl

lemma advanceIndependent_passes (hl : Listens (.inSpace space) r.floor epoch s) (hq : r.floor ≤ q) :
    (∀ id, s.resolve (.inSpace space) q = some id →
        Advances id (r.receives q) s (advanceIndependent space r epoch receivedAt s q)) ∧
      (s.resolve (.inSpace space) q = none → Quiet s (advanceIndependent space r epoch receivedAt s q)) := by
  unfold advanceIndependent
  refine ⟨fun id hr => ?_, fun hr => ?_⟩
  · have hres : s.lookupPacket space q = some id := hr
    rw [hres]
    have ha := advanceEntry_advances hl.epoch (hl.named hq hr) ((statusAt r.base r.statuses q).getD noStatus) receivedAt
    have heq : ((statusAt r.base r.statuses q).getD noStatus).received = r.receives q := by
      unfold Span.receives
      cases statusAt r.base r.statuses q <;> rfl
    rwa [heq] at ha
  · have hres : s.lookupPacket space q = none := hr
    rw [hres]
    exact (counters_still _).quiet

lemma floor_le_start (r : Span) : r.floor ≤ r.start := by
  unfold Span.start edgeStart
  cases r.oldEdge with
  | none => exact le_rfl
  | some o => exact le_max_left _ _

lemma foldl_passes {f : Sender → ℕ → Sender}
    (hf : ∀ s q, Listens lane r.floor epoch s → GapsOnPath lane r edge s → r.start ≤ q → q ≤ edge →
      (∀ id, s.resolve lane q = some id → Advances id (r.receives q) s (f s q)) ∧
        (s.resolve lane q = none → Quiet s (f s q)))
 (hall : ∀ q ∈ l, r.start ≤ q ∧ q ≤ edge) (hl : Listens lane r.floor epoch s)
    (hg : GapsOnPath lane r edge s) : Passes lane r l s (l.foldl f s) := by
  induction l generalizing s with
  | nil => exact .nil s
  | cons q l ih =>
    obtain ⟨hq, hqe⟩ := hall q mem_cons_self
    obtain ⟨ha, hn⟩ := hf s q hl hg hq hqe
    have hfol : Follows s (f s q) := by
      cases hr : s.resolve lane q with
      | none => exact (hn hr).follows
      | some id => exact ((ha id hr).steps : Steps _ False s _).follows
    exact .cons ha hn (ih (fun q hq => hall q (mem_cons_of_mem _ hq)) (hl.follows hfol) (hg.follows hfol))

lemma noteContinuous_still (s : Sender) (reference generation : ℤ) (fresh : Bool) :
    Costless s (s.noteContinuous reference generation fresh) := by
  unfold noteContinuous
  dsimp only
  split <;> split <;>
    exact { Costless.refl s with }

structure Sweep (lane : Lane) (r : Span) (edge : ℕ) (s s' : Sender) : Prop where
  within : ∃ newest, r.Within newest
  received : r.receivedEdge = some edge
  start : r.start ≤ edge
  passes : ∃ s1, Quiet s s1 ∧ Passes lane r (inclusive r.start edge) s1 s'

lemma Sweep.steps (h : Sweep lane r edge s s') : Steps (fun _ => True) edges s s' := by
  obtain ⟨s1, hq, hp⟩ := h.passes
  exact hq.steps.trans hp.steps

lemma advanceContinuousEdge_cases (hl : Listens .feedback r.floor epoch s) (hold : r.oldEdge = s.highestFeedbackAcked)
    (hw : r.Within newest) (hedge : r.receivedEdge = some edge) (hg : GapsOnPath .feedback r edge s) :
    Quiet s (s.advanceContinuousEdge r.base r.statuses edge epoch receivedAt) ∨ ∃ s1, Sweep .feedback r edge s s1 ∧
      s.advanceContinuousEdge r.base r.statuses edge epoch receivedAt = { s1 with highestFeedbackAcked := some edge } := by
  have hstart : edgeStart (s.oldestFeedback.getD r.base) s.highestFeedbackAcked = r.start := by
    rw [hl.floor rfl, Span.start, hold]
    rfl
  unfold advanceContinuousEdge
  rw [hstart]
  dsimp only
  split
  · exact .inl .refl
  next hin =>
    split
    · exact .inl (counters_still _).quiet
    right
    have hq := anchorMissing_quiet s (.feedback edge) receivedAt
    have hst : r.start ≤ edge := by
      simp only [Bool.or_eq_true, decide_eq_true_eq, not_or, not_lt] at hin
      exact hin.1
    refine ⟨_, ⟨⟨newest, hw⟩, hedge, hst, _, hq, ?_⟩, rfl⟩
    apply foldl_passes _ _ (hl.follows hq.follows) (hg.follows hq.follows)
    · intro s q hl hg hqs hqe
      exact advanceContinuous_passes hl hg receivedAt ((floor_le_start r).trans hqs) hqs hqe
    · intro q hq
      exact mem_inclusive.1 hq

lemma acceptContinuous_cases (hl : Listens .feedback r.floor epoch s) (hold : r.oldEdge = s.highestFeedbackAcked)
    (hw : r.Within newest) :
    Quiet s (s.acceptContinuous r reference generation epoch receivedAt) ∨ ∃ edge s1, Sweep .feedback r edge s s1 ∧
      Quiet { s1 with highestFeedbackAcked := some edge } (s.acceptContinuous r reference generation epoch receivedAt) := by
  unfold acceptContinuous
  cases hrej : s.rejectedStatuses .feedback epoch r with
  | some count => exact .inl (counters_still _).quiet
  | none =>
    dsimp only
    generalize (!r.statuses.isEmpty && _ && _) = fresh
    generalize (s.feedbackGeneration.all _) = reportIsNew
    have hn := noteContinuous_still s reference generation fresh
    cases hedge : r.receivedEdge with
    | none => exact .inl (hn.quiet.trans (settleStatuses_quiet (hl.follows hn.follows) receivedAt reportIsNew))
    | some edge =>
      dsimp only
      have hg := (gapsOnPath hl.epoch hw hrej hedge).follows hn.follows
      have hafter : ∀ s2 : Sender, Listens .feedback r.floor epoch s2 →
          Quiet s2 ((s2.settleStatuses .feedback r epoch receivedAt reportIsNew).anchorMissing (.feedback edge)
            receivedAt) := fun s2 hl2 =>
        (settleStatuses_quiet hl2 receivedAt reportIsNew).trans (anchorMissing_quiet _ _ _)
      rcases advanceContinuousEdge_cases (hl.follows hn.follows)
        (hold.trans hn.highestFeedbackAcked.symm) hw hedge hg with hq | ⟨s1, hsweep, heq⟩
      · have hq' : Quiet s _ := hn.quiet.trans hq
        exact .inl (hq'.trans (hafter _ (hl.follows hq'.follows)))
      obtain ⟨s0, hq, hp⟩ := hsweep.passes
      refine .inr ⟨edge, s1, ⟨⟨newest, hw⟩, hedge, hsweep.start, s0, hn.quiet.trans hq, hp⟩, ?_⟩
      rw [heq]
      have hfol : Follows s s1 := hn.follows.trans (hsweep.steps : Steps _ False _ s1).follows
      exact hafter _ ⟨hfol.activeEpoch.trans hl.epoch, fun hlane => hfol.oldestFeedback.trans (hl.floor hlane)⟩

lemma spanOf_still {old : Option ℕ} (hs : s.spanOf base floor newest old statuses = .inl s') : Costless s s' := by
  unfold spanOf at hs
  split at hs
  · cases hs
    exact ⟨counters_still _, rfl⟩
  split at hs
  · cases hs
    exact ⟨counters_still _, rfl⟩
  split at hs
  · cases hs
    exact ⟨counters_still _, rfl⟩
  split at hs
  · cases hs
    exact ⟨counters_still _, rfl⟩
  · cases hs

lemma processContinuous_cases (hE : s.activeEpoch = some epoch) :
    Quiet s (s.processContinuous base reference generation statuses epoch receivedAt) ∨
      ∃ r edge s1, s.oldestFeedback = some r.floor ∧ r.oldEdge = s.highestFeedbackAcked ∧
        Sweep .feedback r edge s s1 ∧ Quiet { s1 with highestFeedbackAcked := some edge }
          (s.processContinuous base reference generation statuses epoch receivedAt) := by
  unfold processContinuous
  split
  next newest floor hnew hfl =>
    cases hsp : s.spanOf base floor newest s.highestFeedbackAcked statuses with
    | inl s' => exact .inl (spanOf_still hsp).quiet
    | inr r =>
      obtain ⟨hw, hrf, hro⟩ := spanOf_inr hsp
      have hfloor : s.oldestFeedback = some r.floor := by rw [hfl, hrf]
      rcases acceptContinuous_cases ⟨hE, fun _ => hfloor⟩ hro hw with
        hq | ⟨edge, s1, hsweep, hq⟩
      · exact .inl hq
      · exact .inr ⟨r, edge, s1, hfloor, hro, hsweep, hq⟩
  · exact .inl (counters_still _).quiet

lemma processContinuous_steps (hE : s.activeEpoch = some epoch) (base : ℕ) (reference generation : ℤ)
    (statuses : List SendStatus) (receivedAt : Duration) :
    Steps (fun _ => True) True s (s.processContinuous base reference generation statuses epoch receivedAt) := by
  rcases processContinuous_cases hE with
    hq | ⟨r, edge, s1, -, -, hsweep, hq⟩
  · exact hq.steps
  · exact (hsweep.steps.tail (.edge s1 edge trivial)).trans hq.steps

def raiseEdge (s : Sender) (space : SpaceId) (edge : ℕ) : Sender :=
  s.updateSpace space fun state => { state with highestAckedSequence := some edge }

lemma advanceIndependentEdge_cases (hl : Listens (.inSpace space) r.floor epoch s) (hw : r.Within newest)
    (hg : ∀ edge, r.receivedEdge = some edge → GapsOnPath (.inSpace space) r edge s) :
    s.advanceIndependentEdge space r epoch receivedAt = s ∨ ∃ edge s1, Sweep (.inSpace space) r edge s s1 ∧
      s.advanceIndependentEdge space r epoch receivedAt = s1.raiseEdge space edge := by
  unfold advanceIndependentEdge
  cases hedge : r.receivedEdge with
  | none => exact .inl rfl
  | some edge =>
    dsimp only
    split
    next hst =>
      right
      have hq := anchorMissing_quiet s (.inSpace space edge) receivedAt
      refine ⟨edge, _, ⟨⟨newest, hw⟩, hedge, hst, _, hq, ?_⟩, rfl⟩
      apply foldl_passes _ _ (hl.follows hq.follows) ((hg edge hedge).follows hq.follows)
      · intro s q hl _ hqs _
        exact advanceIndependent_passes hl ((floor_le_start r).trans hqs)
      · intro q hq
        exact mem_inclusive.1 hq
    · exact .inl rfl

lemma raiseEdge_micro : Micro (fun _ => True) True s (s.raiseEdge space edge) :=
  .note s space _ trivial fun _ => ⟨rfl, rfl, rfl⟩

lemma noteIndependent_steps (s : Sender) (space : SpaceId) (epoch : Epoch) (timestamp : ℤ) (fresh : Bool) :
    Steps (fun _ => True) True s (s.noteIndependent space epoch timestamp fresh) := by
  refine .tail (.single (.still ?_ ?_)) (.note _ space _ trivial fun st => ?_)
  · exact { Still.refl s with }
  · rfl
  · split <;> exact ⟨rfl, rfl, rfl⟩

inductive Swept (space : SpaceId) (r : Span) (s : Sender) : Sender → Prop
  | none : Swept space r s s
  | sweep {edge : ℕ} {s1 : Sender} : Sweep (.inSpace space) r edge s s1 → Swept space r s (s1.raiseEdge space edge)

lemma Swept.steps (h : Swept space r s s') : Steps (fun _ => True) True s s' := by
  cases h with
  | none => exact .refl
  | sweep hs => exact hs.steps.tail (raiseEdge_micro)

lemma acceptIndependent_cases (hl : Listens (.inSpace space) r.floor epoch s) (hw : r.Within newest) {timestamp : ℤ}
    {reportIsNew : Bool} :
    Quiet s (s.acceptIndependent space r timestamp reportIsNew epoch receivedAt hold).1 ∨
      ∃ fresh s1, Swept space r s s1 ∧ Quiet (s1.noteIndependent space epoch timestamp fresh)
        (s.acceptIndependent space r timestamp reportIsNew epoch receivedAt hold).1 := by
  unfold acceptIndependent
  cases hrej : s.rejectedStatuses _ epoch r with
  | some count => exact .inl (counters_still _).quiet
  | none =>
    right
    dsimp only
    generalize ((s.hasLive _ r receivedAt || _) && _) = fresh
    have hs : Swept space r s (if r.statuses.isEmpty then s else s.advanceIndependentEdge space r epoch receivedAt) := by
      split
      · exact .none
      rcases advanceIndependentEdge_cases hl hw (fun _ => gapsOnPath hl.epoch hw hrej) with
        heq | ⟨edge, s1, hsweep, heq⟩
      · rw [heq]
        exact .none
      · rw [heq]
        exact .sweep hsweep
    revert hs
    generalize (if r.statuses.isEmpty then s else s.advanceIndependentEdge space r epoch receivedAt) = s1
    intro hs
    refine ⟨fresh, s1, hs, ?_⟩
    have hl2 := hl.follows (Steps.follows (hs.steps.trans (noteIndependent_steps s1 space epoch timestamp fresh)))
    have hq := settleStatuses_quiet hl2 receivedAt reportIsNew
    split
    · exact hq.trans (anchorMissing_quiet _ _ _)
    · exact hq

lemma processIndependentReport_cases (hE : s.activeEpoch = some epoch) {report : IndependentReport} :
    Quiet s (processIndependentReport epoch receivedAt (s, hold) report).1 ∨
      ∃ state r fresh s1, s.spaces.lookup report.space = some state ∧ r.oldEdge = state.highestAckedSequence ∧
        Swept report.space r s s1 ∧ Quiet (s1.noteIndependent report.space epoch report.generation fresh)
          (processIndependentReport epoch receivedAt (s, hold) report).1 := by
  unfold processIndependentReport
  dsimp only
  split
  · exact .inl (counters_still _).quiet
  next state hst =>
    split
    · exact .inl (counters_still _).quiet
    split
    next s' hsp => exact .inl (spanOf_still hsp).quiet
    next r hsp =>
      obtain ⟨hw, -, hro⟩ := spanOf_inr hsp
      rcases acceptIndependent_cases ⟨hE, nofun⟩ hw with
        hq | ⟨fresh, s1, hs, hq⟩
      · exact .inl hq
      · exact .inr ⟨state, r, fresh, s1, hst, hro, hs, hq⟩

lemma processIndependentReport_steps (hE : s.activeEpoch = some epoch) (receivedAt : Duration) (hold : Option Duration)
    (report : IndependentReport) :
    Steps (fun _ => True) True s (processIndependentReport epoch receivedAt (s, hold) report).1 := by
  rcases processIndependentReport_cases hE with hq | ⟨state, r, fresh, s1, -, -, hs, hq⟩
  · exact hq.steps
  · exact (hs.steps.trans (noteIndependent_steps s1 report.space epoch report.generation fresh)).trans hq.steps

lemma processIndependent_keep
    (hP : ∀ (s : Sender) hold report, s.activeEpoch = some epoch → P s →
      P (processIndependentReport epoch receivedAt (s, hold) report).1)
    (reports : List IndependentReport) (hE : s.activeEpoch = some epoch) (hs : P s) :
    P (s.processIndependent reports epoch receivedAt).1 := by
  unfold processIndependent
  generalize none = hold
  induction reports generalizing s hold with
  | nil => exact hs
  | cons report reports ih =>
    have hfol := (processIndependentReport_steps hE receivedAt hold report).follows
    exact ih (hfol.activeEpoch.trans hE) (hP s hold report hE hs) _

lemma applyReport_steps (batch : SendFeedback) (hE : s.activeEpoch = some batch.pathEpoch) :
    Steps (fun _ => True) True s (s.applyReport batch).1 := by
  unfold applyReport
  cases batch.report with
  | continuous base reference generation statuses => exact processContinuous_steps hE _ _ _ _ _
  | independent reports =>
    exact processIndependent_keep
      (fun s1 hold report hE1 h => h.trans (processIndependentReport_steps hE1 _ hold report)) reports hE .refl

lemma noteTiming_still (s : Sender) (priorEvidence : ℕ) (receivedAt : Duration) (hold : Option Duration) :
    Costless s (s.noteTiming priorEvidence receivedAt hold) := by
  unfold noteTiming
  dsimp only
  split
  · exact { Costless.refl s with }
  · exact .refl s

lemma processFeedback_cases (s : Sender) (batch : SendFeedback) (room : Room) :
    s.processFeedback batch room = s ∨ (∃ c, s.processFeedback batch room = { s with room := room, counters := c }) ∨
      s.activeEpoch = some batch.pathEpoch ∧ matchesMode s.mode batch.report = true ∧
        ∃ prior hold, s.processFeedback batch room =
          (((({ s with room := room } : Sender).applyReport batch).1.applyReorderingWindow batch.receivedAt).noteTiming
            prior batch.receivedAt hold) := by
  unfold processFeedback
  split
  · exact .inl rfl
  right
  dsimp only
  split_ifs with hmany hactive hbad
  · exact .inl ⟨_, rfl⟩
  · exact .inl ⟨_, rfl⟩
  · exact .inl ⟨_, rfl⟩
  · simp only [Bool.or_eq_true, not_or, Bool.not_eq_true', Bool.not_eq_false] at hbad
    exact .inr ⟨not_not.1 hactive, hbad.1.1, _, _, rfl⟩

lemma processFeedback_steps (s : Sender) (batch : SendFeedback) (room : Room) :
    Steps (fun _ => True) True s (s.processFeedback batch room) := by
  rcases processFeedback_cases s batch room with h | ⟨c, h⟩ | ⟨hE, -, prior, hold, h⟩
  · rw [h]
  · rw [h]
    exact .tail (.single (.still (room_still room) rfl)) (.still (counters_still c) rfl)
  rw [h]
  have hr : Steps (fun _ => True) True s (applyReport { s with room := room } batch).1 :=
    Relation.ReflTransGen.head (.still (room_still room) rfl) (applyReport_steps batch hE)
  exact (hr.tail (.window _ _)).trans (noteTiming_still _ _ _ _).quiet.steps

end Reports

section Expiry

inductive Chore : Sender → Sender → Prop
  | requeue {s : Sender} {l : List SentPacketId} : s.lossWork ≠ s.config.maxExpirationsPerPoll →
      (∀ x ∈ l, x ∈ s.missing) →
      (∀ x e, s.entry x = some e → e.acknowledgment.isMissing = true → l.count x = s.missing.count x) →
      Chore s { s with missing := l, lossWork := s.lossWork + 1 }
  | confirm {s : Sender} {id : SentPacketId} {rest : List SentPacketId} :
      s.lossWork ≠ s.config.maxExpirationsPerPoll → s.missing = id :: rest →
      Chore s (setLost { s with missing := rest, lossWork := s.lossWork + 1 } id .reordering)
  | reclaim {s : Sender} {deadline : Option Duration} {space : SpaceId} :
      s.readiness.elems.head? = some (.retired deadline space) →
      Chore s { s with readiness := s.readiness.erase (.retired deadline space), spaces := s.spaces.erase space }
  | oldest {s : Sender} : s.oldestSentId < s.nextSentId → Chore s { s with oldestSentId := s.oldestSentId + 1 }

abbrev Expires : Sender → Sender → Prop :=
  Relation.ReflTransGen fun s s' => Micro (fun _ => False) False s s' ∨ Chore s s'

lemma confirm_micro {rest : List SentPacketId} (hwork : s.lossWork ≠ s.config.maxExpirationsPerPoll)
    (id : SentPacketId) : Micro (fun _ => False) False { s with missing := rest }
      (setLost { s with missing := rest, lossWork := s.lossWork + 1 } id .reordering) := .lose _ id _ hwork

lemma Chore.preserves (h : Chore s s') : Preserves s s' := by
  cases h with
  | requeue | reclaim | oldest => exact { Preserves.refl s with }
  | @confirm id rest hwork =>
    have hf := (@confirm_micro _ rest hwork id).follows
    exact { hf with }

lemma Quiet.expires (h : Quiet s s') : Expires s s' := by
  induction h with
  | refl => exact .refl
  | tail _ h ih => exact ih.tail (.inl h)

lemma Expires.keep (hmicro : ∀ s s', Micro (fun _ => False) False s s' → P s → P s')
    (hchore : ∀ s s', Chore s s' → P s → P s') (h : Expires s s') (hs : P s) : P s' := by
  induction h with
  | refl => exact hs
  | tail _ h ih => exact h.elim (fun h => hmicro _ _ h ih) fun h => hchore _ _ h ih

lemma Expires.preserves (h : Expires s s') : Preserves s s' :=
  h.keep (fun _ _ h hs => hs.trans h.follows.toPreserves) (fun _ _ h hs => hs.trans h.preserves) (.refl s)

variable {rest : List SentPacketId}

lemma count_tail {x : SentPacketId} (h : x ≠ id) :
    rest.count x = (id :: rest).count x := (count_cons_of_ne (Ne.symm h)).symm

def meter (s : Sender) : ℕ × ℕ := (s.budget.limit, s.budget.work)

lemma meter_emit (s : Sender) (id : SentPacketId) (origin : LossOrigin) :
    (s.emit id false false (some origin)).meter = s.meter ∧
      (s.emit id false false (some origin)).readiness = s.readiness := by
  unfold emit emitObserved
  split
  · exact ⟨rfl, rfl⟩
  split
  · exact ⟨rfl, rfl⟩
  simp only [Option.isNone_some, Bool.false_eq_true, if_false, Bool.not_true]
  unfold pushObservation
  split
  · split <;> exact ⟨rfl, rfl⟩
  · exact ⟨rfl, rfl⟩

lemma meter_setLost (s : Sender) (id : SentPacketId) (origin : LossOrigin) : (s.setLost id origin).meter = s.meter := by
  unfold setLost
  split
  · rfl
  split
  · rfl
  · rw [(meter_emit ..).1]
    exact congrArg (fun b => (b.limit, b.work)) (budget_of_apart ((apart_eraseKey _ _).trans (apart_updateEntry s _ _)))

lemma meter_markLostUnbudgeted (s : Sender) (id : SentPacketId) (origin : LossOrigin) :
    (s.markLostUnbudgeted id origin).meter = s.meter := by
  unfold markLostUnbudgeted
  split
  · split
    · rfl
    · rw [meter_setLost]
      exact congrArg (fun b => (b.limit, b.work)) (budget_of_apart (apart_retireFromFlight s id))
  · exact meter_setLost ..

lemma meter_confirmLoss (s : Sender) (now : Duration) (id : SentPacketId) :
    (confirmLoss now s id).meter = (s.config.maxExpirationsPerPoll, s.lossWork + 1) := by
  unfold confirmLoss
  dsimp only
  split
  · rfl
  split
  · split
    · rfl
    split
    · rfl
    · exact meter_markLostUnbudgeted ..
  · rfl

lemma charge_expires (hwork : s.lossWork ≠ s.config.maxExpirationsPerPoll) :
    Expires s { s with lossWork := s.lossWork + 1 } :=
  .single (.inr (.requeue hwork (fun _ h => h) fun _ _ _ _ => rfl))

lemma confirmLoss_expires (now : Duration) (hwork : s.lossWork ≠ s.config.maxExpirationsPerPoll)
    (hm : s.missing = id :: rest) :
    Expires s (({ s with missing := rest } : Sender).confirmLoss now id) := by
  have hdrop : (∀ e, s.entry id = some e → e.acknowledgment.isMissing = false) →
      Expires s { s with missing := rest, lossWork := s.lossWork + 1 } := by
    intro hnot
    refine .single (.inr (.requeue hwork (fun x hx => ?_) fun x e he hmiss => ?_))
    · rw [hm]
      exact mem_cons_of_mem _ hx
    · rw [hm]
      apply count_tail
      rintro rfl
      rw [hnot e he] at hmiss
      cases hmiss
  have hrotate : Expires s { s with missing := rest ++ [id], lossWork := s.lossWork + 1 } := by
    refine .single (.inr (.requeue hwork (fun x hx => ?_) fun x e he hmiss => ?_))
    · rw [hm]
      simpa [or_comm] using hx
    · rw [hm]
      exact (perm_append_singleton id rest).count_eq x
  unfold confirmLoss
  dsimp only
  cases he : s.entry id with
  | none =>
    have he' : ({ s with missing := rest, lossWork := s.lossWork + 1 } : Sender).entry id = none := he
    rw [he']
    exact hdrop fun e he' => by rw [he] at he'; cases he'
  | some e =>
    have he' : ({ s with missing := rest, lossWork := s.lossWork + 1 } : Sender).entry id = some e := he
    rw [he']
    dsimp only
    split
    next hmiss =>
      split
      · exact hrotate
      split
      · exact hrotate
      · exact .single (.inr (.confirm hwork hm))
    next hmiss =>
      refine hdrop fun x hx => ?_
      rw [he] at hx
      cases hx
      simpa using hmiss

lemma confirmLoop_expires (now : Duration) (n : ℕ) (s : Sender) (hn : n ≤ s.config.maxExpirationsPerPoll - s.lossWork) :
    Expires s (confirmLoop now n s).1 := by
  induction n generalizing s with
  | zero => exact .refl
  | succ n ih =>
    unfold confirmLoop
    split
    · exact .refl
    next id rest hm =>
      refine (confirmLoss_expires now (by omega) hm).trans (ih _ ?_)
      have hmeter := meter_confirmLoss { s with missing := rest } now id
      have hlimit : (confirmLoss now { s with missing := rest } id).config.maxExpirationsPerPoll = _ :=
        congrArg Prod.fst hmeter
      have hspent : (confirmLoss now { s with missing := rest } id).lossWork = s.lossWork + 1 := congrArg Prod.snd hmeter
      dsimp only at hlimit
      omega

lemma reclaimSources_expires (now : Duration) (n : ℕ) (s : Sender) : Expires s (reclaimSources now n s).1 := by
  induction n generalizing s with
  | zero => exact .refl
  | succ n ih =>
    unfold reclaimSources
    split
    next hlt =>
      split
      next deadline space hhead =>
        split
        · exact .refl
        · exact ((charge_expires hlt.ne).tail (.inr (.reclaim hhead))).trans (ih _)
      · exact .refl
    · exact .refl

lemma expireEntry_expires (he : s.entry id = some e) (hwork : s.lossWork ≠ s.config.maxExpirationsPerPoll)
    (hlt : s.oldestSentId < s.nextSentId) : Expires s (s.expireEntry id e) := by
  unfold expireEntry
  dsimp only
  split
  · exact (charge_expires hwork).tail (.inr (.oldest hlt))
  have hm := markLostUnbudgeted_quiet he hwork .historyExpiry
  revert hm
  generalize markLostUnbudgeted { s with lossWork := s.lossWork + 1 } id .historyExpiry = s1
  intro hm
  have hc : Quiet s { s1 with counters := { s1.counters with
      expired := Word.saturatingAdd 64 s1.counters.expired 1 } } := hm.trans (counters_still _).quiet
  refine hc.expires.tail (.inr (.oldest ?_))
  rw [hc.follows.oldestSentId, hc.follows.nextSentId]
  exact hlt

lemma expireLoop_expires (now : Duration) (n : ℕ) (s : Sender) : Expires s (expireLoop now n s).1 := by
  induction n generalizing s with
  | zero => exact .refl
  | succ n ih =>
    unfold expireLoop
    split
    next hcond =>
      obtain ⟨hwork, hlt⟩ : s.lossWork < s.config.maxExpirationsPerPoll ∧ s.oldestSentId < s.nextSentId := by
        simpa using hcond
      split
      · exact ((charge_expires hwork.ne).tail (.inr (.oldest hlt))).trans (ih _)
      next e he =>
        split
        · exact .refl
        split
        · exact .refl
        · exact (expireEntry_expires he hwork.ne hlt).trans (ih _)
    · exact .refl

lemma expire_expires (s : Sender) (now : Duration) (limit : ℕ) : Expires s (s.expire now limit).1 :=
  ((confirmLoop_expires now _ s (min_le_right _ _)).trans (reclaimSources_expires now _ _)).trans (expireLoop_expires now _ _)

end Expiry

end Pulsebeam.Feedback.Sender
