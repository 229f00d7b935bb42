import Pulsebeam.Feedback.Window

/-! How often and in which order a packet is observed. -/

namespace Pulsebeam.Feedback

def SentEntry.Settled (e : SentEntry) : Prop :=
  e.acknowledgment.isTerminal = true ∧ ¬ (e.acknowledgment = .lost ∧ e.missingSince ≠ none)

def tally (p : SentObservation → Bool) (id : SentPacketId) (l : List SentObservation) : ℕ :=
  l.countP fun o => o.sentId == id && p o

namespace Sender

variable {s s' : Sender} {e e' e1 : SentEntry} {id x : SentPacketId} {o : Outcome} {acks : SentPacketId → Prop}
  {edges : Prop} {p : SentObservation → Bool} {l ret : List SentObservation}

section Tally

lemma tally_append (l l' : List SentObservation) : tally p id (l ++ l') = tally p id l + tally p id l' :=
  List.countP_append

lemma tally_singleton (sample : SentObservation) :
    tally p id [sample] = if sample.sentId = id ∧ p sample = true then 1 else 0 := by
  simp [tally]

lemma tally_pos : 0 < tally p id l ↔ ∃ o ∈ l, o.sentId = id ∧ p o = true := by
  simp [tally]

lemma tally_le_of_imp {p' : SentObservation → Bool} (h : ∀ o ∈ l, p o = true → p' o = true) :
    tally p id l ≤ tally p' id l := by
  apply List.countP_mono_left
  intro o ho
  simp only [Bool.and_eq_true]
  exact fun hp => ⟨hp.1, h o ho hp.2⟩

lemma tally_pushed {sample : SentObservation} (h : Pushed s s' sample) :
    tally p id (ret ++ s'.observations) =
      tally p id (ret ++ s.observations) + if sample.sentId = id ∧ p sample = true then 1 else 0 := by
  unfold observations
  rcases h with ⟨hf, hs⟩ | ⟨hf, hs⟩
  · simp only [hf, hs, tally_append, tally_singleton]
    omega
  · simp only [hf, hs, tally_append, tally_singleton]
    omega

end Tally

section Utterance

structure Calms (s s' : Sender) : Prop where
  lists : SameLists s s'
  entry : ∀ x y, s'.entry x = some y → ∃ e, s.entry x = some e ∧ (e.Settled → y.Settled) ∧
    (e.acknowledgment = .lost → y.acknowledgment = .lost) ∧ y.networkLossReported = e.networkLossReported

structure Speaks (s s' : Sender) (id : SentPacketId) (e e1 : SentEntry) (o : Outcome) : Prop where
  found : s.entry id = some e
  same : e1.id = id
  entry : ∀ x y, s'.entry x = some y → (x = id ∧
    y = { e1 with networkLossReported := (observe s.mode e1 o).2.networkLossReported }) ∨ x ≠ id ∧ s.entry x = some y
  pushed : Pushed s s' (observe s.mode e1 o).1
  flag : e1.networkLossReported = e.networkLossReported
  receipt : o.received = true → ¬ e.Settled ∧ e1.Settled
  loss : o.lossOrigin.isSome = true → e.acknowledgment.isTerminal = false ∧ e1.acknowledgment = .lost
  first : o.received = false → o.lossOrigin.isSome = true ∨ e1.acknowledgment.isMissing = true →
    e.acknowledgment.isTerminal = false
  settled : e.Settled → e1.Settled
  lost : e.acknowledgment = .lost → e1.acknowledgment = .lost

lemma calms_of_eq (hl : SameLists s s') (he : ∀ x, s'.entry x = s.entry x) : Calms s s' :=
  ⟨hl, fun x y hy => ⟨y, he x ▸ hy, fun h => h, fun h => h, rfl⟩⟩

lemma Writes.calms (hw : Writes s s' id e e') (hl : SameLists s s') (hs : e.Settled → e'.Settled)
    (hlost : e.acknowledgment = .lost → e'.acknowledgment = .lost)
    (hf : e'.networkLossReported = e.networkLossReported) : Calms s s' := by
  refine ⟨hl, fun x y hy => ?_⟩
  rcases hw.entry_cases hy with ⟨rfl, rfl⟩ | ⟨-, hy⟩
  · exact ⟨e, hw.found, hs, hlost, hf⟩
  · exact ⟨y, hy, fun h => h, fun h => h, rfl⟩

lemma Writes.speaks {reported : Bool} (hw : Writes s s' id e { e1 with networkLossReported := reported })
    (ht : Tells s s' e1 o reported) (hx : s'.inputs.exhausted = false)
    (flag : e1.networkLossReported = e.networkLossReported)
    (receipt : o.received = true → ¬ e.Settled ∧ e1.Settled)
    (loss : o.lossOrigin.isSome = true → e.acknowledgment.isTerminal = false ∧ e1.acknowledgment = .lost)
    (first : o.received = false → o.lossOrigin.isSome = true ∨ e1.acknowledgment.isMissing = true →
      e.acknowledgment.isTerminal = false)
    (settled : e.Settled → e1.Settled) (lost : e.acknowledgment = .lost → e1.acknowledgment = .lost) :
    Speaks s s' id e e1 o := by
  rcases ht with ⟨-, hex⟩ | ⟨hp, hr⟩
  · rw [hex] at hx
    cases hx
  · have hid : e1.id = id := hw.kin.id.trans (entry_eq_some.1 hw.found).2
    exact ⟨hw.found, hid, fun x y hy => hr ▸ hw.entry_cases hy, hp, flag, receipt, loss, first, settled, lost⟩

lemma not_settled_of_live (h : e.acknowledgment.isTerminal = false) : ¬ e.Settled := by
  intro hs
  rw [hs.1] at h
  cases h

lemma Micro.utters (h : Micro acks edges s s') (hx : s'.inputs.exhausted = false) :
    Calms s s' ∨
      (∃ l last, s.inputs.feedback = l ++ [last] ∧ acks last.sentId ∧
        s' = { s with inputs := { s.inputs with feedback := l ++ [{ last with newlyAcked := true }] } }) ∨
      ∃ id e e1 o, Speaks s s' id e e1 o ∧ (o.newlyAcked = true → acks id) := by
  cases h with
  | still h _ => exact .inl (calms_of_eq h.toSameLists h.entry)
  | flight id =>
    rcases retireFromFlight_cases s id with h | ⟨e, hw, -, hl⟩
    · exact .inl (h.symm ▸ calms_of_eq ⟨rfl, rfl⟩ fun _ => rfl)
    · exact .inl (hw.calms hl (fun h => h) (fun h => h) rfl)
  | take id t =>
    rcases takeMissingSince_cases s id t with h | ⟨e, hw, -, hl⟩
    · exact .inl (h.symm ▸ calms_of_eq ⟨rfl, rfl⟩ fun _ => rfl)
    · exact .inl (hw.calms hl (fun h => ⟨h.1, fun hm => hm.2 rfl⟩) (fun h => h) rfl)
  | lose id origin hwork =>
    rcases charged_cases s id (s.lossWork + 1) origin with ⟨h, -⟩ | ⟨e, hlive, b, hw, -, ht⟩
    · exact .inl (calms_of_eq h.toSameLists h.entry)
    · exact .inr (.inr ⟨id, e, _, _, hw.speaks ht hx rfl (fun h => by cases h) (fun _ => ⟨hlive, rfl⟩)
        (fun _ _ => hlive) (fun h => absurd h (not_settled_of_live hlive)) fun _ => rfl, fun h => by cases h⟩)
  | receive acked arrival ecn t hn hp hack =>
    rcases setReceived_cases s _ acked arrival ecn t with h | ⟨e, hopen, b, hw, -, ht⟩
    · exact .inl (calms_of_eq h.toSameLists h.entry)
    have hnot : ¬ e.Settled := by
      rcases hopen with hlive | hlate
      · exact not_settled_of_live hlive
      · exact fun hs => hs.2 hlate
    refine .inr (.inr ⟨_, e, _, _, hw.speaks ht hx rfl (fun _ => ⟨hnot, ?_, fun hm => hm.2 rfl⟩)
      (fun h => by cases h) (fun h => by cases h) (fun h => absurd h hnot) (fun h => ?_), hack⟩)
    · by_cases hlost : e.acknowledgment = .lost
      · simp [hlost, Acknowledgment.isTerminal]
      · simp [hlost, Acknowledgment.isTerminal]
    · simp [h]
  | miss id now =>
    rcases setMissing_cases s id now with h | ⟨e, hpend, b, hw, -, ht⟩
    · exact .inl (calms_of_eq h.toSameLists h.entry)
    have hlive : e.acknowledgment.isTerminal = false := by rw [hpend]; rfl
    exact .inr (.inr ⟨id, e, _, _, hw.speaks ht hx rfl (fun h => by cases h) (fun h => by cases h)
      (fun _ _ => hlive) (fun h => absurd h (not_settled_of_live hlive)) (fun h => by rw [hpend] at h; cases h),
      fun h => by cases h⟩)
  | ack hn hp hack =>
    rcases emitAck_cases s _ with h | ⟨l, last, hl, hid, h⟩ | ⟨e, b, hw, -, ht⟩
    · exact .inl (h.symm ▸ calms_of_eq ⟨rfl, rfl⟩ fun _ => rfl)
    · exact .inr (.inl ⟨l, last, hl, hid.symm ▸ hack, h⟩)
    refine .inr (.inr ⟨_, e, e, _, hw.speaks ht hx rfl (fun h => by cases h) (fun h => by cases h)
      (fun _ hm => ?_) (fun h => h) (fun h => h), fun _ => hack⟩)
    rcases hm with hm | hm
    · cases hm
    · cases hack' : e.acknowledgment <;> simp_all [Acknowledgment.isMissing, Acknowledgment.isTerminal]
  | anchor edge t id =>
    rcases anchorEntry_cases edge t s id with h | ⟨e, since, hmiss, hw, -, hl⟩
    · exact .inl (h.symm ▸ calms_of_eq ⟨rfl, rfl⟩ fun _ => rfl)
    · exact .inl (hw.calms hl (fun h => absurd h (not_settled_of_live (by rw [hmiss]; rfl)))
        (fun h => by rw [hmiss] at h; cases h) rfl)
  | window now =>
    refine .inl ⟨(applyReorderingWindow_lists s now).1, fun x y hy => ?_⟩
    obtain ⟨e, f, he, rfl⟩ := applyReorderingWindow_entry hy
    exact ⟨e, he, fun h => h, fun h => h, rfl⟩
  | edge q hq => exact .inl (calms_of_eq ⟨rfl, rfl⟩ fun _ => rfl)
  | note space f hq hf =>
    left
    unfold updateSpace
    split <;> exact calms_of_eq ⟨rfl, rfl⟩ fun _ => rfl

end Utterance

section Told

structure Tallied (log : List SentObservation) (next : SentPacketId) (entry : SentPacketId → Option SentEntry) :
    Prop where
  known : ∀ o ∈ log, o.sentId < next
  receipts : ∀ o ∈ log, o.recovered = true → o.received = true
  received : ∀ id, tally (·.received) id log ≤ 1
  lost : ∀ id, tally (·.lost) id log ≤ 1
  reported : ∀ id, tally (·.reportedLostForTheFirstTime) id log ≤ 1
  recovered : ∀ id, 0 < tally (·.recovered) id log → 0 < tally (·.reportedLostForTheFirstTime) id log
  settled : ∀ id e, entry id = some e → 0 < tally (·.received) id log → e.Settled
  gone : ∀ id e, entry id = some e → 0 < tally (·.lost) id log → e.acknowledgment = .lost
  flagged : ∀ id e, entry id = some e → 0 < tally (·.reportedLostForTheFirstTime) id log →
    e.networkLossReported = true ∨ e.Settled
  flag : ∀ id e, entry id = some e → e.networkLossReported = true → 0 < tally (·.reportedLostForTheFirstTime) id log

abbrev Told (ret : List SentObservation) (s : Sender) : Prop :=
  Tallied (ret ++ s.observations) s.nextSentId s.entry

lemma Tallied.calm {log : List SentObservation} (ht : Tallied log s.nextSentId s.entry) {ret' : List SentObservation}
    (hl : ret' ++ s'.observations = log) (hn : s'.nextSentId = s.nextSentId)
    (he : ∀ x y, s'.entry x = some y → ∃ e, s.entry x = some e ∧ (e.Settled → y.Settled) ∧
      (e.acknowledgment = .lost → y.acknowledgment = .lost) ∧ y.networkLossReported = e.networkLossReported) :
    Told ret' s' := by
  rw [Told, hl, hn]
  refine { ht with settled := ?_, gone := ?_, flagged := ?_, flag := ?_ }
  · intro id y hy hpos
    obtain ⟨e, he, hs, -, -⟩ := he id y hy
    exact hs (ht.settled id e he hpos)
  · intro id y hy hpos
    obtain ⟨e, he, -, hlost, -⟩ := he id y hy
    exact hlost (ht.gone id e he hpos)
  · intro id y hy hpos
    obtain ⟨e, he, hs, -, hf⟩ := he id y hy
    rw [hf]
    exact (ht.flagged id e he hpos).imp_right hs
  · intro id y hy hflag
    obtain ⟨e, he, -, -, hf⟩ := he id y hy
    exact ht.flag id e he (hf ▸ hflag)

lemma Tallied.merge (ht : Told ret s) {last : SentObservation} (hl : s.inputs.feedback = l ++ [last]) :
    Told ret { s with inputs := { s.inputs with feedback := l ++ [{ last with newlyAcked := true }] } } := by
  have hmem : ∀ {q : SentObservation → Prop}, (∀ o ∈ ret ++ s.observations, q o) →
      (q last → q { last with newlyAcked := true }) →
      ∀ o ∈ ret ++ (l ++ [{ last with newlyAcked := true }] ++ s.inputs.synthetic), q o := by
    intro q hq hlast o ho
    have hold : last ∈ ret ++ s.observations := by simp [observations, hl]
    simp only [List.mem_append, List.mem_singleton] at ho
    rcases ho with ho | (ho | rfl) | ho
    · exact hq o (by simp [ho])
    · exact hq o (by simp [observations, hl, ho])
    · exact hlast (hq last hold)
    · exact hq o (by simp [observations, ho])
  have htally : ∀ {q : SentObservation → Bool} (id : SentPacketId), q { last with newlyAcked := true } = q last →
      tally q id (ret ++ (l ++ [{ last with newlyAcked := true }] ++ s.inputs.synthetic)) =
        tally q id (ret ++ s.observations) := by
    intro q id hq
    simp only [observations, hl, tally_append, tally_singleton, hq]
  have hreceived := fun id => htally (q := (·.received)) id rfl
  have hlost := fun id => htally (q := (·.lost)) id rfl
  have hreported := fun id => htally (q := (·.reportedLostForTheFirstTime)) id rfl
  have hrecovered := fun id => htally (q := (·.recovered)) id rfl
  constructor
  · exact hmem ht.known fun h => h
  · exact hmem ht.receipts fun h => h
  · exact fun id => (hreceived id).trans_le (ht.received id)
  · exact fun id => (hlost id).trans_le (ht.lost id)
  · exact fun id => (hreported id).trans_le (ht.reported id)
  · exact fun id h => (ht.recovered id (h.trans_eq (hrecovered id))).trans_eq (hreported id).symm
  · exact fun id e he h => ht.settled id e he (h.trans_eq (hreceived id))
  · exact fun id e he h => ht.gone id e he (h.trans_eq (hlost id))
  · exact fun id e he h => ht.flagged id e he (h.trans_eq (hreported id))
  · exact fun id e he h => (ht.flag id e he h).trans_eq (hreported id).symm

lemma observe_flag (mode : Option FeedbackMode) (e : SentEntry) (o : Outcome) :
    (observe mode e o).2.networkLossReported = if (observe mode e o).1.reportedLostForTheFirstTime = true then true
      else if (observe mode e o).1.recovered = true then false else e.networkLossReported := rfl

lemma Speaks.order (h : Speaks s s' id e e1 o) (ht : Told ret s) :
    ((observe s.mode e1 o).1.received = true → tally (·.received) id (ret ++ s.observations) = 0) ∧
    ((observe s.mode e1 o).1.lost = true → tally (·.received) id (ret ++ s.observations) = 0 ∧
      tally (·.lost) id (ret ++ s.observations) = 0) ∧
    ((observe s.mode e1 o).1.reportedLostForTheFirstTime = true →
      tally (·.reportedLostForTheFirstTime) id (ret ++ s.observations) = 0) ∧
    ((observe s.mode e1 o).1.recovered = true →
      0 < tally (·.reportedLostForTheFirstTime) id (ret ++ s.observations)) := by
  have hzero : ∀ {n : ℕ}, (0 < n → False) → n = 0 := fun h => Nat.eq_zero_of_not_pos h
  refine ⟨fun hr => hzero fun hpos => ?_, fun hl => ⟨hzero fun hpos => ?_, hzero fun hpos => ?_⟩,
    fun hr => hzero fun hpos => ?_, fun hr => ?_⟩
  · exact (h.receipt hr).1 (ht.settled id e h.found hpos)
  · exact not_settled_of_live (h.loss hl).1 (ht.settled id e h.found hpos)
  · have := (h.loss hl).1
    rw [ht.gone id e h.found hpos] at this
    cases this
  · simp only [observe, Bool.and_eq_true, Bool.not_eq_true', Bool.or_eq_true, beq_iff_eq] at hr
    obtain ⟨⟨⟨-, hrec⟩, hflag⟩, hwhy⟩ := hr
    have hlive := h.first hrec (hwhy.imp (fun h => by rw [h]; rfl) fun h => h)
    rcases ht.flagged id e h.found hpos with hf | hs
    · rw [← h.flag, hflag] at hf
      cases hf
    · exact not_settled_of_live hlive hs
  · simp only [observe, Bool.and_eq_true] at hr
    exact ht.flag id e h.found (h.flag ▸ hr.2)

section Speaks

variable (h : Speaks s s' id e e1 o) (q : SentObservation → Bool)

include h

lemma Speaks.mem {y : SentObservation} (hy : y ∈ ret ++ s'.observations) :
    y = (observe s.mode e1 o).1 ∨ y ∈ ret ++ s.observations := by
  rcases List.mem_append.1 hy with hy | hy
  · exact .inr (List.mem_append_left _ hy)
  · exact (h.pushed.mem hy).imp_right (List.mem_append_right _)

lemma Speaks.tally_grow (x : SentPacketId) : tally q x (ret ++ s'.observations) =
    tally q x (ret ++ s.observations) + if id = x ∧ q (observe s.mode e1 o).1 = true then 1 else 0 := by
  rw [tally_pushed h.pushed, show (observe s.mode e1 o).1.sentId = id from h.same]

lemma Speaks.tally_other (hx : x ≠ id) : tally q x (ret ++ s'.observations) = tally q x (ret ++ s.observations) := by
  rw [h.tally_grow, if_neg fun h => hx h.1.symm, Nat.add_zero]

lemma Speaks.tally_le_one (hq : ∀ x, tally q x (ret ++ s.observations) ≤ 1)
    (hzero : q (observe s.mode e1 o).1 = true → tally q id (ret ++ s.observations) = 0) (x : SentPacketId) :
    tally q x (ret ++ s'.observations) ≤ 1 := by
  by_cases hx : id = x ∧ q (observe s.mode e1 o).1 = true
  · rw [h.tally_grow, if_pos hx, ← hx.1, hzero hx.2]
  · rw [h.tally_grow, if_neg hx]
    exact hq x

lemma Speaks.tally_pos (hq : 0 < tally q id (ret ++ s'.observations)) :
    q (observe s.mode e1 o).1 = true ∨ 0 < tally q id (ret ++ s.observations) := by
  rw [h.tally_grow] at hq
  split at hq
  next hx => exact .inl hx.2
  · exact .inr hq

lemma Speaks.told (hn : s'.nextSentId = s.nextSentId) (hknown : id < s.nextSentId) (ht : Told ret s) :
    Told ret s' := by
  obtain ⟨hreceived, hlost, hreported, hrecovered⟩ := h.order ht
  constructor
  · intro y hy
    rw [hn]
    rcases h.mem hy with rfl | hy
    · exact h.same.trans_lt hknown
    · exact ht.known y hy
  · intro y hy hr
    rcases h.mem hy with rfl | hy
    · simp only [observe, Bool.and_eq_true] at hr
      exact hr.1
    · exact ht.receipts y hy hr
  · exact h.tally_le_one _ ht.received hreceived
  · exact h.tally_le_one _ ht.lost fun hl => (hlost hl).2
  · exact h.tally_le_one _ ht.reported hreported
  · intro x hx
    have hmono : tally (·.reportedLostForTheFirstTime) x (ret ++ s.observations) ≤
        tally (·.reportedLostForTheFirstTime) x (ret ++ s'.observations) := by
      rw [h.tally_grow]
      exact Nat.le_add_right _ _
    apply hmono.trans_lt'
    by_cases hxid : x = id
    · subst hxid
      rcases h.tally_pos _ hx with hr | hx
      · exact hrecovered hr
      · exact ht.recovered x hx
    · rw [h.tally_other _ hxid] at hx
      exact ht.recovered x hx
  · intro x y hy hx
    rcases h.entry x y hy with ⟨rfl, rfl⟩ | ⟨hne, hy⟩
    · rcases h.tally_pos _ hx with hr | hx
      · exact (h.receipt hr).2
      · exact h.settled (ht.settled x e h.found hx)
    · exact ht.settled x y hy (h.tally_other _ hne ▸ hx)
  · intro x y hy hx
    rcases h.entry x y hy with ⟨rfl, rfl⟩ | ⟨hne, hy⟩
    · rcases h.tally_pos _ hx with hl | hx
      · exact (h.loss hl).2
      · exact h.lost (ht.gone x e h.found hx)
    · exact ht.gone x y hy (h.tally_other _ hne ▸ hx)
  · intro x y hy hx
    rcases h.entry x y hy with ⟨rfl, rfl⟩ | ⟨hne, hy⟩
    · rw [observe_flag]
      rcases h.tally_pos _ hx with hr | hx
      · exact .inl (if_pos hr)
      rcases ht.flagged x e h.found hx with hf | hs
      · split_ifs with h1 h2
        · exact .inl rfl
        · simp only [observe, Bool.and_eq_true] at h2
          exact .inr (h.receipt h2.1).2
        · exact .inl (h.flag.trans hf)
      · exact .inr (h.settled hs)
    · exact ht.flagged x y hy (h.tally_other _ hne ▸ hx)
  · intro x y hy hflag
    rcases h.entry x y hy with ⟨rfl, rfl⟩ | ⟨hne, hy⟩
    · rw [observe_flag] at hflag
      rw [h.tally_grow]
      split_ifs at hflag with h1 h2
      · rw [if_pos ⟨rfl, h1⟩]
        exact Nat.succ_pos _
      · exact Nat.add_pos_left (ht.flag x e h.found (h.flag ▸ hflag)) _
    · rw [h.tally_other _ hne]
      exact ht.flag x y hy hflag

end Speaks

lemma Tallied.next (ht : Told ret s) (q : SentObservation → Bool) : tally q s.nextSentId (ret ++ s.observations) = 0 := by
  by_contra hne
  obtain ⟨o, ho, hid, -⟩ := tally_pos.1 (Nat.pos_of_ne_zero hne)
  exact absurd (ht.known o ho) (hid ▸ lt_irrefl _)

lemma Tallied.commit {context : SendCommit} (ht : Told ret s) (hw : Windowed s) (h : Commits s s' context) :
    Told ret s' := by
  have hnone := ht.next
  have hold : ∀ {x y}, s'.entry x = some y → (∃ q, 0 < tally q x (ret ++ s.observations)) → s.entry x = some y := by
    rintro x y hy ⟨q, hpos⟩
    rcases h.entry_cases hw hy with ⟨rfl, -⟩ | ⟨-, hy⟩
    · exact absurd hpos (by rw [hnone]; exact lt_irrefl 0)
    · exact hy
  rw [Told, h.lists.observations, h.nextSentId]
  refine { ht with known := ?_, settled := ?_, gone := ?_, flagged := ?_, flag := ?_ }
  · exact fun o ho => Nat.lt_succ_of_lt (ht.known o ho)
  · exact fun x y hy hpos => ht.settled x y (hold hy ⟨_, hpos⟩) hpos
  · exact fun x y hy hpos => ht.gone x y (hold hy ⟨_, hpos⟩) hpos
  · exact fun x y hy hpos => ht.flagged x y (hold hy ⟨_, hpos⟩) hpos
  · intro x y hy hflag
    rcases h.entry_cases hw hy with ⟨-, rfl⟩ | ⟨-, hy⟩
    · cases hflag
    · exact ht.flag x y hy hflag

lemma Micro.told (h : Micro acks edges s s') (hw : Windowed s) (hx : s'.inputs.exhausted = false) (ht : Told ret s) :
    Told ret s' := by
  rcases h.utters hx with hc | ⟨l, last, hl, -, rfl⟩ | ⟨id, e, e1, o, hs, -⟩
  · exact ht.calm (by rw [hc.lists.observations]) h.follows.nextSentId hc.entry
  · exact ht.merge hl
  refine hs.told h.follows.nextSentId ?_ ht
  obtain ⟨hat, hid⟩ := entry_eq_some.1 hs.found
  exact hid ▸ hw.known _ e hat

lemma Tallied.congr (ht : Told ret s) (hl : SameLists s s') (hn : s'.nextSentId = s.nextSentId)
    (he : ∀ x, s'.entry x = s.entry x) : Told ret s' :=
  ht.calm (by rw [hl.observations]) hn (calms_of_eq hl he).entry

lemma Chore.told (h : Chore s s') (hw : Windowed s) (hx : s'.inputs.exhausted = false) (ht : Told ret s) :
    Told ret s' := by
  cases h with
  | requeue | reclaim | oldest => exact ht.congr ⟨rfl, rfl⟩ rfl fun _ => rfl
  | @confirm id rest hwork =>
    have ht1 : Told ret { s with missing := rest } := ht.congr ⟨rfl, rfl⟩ rfl fun _ => rfl
    exact (confirm_micro hwork id).told (hw.same { Shape.refl s with } rfl rfl) hx ht1

def Orders (id : SentPacketId) (log log' : List SentObservation) : Prop :=
  (tally (·.lost) id log < tally (·.lost) id log' → tally (·.received) id log = 0) ∧
  (tally (·.recovered) id log < tally (·.recovered) id log' → 0 < tally (·.reportedLostForTheFirstTime) id log)

lemma Orders.refl (id : SentPacketId) (log : List SentObservation) : Orders id log log :=
  ⟨fun h => absurd h (lt_irrefl _), fun h => absurd h (lt_irrefl _)⟩

lemma Micro.order (h : Micro acks edges s s') (hx : s'.inputs.exhausted = false) (ht : Told ret s)
    (id : SentPacketId) : Orders id (ret ++ s.observations) (ret ++ s'.observations) := by
  rcases h.utters hx with hc | ⟨l, last, hl, -, rfl⟩ | ⟨x, e, e1, o, hs, -⟩
  · rw [hc.lists.observations]
    exact .refl ..
  · simp only [Orders, observations, hl, tally_append]
    exact ⟨fun h => absurd h (lt_irrefl _), fun h => absurd h (lt_irrefl _)⟩
  obtain ⟨-, hlost, -, hrecovered⟩ := hs.order ht
  have hid : (observe s.mode e1 o).1.sentId = x := hs.same
  rw [Orders, tally_pushed hs.pushed, tally_pushed hs.pushed, hid]
  refine ⟨fun hlt => ?_, fun hlt => ?_⟩
  · split at hlt
    next hx => exact hx.1 ▸ (hlost hx.2).1
    · exact absurd hlt (lt_irrefl _)
  · split at hlt
    next hx => exact hx.1 ▸ hrecovered hx.2
    · exact absurd hlt (lt_irrefl _)

lemma Micro.length_observations (h : Micro acks edges s s') (hx : s'.inputs.exhausted = false) :
    s.observations.length ≤ s'.observations.length := by
  rcases h.utters hx with hc | ⟨l, last, hl, -, rfl⟩ | ⟨x, e, e1, o, hs, -⟩
  · rw [hc.lists.observations]
  · simp [observations, hl]
  · rcases hs.pushed with ⟨hf, hy⟩ | ⟨hf, hy⟩ <;> simp only [observations, hf, hy, List.length_append] <;> omega

end Told

end Sender

end Pulsebeam.Feedback
