import Pulsebeam.Feedback.SenderRun
import Pulsebeam.Feedback.Steps

/-! The work spent on losses between two polls, and the observations it pays for. -/

namespace Pulsebeam.Feedback.Sender

open Pulsebeam.Lib

namespace Budget

structure Kept (b : Budget) : Prop where
  paid : b.told ≤ b.work
  work : b.work ≤ b.limit
  calm : b.overflowed = false

structure Charged (b : Budget) : Prop where
  paid : b.told < b.work
  work : b.work ≤ b.limit
  calm : b.overflowed = false

lemma Charged.kept {b : Budget} (h : b.Charged) : b.Kept := ⟨h.paid.le, h.work, h.calm⟩

end Budget

open Budget

variable {s : Sender} {id : SentPacketId} {now receivedAt : Duration} {epoch : Epoch} {t : Sender}

lemma Budget.Kept.charge (h : s.budget.Kept) (hlt : s.lossWork < s.config.maxExpirationsPerPoll) :
    (budget { s with lossWork := s.lossWork + 1 }).Charged :=
  ⟨Nat.lt_succ_of_le h.paid, hlt, h.calm⟩

section Losses

lemma Budget.Charged.emit (h : s.budget.Charged) (id : SentPacketId) (origin : LossOrigin) :
    (s.emit id false false (some origin)).budget.Kept := by
  unfold Sender.emit emitObserved
  split
  · exact h.kept
  split
  · exact h.kept
  next e _ =>
    simp only [Option.isNone_some, Bool.false_eq_true, if_false, Bool.not_true]
    unfold pushObservation
    have hroom : s.inputs.synthetic.length < s.config.maxExpirationsPerPoll := lt_of_lt_of_le h.paid h.work
    rw [if_pos (by rfl), if_pos (by exact hroom)]
    refine ⟨?_, h.work, h.calm⟩
    simp only [budget, List.length_append]
    exact h.paid

lemma Budget.Charged.setLost (h : s.budget.Charged) (id : SentPacketId) (origin : LossOrigin) :
    (s.setLost id origin).budget.Kept := by
  unfold Sender.setLost
  split
  · exact h.kept
  split
  · exact h.kept
  apply Budget.Charged.emit
  change (budget (eraseKey _ _)).Charged
  rwa [budget_of_apart ((apart_eraseKey ..).trans (apart_updateEntry s ..))]

variable {acks : SentPacketId → Prop} {edges : Prop}

lemma Budget.Kept.lose (h : s.budget.Kept) (hwork : s.lossWork ≠ s.config.maxExpirationsPerPoll) (id : SentPacketId)
    (origin : LossOrigin) : (setLost { s with lossWork := s.lossWork + 1 } id origin).budget.Kept :=
  (h.charge (lt_of_le_of_ne h.work hwork)).setLost id origin

lemma Micro.kept (hs : Micro acks edges s t) (h : s.budget.Kept) : t.budget.Kept := by
  have hsame : t.apart = s.apart → t.budget.Kept := fun heq => by rwa [budget_of_apart heq]
  cases hs with
  | still _ hb => rwa [hb]
  | flight id => exact hsame (apart_retireFromFlight ..)
  | take id t => exact hsame (apart_takeMissingSince ..)
  | lose id origin hwork => exact h.lose hwork id origin
  | receive acked arrival ecn t => exact hsame (apart_setReceived ..)
  | miss id now => exact hsame (apart_setMissing ..)
  | ack => exact hsame (apart_emitObserved _ rfl _)
  | anchor edge t id => exact hsame (apart_anchorEntry ..)
  | window now => exact hsame (apart_applyReorderingWindow ..)
  | edge q => exact h
  | note space f => exact hsame (apart_updateSpace ..)

lemma Chore.kept (hs : Chore s t) (h : s.budget.Kept) : t.budget.Kept := by
  cases hs with
  | requeue hwork => exact (h.charge (lt_of_le_of_ne h.work hwork)).kept
  | @confirm id rest hwork =>
    have hrest : (budget { s with missing := rest }).Kept := h
    exact hrest.lose hwork id .reordering
  | reclaim | oldest => exact h

end Losses

section Expiry

structure Spends (n : ℕ) (s : Sender) (result : Sender × ℕ) : Prop where
  work : result.2 ≤ n
  spent : result.1.lossWork = s.lossWork + result.2

lemma Spends.none (n : ℕ) (s : Sender) : Spends n s (s, 0) := ⟨Nat.zero_le n, rfl⟩

lemma Spends.round {n : ℕ} {result : Sender × ℕ} (h : Spends n t result) (hwork : t.lossWork = s.lossWork + 1) :
    Spends (n + 1) s (result.1, result.2 + 1) := by
  refine ⟨Nat.succ_le_succ h.work, ?_⟩
  have hspent := h.spent
  dsimp only
  omega

lemma confirmLoop_spends (now : Duration) (n : ℕ) (s : Sender) : Spends n s (confirmLoop now n s) := by
  induction n generalizing s with
  | zero => exact .none 0 s
  | succ n ih =>
    rw [confirmLoop]
    split
    · exact .none _ s
    next id rest hmissing => exact (ih _).round (congrArg Prod.snd (meter_confirmLoss { s with missing := rest } now id))

lemma reclaimSources_spends (now : Duration) (n : ℕ) (s : Sender) : Spends n s (reclaimSources now n s) := by
  induction n generalizing s with
  | zero => exact .none 0 s
  | succ n ih =>
    rw [reclaimSources]
    split
    · split
      · split
        · exact .none _ s
        · exact (ih _).round rfl
      · exact .none _ s
    · exact .none _ s

lemma expireLoop_spends (now : Duration) (n : ℕ) (s : Sender) : Spends n s (expireLoop now n s) := by
  induction n generalizing s with
  | zero => exact .none 0 s
  | succ n ih =>
    rw [expireLoop]
    split
    · split
      · exact (ih _).round rfl
      next e _ =>
        split
        · exact .none _ s
        split
        · exact .none _ s
        refine (ih _).round ?_
        unfold expireEntry
        split
        · rfl
        · exact congrArg Prod.snd (meter_markLostUnbudgeted ..)
    · exact .none _ s

lemma expire_spends (s : Sender) (now : Duration) (limit : ℕ) : Spends limit s (s.expire now limit) := by
  unfold expire
  dsimp only
  have hconfirm : Spends (min limit (s.config.maxExpirationsPerPoll / 2)) s
      (s.confirmLosses now (min limit (s.config.maxExpirationsPerPoll / 2))) := by
    have h := confirmLoop_spends now (min (min (min limit (s.config.maxExpirationsPerPoll / 2)) s.missing.length)
      (s.config.maxExpirationsPerPoll - s.lossWork)) s
    exact ⟨h.work.trans ((min_le_left _ _).trans (min_le_left _ _)), h.spent⟩
  revert hconfirm
  generalize s.confirmLosses now _ = first
  obtain ⟨s1, confirmed⟩ := first
  intro hconfirm
  have hreclaim := reclaimSources_spends now ((limit - confirmed + 1) / 2) s1
  revert hreclaim
  generalize reclaimSources now ((limit - confirmed + 1) / 2) s1 = second
  obtain ⟨s2, reclaimed⟩ := second
  intro hreclaim
  have hexpire := expireLoop_spends now (limit - (confirmed + reclaimed)) s2
  revert hexpire
  intro hexpire
  have h1 := hconfirm.work
  have h2 := hreclaim.work
  have h3 := hexpire.work
  have w1 := hconfirm.spent
  have w2 := hreclaim.spent
  have w3 := hexpire.spent
  dsimp only at h1 h2 h3 w1 w2 w3 ⊢
  refine ⟨?_, ?_⟩
  · omega
  · dsimp only
    omega

end Expiry

section Run

lemma budget_dropFeedback (s : Sender) (e : SentEntry) : (s.dropFeedback e).budget = s.budget := by
  unfold dropFeedback
  split <;> rfl

lemma budget_dropPacket (s : Sender) (e : SentEntry) : (s.dropPacket e).budget = s.budget := by
  unfold dropPacket
  split
  · rfl
  · split <;> rfl

lemma budget_removeIndexes (s : Sender) (e : SentEntry) : (s.removeIndexes e).budget = s.budget := by
  unfold removeIndexes
  rw [budget_dropPacket, budget_dropFeedback]
  exact budget_of_apart (apart_eraseKey ..)

lemma budget_indexFeedback (s : Sender) (sequence : Option ℕ) (id : SentPacketId) :
    (s.indexFeedback sequence id).budget = s.budget := by
  unfold indexFeedback
  split <;> rfl

lemma budget_changePath (s : Sender) (i : ℕ) : (s.changePath i).budget = s.budget := by
  have hdetach : ∀ e : SentEntry, (s.detach e).budget = s.budget := fun e => by
    unfold detach
    exact budget_of_apart ((apart_updateSpace ..).trans (apart_eraseKey ..))
  unfold changePath
  split
  · rfl
  next e _ =>
    dsimp only
    split
    · exact hdetach e
    · exact hdetach e

lemma budget_changePaths (l : List ℕ) (s : Sender) : (l.foldl changePath s).budget = s.budget := by
  induction l generalizing s with
  | nil => rfl
  | cons i l ih => exact (ih _).trans (budget_changePath s i)

section

variable (h : s.budget.Kept)

include h

lemma Budget.Kept.orElse {result : Except SenderError Sender}
    (hok : ∀ t, result = .ok t → t.budget.Kept) : (s.orElse result).budget.Kept := by
  cases result with
  | ok t => exact hok t rfl
  | error _ => exact h

lemma Budget.Kept.commitPreflighted {context : SendCommit} {room : Bool} :
    (s.commitPreflighted context room).2.budget.Kept := by
  have hvacated : s.vacateSlot.budget.Kept := by
    unfold vacateSlot
    split
    · rwa [budget_removeIndexes]
    · exact h
  unfold Sender.commitPreflighted
  split
  · exact h
  split
  · exact h
  dsimp only
  split
  · exact hvacated
  have hindexed : ∀ x, (budget ({ s.vacateSlot with spaces := x }.indexFeedback context.identity.feedbackSequence
      s.nextSentId)).Kept := fun x => by
    rw [budget_indexFeedback]
    exact hvacated
  split
  · exact hindexed _
  · split <;> exact hindexed _

lemma Budget.Kept.setAvailability (epoch : Epoch) (available : Bool) :
    (s.setAvailability epoch available).budget.Kept := by
  unfold Sender.setAvailability
  split
  · exact h
  have hpath : (budget ((List.range s.entries.length).foldl changePath { s with
      lastPath := some (epoch, available), activeEpoch := if available then some epoch else none })).Kept := by
    rw [budget_changePaths]
    exact h
  exact ⟨Nat.zero_le _, hpath.work, hpath.calm⟩

lemma Budget.Kept.apply (op : SenderOp) : (s.apply op).budget.Kept := by
  cases op with
  | prepareFeedbackProfile profile granted =>
    refine h.orElse fun t ht => ?_
    unfold Sender.prepareFeedbackProfile at ht
    split at ht
    · split at ht
      · cases ht
        exact ⟨Nat.zero_le _, h.work, h.calm⟩
      · cases ht
    · split at ht
      · cases ht
        exact h
      · cases ht
  | prepareCommit context granted =>
    unfold Sender.apply Sender.prepareCommit
    dsimp only
    split
    · exact h
    split
    · exact h
    · split <;> exact h
  | commitPreflighted context room => exact h.commitPreflighted
  | processFeedback batch room => exact (processFeedback_steps s batch room).keep (fun _ _ hs => hs.kept) h
  | rejectUnmappedFeedback epoch statuses =>
    unfold Sender.apply Sender.rejectUnmappedFeedback
    dsimp only
    split
    · exact h
    · split <;> exact h
  | expire now limit =>
    exact (expire_expires s now limit).keep (fun _ _ hs => hs.kept) (fun _ _ hs => hs.kept) h
  | clearObservations => exact ⟨le_rfl, Nat.zero_le _, h.calm⟩
  | setApplicationLimited limited => exact h
  | setAvailability epoch available => exact h.setAvailability epoch available
  | retireSource space =>
    unfold Sender.apply Sender.retireSource
    dsimp only
    split
    · exact h
    split
    · exact h
    · split <;> exact h
  | clear epoch => exact ⟨le_rfl, Nat.zero_le _, h.calm⟩
  | abort => exact ⟨le_rfl, Nat.zero_le _, h.calm⟩

end

/-- In every run the losses told since the last poll have been paid for within the limit, the list of losses is never
found full, and expiry does no more work than it is allowed. -/
theorem loss_budget_kept {config : SenderConfig} (h : (machine config fun _ _ => True).Reachable s) :
    s.inputs.synthetic.length ≤ s.lossWork ∧ s.lossWork ≤ s.config.maxExpirationsPerPoll ∧ s.overflowed = false ∧
      ∀ now limit, (s.expire now limit).2 ≤ limit ∧
        (s.expire now limit).1.lossWork = s.lossWork + (s.expire now limit).2 := by
  have hkept : s.budget.Kept := h.invariant (I := fun s => s.budget.Kept)
    (by
      rintro s ⟨-, rfl⟩
      exact ⟨le_rfl, Nat.zero_le _, rfl⟩)
    fun _ op hk _ => hk.apply op
  refine ⟨hkept.paid, hkept.work, hkept.calm, fun now limit => ?_⟩
  have hspends := expire_spends s now limit
  exact ⟨hspends.work, hspends.spent⟩

theorem loss_budget_kept_spent :
    ((leakOps.take 12).foldl apply (unfunded leakConfig)).lossWork = 2 ∧
      ((leakOps.take 12).foldl apply (unfunded leakConfig)).inputs.synthetic.length ≤
        ((leakOps.take 12).foldl apply (unfunded leakConfig)).lossWork :=
  ⟨by decide +kernel, (loss_budget_kept (reachable_foldl (by decide))).1⟩

end Run

end Pulsebeam.Feedback.Sender
