import Pulsebeam.Feedback.Processing
import Pulsebeam.Feedback.Window

/-! Credit over whole runs. -/

namespace Pulsebeam.Feedback.Sender

open Pulsebeam.Lib

variable {s s' : Sender} {e e' : SentEntry} {context : SendCommit}

/-- In Independent mode the packet is above its space's receipt edge, and a space whose index has run empty has none of
its packets in flight. -/
def CommitsAhead (s : Sender) (context : SendCommit) : Prop :=
  s.mode = some .independent → ∀ st, s.spaces.lookup context.identity.space = some st →
    (∀ h, st.highestAckedSequence = some h → h < context.identity.packet) ∧
      (st.bySequence.entries.isEmpty = true → ∀ e, s.InFlight e → e.space ≠ context.identity.space)

lemma Windowed.index_mem (hw : Windowed s) {x : FeedbackIndex} (hx : some x ∈ s.feedbackIndex)
    (he : some e ∈ s.entries) (hid : e.id = x.sentId) : e.feedbackSequence = some x.sequence := by
  obtain ⟨j, hj⟩ := List.mem_iff_getElem?.1 hx
  obtain ⟨i, hi⟩ := mem_entries.1 he
  exact (hw.index j x hj).2.2 e (hid ▸ hw.entry hi)

section Commit

lemma Commits.mem_entries (h : Commits s s' context) (hw : Windowed s) (he : some e ∈ s'.entries) :
    e = commitEntry context s.nextSentId ∨ some e ∈ s.entries := by
  obtain ⟨i, hi⟩ := Sender.mem_entries.1 he
  rw [h.entryAt hw] at hi
  split at hi
  · cases hi
    exact .inl rfl
  · exact .inr (Sender.mem_entries.2 ⟨i, hi⟩)

lemma Commits.vacant (h : Commits s s' context) (hr : AtRest s) (he : s.entryAt (s.slot s.nextSentId) = some e) :
    e.inFlight = false := by
  by_contra hf
  have hfl : s.InFlight e := ⟨Sender.mem_entries.2 ⟨_, he⟩, by simpa using hf⟩
  have hp : e.pathEpoch = context.pathEpoch := Option.some.inj ((hr.placed e hfl).epoch.symm.trans h.valid.active)
  have ht := h.valid.slotFree e he hp
  rw [hr.toLed.not_terminal hfl] at ht
  cases ht

lemma Commits.apart (h : Commits s s' context) (hr : AtRest s) (he : s.InFlight e) {p : SentEntry}
    (hp : s.entryAt (s.slot s.nextSentId) = some p) :
    e.id ≠ p.id ∧ ∀ q, e.feedbackSequence = some q → p.feedbackSequence ≠ some q := by
  have hmem : some p ∈ s.entries := Sender.mem_entries.2 ⟨_, hp⟩
  have hne : e.id ≠ p.id := by
    intro heq
    have hent := hr.toLed.entry he.1
    rw [heq, hr.toLed.entry hmem] at hent
    cases hent
    have hf := he.2
    rw [h.vacant hr hp] at hf
    cases hf
  exact ⟨hne, fun q hq hpq => hne (hr.distinct e p q he.1 hmem hq hpq)⟩

lemma isEmpty_eq_false_of_lookup {β : Type*} {m : AList fun _ : ℕ => β} {k : ℕ} {v : β} (h : m.lookup k = some v) :
    m.entries.isEmpty = false := by
  have hmem : (⟨k, v⟩ : Sigma fun _ : ℕ => β) ∈ m.entries := AList.mem_lookup_iff.1 h
  cases hm : m.entries with
  | nil => simp [hm] at hmem
  | cons => rfl

lemma lookup_of_isEmpty_eq_false {β : Type*} {m : AList fun _ : ℕ => β} (h : m.entries.isEmpty = false) :
    ∃ k v, m.lookup k = some v := by
  cases hm : m.entries with
  | nil => simp [hm] at h
  | cons a l => exact ⟨a.1, a.2, AList.mem_lookup_iff.2 (by rw [hm]; exact List.mem_cons_self)⟩

section

variable (h : Commits s s' context)

include h

lemma Commits.placed_old (hr : AtRest s) (hc : s.CommitsAhead context)
    (he : s.InFlight e) : s'.Placed e := by
  have hp := hr.placed e he
  refine ⟨h.activeEpoch.trans hp.epoch, fun hm => ?_, fun hm st' hst' hne => ?_⟩
  · obtain ⟨q, o, hq, hid, ho, hle⟩ := hp.continuous (h.mode ▸ hm)
    obtain ⟨o', ho', hle'⟩ := h.reach o _ _ ho (feedbackSentId_eq_some.1 hid) hle fun p hprev =>
      ⟨(h.apart hr he hprev).1, (h.apart hr he hprev).2 q hq⟩
    have hlive := hr.toLed.not_terminal he
    exact ⟨q, o', hq, h.feedbackSentId hid (hr.toLed.entry he.1) hlive hp.epoch fun p hprev => (h.apart hr he hprev).1,
      ho', hle'⟩
  · obtain ⟨st, st1, hst, hthin, rfl⟩ := h.space hst'
    have hold : st.bySequence.entries.isEmpty = false → st1.bySequence.lookup e.packetSequence = some e.id ∧
        st.bySequence.lookup e.packetSequence = some e.id ∧ st1.firstSequence ≤ e.packetSequence := by
      intro hne
      obtain ⟨hl, hle⟩ := hp.independent (h.mode ▸ hm) st hst hne
      exact ⟨hthin.kept _ _ hl fun p hprev => (h.apart hr he hprev).1, hl, hthin.firstSequence ▸ hle⟩
    split
    next hsp =>
      have hfilled : st.bySequence.entries.isEmpty = false := by
        by_contra hemp
        exact (hc (h.mode ▸ hm) st (hsp ▸ hst)).2 (by simpa using hemp) e he hsp
      obtain ⟨hl1, hl, hle⟩ := hold hfilled
      have hother : e.packetSequence ≠ context.identity.packet := by
        intro heq
        rw [heq, h.valid.fresh st (hsp ▸ hst)] at hl
        cases hl
      refine ⟨(AList.lookup_insert_ne hother).trans hl1, ?_⟩
      simp only [spaceAfterCommit, isEmpty_eq_false_of_lookup hl1]
      exact (min_le_left _ _).trans hle
    next hsp =>
      rw [if_neg hsp] at hne
      obtain ⟨k, v, hkv⟩ := lookup_of_isEmpty_eq_false hne
      obtain ⟨hl1, -, hle⟩ := hold (isEmpty_eq_false_of_lookup (hthin.packets k v hkv))
      exact ⟨hl1, hle⟩

lemma Commits.placed_new (hw : Windowed s) (hr : AtRest s) : s'.Placed (commitEntry context s.nextSentId) := by
  refine ⟨h.activeEpoch.trans h.valid.active, fun hm => ?_, fun hm st' hst' _ => ?_⟩
  · rw [h.mode] at hm
    rcases h.valid.mode with ⟨-, q, hq⟩ | ⟨hm', -⟩
    · obtain ⟨o', ho'⟩ := h.opened q hq
      refine ⟨q, o', hq, h.feedbackSentId_new hw hq, ho', ?_⟩
      rcases h.found o' ho' with ho | ⟨j, x, hx, rfl⟩ | ho
      · exact (h.newer hq (hr.oldest o' ho)).le
      · exact (h.newer hq (hw.index j x hx).2.1).le
      · exact (Option.some.inj (ho.symm.trans hq)).le
    · rw [hm'] at hm
      cases hm
  · obtain ⟨st, st1, -, -, rfl⟩ := h.space hst'
    rw [if_pos (by rfl)]
    refine ⟨AList.lookup_insert _, ?_⟩
    simp only [spaceAfterCommit]
    split
    · exact le_rfl
    · exact min_le_right _ _

lemma Commits.beyond {sp : SpaceId} {st' : SpaceHistory} (hst' : s'.spaces.lookup sp = some st')
    {m : ℕ} (hm : st'.highestAckedSequence = some m) :
    ∃ st, s.spaces.lookup sp = some st ∧ st.highestAckedSequence = some m := by
  obtain ⟨st, st1, hst, hthin, rfl⟩ := h.space hst'
  refine ⟨st, hst, ?_⟩
  rw [← hthin.highestAckedSequence]
  split at hm
  · simp only [spaceAfterCommit] at hm
    split at hm
    · cases hm
    · exact hm
  · exact hm

lemma Commits.inFlightBytes (hw : Windowed s) (hr : AtRest s) : s'.bytesInFlight = s'.inFlightBytes := by
  obtain ⟨o, ho⟩ : ∃ o, s.entries[s.slot s.nextSentId]? = some o := ⟨_, List.getElem?_eq_getElem (h.slot_lt hw)⟩
  have hsum := sum_map_set (fun o : Option SentEntry => o.elim 0 SentEntry.flightBytes) ho
    (some (commitEntry context s.nextSentId))
  have hzero : o.elim 0 SentEntry.flightBytes = 0 := by
    cases o with
    | none => rfl
    | some p =>
      have hp : p.inFlight = false := h.vacant hr (Option.join_eq_some_iff.2 ho)
      simp [SentEntry.flightBytes, hp]
  rw [hzero, add_zero] at hsum
  rw [h.bytesInFlight, hr.credit, Sender.inFlightBytes, Sender.inFlightBytes, h.entries, hsum]
  rfl

end

lemma AtRest.commit (hr : AtRest s) (hw : Windowed s) (h : Commits s s' context) (hw' : Windowed s')
    (hc : s.CommitsAhead context) : AtRest s' := by
  have hflight : ∀ {x}, s'.InFlight x → x = commitEntry context s.nextSentId ∨ s.InFlight x := fun {x} hx =>
    (h.mem_entries hw hx.1).imp_right fun hm => ⟨hm, hx.2⟩
  have hnumber : ∀ {x q}, some x ∈ s.entries → x.feedbackSequence = some q →
      (commitEntry context s.nextSentId).feedbackSequence ≠ some q := fun {x q} hx hq hnew =>
    (h.newer hnew (hr.numbered x q hx hq)).false
  exact
    { credit := h.inFlightBytes hw hr
      inputs := h.credit
      terminal := by
        intro x hx ht
        rcases h.mem_entries hw hx with rfl | hx
        · cases ht
        · exact hr.terminal x hx ht
      ring := hw'.ring
      numbered := by
        intro x q hx hq
        rcases h.mem_entries hw hx with rfl | hx
        · exact ⟨q, by rw [h.newestFeedback, show context.identity.feedbackSequence = some q from hq]; rfl, le_rfl⟩
        · exact h.newest (hr.numbered x q hx hq)
      distinct := by
        intro x y q hx hy hxq hyq
        rcases h.mem_entries hw hx with rfl | hx
        · rcases h.mem_entries hw hy with rfl | hy
          · rfl
          · exact absurd hxq (hnumber hy hyq)
        rcases h.mem_entries hw hy with rfl | hy
        · exact absurd hyq (hnumber hx hxq)
        · exact hr.distinct x y q hx hy hxq hyq
      index := fun x hx e he => hw'.index_mem hx he
      oldest := by
        intro o ho
        rcases h.found o ho with ho | ⟨j, x, hx, rfl⟩ | ho
        · exact h.newest (hr.oldest o ho)
        · exact h.newest (hw.index j x hx).2.1
        · exact ⟨o, by rw [h.newestFeedback, ho]; rfl, le_rfl⟩
      highest := fun m hm => h.newest (hr.highest m (h.highestFeedbackAcked ▸ hm))
      placed := by
        intro x hx
        rcases hflight hx with rfl | hx
        · exact h.placed_new hw hr
        · exact h.placed_old hr hc hx
      calm := by
        intro x hx
        rcases hflight hx with rfl | hx
        · rfl
        · exact hr.calm x hx
      ahead := by
        intro x hx
        rcases hflight hx with rfl | hx
        · refine .inl ⟨fun _ m q hm hq => h.newer hq (hr.highest m (h.highestFeedbackAcked ▸ hm)),
            fun hm st' m hst' hh => ?_⟩
          obtain ⟨st, hst, hhigh⟩ := h.beyond hst' hh
          exact (hc (h.mode ▸ hm) st hst).1 m hhigh
        · refine (hr.ahead x hx).imp (fun hb => ⟨?_, fun hm st' m hst' hh => ?_⟩) fun hs =>
            ⟨hs.pending, fun n => h.room ▸ hs.starved n, h.exhausted ▸ hs.exhausted⟩
          · rw [h.mode, h.highestFeedbackAcked]
            exact hb.continuous
          · obtain ⟨st, hst, hhigh⟩ := h.beyond hst' hh
            exact hb.independent (h.mode ▸ hm) st m hst hhigh }

end Commit

section Grounded

lemma inFlightBytes_eq_zero (h : ∀ e, ¬ s.InFlight e) : s.inFlightBytes = 0 := by
  have h' : ∀ e, some e ∈ s.entries → e.inFlight = false := fun e he => by simpa using fun hf => h e ⟨he, hf⟩
  unfold inFlightBytes
  revert h'
  generalize s.entries = l
  intro h'
  induction l with
  | nil => rfl
  | cons o l ih =>
    rw [List.map_cons, List.sum_cons, ih fun e he => h' e (List.mem_cons_of_mem _ he)]
    cases o with
    | none => rfl
    | some e => simp [SentEntry.flightBytes, h' e List.mem_cons_self]

lemma atRest_grounded (hw : Windowed s) (hnone : ∀ e, ¬ s.InFlight e) (hcredit : s.bytesInFlight = s.inFlightBytes)
    (hin : s.inputs.bytesInFlight = s.bytesInFlight)
    (hnum : ∀ e q, some e ∈ s.entries → e.feedbackSequence = some q → ∃ n, s.newestFeedback = some n ∧ q ≤ n)
    (hdist : ∀ e e' q, some e ∈ s.entries → some e' ∈ s.entries → e.feedbackSequence = some q →
      e'.feedbackSequence = some q → e.id = e'.id)
    (hold : ∀ o, s.oldestFeedback = some o → ∃ n, s.newestFeedback = some n ∧ o ≤ n)
    (hhigh : ∀ m, s.highestFeedbackAcked = some m → ∃ n, s.newestFeedback = some n ∧ m ≤ n) : AtRest s := by
  refine ⟨⟨⟨⟨hcredit, hin, fun e he _ => ?_⟩, hw.ring⟩, hnum, hdist, fun x hx e he => hw.index_mem hx he, hold, hhigh,
    fun e he => absurd he (hnone e), fun e he => absurd he (hnone e)⟩, fun e he => absurd he (hnone e)⟩
  by_contra hf
  exact hnone e ⟨he, by simpa using hf⟩

lemma atRest_unfunded {config : SenderConfig} (h : config.validate = true) : AtRest (unfunded config) :=
  atRest_grounded (windowed_unfunded h) nofun rfl rfl nofun
    (fun _ _ _ he => nomatch he) (fun _ h => nomatch h) fun _ h => nomatch h

lemma AtRest.blank (hr : AtRest s) (hw : Windowed s) (h : Blanks s s') (hw' : Windowed s') : AtRest s' := by
  have hbare : ∀ {t : Sender}, (∀ i, t.entryAt i = none) → ∀ e, some e ∉ t.entries := by
    intro t ht e he
    obtain ⟨i, hi⟩ := mem_entries.1 he
    rw [ht i] at hi
    cases hi
  have hnone : ∀ e, ¬ s'.InFlight e := fun e he => hbare h.entryAt e he.1
  have hzero : s'.bytesInFlight = 0 := by
    rcases h.bytesInFlight with hz | ⟨hm, hsame⟩
    · exact hz
    · rw [hsame, hr.credit]
      exact inFlightBytes_eq_zero fun e he => hbare (hw.bare hm).1 e he.1
  refine atRest_grounded hw' hnone (hzero.trans (inFlightBytes_eq_zero hnone).symm) (h.credit hr.inputs)
    (fun e _ he => absurd he (hbare h.entryAt e)) (fun e _ _ he => absurd he (hbare h.entryAt e)) (fun o ho => ?_)
    fun m hm => ?_
  · rcases h.edges with ⟨hn, -⟩ | ⟨hold, -, hnew⟩
    · rw [hn] at ho
      cases ho
    · rw [hnew]
      exact hr.oldest o (hold ▸ ho)
  · rcases h.edges with ⟨-, hn⟩ | ⟨-, hhigh, hnew⟩
    · rw [hn] at hm
      cases hm
    · rw [hnew]
      exact hr.highest m (hhigh ▸ hm)

lemma AtRest.switch (hr : AtRest s) (hw : Windowed s) {epoch : Epoch} {available : Bool}
    (hs : s.switches epoch available = true) (h : Switches s s' epoch available) (hw' : Windowed s') : AtRest s' := by
  have hnone : ∀ e, ¬ s'.InFlight e := by
    rintro e ⟨hm, hf⟩
    obtain ⟨i, hi⟩ := mem_entries.1 hm
    rcases h.written i e hi with he | ⟨_, -, -, rfl⟩
    · rw [hr.terminal e (mem_entries.2 ⟨i, he⟩) (h.terminal hw hs hi)] at hf
      cases hf
    · cases hf
  have hkin : ∀ e', some e' ∈ s'.entries → ∃ e, some e ∈ s.entries ∧ e.Kin e' := by
    intro e' he'
    obtain ⟨i, hi⟩ := mem_entries.1 he'
    obtain ⟨e, he, ht⟩ := rel_some_right (hi ▸ h.entryAt i)
    exact ⟨e, mem_entries.2 ⟨i, he⟩, ht.kin⟩
  refine atRest_grounded hw' hnone (h.credit hr.credit) h.inputs (fun e' q he' hq => ?_) (fun x y q hx hy hxq hyq => ?_)
    (fun o ho => ?_) fun m hm => ?_
  · obtain ⟨e, he, hk⟩ := hkin e' he'
    rw [h.newestFeedback]
    exact hr.numbered e q he (hk.feedbackSequence ▸ hq)
  · obtain ⟨x0, hx0, hkx⟩ := hkin x hx
    obtain ⟨y0, hy0, hky⟩ := hkin y hy
    rw [hkx.id, hky.id]
    exact hr.distinct x0 y0 q hx0 hy0 (hkx.feedbackSequence ▸ hxq) (hky.feedbackSequence ▸ hyq)
  · rw [h.oldestFeedback] at ho
    cases ho
  · rw [h.highestFeedbackAcked] at hm
    cases hm

lemma AtRest.tidy (hr : AtRest s) (h : Tidies s s') : AtRest s' := by
  refine hr.transfer { h with inputs := h.credit } h.highestFeedbackAcked (fun sp st' hst' => ?_) fun e hs =>
      ⟨hs.pending, fun n => h.room ▸ hs.starved n, h.exhausted ▸ hs.exhausted⟩
  rcases h.spaces sp st' hst' with ⟨-, hempty, hedge⟩ | ⟨st, hst, ⟨hby, hfirst⟩, hedge, -⟩
  · exact .inl ⟨by rw [hempty]; rfl, hedge⟩
  · exact .inr ⟨st, hst, hby, hfirst, hedge⟩

end Grounded

/-- Reports come while the loss work can still take in what has outlived the retention, and commits go ahead of the
receipt edge of their space. -/
def KeepsCredit (s : Sender) : SenderOp → Prop
  | .processFeedback batch room => room.Persistent ∧ s.Funded batch.receivedAt
  | .commitPreflighted context _ => s.CommitsAhead context
  | _ => True

lemma AtRest.adjust (hr : AtRest s) (hw : Windowed s) (h : Adjusts s s') (hw' : Windowed s') : AtRest s' := by
  cases h with
  | tidy h => exact hr.tidy h
  | blank h => exact hr.blank hw h hw'
  | switch epoch available hs h => exact hr.switch hw hs h hw'

lemma AtRest.apply (hr : AtRest s) (hw : Windowed s) {op : SenderOp} (h : s.KeepsCredit op) : AtRest (s.apply op) := by
  have hw' := hw.apply op
  cases op with
  | processFeedback batch room => exact hr.processFeedback batch room h.1 h.2
  | expire now limit => exact hr.expire now limit
  | commitPreflighted context room =>
    exact commitPreflighted_keep hr fun _ hc => hr.commit hw hc (hc.windowed hw) h
  | _ => exact hr.adjust hw (apply_adjusts rfl) hw'

theorem credit_conserved {config : SenderConfig} (h : (machine config KeepsCredit).Reachable s) : s.Credited := by
  have hr : Windowed s ∧ AtRest s := by
    refine h.invariant (I := fun s => Windowed s ∧ AtRest s) ?_ fun _ op hr hg => ⟨hr.1.apply op, hr.2.apply hr.1 hg⟩
    rintro s ⟨hvalid, rfl⟩
    exact ⟨windowed_unfunded hvalid, atRest_unfunded hvalid⟩
  exact hr.2.toLed.toCredited

theorem credit_leaks : ∃ s, (machine leakConfig fun _ _ => True).Reachable s ∧ ¬ s.Credited := by
  refine ⟨leakOps.foldl apply _, reachable_foldl (by decide), fun hc => ?_⟩
  have hleak : ((leakOps.foldl apply (unfunded leakConfig)).entryAt 2).any
      (fun e => e.acknowledgment.isTerminal && e.inFlight) = true := by decide +kernel
  obtain ⟨e, he, hlost⟩ := (Option.any_eq_true _ _).1 hleak
  obtain ⟨ht, hf⟩ := Bool.and_eq_true_iff.1 hlost
  rw [hc.terminal e (mem_entries.2 ⟨2, he⟩) ht] at hf
  cases hf

def creditOps : List SenderOp :=
  [.prepareFeedbackProfile .continuous true, .setAvailability 1 true] ++ leakCommit 0 1 ++
    [.processFeedback ⟨1, 1, .continuous 1 0 0 [⟨true, none, none, none⟩]⟩ grantAll]

lemma keepsCredit_commit (hm : s.mode = some .continuous) (context : SendCommit) (room : Bool) :
    s.KeepsCredit (.commitPreflighted context room) := by
  intro hi
  rw [hm] at hi
  cases hi

theorem credit_conserved_received :
    ((creditOps.take 4).foldl apply (unfunded leakConfig)).bytesInFlight = 100 ∧
      (creditOps.foldl apply (unfunded leakConfig)).Credited := by
  have hg : (machine leakConfig KeepsCredit).Admits (unfunded leakConfig) creditOps :=
    ⟨trivial, trivial, trivial, keepsCredit_commit (by decide +kernel) ⟨0, 100, 1, ⟨0, 1, some 1, 0⟩⟩ true,
      ⟨nofun, .inr (by decide +kernel)⟩, trivial⟩
  exact ⟨by decide +kernel, credit_conserved (Machine.Reachable.run (.init ⟨by decide, rfl⟩) hg)⟩

end Pulsebeam.Feedback.Sender
