import Pulsebeam.Feedback.Credit

/-! Reports and expiry keep the books. -/

namespace Pulsebeam.Feedback

open Pulsebeam.Lib

/-- The allocator does not grant a slot of the missing queue after having refused one. -/
def Room.Persistent (room : Room) : Prop := ∀ n, room.missing n = false → ∀ m, n ≤ m → room.missing m = false

namespace Sender

variable {s s' : Sender} {e e' : SentEntry} {id : SentPacketId}

section ProcessFeedback

lemma rekeyEntry_keeps {now : Duration} (h : Led s) {i : ℕ} : Keeps s (rekeyEntry now s i) := by
  rcases rekeyEntry_cases now s i with ⟨hr, -⟩ | ⟨e, f, keys, he, hr, -⟩
  · rw [hr]
    exact .refl h
  · rw [hr]
    exact .update h he { Frame.refl s with } rfl ⟨rfl, rfl, rfl, rfl, rfl, rfl, rfl⟩ rfl h.inputs
      (h.terminal e (mem_entries.2 ⟨i, he⟩)) (fun hf => ⟨⟨rfl, rfl, rfl, rfl, rfl, rfl, rfl⟩, hf, .inl rfl⟩) le_rfl

lemma applyReorderingWindow_keeps (h : Led s) (now : Duration) : Keeps s (s.applyReorderingWindow now) := by
  unfold applyReorderingWindow
  split
  · exact .refl h
  have hk : Keeps s ((List.range s.entries.length).foldl (rekeyEntry now) s) :=
    foldl_settles kinClosed_false (fun s i h => rekeyEntry_keeps h) _ h
  refine Keeps.next hk fun h => ?_
  exact .idle h { Frame.refl _ with } rfl rfl rfl rfl

lemma noteTiming_keeps (h : Led s) (priorEvidence : ℕ) (receivedAt : Duration) (hold : Option Duration) :
    Keeps s (s.noteTiming priorEvidence receivedAt hold) := by
  unfold noteTiming
  dsimp only
  split
  · exact .idle h { Frame.refl s with } rfl rfl rfl rfl
  · exact .refl h

lemma Open.applyReport {batch : SendFeedback} (ho : Open batch.pathEpoch batch.receivedAt s)
    (hm : matchesMode s.mode batch.report = true) :
    Open batch.pathEpoch batch.receivedAt (s.applyReport batch).1 := by
  unfold Sender.applyReport
  revert hm
  cases batch.report with
  | continuous base reference generation statuses =>
    intro hm
    refine ho.processContinuous ?_ base reference generation statuses
    unfold matchesMode at hm
    split at hm <;> simp_all
  | independent reports =>
    intro hm
    refine ho.processIndependent ?_ reports
    unfold matchesMode at hm
    split at hm <;> simp_all

lemma AtRest.processFeedback (hr : AtRest s) (batch : SendFeedback) (room : Room) (hroom : room.Persistent)
    (hfund : s.Funded batch.receivedAt) : AtRest (s.processFeedback batch room) := by
  unfold Sender.processFeedback
  by_cases hex : s.inputs.exhausted = true
  · rw [if_pos hex]
    exact hr
  rw [if_neg hex]
  have h0 : AtRest { s with room := room } :=
    hr.transfer ⟨{ Fixed.refl s with }, rfl, rfl, rfl⟩ rfl
      (fun sp st hst => .inr ⟨st, hst, rfl, rfl, rfl⟩) fun e hs => absurd hs.exhausted hex
  have hs0 : Steady { s with room := room } := hroom
  have hf0 : Funded { s with room := room } batch.receivedAt := hfund
  revert h0 hs0 hf0
  generalize { s with room := room } = s0
  intro h0 hs0 hf0
  have hcount : ∀ c, AtRest { s0 with counters := c } := fun c => h0.keeps (counters_settles h0.toLed c)
  dsimp only
  split_ifs with hmany hactive hbad
  · exact hcount _
  · exact hcount _
  · exact hcount _
  simp only [Bool.or_eq_true, not_or, Bool.not_eq_true', Bool.not_eq_false] at hbad
  have h1 := Open.applyReport ⟨h0, hs0, hf0, not_not.1 hactive⟩ hbad.1.1
  have hk := applyReorderingWindow_keeps h1.toLed batch.receivedAt
  exact (h1.toAtRest.keeps hk).keeps (noteTiming_keeps hk.led _ _ _)

end ProcessFeedback

section Expire

lemma AtRest.bump (hr : AtRest s) (work : ℕ) (oldest : ℕ) (missing : List SentPacketId) :
    AtRest { s with lossWork := work, oldestSentId := oldest, missing := missing } :=
  hr.transfer ⟨{ Fixed.refl s with }, rfl, rfl, rfl⟩ rfl
    (fun _ st hst => .inr ⟨st, hst, rfl, rfl, rfl⟩) fun _ hs => ⟨hs.pending, hs.starved, hs.exhausted⟩

lemma AtRest.confirmLoss (hr : AtRest s) (now : Duration) (id : SentPacketId) : AtRest (s.confirmLoss now id) := by
  have h1 : AtRest { s with lossWork := s.lossWork + 1 } := hr.bump _ _ _
  unfold Sender.confirmLoss
  dsimp only
  split
  · exact h1
  next e he =>
    split
    next hmiss =>
      split
      · exact hr.bump _ _ _
      next deadline hd =>
        split
        · exact hr.bump _ _ _
        have hanch : e.anchored = true := by
          by_contra hn
          rw [reorderDeadline, SentEntry.reorderDeadline_eq_none (by simpa using hn)] at hd
          cases hd
        refine h1.keeps (markLostUnbudgeted_reordering_keeps h1.toLed (h1.toLed.retired fun x hx => ?_))
        rw [he] at hx
        cases hx
        by_contra hf
        have := h1.calm e ⟨mem_of_entry he, by simpa using hf⟩
        rw [hanch] at this
        cases this
    · exact h1

lemma AtRest.confirmLoop (now : Duration) (n : ℕ) (hr : AtRest s) : AtRest (Sender.confirmLoop now n s).1 := by
  induction n generalizing s with
  | zero => exact hr
  | succ n ih =>
    unfold Sender.confirmLoop
    split
    · exact hr
    next sentId rest _ =>
      exact ih (AtRest.confirmLoss (hr.bump s.lossWork s.oldestSentId rest) now sentId)

lemma AtRest.reclaimSources (now : Duration) (n : ℕ) (hr : AtRest s) : AtRest (Sender.reclaimSources now n s).1 := by
  induction n generalizing s with
  | zero => exact hr
  | succ n ih =>
    unfold Sender.reclaimSources
    split
    · split
      next deadline space _ =>
        split
        · exact hr
        refine ih (hr.transfer ⟨{ Fixed.refl s with }, rfl, rfl, rfl⟩ rfl (fun sp st hst => ?_)
          fun _ hs => ⟨hs.pending, hs.starved, hs.exhausted⟩)
        by_cases hsp : sp = space
        · subst hsp
          rw [AList.lookup_erase] at hst
          cases hst
        · rw [AList.lookup_erase_ne hsp] at hst
          exact .inr ⟨st, hst, rfl, rfl, rfl⟩
      · exact hr
    · exact hr

lemma AtRest.expireEntry (hr : AtRest s) (id : SentPacketId) (e : SentEntry) : AtRest (s.expireEntry id e) := by
  have h1 : AtRest { s with lossWork := s.lossWork + 1 } := hr.bump _ _ _
  unfold Sender.expireEntry
  split
  · exact hr.bump _ _ _
  · have hk := (markLostUnbudgeted_expiry_keeps h1.toLed id).1
    exact AtRest.bump ((h1.keeps hk).keeps (counters_settles hk.led _)) _ _ _

lemma AtRest.expireLoop (now : Duration) (n : ℕ) (hr : AtRest s) : AtRest (Sender.expireLoop now n s).1 := by
  induction n generalizing s with
  | zero => exact hr
  | succ n ih =>
    unfold Sender.expireLoop
    split
    · split
      · exact ih (hr.bump _ _ _)
      next e _ =>
        split
        · exact hr
        split
        · exact hr
        · exact ih (hr.expireEntry _ e)
    · exact hr

lemma AtRest.expire (hr : AtRest s) (now : Duration) (limit : ℕ) : AtRest (s.expire now limit).1 :=
  AtRest.expireLoop now _ (AtRest.reclaimSources now _ (AtRest.confirmLoop now _ hr))

end Expire

end Sender

end Pulsebeam.Feedback
