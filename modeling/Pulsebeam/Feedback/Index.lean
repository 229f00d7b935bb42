import Pulsebeam.Feedback.Budget
import Pulsebeam.Feedback.Window

/-! Every live packet of the window is found through the index of its mode. -/

namespace Pulsebeam.Feedback.Sender

open Pulsebeam.Lib List Option Nat Bool

variable {s s' t : Sender} {e e' : SentEntry} {id : SentPacketId} {space : SpaceId} {q : ℕ} {i : ℕ}

def packetId (s : Sender) (space : SpaceId) (q : ℕ) : Option SentPacketId :=
  (s.spaces.lookup space).bind fun state => state.bySequence.lookup q

def Live (s : Sender) (i : ℕ) (e : SentEntry) : Prop := s.entryAt i = some e ∧ e.acknowledgment.isTerminal = false

structure Indexed (s : Sender) : Prop where
  young : ∀ i e, s.Live i e → s.oldestSentId ≤ e.id
  feedback : s.mode = some .continuous → ∀ i e, s.Live i e →
    ∃ q, e.feedbackSequence = some q ∧ s.feedbackSentId q = some e.id
  packet : s.mode = some .independent → ∀ i e, s.Live i e → s.packetId e.space e.packetSequence = some e.id

lemma Follows.packetId (h : Follows s s') (space : SpaceId) (q : ℕ) : s'.packetId space q = s.packetId space q := by
  have hsame : ∀ o : Option SpaceHistory, (o.bind fun state => state.bySequence.lookup q) =
      (o.map (·.bySequence)).bind fun index => index.lookup q := fun o => by cases o <;> rfl
  rw [Sender.packetId, Sender.packetId, hsame, hsame, h.packets]

lemma live_of_turns (h : ∀ i, Option.Rel Turns (s.entryAt i) (s'.entryAt i)) (he' : s'.Live i e') :
    ∃ e, s.Live i e ∧ e.Kin e' := by
  obtain ⟨e, he, ht⟩ := rel_some_right (he'.1 ▸ h i)
  refine ⟨e, ⟨he, ?_⟩, ht.kin⟩
  by_contra hterm
  have hterm' : e.acknowledgment.isTerminal = true := by simpa using hterm
  have hlive := he'.2
  rw [ht.terminal hterm', hterm'] at hlive
  cases hlive

lemma Indexed.transfer (h : Indexed s) (hmode : s'.mode = s.mode)
    (hlive : ∀ i e', s'.Live i e' → ∃ e, s.Live i e ∧ e.Kin e' ∧ (s.oldestSentId ≤ e.id → s'.oldestSentId ≤ e.id) ∧
      (∀ q, s.feedbackSentId q = some e.id → s'.feedbackSentId q = some e.id) ∧
      (s.mode = some .independent → s.packetId e.space e.packetSequence = some e.id →
        s'.packetId e.space e.packetSequence = some e.id)) : Indexed s' := by
  refine ⟨fun i e' he' => ?_, fun hm i e' he' => ?_, fun hm i e' he' => ?_⟩
  all_goals obtain ⟨e, he, hk, hold, hfeedback, hpacket⟩ := hlive i e' he'
  · rw [hk.id]
    exact hold (h.young i e he)
  · obtain ⟨q, hq, hid⟩ := h.feedback (hmode ▸ hm) i e he
    exact ⟨q, hk.feedbackSequence.trans hq, hk.id.symm ▸ hfeedback q hid⟩
  · rw [hk.space, hk.packetSequence, hk.id]
    exact hpacket (hmode ▸ hm) (h.packet (hmode ▸ hm) i e he)

lemma Indexed.follows (h : Indexed s) (hf : Follows s s') : Indexed s' := by
  refine h.transfer hf.mode fun i e' he' => ?_
  obtain ⟨e, he, hk⟩ := live_of_turns hf.entryAt he'
  exact ⟨e, he, hk, fun ho => hf.oldestSentId.symm ▸ ho, fun q hq => (hf.feedbackSentId q).trans hq,
    fun _ hp => (hf.packetId _ _).trans hp⟩

lemma indexed_blank (h : ∀ i, s.entryAt i = none) : Indexed s := by
  have hno : ∀ i e, ¬ s.Live i e := fun i e he => by
    have hat := he.1
    rw [h i] at hat
    cases hat
  exact ⟨fun i e he => absurd he (hno i e), fun _ i e he => absurd he (hno i e), fun _ i e he => absurd he (hno i e)⟩

section Commit

variable {context : SendCommit} {room : Bool}

section

variable (h : Commits s s' context)

include h

lemma Commits.packetId_new : s'.packetId context.identity.space context.identity.packet = some s.nextSentId := by
  have hr := h.spaces context.identity.space
  obtain ⟨st, hst⟩ := isSome_iff_exists.1 h.known
  rw [hst] at hr
  unfold packetId
  cases hst' : s'.spaces.lookup context.identity.space with
  | none =>
    rw [hst'] at hr
    cases hr
  | some st' =>
    obtain ⟨_, st1, -, -, rfl⟩ := h.space hst'
    rw [if_pos rfl]
    exact AList.lookup_insert _

lemma Commits.packetId (hp : s.packetId space q = some id)
    (hne : ∀ p, s.entryAt (s.slot s.nextSentId) = some p → id ≠ p.id) : s'.packetId space q = some id := by
  obtain ⟨st, hst, hl⟩ := bind_eq_some_iff.1 hp
  have hr := h.spaces space
  rw [hst] at hr
  unfold Sender.packetId
  cases hst' : s'.spaces.lookup space with
  | none =>
    rw [hst'] at hr
    cases hr
  | some st' =>
    obtain ⟨st0, st1, hst0, hthin, rfl⟩ := h.space hst'
    cases hst.symm.trans hst0
    have hl1 := hthin.kept q id hl hne
    split
    next hsp =>
      have hq : q ≠ context.identity.packet := by
        rintro rfl
        rw [h.valid.fresh st (hsp ▸ hst)] at hl
        cases hl
      exact (AList.lookup_insert_ne hq).trans hl1
    · exact hl1

lemma Commits.keeps_live (hw : Windowed s) (he : s.Live i e) : i ≠ s.slot s.nextSentId := by
  rintro rfl
  have hterm := h.valid.slotFree e he.1 (Option.some.inj ((hw.live _ e he.1 he.2).symm.trans h.valid.active))
  rw [he.2] at hterm
  cases hterm

lemma Commits.live_cases (hw : Windowed s) (he : s'.Live i e) :
    i = s.slot s.nextSentId ∧ e = commitEntry context s.nextSentId ∨ i ≠ s.slot s.nextSentId ∧ s.Live i e := by
  have hat := he.1
  rw [h.entryAt hw] at hat
  split at hat
  next hi =>
    cases hat
    exact .inl ⟨hi, rfl⟩
  next hi => exact .inr ⟨hi, hat, he.2⟩

lemma Commits.young (hw : Windowed s) (hi : i ≠ s.slot s.nextSentId)
    (he : s.entryAt i = some e) (hold : s.oldestSentId ≤ e.id) : s'.oldestSentId ≤ e.id := by
  rw [h.oldestSentId]
  refine max_le hold ?_
  by_contra hlt
  have hslot := hw.ring i e he
  have hcap := hw.capacity
  have hnext : e.id + s.config.capacity ≤ s.nextSentId := by
    rw [not_le] at hlt
    exact le_of_lt_succ (add_lt_of_lt_sub hlt)
  have hsame : s.slot (e.id + s.config.capacity) = i := by
    rw [← hslot]
    exact add_mod_right _ _
  rcases lt_or_eq_of_le hnext with hlt' | heq
  · obtain ⟨x, hx⟩ := hw.retained _ (le_add_right_of_le hold) hlt'
    obtain ⟨hat, hid⟩ := entry_eq_some.1 hx
    rw [hsame, he] at hat
    cases hat
    exact absurd hid (Nat.ne_of_lt (Nat.lt_add_of_pos_right hcap))
  · exact hi (heq ▸ hsame.symm)

end

lemma Indexed.commit (hi : Indexed s) (hw : Windowed s) (hc : Commits s s' context) : Indexed s' := by
  have hdistinct : ∀ {i e}, i ≠ s.slot s.nextSentId → s.Live i e →
      ∀ p, s.entryAt (s.slot s.nextSentId) = some p → e.id ≠ p.id := by
    intro i e hne he p hp heq
    have h1 := hw.ring i e he.1
    have h2 := hw.ring _ p hp
    rw [heq, h2] at h1
    exact hne h1.symm
  refine ⟨fun i e he => ?_, fun hm i e he => ?_, fun hm i e he => ?_⟩
  · rcases hc.live_cases hw he with ⟨-, rfl⟩ | ⟨hne, he⟩
    · rw [hc.oldestSentId]
      exact max_le hw.oldest (Nat.sub_le_of_le_add (Nat.add_le_add_left hw.capacity _))
    · exact hc.young hw hne he.1 (hi.young i e he)
  · rw [hc.mode] at hm
    rcases hc.valid.mode with ⟨-, q, hq⟩ | ⟨hm', -⟩
    · rcases hc.live_cases hw he with ⟨-, rfl⟩ | ⟨hne, he⟩
      · exact ⟨q, hq, hc.feedbackSentId_new hw hq⟩
      · obtain ⟨q', hq', hid⟩ := hi.feedback hm i e he
        exact ⟨q', hq', hc.feedbackSentId hid (hw.entry he.1) he.2 (hw.live i e he.1 he.2) (hdistinct hne he)⟩
    · rw [hm'] at hm
      cases hm
  · rw [hc.mode] at hm
    rcases hc.live_cases hw he with ⟨-, rfl⟩ | ⟨hne, he⟩
    · exact hc.packetId_new
    · exact hc.packetId (hi.packet hm i e he) (hdistinct hne he)

end Commit

section Expiry

variable {now : Duration} {limit n : ℕ} {u : Sender}

structure Confirms (s t : Sender) : Prop extends Preserves s t where
  oldestSentId : t.oldestSentId = s.oldestSentId
  packetId : ∀ space q, t.packetId space q = s.packetId space q
  readiness : t.readiness.elems.Sublist s.readiness.elems

lemma Confirms.trans (h : Confirms s t) (h' : Confirms t u) : Confirms s u :=
  ⟨h.toPreserves.trans h'.toPreserves, h'.oldestSentId.trans h.oldestSentId,
    fun space q => (h'.packetId space q).trans (h.packetId space q), h'.readiness.trans h.readiness⟩

lemma readiness_setLost (s : Sender) (id : SentPacketId) (origin : LossOrigin) :
    (s.setLost id origin).readiness.elems.Sublist s.readiness.elems := by
  unfold setLost
  split
  · exact .refl _
  next e _ =>
    split
    · exact .refl _
    rw [(meter_emit ..).2]
    cases e.readiness s.reorderingWindow with
    | none =>
      unfold eraseKey updateEntry
      dsimp only
      split <;> exact .refl _
    | some key =>
      have hsame : (s.updateEntry id fun e => { e with acknowledgment := .lost }).readiness = s.readiness := by
        unfold updateEntry
        split <;> rfl
      rw [eraseKey, hsame]
      exact filter_sublist

lemma confirmLoss_confirms (s : Sender) (now : Duration) (id : SentPacketId) : Confirms s (confirmLoss now s id) := by
  have hsame : ∀ work missing, Confirms s { s with lossWork := work, missing := missing } := fun _ _ =>
    ⟨{ Preserves.refl s with }, rfl, fun _ _ => rfl, .refl _⟩
  unfold confirmLoss
  dsimp only
  split
  · exact hsame _ _
  split
  · split
    · exact hsame _ _
    split
    · exact hsame _ _
    have hf := (@setLost_does False { s with lossWork := s.lossWork + 1 } (s.lossWork + 1) id .reordering).follows
    have hlose : Confirms { s with lossWork := s.lossWork + 1 }
        (markLostUnbudgeted { s with lossWork := s.lossWork + 1 } id .reordering) :=
      ⟨hf.toPreserves, hf.oldestSentId, hf.packetId, readiness_setLost _ _ _⟩
    exact (hsame _ _).trans hlose
  · exact hsame _ _

lemma confirmLoop_confirms (now : Duration) (n : ℕ) (s : Sender) : Confirms s (confirmLoop now n s).1 := by
  induction n generalizing s with
  | zero => exact ⟨.refl s, rfl, fun _ _ => rfl, .refl _⟩
  | succ n ih =>
    rw [confirmLoop]
    split
    · exact ⟨.refl s, rfl, fun _ _ => rfl, .refl _⟩
    next id rest _ =>
      have hrest : Confirms s { s with missing := rest } := ⟨{ Preserves.refl s with }, rfl, fun _ _ => rfl, .refl _⟩
      exact (hrest.trans (confirmLoss_confirms _ now id)).trans (ih _)

def isDue (now : Duration) : Readiness → Bool
  | .retired deadline _ => !(deadline.any fun deadline => decide (now < deadline))
  | _ => false

def isOf (space : SpaceId) : Readiness → Bool
  | .retired _ space' => space' == space
  | _ => false

def due (s : Sender) (now : Duration) : List Readiness := s.readiness.elems.filter (isDue now)

structure Reclaims (now : Duration) (s : Sender) (result : Sender × ℕ) : Prop where
  preserves : Preserves s result.1
  oldestSentId : result.1.oldestSentId = s.oldestSentId
  rounds : result.2 ≤ (s.due now).length
  packetId : ∀ space q id, s.packetId space q = some id →
    result.1.packetId space q = some id ∨ ((s.due now).any (isOf space)) = true

lemma Reclaims.none (now : Duration) (s : Sender) : Reclaims now s (s, 0) :=
  ⟨.refl s, rfl, zero_le _, fun _ _ _ h => .inl h⟩

lemma packetId_erase (space' : SpaceId) (h : s.packetId space q = some id) (hne : space ≠ space') :
    packetId { s with spaces := s.spaces.erase space' } space q = some id := by
  unfold packetId at h ⊢
  rwa [AList.lookup_erase_ne hne]

lemma reclaimSources_reclaims (now : Duration) (n : ℕ) (s : Sender) : Reclaims now s (reclaimSources now n s) := by
  induction n generalizing s with
  | zero => exact .none now s
  | succ n ih =>
    rw [reclaimSources]
    split
    · split
      next deadline space hhead =>
        split
        · exact .none now s
        next hdue =>
          have h := ih { s with
            readiness := s.readiness.erase (.retired deadline space)
            spaces := s.spaces.erase space
            lossWork := s.lossWork + 1 }
          have hkey : isDue now (.retired deadline space) = true := by simpa [isDue] using hdue
          obtain ⟨rest, hrest⟩ : ∃ rest, s.readiness.elems = .retired deadline space :: rest :=
            head?_eq_some_iff.1 hhead
          have hmem : Readiness.retired deadline space ∈ s.due now := mem_filter.2 ⟨hrest ▸ mem_cons_self, hkey⟩
          -- What is due afterwards was due before, and one key is gone.
          have hsub : (due { s with
              readiness := s.readiness.erase (.retired deadline space)
              lossWork := s.lossWork + 1 } now).Sublist (rest.filter (isDue now)) := by
            refine List.Sublist.filter _ ?_
            change (s.readiness.elems.filter _).Sublist rest
            rw [hrest, filter_cons_of_neg (by simp)]
            exact filter_sublist
          have hcount : (s.due now).length = (rest.filter (isDue now)).length + 1 := by
            rw [due, hrest, filter_cons_of_pos hkey, length_cons]
          have hout : Preserves s { s with
              readiness := s.readiness.erase (.retired deadline space)
              spaces := s.spaces.erase space
              lossWork := s.lossWork + 1 } := { Preserves.refl s with }
          refine ⟨hout.trans h.preserves, h.oldestSentId, ?_, fun space' q id hp => ?_⟩
          · rw [hcount]
            exact succ_le_succ (h.rounds.trans hsub.length_le)
          · by_cases hsp : space' = space
            · exact .inr (any_eq_true.2 ⟨_, hmem, by simp [isOf, hsp]⟩)
            refine (h.packetId space' q id (packetId_erase space hp hsp)).imp_right fun hany => ?_
            obtain ⟨key, hk, hof⟩ := any_eq_true.1 hany
            have hk' : key ∈ s.due now := by
              rw [due, hrest, filter_cons_of_pos hkey]
              exact mem_cons_of_mem _ (hsub.subset hk)
            exact any_eq_true.2 ⟨key, hk', hof⟩
      · exact .none now s
    · exact .none now s

def past (s : Sender) (now : Duration) (e : SentEntry) : Bool :=
  (Duration.checkedAdd e.committedAt s.config.retention).any fun deadline => decide (deadline ≤ now)

structure Drops (s t : Sender) : Prop extends Preserves s t where
  packetId : ∀ space q, t.packetId space q = s.packetId space q
  young : (∀ i e, s.Live i e → s.oldestSentId ≤ e.id) → ∀ i e, t.Live i e → t.oldestSentId ≤ e.id

lemma Drops.refl (s : Sender) : Drops s s := ⟨.refl s, fun _ _ => rfl, fun h => h⟩

lemma Drops.trans (h : Drops s t) (h' : Drops t u) : Drops s u :=
  ⟨h.toPreserves.trans h'.toPreserves, fun space q => (h'.packetId space q).trans (h.packetId space q),
    fun hs => h'.young (h.young hs)⟩

lemma setLost_done {origin : LossOrigin} (h : (s.setLost id origin).entry id = some e) :
    e.acknowledgment.isTerminal = true := by
  rcases setLost_cases s id origin with ⟨heq, hterm⟩ | ⟨x, -, reported, hw, -, -⟩
  · exact hterm e (heq ▸ h)
  rw [hw.entry_self] at h
  cases h
  rfl

lemma markLostUnbudgeted_done (h : (s.markLostUnbudgeted id .historyExpiry).entry id = some e) :
    e.acknowledgment.isTerminal = true := by
  simp only [markLostUnbudgeted] at h
  split at h
  next hnone =>
    rw [hnone] at h
    cases h
  · exact setLost_done h

lemma drops_oldest (hw : Windowed s) (hf : Follows s t)
    (hdone : ∀ x, t.entry s.oldestSentId = some x → x.acknowledgment.isTerminal = true) :
    Drops s { t with oldestSentId := t.oldestSentId + 1 } := by
  refine ⟨hf.toPreserves.trans { Preserves.refl t with }, hf.packetId, fun hs i e' he' => ?_⟩
  have hlive : t.Live i e' := he'
  obtain ⟨x, hx, hk⟩ := live_of_turns hf.entryAt hlive
  have hle : s.oldestSentId ≤ e'.id := hk.id ▸ hs i x hx
  rw [hf.oldestSentId]
  refine succ_le_of_lt (lt_of_le_of_ne hle fun heq => ?_)
  have hent := (hw.follows hf).entry hlive.1
  have hterm := hdone e' (heq ▸ hent)
  rw [hlive.2] at hterm
  cases hterm

lemma expireEntry_drops (hw : Windowed s) (he : s.entry s.oldestSentId = some e)
    (hwork : s.lossWork ≠ s.config.maxExpirationsPerPoll) :
    Drops s (s.expireEntry s.oldestSentId e) ∧ (s.expireEntry s.oldestSentId e).oldestSentId = s.oldestSentId + 1 := by
  unfold expireEntry
  split
  next hterm =>
    refine ⟨drops_oldest hw { Follows.refl s with } fun x hx => ?_, rfl⟩
    cases he.symm.trans hx
    exact hterm
  · have hf := (markLostUnbudgeted_quiet he hwork .historyExpiry).follows
    have hdone := @markLostUnbudgeted_done { s with lossWork := s.lossWork + 1 }
    refine ⟨drops_oldest hw (hf.trans (counters_still _).follows) fun x hx => hdone hx, ?_⟩
    exact congrArg (· + 1) hf.oldestSentId

lemma expireLoop_drops (now : Duration) (n : ℕ) (hw : Windowed s) : Drops s (expireLoop now n s).1 := by
  induction n generalizing s with
  | zero => exact .refl s
  | succ n ih =>
    rw [expireLoop]
    split
    next hcond =>
      obtain ⟨hwork, hlt⟩ : s.lossWork < s.config.maxExpirationsPerPoll ∧ s.oldestSentId < s.nextSentId := by
        simpa using hcond
      split
      next hnone =>
        obtain ⟨e, he⟩ := hw.retained _ le_rfl hlt
        rw [he] at hnone
        cases hnone
      next e he =>
        split
        · exact .refl s
        split
        · exact .refl s
        · exact (expireEntry_drops hw he hwork.ne).1.trans (ih (hw.expires (expireEntry_expires he hwork.ne hlt)))
    · exact .refl s

lemma expireLoop_passes {k : ℕ} (hw : Windowed s) (hk : s.oldestSentId + k ≤ s.nextSentId) (hn : k ≤ n)
    (hwork : s.lossWork + k ≤ s.config.maxExpirationsPerPoll)
    (hpast : ∀ id e, s.oldestSentId ≤ id → id < s.oldestSentId + k → s.entry id = some e → s.past now e = true) :
    s.oldestSentId + k ≤ (expireLoop now n s).1.oldestSentId := by
  induction k generalizing s n with
  | zero =>
    have hmono : ∀ {u : Sender}, Expires s u → s.oldestSentId ≤ u.oldestSentId := fun h =>
      h.keep (P := fun u => s.oldestSentId ≤ u.oldestSentId) (fun _ _ h hs => h.follows.oldestSentId.symm ▸ hs)
        (fun a b h hs => by
          cases h with
          | requeue | reclaim => exact hs
          | @confirm id rest hwork => exact hs.trans_eq (@confirm_micro a rest hwork id).follows.oldestSentId.symm
          | oldest => exact le_succ_of_le hs) le_rfl
    exact hmono (expireLoop_expires now n s)
  | succ k ih =>
    obtain ⟨n, rfl⟩ : ∃ m, n = m + 1 := ⟨n - 1, by omega⟩
    have hlt : s.oldestSentId < s.nextSentId := by omega
    obtain ⟨e, he⟩ := hw.retained _ le_rfl hlt
    have hdue := hpast _ e le_rfl (by omega) he
    obtain ⟨deadline, hdeadline, hle⟩ := (any_eq_true _ _).1 hdue
    rw [expireLoop, if_pos (by simp; omega), he]
    dsimp only
    rw [hdeadline]
    dsimp only
    rw [if_neg (not_lt.2 (of_decide_eq_true hle))]
    have hround := expireEntry_expires he (by omega) hlt
    obtain ⟨hdrops, hold⟩ := expireEntry_drops hw he (by omega)
    have hspent : (s.expireEntry s.oldestSentId e).lossWork = s.lossWork + 1 := by
      unfold expireEntry
      split
      · rfl
      · exact congrArg Prod.snd (meter_markLostUnbudgeted ..)
    have hrest := ih (n := n) (hw.expires hround)
      (by rw [hold, hdrops.nextSentId]; omega) (by omega) (by rw [hspent, hdrops.config]; omega)
      fun id x hlo hhi hx => by
        obtain ⟨y, hy, ht⟩ := hdrops.entry_back hx
        have hp := hpast id y (by omega) (by omega) hy
        rwa [past, hdrops.config, ht.kin.committedAt]
    exact le_trans (by omega) hrest

/-- A poll that may give up a source with live packets also reaches those packets. -/
def Ample (s : Sender) : SenderOp → Prop
  | .expire now limit => s.mode = some .independent → ∀ e ∈ s.entries.reduceOption,
      e.acknowledgment.isTerminal = false → (s.due now).any (isOf e.space) = true →
      (∀ x ∈ s.entries.reduceOption, s.oldestSentId ≤ x.id → x.id ≤ e.id → s.past now x = true) ∧
        s.missing.length + (s.due now).length + (e.id + 1 - s.oldestSentId) ≤
          min limit (s.config.maxExpirationsPerPoll - s.lossWork)
  | _ => True

instance (s : Sender) (op : SenderOp) : Decidable (s.Ample op) := by
  cases op <;> dsimp only [Ample] <;> infer_instance

lemma mem_reduceOption_of_entryAt (h : s.entryAt i = some e) : e ∈ s.entries.reduceOption :=
  reduceOption_mem_iff.2 (mem_of_getElem? (getElem?_of_entryAt h))

lemma Indexed.expire (hi : Indexed s) (hw : Windowed s) (ha : s.Ample (.expire now limit)) :
    Indexed (s.expire now limit).1 := by
  have hout := (expire_expires s now limit).preserves
  revert hout
  unfold Sender.expire
  dsimp only
  have hconfirm := confirmLoop_confirms now (min (min (min limit (s.config.maxExpirationsPerPoll / 2)) s.missing.length)
    (s.config.maxExpirationsPerPoll - s.lossWork)) s
  have hspent := confirmLoop_spends now (min (min (min limit (s.config.maxExpirationsPerPoll / 2)) s.missing.length)
    (s.config.maxExpirationsPerPoll - s.lossWork)) s
  have hw1 := hw.expires (confirmLoop_expires now (min (min (min limit (s.config.maxExpirationsPerPoll / 2))
    s.missing.length) (s.config.maxExpirationsPerPoll - s.lossWork)) s (min_le_right _ _))
  unfold confirmLosses
  revert hconfirm hspent hw1
  generalize hrounds : min (min (min limit (s.config.maxExpirationsPerPoll / 2)) s.missing.length)
    (s.config.maxExpirationsPerPoll - s.lossWork) = rounds
  generalize confirmLoop now rounds s = first
  obtain ⟨s1, confirmed⟩ := first
  intro hconfirm hspent hw1
  have hreclaim := reclaimSources_reclaims now ((limit - confirmed + 1) / 2) s1
  have hspent2 := reclaimSources_spends now ((limit - confirmed + 1) / 2) s1
  have hw2 := hw1.expires (reclaimSources_expires now ((limit - confirmed + 1) / 2) s1)
  revert hreclaim hspent2 hw2
  generalize reclaimSources now ((limit - confirmed + 1) / 2) s1 = second
  obtain ⟨s2, reclaimed⟩ := second
  intro hreclaim hspent2 hw2
  have hdrops := expireLoop_drops now (limit - (confirmed + reclaimed)) hw2
  have hpasses := @expireLoop_passes s2 now (limit - (confirmed + reclaimed))
  revert hdrops hpasses
  generalize expireLoop now (limit - (confirmed + reclaimed)) s2 = third
  obtain ⟨s3, expired⟩ := third
  dsimp only at hconfirm hspent hw1 hreclaim hspent2 hw2 ⊢
  intro hdrops hpasses hout
  have hyoung2 : ∀ i e, s2.Live i e → s2.oldestSentId ≤ e.id := by
    intro i e he
    obtain ⟨x, hx, hk⟩ := live_of_turns (hconfirm.toPreserves.trans hreclaim.preserves).entryAt he
    rw [hreclaim.oldestSentId, hconfirm.oldestSentId, hk.id]
    exact hi.young i x hx
  have hyoung := hdrops.young hyoung2
  refine ⟨hyoung, fun hm i e' he' => ?_, fun hm i e' he' => ?_⟩
  all_goals
    obtain ⟨e, he, hk⟩ := live_of_turns hout.entryAt he'
    rw [hout.mode] at hm
  · obtain ⟨q, hq, hid⟩ := hi.feedback hm i e he
    exact ⟨q, hk.feedbackSequence.trans hq, by rw [hout.feedbackSentId, hid, hk.id]⟩
  have hp : s1.packetId e.space e.packetSequence = some e.id := (hconfirm.packetId _ _).trans (hi.packet hm i e he)
  rw [hk.space, hk.packetSequence, hk.id, hdrops.packetId]
  rcases hreclaim.packetId _ _ _ hp with hp | hdue
  · exact hp
  -- The source is gone, and so the poll has also reached its packet.
  · have hsub : (s1.due now).Sublist (s.due now) := hconfirm.readiness.filter _
    obtain ⟨key, hkey, hof⟩ := any_eq_true.1 hdue
    obtain ⟨hpast, henough⟩ := ha hm e (mem_reduceOption_of_entryAt he.1) he.2
      (any_eq_true.2 ⟨key, hsub.subset hkey, hof⟩)
    have hle := hi.young i e he
    have hknown := hw.known i e he.1
    have hold := hreclaim.oldestSentId.trans hconfirm.oldestSentId
    have hlive := hconfirm.toPreserves.trans hreclaim.preserves
    have hconfirmed : confirmed ≤ s.missing.length :=
      hspent.work.trans (hrounds ▸ (min_le_left _ _).trans (min_le_right _ _))
    have hreclaimed := hreclaim.rounds.trans hsub.length_le
    have hfirst := hspent.spent
    have hsecond := hspent2.spent
    have hspan : s.oldestSentId + (e.id + 1 - s.oldestSentId) = e.id + 1 := Nat.add_sub_cancel' (Nat.le_succ_of_le hle)
    have hreached := hpasses (k := e.id + 1 - s.oldestSentId) hw2
      (by rw [hold, hlive.nextSentId, hspan]; exact hknown) (by omega)
      (by rw [hlive.config, hsecond, hfirst]; omega) fun id x hlo hhi hx => by
        obtain ⟨y, hy, ht⟩ := hlive.entry_back hx
        obtain ⟨hat, hid⟩ := entry_eq_some.1 hy
        rw [past, hlive.config, ht.kin.committedAt]
        rw [hold] at hlo hhi
        rw [hspan, ← hid] at hhi
        exact hpast y (mem_reduceOption_of_entryAt hat) (hid ▸ hlo) (le_of_lt_succ hhi)
    rw [hold, hspan] at hreached
    exact absurd (hk.id ▸ hyoung i e' he') (not_le.2 hreached)

end Expiry

section Runs

variable {config : SenderConfig} {granted : Bool}

lemma Indexed.tidies (hi : Indexed s) (h : Tidies s s') : Indexed s' := by
  refine hi.transfer h.mode fun i e hlive => ?_
  have hat : s.entryAt i = some e := by rw [← hlive.1, entryAt, entryAt, h.entries]
  refine ⟨e, ⟨hat, hlive.2⟩, .refl e, fun ho => h.oldestSentId.symm ▸ ho, fun q hq => ?_, fun _ hp => ?_⟩
  · rw [← hq]
    simp only [Sender.feedbackSentId, indexAt, slot, h.config, h.feedbackIndex]
  · obtain ⟨st, hst, hl⟩ := bind_eq_some_iff.1 hp
    obtain ⟨st', hst', hsame⟩ := h.kept _ st hst
    rw [packetId, hst', bind_some, hsame]
    exact hl

lemma Indexed.adjusts (hi : Indexed s) (hw : Windowed s) (h : Adjusts s s') : Indexed s' := by
  cases h with
  | tidy h => exact hi.tidies h
  | blank h => exact indexed_blank h.entryAt
  | switch epoch available hs h =>
    have hno : ∀ i e, ¬ s'.Live i e := fun i e he => by
      have hterm := h.terminal hw hs he.1
      rw [he.2] at hterm
      cases hterm
    exact ⟨fun i e he => absurd he (hno i e), fun _ i e he => absurd he (hno i e), fun _ i e he => absurd he (hno i e)⟩

lemma Indexed.apply (hi : Indexed s) (hw : Windowed s) {op : SenderOp} (ha : s.Ample op) : Indexed (s.apply op) := by
  cases op with
  | commitPreflighted context room => exact commitPreflighted_keep hi fun _ => hi.commit hw
  | processFeedback batch room => exact hi.follows (processFeedback_steps s batch room).follows
  | expire now limit => exact hi.expire hw ha
  | _ => exact hi.adjusts hw (apply_adjusts rfl)

lemma indexed_reachable (h : (machine config Ample).Reachable s) : Windowed s ∧ Indexed s := by
  refine h.invariant (I := fun s => Windowed s ∧ Indexed s) ?_ fun s op hs hg => ⟨hs.1.apply op, hs.2.apply hs.1 hg⟩
  rintro s ⟨hvalid, rfl⟩
  exact ⟨windowed_unfunded hvalid, indexed_blank fun _ => rfl⟩

lemma Indexed.lookupPacket (hi : Indexed s) (hw : Windowed s) (hm : s.mode = some .independent) (he : s.Live i e) :
    s.lookupPacket e.space e.packetSequence = some e.id := by
  refine lookupPacket_eq_some.2 ⟨?_, e, hw.entry he.1, rfl, rfl⟩
  obtain ⟨st, hst, hl⟩ := bind_eq_some_iff.1 (hi.packet hm i e he)
  exact ⟨st, hst, hl⟩

structure Coherent (s : Sender) : Prop where
  retained : ∀ id, s.oldestSentId ≤ id → id < s.nextSentId → ∃ e, s.entry id = some e
  spared : ∀ context room i e, s.entryAt i = some e → e.acknowledgment.isTerminal = false →
    s.activeEpoch = some e.pathEpoch → (s.commitPreflighted context room).2.entryAt i = some e
  feedback : s.mode = some .continuous → ∀ i e, s.entryAt i = some e → e.acknowledgment.isTerminal = false →
    ∃ q, e.feedbackSequence = some q ∧ s.feedbackSentId q = some e.id
  packet : s.mode = some .independent → ∀ i e, s.entryAt i = some e → e.acknowledgment.isTerminal = false →
    s.lookupPacket e.space e.packetSequence = some e.id
  prepareRefused : ∀ context granted error, (s.prepareCommit context granted).1 = .error error →
    (s.prepareCommit context granted).2 = s
  commitRefused : ∀ context room error, (s.commitPreflighted context room).1 = .error error →
    (s.commitPreflighted context room).2 = s

lemma prepareCommit_refused {context : SendCommit} (h : (s.prepareCommit context granted).1 = .error error) :
    (s.prepareCommit context granted).2 = s := by
  unfold Sender.prepareCommit at h ⊢
  split
  · rfl
  split
  · rfl
  split
  · rfl
  next hvalid hgranted _ hnew =>
    simp only [hvalid, if_neg hgranted, hnew] at h
    cases h

theorem index_coherent (config : SenderConfig) (s : Sender) (h : (machine config Ample).Reachable s) : s.Coherent := by
  obtain ⟨hw, hi⟩ := indexed_reachable h
  refine ⟨hw.retained, fun context room i e he hlive _ => ?_, fun hm i e he hlive => hi.feedback hm i e ⟨he, hlive⟩,
    fun hm i e he hlive => hi.lookupPacket hw hm ⟨he, hlive⟩, fun _ _ _ => prepareCommit_refused,
    fun context room error herr => ?_⟩
  · refine commitPreflighted_keep (P := fun t => t.entryAt i = some e) he fun s' hc => ?_
    rw [hc.entryAt hw, if_neg (hc.keeps_live hw ⟨he, hlive⟩)]
    exact he
  · rcases s.commitPreflighted_spec context room with ⟨_, heq⟩ | ⟨s', heq, -⟩
    · rw [heq]
    · rw [heq] at herr
      cases herr

instance (config : SenderConfig) (s : Sender) (op : SenderOp) : Decidable ((machine config Ample).guard s op) :=
  inferInstanceAs (Decidable (s.Ample op))

def orphanOps (limit : ℕ) : List SenderOp :=
  [.prepareFeedbackProfile .independent true, .setAvailability 1 true, .prepareCommit ⟨0, 100, 1, ⟨7, 0, none, 0⟩⟩ true,
    .commitPreflighted ⟨0, 100, 1, ⟨7, 0, none, 0⟩⟩ true, .retireSource 7, .expire 10 limit]

theorem index_coherent_retired : (machine leakConfig Ample).Admits (unfunded leakConfig) (orphanOps 2) ∧
    ((orphanOps 2).foldl apply (unfunded leakConfig)).Coherent := by
  have hadmits : (machine leakConfig Ample).Admits (unfunded leakConfig) (orphanOps 2) := by decide +kernel
  exact ⟨hadmits, index_coherent leakConfig _ (Machine.Reachable.run
    (.init ⟨by decide, rfl⟩) hadmits)⟩

/-- With one round to spend the poll gives up the retired source and leaves its packet in the window, live and
unreachable. -/
theorem index_orphans : ∃ s, (machine leakConfig fun _ _ => True).Reachable s ∧ ¬ s.Coherent := by
  refine ⟨(orphanOps 1).foldl apply _, reachable_foldl (by decide), fun hc => ?_⟩
  have hmode : ((orphanOps 1).foldl apply (unfunded leakConfig)).mode = some .independent := by decide +kernel
  have hlive : (((orphanOps 1).foldl apply (unfunded leakConfig)).entryAt 0).any (fun e =>
      !e.acknowledgment.isTerminal && (e.space == 7 && e.packetSequence == 0)) = true := by decide +kernel
  obtain ⟨e, he, hprops⟩ := (any_eq_true _ _).1 hlive
  simp only [and_eq_true, not_eq_true'] at hprops
  have hfound := hc.packet hmode 0 e he hprops.1
  cases hfound

end Runs

/-- In every run a sequence that a report names leads to the packet committed with it, live packets are on the active path,
and the window fits the ring. -/
theorem index_never_misleads {config : SenderConfig} (h : (machine config fun _ _ => True).Reachable s) :
    (∀ q id, s.feedbackSentId q = some id → id < s.nextSentId ∧ (∃ n, s.newestFeedback = some n ∧ q ≤ n) ∧
      ∀ e, s.entry id = some e → e.feedbackSequence = some q) ∧
    (∀ i e, s.entryAt i = some e → e.acknowledgment.isTerminal = false → s.activeEpoch = some e.pathEpoch) ∧
    s.nextSentId ≤ s.oldestSentId + s.config.capacity := by
  have hw : Windowed s := by
    refine h.invariant ?_ fun s op hs _ => hs.apply op
    rintro s ⟨hvalid, rfl⟩
    exact windowed_unfunded hvalid
  refine ⟨fun q id hid => hw.index _ _ (feedbackSentId_eq_some.1 hid), hw.live, ?_⟩
  by_contra hlt
  have hcap := hw.capacity
  obtain ⟨e, he⟩ := hw.retained s.oldestSentId le_rfl (by omega)
  obtain ⟨e', he'⟩ := hw.retained (s.oldestSentId + s.config.capacity) (by omega) (by omega)
  -- Two packets of the window would share a slot.
  obtain ⟨he, hid⟩ := entry_eq_some.1 he
  obtain ⟨he', hid'⟩ := entry_eq_some.1 he'
  rw [slot, Nat.add_mod_right] at he'
  cases he.symm.trans he'
  exact hcap.ne' (Nat.add_eq_left.1 (hid'.symm.trans hid))

theorem index_never_misleads_leak : (leakOps.foldl apply (unfunded leakConfig)).nextSentId ≤
    (leakOps.foldl apply (unfunded leakConfig)).oldestSentId + (leakOps.foldl apply (unfunded leakConfig)).config.capacity :=
  (index_never_misleads (reachable_foldl (by decide))).2.2

end Pulsebeam.Feedback.Sender
