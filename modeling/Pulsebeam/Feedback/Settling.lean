import Pulsebeam.Feedback.Ledger

/-! A whole report against the ledger. -/

namespace Pulsebeam.Feedback.Sender

open Pulsebeam.Lib

variable {s s' s'' : Sender} {e e' : SentEntry} {id : SentPacketId} {A : SentEntry → Prop} {receivedAt : Duration}

structure Stuck (s : Sender) (e : SentEntry) : Prop where
  pending : e.acknowledgment = .pending
  starved : s.Starved
  exhausted : s.inputs.exhausted = true

def Steady (s : Sender) : Prop := ∀ n, s.room.missing n = false → ∀ m, n ≤ m → s.room.missing m = false

def Funded (s : Sender) (now : Duration) : Prop :=
  (∀ e, s.InFlight e → s.aged e now = false) ∨ s.lossWork + s.outstanding ≤ s.config.maxExpirationsPerPoll

lemma Frame.steady (h : Frame s s') (hs : s.Steady) : s'.Steady := by
  obtain ⟨k, hk⟩ := h.room
  intro n hn m hm
  rw [hk] at hn ⊢
  exact hs _ hn _ (Nat.add_le_add_right hm k)

lemma Settles.funded (h : Settles A s s') {now : Duration} (hf : s.Funded now) : s'.Funded now := by
  rcases hf with hf | hf
  · left
    intro e' he'
    obtain ⟨e, he, hc⟩ := h.flight e' he'
    rw [aged, h.config, hc.kin.committedAt]
    exact hf e he
  · right
    rw [h.config]
    exact h.spent.trans hf

lemma Settles.stuck (h : Settles A s s') (hs : s.Stuck e) (hc : s.Carried A e e') : s'.Stuck e' := by
  refine ⟨?_, h.toFrame.starved hs.starved, h.exhausted hs.exhausted⟩
  rcases hc.ack with ha | ⟨hr, -, -⟩ | ⟨-, hm | hr, -⟩
  · rw [ha, hs.pending]
  · exact absurd hs.starved hr
  · rw [hs.pending] at hm
    cases hm
  · exact absurd hs.starved hr

lemma Keeps.settles (h : Keeps s s') : Settles A s s' := by
  refine { h with flight := fun e' he' => ?_ }
  obtain ⟨e, he, hc⟩ := h.flight e' he'
  exact ⟨e, he, hc.kin, hc.inFlight, hc.ack.imp id (Or.imp id fun h => h.1.elim)⟩

lemma Settles.keeps (h : Settles A s s')
    (hA : ∀ e e', s.InFlight e → s'.InFlight e' → s.Carried A e e' → A e → s'.Stuck e') : Keeps s s' := by
  refine { h with flight := fun e' he' => ?_ }
  obtain ⟨e, he, hc⟩ := h.flight e' he'
  refine ⟨e, he, hc.kin, hc.inFlight, ?_⟩
  rcases hc.ack with ha | ha | ⟨ha, -, hm⟩
  · exact .inl ha
  · exact .inr (.inl ha)
  · rw [(hA e e' he he' hc ha).pending] at hm
    cases hm

section Entries

lemma Led.not_terminal (h : Led s) (he : s.InFlight e) : e.acknowledgment.isTerminal = false := by
  by_contra ht
  have := h.terminal e he.1 (by simpa using ht)
  rw [he.2] at this
  cases this

lemma Led.outstanding_pos (h : Led s) (he : s.InFlight e) : 0 < s.outstanding := by
  obtain ⟨i, hi⟩ := mem_entries.1 he.1
  have hsum := sum_map_set (fun o : Option SentEntry => o.elim 0 SentEntry.weight) (getElem?_of_entryAt hi) none
  have hw := weight_of_live (h.not_terminal he)
  simp only [outstanding]
  simp only [Option.elim] at hsum ⊢
  omega

lemma advanceEntry_keeps (h : Led s) (sentId : Option SentPacketId) (epoch : Epoch) (status : SendStatus)
    (receivedAt : Duration) : Keeps s (s.advanceEntry sentId epoch status receivedAt) := by
  cases sentId with
  | none => exact counters_settles h _
  | some id =>
    dsimp only [advanceEntry]
    cases he : s.entry id with
    | none => exact counters_settles h _
    | some e =>
      dsimp only
      split
      · exact counters_settles h _
      split
      · exact markLost_expiry_keeps h id
      have hr : Keeps s (if !status.received && e.acknowledgment == .pending then s.reserveMissingSlot else (s, true)).1 := by
        split
        · exact reserveMissingSlot_settles h
        · exact .refl h
      revert hr
      generalize (if !status.received && e.acknowledgment == .pending then s.reserveMissingSlot else _) = r
      intro hr
      split
      · exact Keeps.next hr exhaust_settles
      refine Keeps.next hr fun h => ?_
      have hk : Keeps r.1 _ := retireFromFlight_settles h id
      have hret := retireFromFlight_retired h id
      refine Keeps.trans hk ?_
      split
      · split
        · have hm := markLost_reordering_keeps hk.led hret
          split
          · exact hm
          · exact Keeps.trans hm (setReceived_keeps hm.led (hm.retired hret) _ _ _ _)
        · exact setReceived_keeps hk.led hret _ _ _ _
      · have hm := setMissing_keeps hk.led id receivedAt
        split
        · exact hm
        · exact Keeps.next hm fun h => emit_keeps h _ _ _ _

lemma Funded.unspent {now : Duration} (hf : s.Funded now) (h : Led s) (he : s.InFlight e)
    (ha : s.aged e now = true) : s.lossWork ≠ s.config.maxExpirationsPerPoll := by
  rcases hf with hf | hf
  · rw [hf e he] at ha
    cases ha
  · have := h.outstanding_pos he
    omega

lemma advanceEntry_stuck (h : Led s) (hs : s.Steady) {epoch : Epoch} (hf : s.Funded receivedAt)
    (hepoch : ∀ e, s.InFlight e → e.pathEpoch = epoch) (status : SendStatus)
    (he' : (s.advanceEntry (some id) epoch status receivedAt).InFlight e') (hid : e'.id = id) :
    (s.advanceEntry (some id) epoch status receivedAt).Stuck e' := by
  have hk := advanceEntry_keeps h (some id) epoch status receivedAt
  obtain ⟨e, he, hc⟩ := hk.flight e' he'
  have hent : s.entry id = some e := by
    rw [← hid, hc.kin.id]
    exact h.entry he.1
  have hno : ¬ (s.advanceEntry (some id) epoch status receivedAt).Retired id := fun hr => hr e' he' hid
  revert he' hno
  dsimp only [advanceEntry]
  rw [hent]
  dsimp only
  rw [if_neg (not_not.2 (hepoch e he))]
  split
  next ha =>
    intro _ hno
    exact absurd (markLost_expiry_retired h (hf.unspent h he ha)) hno
  next ha =>
    by_cases hg : (!status.received && e.acknowledgment == .pending) = true ∧ s.room.missing 0 = false
    · obtain ⟨hp, hroom⟩ := hg
      rw [if_pos hp]
      have hr : s.reserveMissingSlot.2 = false := hroom
      simp only [hr]
      intro he' _
      obtain rfl : e = e' := by
        have := h.entry (e := e') he'.1
        rw [hid, hent] at this
        cases this
        rfl
      refine ⟨by simpa using (Bool.and_eq_true_iff.1 hp).2, fun n => hs 0 hroom (n + 1) (Nat.zero_le _), rfl⟩
    · intro _ hno
      refine absurd ?_ hno
      have hr : Keeps s (if !status.received && e.acknowledgment == .pending then s.reserveMissingSlot
          else (s, true)).1 ∧ (if !status.received && e.acknowledgment == .pending then s.reserveMissingSlot
          else (s, true)).2 = true := by
        split
        next hp => exact ⟨reserveMissingSlot_settles h, by simpa [hp, reserveMissingSlot] using hg⟩
        · exact ⟨.refl h, rfl⟩
      revert hr
      generalize (if !status.received && e.acknowledgment == .pending then s.reserveMissingSlot else _) = r
      rintro ⟨hr, hgr⟩
      simp only [hgr, Bool.not_true, Bool.false_eq_true, if_false]
      have hk : Keeps r.1 (r.1.retireFromFlight id) := retireFromFlight_settles hr.led id
      have hret := retireFromFlight_retired hr.led id
      split
      · split
        · have hm := markLost_reordering_keeps hk.led hret
          split
          · exact hm.retired hret
          · exact (setReceived_keeps hm.led (hm.retired hret) _ _ _ _).retired (hm.retired hret)
        · exact (setReceived_keeps hk.led hret _ _ _ _).retired hret
      · have hm := setMissing_keeps hk.led id receivedAt
        split
        · exact hm.retired hret
        · exact (emit_keeps hm.led _ _ _ _).retired (hm.retired hret)

lemma anchored_of_overdue {now : Duration} (h : s.overdue e now = true) : e.anchored = true := by
  by_contra ha
  rw [overdue, reorderDeadline, SentEntry.reorderDeadline_eq_none (by simpa using ha)] at h
  cases h

lemma rejectReplayedTerminalReceipt_keeps (h : Led s) (hcalm : ∀ e, s.InFlight e → e.anchored = false)
    (sentId : Option SentPacketId) (epoch : Epoch) (receivedAt : Duration) (reportIsNew : Bool) :
    Keeps s (s.rejectReplayedTerminalReceipt sentId epoch receivedAt reportIsNew).1 := by
  unfold rejectReplayedTerminalReceipt
  split
  · exact .refl h
  next id e heq =>
    obtain ⟨i, hi, hmap⟩ := Option.bind_eq_some_iff.1 heq
    obtain ⟨x, hx, hpair⟩ := Option.map_eq_some_iff.1 hmap
    cases hpair
    split
    next hc =>
      simp only [Bool.and_eq_true, Bool.or_eq_true] at hc
      have hret : s.Retired id := by
        apply h.retired
        intro y hy
        rw [hx] at hy
        cases hy
        by_contra hf
        have hfl : s.InFlight e := ⟨mem_of_entry hx, by simpa using hf⟩
        rcases hc.2 with hl | ho
        · have := h.not_terminal hfl
          rw [eq_of_beq hl] at this
          cases this
        have := hcalm e hfl
        rw [anchored_of_overdue ho] at this
        cases this
      have ht := takeMissingSince_keeps h id receivedAt
      have hm := markLost_reordering_keeps ht.led (ht.retired hret)
      dsimp only
      split
      · exact Keeps.next (Keeps.trans ht hm) fun h => counters_settles h _
      · exact Keeps.trans ht hm
    · exact .refl h

lemma recover_keeps (h : Led s) (sentId : Option SentPacketId) {epoch : Epoch} (status : SendStatus)
    (receivedAt : Duration)
    (hmiss : ∀ id e, sentId = some id → s.entry id = some e → e.acknowledgment.isMissing = true → e.inFlight = false) :
    Keeps s (s.recover sentId epoch status receivedAt) := by
  cases sentId with
  | none => exact counters_settles h _
  | some id =>
    dsimp only [recover]
    cases he : s.entry id with
    | none => exact counters_settles h _
    | some e =>
      have hret : e.inFlight = false → s.Retired id := fun hf => h.retired fun x hx => by
        rw [he] at hx
        cases hx
        exact hf
      dsimp only
      split
      · exact counters_settles h _
      split
      · have hm := markLost_expiry_keeps h id
        split
        · exact hm
        · exact Keeps.next hm fun h => takeMissingSince_keeps h _ _
      split
      next since _ hack =>
        have hr := hret (hmiss id e rfl he (by rw [hack]; rfl))
        have hm : Keeps s (if s.overdue e receivedAt then s.markLost id .reordering else (s, true)).1 := by
          split
          · exact markLost_reordering_keeps h hr
          · exact .refl h
        revert hm
        generalize (if s.overdue e receivedAt then s.markLost id .reordering else _) = r
        intro hm
        split
        · exact hm
        · refine Keeps.next ?_ fun h => observeWindow_settles h
          exact Keeps.trans hm (setReceived_keeps hm.led (hm.retired hr) _ _ _ _)
      next hack =>
        have hr := hret (h.terminal e (mem_of_entry he) (by rw [hack]; rfl))
        split
        next since _ =>
          have ho : Keeps s (s.observeWindow receivedAt since) := observeWindow_settles h
          exact Keeps.trans ho (setReceived_keeps ho.led (ho.retired hr) _ _ _ _)
        · exact counters_settles h _
      · exact counters_settles h _
      · exact counters_settles h _
      · have hk : Keeps s _ := retireFromFlight_settles h id
        exact Keeps.trans hk (setReceived_keeps hk.led (retireFromFlight_retired h id) _ _ _ _)

end Entries

section Lanes

def Lane.number (lane : Lane) (e : SentEntry) : Option ℕ :=
  match lane with
  | .feedback => e.feedbackSequence
  | .inSpace space => if e.space = space then some e.packetSequence else none

def Lane.receiptEdge (lane : Lane) (edge : ℕ) : ReceiptEdge :=
  match lane with
  | .feedback => .feedback edge
  | .inSpace space => .inSpace space edge

def Lane.Upto (lane : Lane) (edge : ℕ) (e : SentEntry) : Prop := ∃ q, lane.number e = some q ∧ q ≤ edge

variable {lane : Lane} {q edge : ℕ} {space : SpaceId}

lemma Lane.number_kin (h : e.Kin e') : lane.number e' = lane.number e := by
  cases lane with
  | feedback => exact h.feedbackSequence
  | inSpace space => simp only [number, h.space, h.packetSequence]

lemma Lane.upto_kin (h : e.Kin e') : lane.Upto edge e' ↔ lane.Upto edge e := by
  rw [Upto, Upto, number_kin h]

lemma Lane.upto_of_above (h : (lane.receiptEdge edge).above e = true) : lane.Upto edge e := by
  cases lane with
  | feedback =>
    obtain ⟨q, hq, hlt⟩ := (Option.any_eq_true _ _).1 h
    exact ⟨q, hq, (of_decide_eq_true hlt).le⟩
  | inSpace space =>
    obtain ⟨hsp, hlt⟩ := Bool.and_eq_true_iff.1 h
    exact ⟨e.packetSequence, if_pos (eq_of_beq hsp), (of_decide_eq_true hlt).le⟩

lemma rekeyEntry_cases (now : Duration) (s : Sender) (i : ℕ) :
    rekeyEntry now s i = s ∧ s.entryAt i = none ∨ ∃ e f keys, s.entryAt i = some e ∧ rekeyEntry now s i =
        { s with entries := s.entries.set i (some { e with frozenReorderDeadline := f }), readiness := keys } ∧
      ((∀ key, e.readiness s.reorderingWindow = some key → key ∈ s.readiness) → ∀ key, key ∈ keys ↔
        (key ∈ s.readiness ∧ e.readiness s.reorderingWindow ≠ some key) ∨
          { e with frozenReorderDeadline := f }.readiness s.observedReorderingWindow = some key) := by
  unfold rekeyEntry
  cases he : s.entryAt i with
  | none => exact .inl ⟨rfl, rfl⟩
  | some e =>
    obtain ⟨f, hf⟩ : ∃ f, (if e.frozenReorderDeadline.isNone && s.overdue e now then
        { e with frozenReorderDeadline := e.reorderDeadline s.reorderingWindow } else e) =
        { e with frozenReorderDeadline := f } := by
      split
      · exact ⟨_, rfl⟩
      · exact ⟨e.frozenReorderDeadline, rfl⟩
    dsimp only
    rw [hf]
    refine .inr ⟨e, f, ?_⟩
    split
    next hdiff =>
      cases hp : e.readiness s.reorderingWindow <;>
        cases hn : { e with frozenReorderDeadline := f }.readiness s.observedReorderingWindow <;>
        exact ⟨_, rfl, rfl, fun _ key => by simp [eraseKey, eq_comm, or_comm]⟩
    next hsame =>
      refine ⟨s.readiness, rfl, rfl, fun hkey key => ?_⟩
      rw [← not_not.1 hsame]
      by_cases h : e.readiness s.reorderingWindow = some key
      · simp [h, hkey key h]
      · simp [h]

lemma foldl_settles {α : Type*} (hA : KinClosed A) {f : Sender → α → Sender}
    (hf : ∀ s x, Led s → Settles A s (f s x)) (l : List α) (h : Led s) : Settles A s (l.foldl f s) := by
  induction l generalizing s with
  | nil => exact .refl h
  | cons x l ih => exact (hf s x h).trans hA (ih (hf s x h).led)

lemma anchorEntry_settles (h : Led s) :
    Settles (lane.Upto edge) s (anchorEntry (lane.receiptEdge edge) receivedAt s id) := by
  have hA : KinClosed (lane.Upto edge) := fun _ _ hk hu => (Lane.upto_kin hk).1 hu
  unfold anchorEntry
  split
  · exact .refl h
  next e he =>
    split
    next since hack =>
      split
      next habove =>
        have hu : Settles (lane.Upto edge) s (s.updateEntry id fun _ =>
            { e with acknowledgment := .missing since (some receivedAt) }) := by
          apply updateEntry_settles h
          intro x hx
          rw [he] at hx
          cases hx
          refine ⟨by constructor <;> rfl, rfl, ?_, fun hf => ⟨rfl, by constructor <;> rfl, hf,
            .inr (.inr ⟨Lane.upto_of_above habove, .inl (by rw [hack]; rfl), rfl⟩)⟩⟩
          simp [SentEntry.weight, hack, Acknowledgment.isTerminal]
        exact hu.trans hA (insertKey_settles hu.led)
      · exact .refl h
    · exact .refl h

lemma anchorMissing_settles (lane : Lane) (edge : ℕ) (receivedAt : Duration) (h : Led s) :
    Settles (lane.Upto edge) s (s.anchorMissing (lane.receiptEdge edge) receivedAt) :=
  foldl_settles (fun _ _ hk hu => (Lane.upto_kin hk).1 hu) (fun _ _ h => anchorEntry_settles h)
    s.missing h

structure Tracked (lane : Lane) (floor : ℕ) (epoch : Epoch) (now : Duration) (s : Sender) : Prop where
  led : Led s
  steady : s.Steady
  funded : s.Funded now
  epoch : ∀ e, s.InFlight e → e.pathEpoch = epoch
  found : ∀ e q, s.InFlight e → lane.number e = some q → s.resolve lane q = some e.id ∧ floor ≤ q
  sound : ∀ q id e, s.resolve lane q = some id → s.entry id = some e → lane.number e = some q

lemma lookupPacket_eq_some :
    s.lookupPacket space q = some id ↔
      (∃ st, s.spaces.lookup space = some st ∧ st.bySequence.lookup q = some id) ∧
        ∃ e, s.entry id = some e ∧ e.space = space ∧ e.packetSequence = q := by
  simp [lookupPacket, Option.bind_eq_some_iff, Option.any_eq_true]

lemma Fixed.feedbackSentId (h : Fixed s s') (q : ℕ) : s'.feedbackSentId q = s.feedbackSentId q := by
  simp only [Sender.feedbackSentId, indexAt, slot, h.config, h.feedbackIndex]

variable {floor : ℕ} {epoch : Epoch} {now : Duration} {f : Sender → ℕ → Sender} {old : Option ℕ}

lemma Tracked.settles (ht : Tracked lane floor epoch now s) (h : Settles A s s') : Tracked lane floor epoch now s' where
  led := h.led
  steady := h.toFrame.steady ht.steady
  funded := h.funded ht.funded
  epoch := by
    intro e' he'
    obtain ⟨e, he, hc⟩ := h.flight e' he'
    rw [hc.kin.pathEpoch]
    exact ht.epoch e he
  found := by
    intro e' q he' hq
    obtain ⟨e, he, hc⟩ := h.flight e' he'
    rw [Lane.number_kin hc.kin] at hq
    obtain ⟨hr, hfl⟩ := ht.found e q he hq
    refine ⟨?_, hfl⟩
    cases lane with
    | feedback =>
      rw [hc.kin.id]
      exact (h.toFrame.feedbackSentId q).trans hr
    | inSpace space =>
      obtain ⟨hst, -⟩ := lookupPacket_eq_some.1 hr
      rw [hc.kin.id] at *
      refine lookupPacket_eq_some.2 ⟨by rwa [h.spaces], e', ?_, ?_⟩
      · rw [← hc.kin.id]
        exact h.led.entry he'.1
      · rw [hc.kin.space, hc.kin.packetSequence]
        simp only [Lane.number] at hq
        split at hq
        next hsp => exact ⟨hsp, Option.some.inj hq⟩
        · cases hq
  sound := by
    intro q id e' hr he'
    cases lane with
    | feedback =>
      obtain ⟨e, he, hk⟩ := h.kin e' (mem_of_entry he')
      rw [Lane.number_kin hk]
      have hid : e.id = id := hk.id ▸ (entry_eq_some.1 he').2
      exact ht.sound q id e ((h.toFrame.feedbackSentId q).symm.trans hr) (hid ▸ ht.led.entry he)
    | inSpace space =>
      obtain ⟨-, e, he, hsp, hq⟩ := lookupPacket_eq_some.1 hr
      rw [he'] at he
      cases he
      rw [Lane.number, if_pos hsp, hq]

def Passed (lane : Lane) (q : ℕ) (s : Sender) : Prop := ∀ e, s.InFlight e → lane.number e = some q → s.Stuck e

lemma Passed.settles (hp : Passed lane q s) (h : Settles A s s') : Passed lane q s' := by
  intro e' he' hq
  obtain ⟨e, he, hc⟩ := h.flight e' he'
  exact h.stuck (hp e he (Lane.number_kin hc.kin ▸ hq)) hc

lemma foldl_passed (hf : ∀ s q, Tracked lane floor epoch now s → Keeps s (f s q) ∧ Passed lane q (f s q)) (l : List ℕ)
    (ht : Tracked lane floor epoch now s) : Keeps s (l.foldl f s) ∧ ∀ q ∈ l, Passed lane q (l.foldl f s) := by
  induction l generalizing s with
  | nil => exact ⟨.refl ht.led, by simp⟩
  | cons x l ih =>
    obtain ⟨hk, hp⟩ := hf s x ht
    obtain ⟨hk', hp'⟩ := ih (ht.settles hk)
    refine ⟨Keeps.trans hk hk', fun q hq => ?_⟩
    rcases List.mem_cons.1 hq with rfl | hq
    · exact hp.settles hk'
    · exact hp' q hq

lemma mem_inclusive {lo hi : ℕ} : q ∈ inclusive lo hi ↔ lo ≤ q ∧ q ≤ hi := by
  simp only [inclusive, List.mem_range'_1]
  omega

lemma lt_edgeStart (hfl : floor ≤ q) (h : q < edgeStart floor old) : ∃ o, old = some o ∧ q ≤ o := by
  cases old with
  | none => exact absurd h (not_lt.2 hfl)
  | some o =>
    refine ⟨o, rfl, ?_⟩
    have : Word.saturatingAdd 64 o 1 ≤ o + 1 := min_le_left _ _
    simp only [edgeStart, Option.elim] at h
    omega

lemma advance_passed
    (hf : ∀ s q, Tracked lane floor epoch now s → Keeps s (f s q) ∧ Passed lane q (f s q))
    (ht : Tracked lane floor epoch now s) (hold : ∀ q o, old = some o → q ≤ o → Passed lane q s) :
    Keeps s ((inclusive (edgeStart floor old) edge).foldl f (s.anchorMissing (lane.receiptEdge edge) now)) ∧
      ∀ q ≤ edge, Passed lane q
        ((inclusive (edgeStart floor old) edge).foldl f (s.anchorMissing (lane.receiptEdge edge) now)) := by
  have ha := anchorMissing_settles lane edge now ht.led
  obtain ⟨hk, hp⟩ := foldl_passed hf _ (ht.settles ha)
  revert hk hp
  generalize (inclusive _ edge).foldl f _ = s2
  intro hk hp
  have hpassed : ∀ q ≤ edge, Passed lane q s2 := by
    intro q hq
    by_cases hstart : edgeStart floor old ≤ q
    · exact hp q (mem_inclusive.2 ⟨hstart, hq⟩)
    intro e' he' hn
    obtain ⟨e1, he1, hc1⟩ := hk.flight e' he'
    obtain ⟨e, he, hc⟩ := ha.flight e1 he1
    have hne : lane.number e = some q := by rw [← Lane.number_kin (hc.kin.trans hc1.kin), hn]
    obtain ⟨o, ho, hqo⟩ := lt_edgeStart (ht.found e q he hne).2 (not_le.1 hstart)
    exact hk.stuck (ha.stuck (hold q o ho hqo e he hne) hc) hc1
  refine ⟨?_, hpassed⟩
  have hall := ha.trans (fun _ _ hk hu => (Lane.upto_kin hk).1 hu) (Keeps.settles hk)
  refine hall.keeps fun e e' _ he' hc hu => ?_
  obtain ⟨q, hn, hq⟩ := (Lane.upto_kin hc.kin).2 hu
  exact hpassed q hq e' he' hn

structure Ready (lane : Lane) (floor : ℕ) (epoch : Epoch) (now : Duration) (old : Option ℕ) (s : Sender) : Prop
    extends Tracked lane floor epoch now s where
  calm : ∀ e, s.InFlight e → e.anchored = false
  behind : ∀ q o, old = some o → q ≤ o → Passed lane q s

variable {old : Option ℕ} {r : Span}

lemma Keeps.calm (h : Keeps s s') (hc : ∀ e, s.InFlight e → e.anchored = false) :
    ∀ e', s'.InFlight e' → e'.anchored = false := by
  intro e' he'
  obtain ⟨e, he, hcar⟩ := h.flight e' he'
  rcases hcar.ack with ha | ⟨-, -, since, hm⟩ | ⟨hf, -, -⟩
  · have := hc e he
    unfold SentEntry.anchored at this ⊢
    rwa [ha]
  · unfold SentEntry.anchored
    rw [hm]
  · exact hf.elim

lemma Ready.keeps (hr : Ready lane floor epoch now old s) (h : Keeps s s') : Ready lane floor epoch now old s' :=
  ⟨hr.toTracked.settles h, h.calm hr.calm, fun q o ho hq => (hr.behind q o ho hq).settles h⟩

lemma rejectReplayedTerminalReceipt_eq {sentId : Option SentPacketId} {reportIsNew : Bool}
    (h : (s.rejectReplayedTerminalReceipt sentId epoch now reportIsNew).2 = false) :
    (s.rejectReplayedTerminalReceipt sentId epoch now reportIsNew).1 = s := by
  unfold rejectReplayedTerminalReceipt at h ⊢
  split
  · rfl
  next heq =>
    rw [heq] at h
    split
    next hc => simp [hc] at h
    · rfl

lemma settleStatus_keeps (hr : Ready lane floor epoch now r.oldEdge s) (reportIsNew : Bool) (x : ℕ × SendStatus) :
    Keeps s (settleStatus lane r epoch now reportIsNew s x) := by
  unfold settleStatus
  split
  · exact .refl hr.led
  dsimp only
  split
  · split
    · exact setMissing_keeps hr.led _ now
    · exact .refl hr.led
  split
  next hold =>
    have hk := rejectReplayedTerminalReceipt_keeps hr.led hr.calm (s.resolve lane x.1) epoch now reportIsNew
    split
    · exact hk
    next hn =>
      rw [rejectReplayedTerminalReceipt_eq (by simpa using hn)]
      apply recover_keeps hr.led
      intro id e hid he hm
      by_contra hf
      obtain ⟨o, ho, hle⟩ := (Option.any_eq_true _ _).1 hold
      have hstuck := hr.behind x.1 o ho (of_decide_eq_true hle) e ⟨mem_of_entry he, by simpa using hf⟩
        (hr.sound _ _ _ hid he)
      rw [hstuck.pending] at hm
      cases hm
  · exact .refl hr.led

lemma settleStatuses_keeps (hr : Ready lane floor epoch now r.oldEdge s) (reportIsNew : Bool) :
    Keeps s (s.settleStatuses lane r epoch now reportIsNew) := by
  unfold settleStatuses
  generalize numbered r.base r.statuses = l
  induction l generalizing s with
  | nil => exact .refl hr.led
  | cons x l ih =>
    have hk := settleStatus_keeps hr reportIsNew x
    exact Keeps.trans hk (ih (hr.keeps hk))

lemma anchorMissing_keeps (h : Led s) (hp : ∀ q ≤ edge, Passed lane q s) :
    Keeps s (s.anchorMissing (lane.receiptEdge edge) now) := by
  have hsettles := anchorMissing_settles lane edge now h
  refine hsettles.keeps fun e e' he _ hc hu => hsettles.stuck ?_ hc
  obtain ⟨q, hn, hq⟩ := hu
  exact hp q hq e he hn

lemma advanceEntry_passed (ht : Tracked lane floor epoch now s) {status : SendStatus} :
    Keeps s (s.advanceEntry (s.resolve lane q) epoch status now) ∧
      Passed lane q (s.advanceEntry (s.resolve lane q) epoch status now) := by
  have hk := advanceEntry_keeps ht.led (s.resolve lane q) epoch status now
  refine ⟨hk, fun e' he' hn => ?_⟩
  obtain ⟨e, he, hc⟩ := hk.flight e' he'
  have hres := (ht.found e q he (Lane.number_kin hc.kin ▸ hn)).1
  rw [hres] at he' ⊢
  exact advanceEntry_stuck ht.led ht.steady ht.funded ht.epoch status he' hc.kin.id

lemma advanceContinuous_passed {base : ℕ} {statuses : List SendStatus} (ht : Tracked .feedback floor epoch now s) :
    Keeps s (advanceContinuous base statuses epoch now s q) ∧
      Passed .feedback q (advanceContinuous base statuses epoch now s q) := by
  unfold advanceContinuous
  split
  · exact advanceEntry_passed ht
  split
  next id hid =>
    have hk : Keeps s _ := retireFromFlight_settles ht.led id
    have hall := Keeps.next hk fun h => emit_keeps h id false true none
    refine ⟨hall, fun e' he' hn => ?_⟩
    obtain ⟨e, he, hc⟩ := hall.flight e' he'
    have hres := (ht.found e q he (Lane.number_kin hc.kin ▸ hn)).1
    obtain rfl : id = e.id := Option.some.inj (hid.symm.trans hres)
    exact absurd hc.kin.id ((emit_keeps hk.led _ _ _ _).retired (retireFromFlight_retired ht.led _) e' he')
  next hid =>
    refine ⟨.refl ht.led, fun e he hn => ?_⟩
    have hres := (ht.found e q he hn).1
    exact absurd (hid.symm.trans hres) (by simp)

lemma advanceIndependent_passed (ht : Tracked (.inSpace space) floor epoch now s) :
    Keeps s (advanceIndependent space r epoch now s q) ∧
      Passed (.inSpace space) q (advanceIndependent space r epoch now s q) :=
  advanceEntry_passed ht

end Lanes

end Pulsebeam.Feedback.Sender
