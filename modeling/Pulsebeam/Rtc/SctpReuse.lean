import Pulsebeam.Rtc.SctpRun

/-! A stream is used again only after both its directions were reset and the messages of its last use were taken out. -/

namespace Pulsebeam.Sctp

open Option List Lib

variable {σ : Type} {s t : StreamId} {log pre mid : List Mark} {m : Mark} {ℓ : ℕ}

section Log

lemma snoc_eq_append_cons {c : Mark} (h : log ++ [m] = pre ++ c :: mid) :
    (mid = [] ∧ pre = log ∧ c = m) ∨ ∃ mid', mid = mid' ++ [m] ∧ log = pre ++ c :: mid' := by
  rcases eq_nil_or_concat mid with rfl | ⟨mid', m', rfl⟩
  · obtain ⟨rfl, hm⟩ := append_inj' h rfl
    cases hm
    exact .inl ⟨rfl, rfl, rfl⟩
  rw [concat_eq_append, ← cons_append, ← append_assoc] at h
  obtain ⟨rfl, hm⟩ := append_inj' h rfl
  cases hm
  exact .inr ⟨mid', concat_eq_append, rfl⟩

/-- The peer's reset of the stream was reported in `mid`, or one of all streams before, when the lifetime that closes was
already there. -/
def Told (pre mid : List Mark) (s : StreamId) : Prop :=
  .incoming s ∈ mid ∨ .resetAll ∈ mid ∨ ∃ u v, pre = u ++ .resetAll :: v ∧ ∀ ℓ, .admitted s ℓ ∉ v

def Cleared (pre mid : List Mark) (s : StreamId) : Prop :=
  ∃ x y, mid = x ++ .drained :: y ∧ .outgoing s ∈ x ∧ Told pre x s

/-- A lifetime on the stream has begun to close, and the stream was not cleared since. -/
def Barred (log : List Mark) (s : StreamId) : Prop := ∃ pre mid, log = pre ++ .closing s :: mid ∧ ¬Cleared pre mid s

structure Safe (log : List Mark) : Prop where
  cleared : ∀ pre s mid ℓ post, log = pre ++ .closing s :: (mid ++ .admitted s ℓ :: post) → Cleared pre mid s
  failed : ∀ pre s ℓ post, log = pre ++ .admitted s ℓ :: post → .failed s ∉ pre

lemma Told.append (h : Told pre mid s) (l : List Mark) : Told pre (mid ++ l) s := by
  rcases h with h | h | h
  · exact .inl (mem_append_left l h)
  · exact .inr (.inl (mem_append_left l h))
  · exact .inr (.inr h)

lemma Cleared.append (h : Cleared pre mid s) (l : List Mark) : Cleared pre (mid ++ l) s := by
  obtain ⟨x, y, rfl, hout, htold⟩ := h
  exact ⟨x, y ++ l, by simp, hout, htold⟩

lemma Barred.snoc (h : Barred (log ++ [m]) s) : Barred log s ∨ m = .closing s := by
  obtain ⟨pre, mid, heq, hnot⟩ := h
  rcases snoc_eq_append_cons heq with ⟨-, -, hm⟩ | ⟨mid', rfl, hlog⟩
  · exact .inr hm.symm
  · exact .inl ⟨pre, mid', hlog, fun hc => hnot (hc.append [m])⟩

lemma Safe.snoc (h : Safe log) (hm : ∀ s ℓ, m ≠ .admitted s ℓ) : Safe (log ++ [m]) where
  cleared pre s mid ℓ post heq := by
    rw [← cons_append, ← append_assoc] at heq
    rcases snoc_eq_append_cons heq with ⟨-, -, hc⟩ | ⟨post', -, hlog⟩
    · exact absurd hc.symm (hm s ℓ)
    · exact h.cleared pre s mid ℓ post' (by rw [hlog]; simp)
  failed pre s ℓ post heq := by
    rcases snoc_eq_append_cons heq with ⟨-, -, hc⟩ | ⟨post', -, hlog⟩
    · exact absurd hc.symm (hm s ℓ)
    · exact h.failed pre s ℓ post' hlog

lemma Safe.enrol (h : Safe log) (hbar : ¬Barred log s) (hfail : .failed s ∉ log) : Safe (log ++ [.admitted s ℓ]) where
  cleared pre t mid k post heq := by
    rw [← cons_append, ← append_assoc] at heq
    rcases snoc_eq_append_cons heq with ⟨-, hlog, hc⟩ | ⟨post', -, hlog⟩
    · cases hc
      exact not_not.1 fun hnot => hbar ⟨pre, mid, hlog.symm, hnot⟩
    · exact h.cleared pre t mid k post' (by rw [hlog]; simp)
  failed pre t k post heq := by
    rcases snoc_eq_append_cons heq with ⟨-, hlog, hc⟩ | ⟨post', -, hlog⟩
    · cases hc
      exact hlog ▸ hfail
    · exact h.failed pre t k post' hlog

lemma safe_nil : Safe [] := ⟨fun pre s mid ℓ post h => by simp at h, fun pre s ℓ post h => by simp at h⟩

end Log

structure Barrier where
  log : List Mark
  resetting : OrdMap StreamId ResetState
  ready : OrdSet StreamId
  cursor : Option StreamId

namespace Barrier

structure Kept (b : Barrier) : Prop where
  safe : Safe b.log
  barred : ∀ s, Barred b.log s → (b.resetting.get? s).isSome
  told : ∀ s r pre mid, b.resetting.get? s = some r → b.log = pre ++ .closing s :: mid →
    Cleared pre mid s ∨ ((r.incoming = true → Told pre mid s) ∧ (r.outgoing = true → .outgoing s ∈ mid))
  ready : ∀ s ∈ b.ready, ∃ r, b.resetting.get? s = some r ∧ r.incoming = true ∧ r.outgoing = true ∧ r.failed = false
  failed : ∀ s, .failed s ∈ b.log → ∃ r, b.resetting.get? s = some r ∧ r.failed = true
  sweep : b.cursor.isSome → ∃ u v, b.log = u ++ .resetAll :: v ∧ ∀ s ℓ, .admitted s ℓ ∉ v

variable {b : Barrier} {r : ResetState}

variable (h : b.Kept)

include h

lemma Kept.free (hs : b.resetting.get? s = none) : ¬Barred b.log s ∧ .failed s ∉ b.log := by
  refine ⟨fun hbar => ?_, fun hfail => ?_⟩
  · have hsome := h.barred s hbar
    rw [hs] at hsome
    cases hsome
  · obtain ⟨r, hr, -⟩ := h.failed s hfail
    rw [hs] at hr
    cases hr

/-- One more mark: a closing and a failure are those of a reset on record, and nothing is admitted during a sweep. -/
lemma Kept.snoc (hsafe : Safe (b.log ++ [m]))
    (hclose : ∀ s, m = .closing s → ∃ r, b.resetting.get? s = some r ∧ (r.incoming = true → Told b.log [] s) ∧
      r.outgoing = false)
    (hfail : ∀ s, m = .failed s → ∃ r, b.resetting.get? s = some r ∧ r.failed = true)
    (hnew : (∀ s ℓ, m ≠ .admitted s ℓ) ∨ b.cursor = none) : Kept { b with log := b.log ++ [m] } where
  safe := hsafe
  barred s hs := by
    rcases hs.snoc with hs | hs
    · exact h.barred s hs
    · obtain ⟨r, hr, -⟩ := hclose s hs
      exact isSome_iff_exists.2 ⟨r, hr⟩
  told s r pre mid hr heq := by
    rcases snoc_eq_append_cons heq with ⟨rfl, rfl, hm⟩ | ⟨mid', rfl, hlog⟩
    · obtain ⟨r', hr', hin, hout⟩ := hclose s hm.symm
      cases hr.symm.trans hr'
      exact .inr ⟨hin, fun ho => absurd (hout.symm.trans ho) nofun⟩
    rcases h.told s r pre mid' hr hlog with hcl | ⟨hin, hout⟩
    · exact .inl (hcl.append [m])
    · exact .inr ⟨fun hi => (hin hi).append [m], fun ho => mem_append_left _ (hout ho)⟩
  ready := h.ready
  failed s hs := by
    rcases mem_append.1 hs with hs | hs
    · exact h.failed s hs
    · exact hfail s (mem_singleton.1 hs).symm
  sweep hsome := by
    have ha := hnew.resolve_right fun hk => by simp [hk] at hsome
    obtain ⟨u, v, hlog, hv⟩ := h.sweep hsome
    refine ⟨u, v ++ [m], by simp [hlog], fun s ℓ hmem => ?_⟩
    rcases mem_append.1 hmem with hmem | hmem
    · exact hv s ℓ hmem
    · exact ha s ℓ (mem_singleton.1 hmem).symm

lemma Kept.note (hc : ∀ s, m ≠ .closing s) (ha : ∀ s ℓ, m ≠ .admitted s ℓ) (hf : ∀ s, m ≠ .failed s) :
    Kept { b with log := b.log ++ [m] } :=
  h.snoc (h.safe.snoc ha) (fun s hm => absurd hm (hc s)) (fun s hm => absurd hm (hf s)) (.inl ha)

lemma Kept.cursor {k : Option StreamId} (hk : k.isSome → b.cursor.isSome) : Kept { b with cursor := k } :=
  { h with sweep := fun hsome => h.sweep (hk hsome) }

lemma Kept.resetAll (k : Option StreamId) : Kept { b with log := b.log ++ [.resetAll], cursor := k } := by
  have hnoted := h.note (m := .resetAll) nofun nofun nofun
  exact { hnoted with sweep := fun _ => ⟨b.log, [], rfl, nofun⟩ }

lemma Kept.told_of_sweep (hk : b.cursor.isSome) (hlog : b.log = pre ++ .closing s :: mid) : Told pre mid s := by
  obtain ⟨u, v, huv, hv⟩ := h.sweep hk
  rw [hlog] at huv
  rcases append_eq_append_iff.1 huv with ⟨w, hu, hw⟩ | ⟨w, hpre, hw⟩
  · cases w with
    | nil => cases hw
    | cons x w =>
      cases hw
      exact .inr (.inl (by simp))
  · cases w with
    | nil => cases hw
    | cons x w =>
      cases hw
      exact .inr (.inr ⟨u, w, hpre, fun ℓ hmem => hv s ℓ (mem_append_left _ hmem)⟩)

lemma Kept.enrol (hs : b.resetting.get? s = none) (hk : b.cursor = none) :
    Kept { b with log := b.log ++ [.admitted s ℓ] } :=
  h.snoc (h.safe.enrol (h.free hs).1 (h.free hs).2) nofun nofun (.inr hk)

/-- A stream that is not being reset has no closing that still bars it. -/
lemma Kept.put (hs : b.resetting.get? s = none) (r : ResetState) :
    Kept { b with resetting := b.resetting.insert s r } := by
  have hne : ∀ t, t ≠ s → (b.resetting.insert s r).get? t = b.resetting.get? t := fun t ht => OrdMap.get?_insert_of_ne ht
  have hfound : ∀ {t r'}, b.resetting.get? t = some r' → (b.resetting.insert s r).get? t = some r' := by
    intro t r' hr'
    rw [hne t, hr']
    rintro rfl
    cases hs.symm.trans hr'
  refine ⟨h.safe, fun t ht => ?_, fun t r' pre mid hr' heq => ?_, fun t ht => ?_, fun t ht => ?_, h.sweep⟩
  · obtain ⟨r', hr'⟩ := isSome_iff_exists.1 (h.barred t ht)
    exact isSome_iff_exists.2 ⟨r', hfound hr'⟩
  · by_cases hts : t = s
    · subst hts
      exact .inl (not_not.1 fun hnot => (h.free hs).1 ⟨pre, mid, heq, hnot⟩)
    · exact h.told t r' pre mid (hne t hts ▸ hr') heq
  · obtain ⟨r', hr', hflags⟩ := h.ready t ht
    exact ⟨r', hfound hr', hflags⟩
  · obtain ⟨r', hr', hf⟩ := h.failed t ht
    exact ⟨r', hfound hr', hf⟩

lemma Kept.begin (hs : b.resetting.get? s = none) {log' : List Mark}
    (hlog : log' = b.log ∨ log' = b.log ++ [.closing s]) (hin : r.incoming = true → b.cursor.isSome)
    (hout : r.outgoing = false) :
    Kept { b with log := log', resetting := b.resetting.insert s r } := by
  rcases hlog with rfl | rfl
  · exact h.put hs r
  refine (h.put hs r).snoc (h.safe.snoc nofun) (fun t ht => ?_) nofun (.inl nofun)
  cases ht
  refine ⟨r, OrdMap.get?_insert_self, fun hi => ?_, hout⟩
  obtain ⟨u, v, huv, hv⟩ := h.sweep (hin hi)
  exact .inr (.inr ⟨u, v, huv, hv s⟩)

lemma Kept.unqueue (s : StreamId) : Kept { b with ready := b.ready.erase s } :=
  { h with ready := fun t ht => h.ready t (OrdSet.mem_erase.1 ht).1 }

lemma Kept.modify {f : ResetState → ResetState} (hf : ∀ r, (f r).failed = r.failed ∨ s ∉ b.ready ∧ (f r).failed = true)
    (hin : ∀ r, (f r).incoming = true → r.incoming = true ∨ ∀ pre mid, b.log = pre ++ .closing s :: mid → Told pre mid s)
    (hout : ∀ r, (f r).outgoing = true → r.outgoing = true ∨ ∀ pre mid, b.log = pre ++ .closing s :: mid → .outgoing s ∈ mid)
    (hkeep : ∀ r, (r.incoming = true → (f r).incoming = true) ∧ (r.outgoing = true → (f r).outgoing = true)) :
    Kept { b with resetting := b.resetting.modify s f } := by
  have hget : ∀ {t r'}, (b.resetting.modify s f).get? t = some r' →
      ∃ r, b.resetting.get? t = some r ∧ (r' = r ∨ t = s ∧ r' = f r) := by
    intro t r' hr'
    rw [OrdMap.get?_modify] at hr'
    split at hr'
    next hts =>
      obtain ⟨r, hr, rfl⟩ := map_eq_some_iff.1 hr'
      exact ⟨r, hts ▸ hr, .inr ⟨hts, rfl⟩⟩
    · exact ⟨r', hr', .inl rfl⟩
  refine ⟨h.safe, fun t ht => ?_, fun t r' pre mid hr' heq => ?_, fun t ht => ?_, fun t ht => ?_, h.sweep⟩
  · obtain ⟨r, hr⟩ := isSome_iff_exists.1 (h.barred t ht)
    exact isSome_iff_exists.2 ⟨_, OrdMap.get?_modify_of_get? hr⟩
  · obtain ⟨r, hr, hcases⟩ := hget hr'
    rcases h.told t r pre mid hr heq with hcl | ⟨hi, ho⟩
    · exact .inl hcl
    right
    rcases hcases with rfl | ⟨rfl, rfl⟩
    · exact ⟨hi, ho⟩
    · exact ⟨fun hfi => (hin r hfi).elim hi fun hall => hall pre mid heq,
        fun hfo => (hout r hfo).elim ho fun hall => hall pre mid heq⟩
  · obtain ⟨r, hr, hi, ho, hfail⟩ := h.ready t ht
    refine ⟨_, OrdMap.get?_modify_of_get? hr, ?_⟩
    split
    next hts => exact ⟨(hkeep r).1 hi, (hkeep r).2 ho, ((hf r).resolve_right fun hn => hn.1 (hts ▸ ht)).trans hfail⟩
    · exact ⟨hi, ho, hfail⟩
  · obtain ⟨r, hr, hfail⟩ := h.failed t ht
    refine ⟨_, OrdMap.get?_modify_of_get? hr, ?_⟩
    split
    · exact (hf r).elim (·.trans hfail) (·.2)
    · exact hfail

lemma Kept.fail (hs : b.resetting.get? s = some r) :
    Kept { b with
      log := b.log ++ [.failed s]
      resetting := b.resetting.modify s ({ · with failed := true })
      ready := b.ready.erase s } := by
  have hmarked := (h.unqueue s).modify (s := s) (f := ({ · with failed := true }))
    (fun _ => .inr ⟨fun hs => (OrdSet.mem_erase.1 hs).2 rfl, rfl⟩) (fun _ hi => .inl hi) (fun _ ho => .inl ho)
    fun _ => ⟨fun hi => hi, fun ho => ho⟩
  refine hmarked.snoc (h.safe.snoc nofun) nofun (fun t ht => ?_) (.inl nofun)
  cases ht
  refine ⟨_, OrdMap.get?_modify_of_get? hs, ?_⟩
  rw [if_pos rfl]

lemma Kept.queue (hs : b.resetting.get? s = some r)
    (hr : r.incoming = true ∧ r.outgoing = true ∧ r.failed = false) : Kept { b with ready := b.ready.insert s } := by
  refine { h with ready := fun t ht => ?_ }
  rcases OrdSet.mem_insert.1 ht with rfl | ht
  · exact ⟨r, hs, hr⟩
  · exact h.ready t ht

lemma Kept.finish (hbar : ¬Barred b.log s) (hfail : .failed s ∉ b.log) (hready : s ∉ b.ready) :
    Kept { b with resetting := b.resetting.erase s } := by
  have hne : ∀ t, t ≠ s → (b.resetting.erase s).get? t = b.resetting.get? t := fun t ht => OrdMap.get?_erase_of_ne ht
  refine ⟨h.safe, fun t ht => ?_, fun t r' pre mid hr' heq => ?_, fun t ht => ?_, fun t ht => ?_, h.sweep⟩
  · have hts : t ≠ s := by
      rintro rfl
      exact hbar ht
    rw [hne t hts]
    exact h.barred t ht
  · have hts : t ≠ s := by
      rintro rfl
      cases OrdMap.get?_erase_self.symm.trans hr'
    exact h.told t r' pre mid (hne t hts ▸ hr') heq
  · have hts : t ≠ s := by
      rintro rfl
      exact hready ht
    obtain ⟨r, hr, hflags⟩ := h.ready t ht
    exact ⟨r, (hne t hts).trans hr, hflags⟩
  · have hts : t ≠ s := by
      rintro rfl
      exact hfail ht
    obtain ⟨r, hr, hf⟩ := h.failed t ht
    exact ⟨r, (hne t hts).trans hr, hf⟩

lemma Kept.drained (hs : s ∈ b.ready) : ¬Barred (b.log ++ [.drained]) s := by
  rintro ⟨pre, mid, heq, hnot⟩
  obtain ⟨r, hr, hi, ho, -⟩ := h.ready s hs
  rcases snoc_eq_append_cons heq with ⟨-, -, hm⟩ | ⟨mid', rfl, hlog⟩
  · cases hm
  rcases h.told s r pre mid' hr hlog with hcl | ⟨hin, hout⟩
  · exact hnot (hcl.append _)
  · exact hnot ⟨mid', [], rfl, hout ho, hin hi⟩

end Barrier

namespace Association

open Barrier

variable {a b : Association σ}

def barrier (a : Association σ) : Barrier := ⟨a.log, a.resetting, a.readyResets, a.resetAllCursor⟩

def Guarded (a : Association σ) : Prop := Safe a.log ∧ (a.stopped = false → a.barrier.Kept)

lemma Guarded.same (h : Guarded a) (hb : b.barrier = a.barrier) (hstop : a.stopped = true → b.stopped = true) :
    Guarded b := by
  refine ⟨?_, fun hrun => ?_⟩
  · rw [show b.log = a.log from congrArg Barrier.log hb]
    exact h.1
  · rw [hb]
    refine h.2 ?_
    by_contra hs
    rw [hstop (by simpa using hs)] at hrun
    cases hrun

lemma Guarded.halt (h : Safe b.log) (hb : b.stopped = true) : Guarded b :=
  ⟨h, fun hrun => absurd (hrun.symm.trans hb) nofun⟩

lemma Guarded.of_kept (h : b.barrier.Kept) : Guarded b := ⟨h.safe, fun _ => h⟩

lemma Guarded.step (h : Guarded a) (hsafe : Safe b.log) (hstop : a.stopped = true → b.stopped = true)
    (hkept : a.barrier.Kept → b.stopped = false → b.barrier.Kept) : Guarded b := by
  refine ⟨hsafe, fun hrun => hkept (h.2 ?_) hrun⟩
  by_contra hs
  rw [hstop (by simpa using hs)] at hrun
  cases hrun

@[simp] lemma barrier_discardInstallation (a : Association σ) (s : StreamId) (notify : Bool) :
    (a.discardInstallation s notify).barrier = a.barrier := by
  unfold discardInstallation
  split <;> rfl

@[simp] lemma stopped_discardInstallation (a : Association σ) (s : StreamId) (notify : Bool) :
    (a.discardInstallation s notify).stopped = a.stopped := by
  unfold discardInstallation
  split <;> rfl

lemma barrier_retirePendingLoop (n : ℕ) (a : Association σ) :
    (retirePendingLoop n a).barrier = a.barrier ∧ (retirePendingLoop n a).stopped = a.stopped := by
  induction n generalizing a with
  | zero =>
    rw [retirePendingLoop]
    split <;> exact ⟨rfl, rfl⟩
  | succ n ih =>
    rw [retirePendingLoop]
    split
    · exact ⟨rfl, rfl⟩
    next s _ =>
      obtain ⟨hb, hs⟩ := ih _
      exact ⟨hb.trans (barrier_discardInstallation ..), hs.trans (stopped_discardInstallation ..)⟩

lemma queueResetCompletion_kept (h : a.barrier.Kept) (s : StreamId) : (a.queueResetCompletion s).barrier.Kept := by
  unfold queueResetCompletion
  split
  next hany =>
    obtain ⟨r, hr, hflags⟩ := (any_eq_true _ _).1 hany
    simp only [Bool.and_eq_true, Bool.not_eq_true'] at hflags
    exact h.queue hr ⟨hflags.1.1, hflags.1.2, hflags.2⟩
  · exact h

lemma queueResetCompletion_frame (a : Association σ) (s : StreamId) :
    (a.queueResetCompletion s).log = a.log ∧ (a.queueResetCompletion s).stopped = a.stopped := by
  unfold queueResetCompletion
  split <;> exact ⟨rfl, rfl⟩

lemma queueResetCompletion_log (a : Association σ) (s : StreamId) (log : List Mark) :
    { a.queueResetCompletion s with log := log } = queueResetCompletion { a with log := log } s := by
  cases hc : (a.resetting.get? s).any fun reset => reset.incoming && reset.outgoing && !reset.failed with
  | true => simp only [queueResetCompletion, hc, if_true]
  | false => simp only [queueResetCompletion, hc, Bool.false_eq_true, if_false]

lemma markIncoming_kept (h : a.barrier.Kept) (htold : ∀ pre mid, a.log = pre ++ .closing s :: mid → Told pre mid s) :
    ((a.onReset s ({ · with incoming := true })).queueResetCompletion s).barrier.Kept := by
  refine queueResetCompletion_kept ?_ s
  exact h.modify (fun _ => .inl rfl) (fun _ _ => .inr htold) (fun _ ho => .inl ho) fun _ => ⟨fun _ => rfl, fun ho => ho⟩

lemma discardInstallation_guarded (h : Guarded a) (s : StreamId) (notify : Bool) :
    Guarded (a.discardInstallation s notify) :=
  h.same (barrier_discardInstallation ..) fun hs => (stopped_discardInstallation ..).trans hs

lemma pollPacket_guarded (h : Guarded a) : Guarded a.pollPacket.2 := by
  unfold pollPacket
  split
  · exact h
  · exact h.same rfl fun h => h

lemma new_guarded {facts : SctpSessionFacts} {limits : ConnectionLimits} {acceptedAt : Nanos} {context : Context}
    {socket : σ} (h : new facts limits acceptedAt context socket = some a) : Guarded a := by
  unfold new at h
  split at h
  · cases h
  cases h
  apply Guarded.of_kept
  exact
    { safe := safe_nil
      barred := fun s ⟨pre, mid, heq, _⟩ => absurd heq (by simp [barrier])
      told := nofun
      ready := nofun
      failed := nofun
      sweep := nofun }

lemma performReset_guarded (h : Guarded a) : Guarded (a.performReset s) := by
  unfold performReset
  split
  · have hnoted : Guarded { a with log := a.log ++ [Mark.outgoing s] } :=
      ⟨h.1.snoc (by simp), fun hrun => (h.2 hrun).note (by simp) (by simp) (by simp)⟩
    obtain ⟨hlog, hstop⟩ := queueResetCompletion_frame
      { a.onReset s _ with log := a.log ++ [Mark.outgoing s] } s
    refine ⟨hlog ▸ hnoted.1, fun hrun => queueResetCompletion_kept ?_ s⟩
    refine (hnoted.2 (hstop ▸ hrun)).modify (fun _ => .inl rfl) (fun _ hi => .inl hi)
      (fun _ _ => .inr fun pre mid heq => ?_) fun _ => ⟨fun hi => hi, fun _ => rfl⟩
    rcases snoc_eq_append_cons heq with ⟨-, -, hm⟩ | ⟨mid', rfl, -⟩
    · cases hm
    · simp
  · exact h

lemma Sound.not_resetting (h : Sound a) (hrun : a.stopped = false) {c : Channel} (hc : a.channels.get? s = some c)
    (hc' : c.state = .opening) : a.resetting.get? s = none := by
  by_contra hne
  have hclosing := (h.2 hrun).idle s (isSome_iff_ne_none.2 hne) c hc
  exact absurd (hc'.symm.trans hclosing) nofun

variable [Native σ]

lemma Quiet.barrier (h : Quiet a b) : b.barrier = a.barrier :=
  congrArg (fun c : Core => (⟨c.log, c.resetting, c.ready, c.cursor⟩ : Barrier)) h.core

@[simp] lemma barrier_pushNotice (a : Association σ) (id : DataChannelId) (e : DataChannelEvent) :
    (a.pushNotice id e).barrier = a.barrier := by
  unfold pushNotice
  split
  · rfl
  split
  · rfl
  · split <;> rfl

lemma stopped_pushNotice {id : DataChannelId} {e : DataChannelEvent} (h : a.stopped = true) :
    (a.pushNotice id e).stopped = true := (pushNotice_frame a id e).2.1 h

@[simp] lemma barrier_emitOpened (a : Association σ) (s : StreamId) : (a.emitOpened s).barrier = a.barrier := by
  unfold emitOpened
  split
  · rfl
  split
  · rfl
  · rw [barrier_pushNotice]
    rfl

lemma emitClosed_barrier (a : Association σ) (s : StreamId) :
    ∃ log, (log = a.log ∨ log = a.log ++ [.closing s]) ∧ (a.emitClosed s).barrier = { a.barrier with log := log } := by
  unfold emitClosed
  split
  · exact ⟨a.log, .inl rfl, rfl⟩
  split
  · exact ⟨a.log, .inl rfl, rfl⟩
  refine ⟨_, .inr rfl, ?_⟩
  rw [barrier_pushNotice]
  rfl

lemma emitClosed_stopped (s : StreamId) (h : a.stopped = true) : (a.emitClosed s).stopped = true := by
  unfold emitClosed
  split
  · exact h
  split
  · exact h
  · exact stopped_pushNotice h

lemma emitClosed_safe (h : Safe a.log) (s : StreamId) : Safe (a.emitClosed s).log := by
  obtain ⟨log, hlog, hb⟩ := emitClosed_barrier a s
  rw [show (a.emitClosed s).log = log from congrArg Barrier.log hb]
  rcases hlog with rfl | rfl
  · exact h
  · exact h.snoc nofun

lemma closeAllChannels_safe (h : Safe a.log) : Safe a.closeAllChannels.log := by
  unfold closeAllChannels
  dsimp only
  have hretired : Safe a.retirePendingInstallations.log := by
    rw [show a.retirePendingInstallations.log = a.log from
      congrArg Barrier.log (barrier_retirePendingLoop maxWorkPerCall a).1]
    exact h
  generalize a.retirePendingInstallations = b at hretired
  generalize b.channels.keys = keys
  induction keys generalizing b with
  | nil => exact hretired
  | cons s keys ih => exact ih _ (emitClosed_safe hretired s)

lemma abortAssociation_guarded (h : Safe a.log) : Guarded a.abortAssociation := by
  refine .halt ?_ rfl
  exact closeAllChannels_safe h

lemma pushResetOutcome_frame (a : Association σ) (s : StreamId) (success : Bool) :
    (a.pushResetOutcome s success).log = a.log ∧ (a.stopped = true → (a.pushResetOutcome s success).stopped = true) ∧
      (a.pushResetOutcome s success).readyResets = a.readyResets := by
  unfold pushResetOutcome
  dsimp only
  split
  · exact ⟨congrArg Barrier.log (barrier_pushNotice a s _), stopped_pushNotice,
      congrArg Barrier.ready (barrier_pushNotice a s _)⟩
  · split <;> exact ⟨rfl, fun h => h, rfl⟩

lemma pushResetOutcome_kept (h : a.barrier.Kept) (s : StreamId) (success : Bool) :
    (a.pushResetOutcome s success).barrier.Kept := by
  unfold pushResetOutcome
  dsimp only
  split
  · rwa [barrier_pushNotice]
  split
  · exact h.modify (fun _ => .inl rfl) (fun _ hi => .inl hi) (fun _ ho => .inl ho) fun _ => ⟨fun hi => hi, fun ho => ho⟩
  · exact h

lemma failReset_safe (h : Safe a.log) : Safe (a.failReset s).log := by
  unfold failReset
  split
  · exact h
  split
  · exact h
  rw [show ∀ (x : Association σ), (x.discardInstallation s true).log = x.log from fun x =>
    congrArg Barrier.log (barrier_discardInstallation x s true), (pushResetOutcome_frame _ s false).1]
  exact h.snoc (by simp)

lemma failReset_stopped (h : a.stopped = true) : (a.failReset s).stopped = true := by
  unfold failReset
  split
  · exact h
  split
  · exact h
  rw [stopped_discardInstallation]
  exact (pushResetOutcome_frame _ s false).2.1 h

lemma failReset_kept (h : a.barrier.Kept) : (a.failReset s).barrier.Kept := by
  unfold failReset
  split
  · exact h
  next r hr =>
    split
    · exact h
    rw [barrier_discardInstallation]
    exact pushResetOutcome_kept (a := { a.onReset s _ with
      readyResets := a.readyResets.erase s
      log := a.log ++ [Mark.failed s] }) (h.fail hr) s false

lemma failReset_guarded (h : Guarded a) (s : StreamId) : Guarded (a.failReset s) :=
  h.step (failReset_safe h.1) (failReset_stopped) fun hk _ => failReset_kept hk

lemma recorded_guarded (h : Guarded a) (hs : a.stopped = false → a.resetting.get? s = none) (r : ResetState)
    (hin : r.incoming = true → a.resetAllCursor.isSome) (hout : r.outgoing = false) :
    Guarded { a.emitClosed s with resetting := (a.emitClosed s).resetting.insert s r } := by
  obtain ⟨log, hlog, hb⟩ := emitClosed_barrier a s
  refine ⟨emitClosed_safe h.1 s, fun hrun => ?_⟩
  have hrun' : a.stopped = false := by
    by_contra hstop
    have hstop := emitClosed_stopped s (by simpa using hstop : a.stopped = true)
    exact absurd (hstop.symm.trans hrun) nofun
  have hbegin := (h.2 hrun').begin (hs hrun') hlog hin hout
  have hfields : ({ a.emitClosed s with resetting := (a.emitClosed s).resetting.insert s r } : Association σ).barrier =
      { a.barrier with log := log, resetting := a.barrier.resetting.insert s r } := by
    have h1 := congrArg Barrier.log hb
    have h2 := congrArg Barrier.resetting hb
    have h3 := congrArg Barrier.ready hb
    have h4 := congrArg Barrier.cursor hb
    simp only [barrier] at h1 h2 h3 h4 ⊢
    rw [h1, h2, h3, h4]
  rwa [hfields]

lemma rejectDeclared_guarded (h : Guarded a) (hs : a.stopped = false → a.resetting.get? s = none) :
    Guarded (a.rejectDeclared s) := by
  have hfailed := failReset_guarded (recorded_guarded h hs {} nofun rfl) s
  exact hfailed.same rfl fun h => h

lemma emitClosed_cursor (a : Association σ) (s : StreamId) : (a.emitClosed s).resetAllCursor = a.resetAllCursor := by
  obtain ⟨log, -, hb⟩ := emitClosed_barrier a s
  exact congrArg Barrier.cursor hb

lemma startReset_guarded (h : Guarded a) (hs : a.stopped = false → a.resetting.get? s = none) (reserved : Bool) :
    Guarded (a.startReset s reserved).2 := by
  have hrecord := recorded_guarded h hs
    { incoming := (a.emitClosed s).resetAllCursor.isSome, notificationReserved := reserved }
    (fun hi => emitClosed_cursor a s ▸ hi) rfl
  unfold startReset
  dsimp only
  split
  next hstop => exact .halt (emitClosed_safe h.1 s) hstop
  · split
    · exact hrecord.same rfl fun h => h
    · refine failReset_guarded ?_ s
      exact hrecord.same rfl fun h => h

lemma beginReset_guarded (h : Guarded a) (s : StreamId) : Guarded (a.beginReset s).2 := by
  unfold beginReset
  split
  · exact h
  split
  · exact h
  next hreset =>
    split
    · split
      · exact rejectDeclared_guarded h fun _ => hreset
      · have hclosing : Guarded (a.onChannel s ({ · with state := .closing })) := h.same rfl fun h => h
        exact startReset_guarded hclosing (fun _ => hreset) false
    · split
      · have hfunded : Guarded a.fundReset := h.same rfl fun h => h
        exact startReset_guarded hfunded (fun _ => hreset) true
      · exact abortAssociation_guarded h.1

lemma incomingReset_sweep (h : Guarded a) (hk : a.resetAllCursor.isSome)
    (hcursor : (a.beginReset s).2.stopped = false → (a.beginReset s).2.resetAllCursor = a.resetAllCursor) :
    Guarded (a.incomingReset s) := by
  have hbegin := beginReset_guarded h s
  unfold incomingReset
  dsimp only
  split
  next hsome =>
    obtain ⟨hlog, hstop⟩ := queueResetCompletion_frame ((a.beginReset s).2.onReset s _) s
    refine ⟨hlog ▸ hbegin.1, fun hrun => ?_⟩
    have hkept := hbegin.2 (hstop ▸ hrun)
    refine markIncoming_kept hkept fun pre mid heq => hkept.told_of_sweep ?_ heq
    change (a.beginReset s).2.resetAllCursor.isSome
    rw [hcursor (hstop ▸ hrun)]
    exact hk
  · exact hbegin

lemma reportIncoming_guarded (h : Guarded a) : Guarded (a.reportIncoming s) := by
  have hbegin := beginReset_guarded h s
  unfold reportIncoming incomingReset
  dsimp only
  split
  next hsome =>
    have hnoted : Guarded { (a.beginReset s).2 with log := (a.beginReset s).2.log ++ [Mark.incoming s] } :=
      ⟨hbegin.1.snoc (by simp), fun hrun => (hbegin.2 hrun).note (by simp) (by simp) (by simp)⟩
    have hmarked : Guarded (queueResetCompletion (onReset
        { (a.beginReset s).2 with log := (a.beginReset s).2.log ++ [Mark.incoming s] } s ({ · with incoming := true })) s) := by
      obtain ⟨hlog, hstop⟩ := queueResetCompletion_frame (onReset
        { (a.beginReset s).2 with log := (a.beginReset s).2.log ++ [Mark.incoming s] } s _) s
      refine ⟨hlog ▸ hnoted.1, fun hrun => ?_⟩
      refine markIncoming_kept (hnoted.2 (hstop ▸ hrun)) fun pre mid heq => .inl ?_
      rcases snoc_eq_append_cons heq with ⟨-, -, hm⟩ | ⟨mid', rfl, -⟩
      · cases hm
      · simp
    rw [queueResetCompletion_log, (queueResetCompletion_frame _ s).1]
    exact hmarked
  · exact ⟨hbegin.1.snoc (by simp), fun hrun => (hbegin.2 hrun).note (by simp) (by simp) (by simp)⟩

lemma activateInstallation_kept (h : a.barrier.Kept) (s : StreamId) : (a.activateInstallation s).barrier.Kept := by
  unfold activateInstallation
  split
  · exact h
  next hready =>
    simp only [not_or, Bool.not_eq_true, isSome_eq_false_iff, isNone_iff_eq_none] at hready
    obtain ⟨-, -, hk, -, hreset⟩ := hready
    split
    · rwa [barrier_discardInstallation]
    split
    · exact h
    · rw [barrier_emitOpened]
      exact h.enrol hreset hk

lemma activateInstallation_stopped (h : a.stopped = true) : a.activateInstallation s = a := by
  unfold activateInstallation
  rw [if_pos (.inl h)]

lemma activateInstallation_guarded (h : Guarded a) : Guarded (a.activateInstallation s) := by
  cases hrun : a.stopped with
  | true => rwa [activateInstallation_stopped hrun]
  | false => exact .of_kept (activateInstallation_kept (h.2 hrun) s)

lemma activateInstallation_frame (a : Association σ) (s : StreamId) :
    (a.activateInstallation s).readyResets = a.readyResets ∧
      ((a.activateInstallation s).log = a.log ∨ ∃ ℓ, (a.activateInstallation s).log = a.log ++ [.admitted s ℓ]) := by
  unfold activateInstallation
  split
  · exact ⟨rfl, .inl rfl⟩
  split
  · have hb := barrier_discardInstallation a s true
    exact ⟨congrArg Barrier.ready hb, .inl (congrArg Barrier.log hb)⟩
  split
  · exact ⟨rfl, .inl rfl⟩
  next c _ =>
    have hb := barrier_emitOpened { a.setStreamPriority s c.config.priority with
      pendingInstallations := a.pendingInstallations.erase s
      channels := a.channels.insert s { c with state := .opened }
      installationCursor := if (a.pendingInstallations.erase s).entries.isEmpty then none else a.installationCursor
      log := a.log ++ [Mark.admitted s c.lifetime] } s
    exact ⟨congrArg Barrier.ready hb, .inr ⟨c.lifetime, congrArg Barrier.log hb⟩⟩

lemma emitOpened_guarded (h : Guarded a) (s : StreamId) : Guarded (a.emitOpened s) :=
  h.same (barrier_emitOpened a s) (emitOpened_frame a s).2.1

lemma visitResetAll_guarded (h : Guarded a) (hsound : Sound a) : Guarded a.visitResetAll := by
  unfold visitResetAll
  split
  · exact h
  next cursor hcursor =>
    split
    · exact ⟨h.1, fun hrun => (h.2 hrun).cursor nofun⟩
    next s _ =>
      have hdiscard := discardInstallation_guarded h s true
      have hsound' := hsound.wanes (discardInstallation_wanes a s true)
      have hk : (a.discardInstallation s true).resetAllCursor = some cursor :=
        (congrArg Barrier.cursor (barrier_discardInstallation a s true)).trans hcursor
      dsimp only
      generalize a.discardInstallation s true = b at hdiscard hsound' hk
      have hwanes := (beginReset_spec b hsound'.keyed s).1
      have hreset : Guarded _ := incomingReset_sweep hdiscard (hk ▸ rfl) fun hrun => hwanes.cursor hrun
      have hkept : (b.incomingReset s).stopped = false → (b.incomingReset s).resetAllCursor = some cursor := fun hrun =>
        ((incomingReset_spec hsound'.keyed).1.cursor hrun).trans hk
      split
      · refine ⟨hreset.1, fun hrun => (hreset.2 hrun).cursor fun _ => ?_⟩
        change (b.incomingReset s).resetAllCursor.isSome
        rw [hkept hrun]
        rfl
      · refine ⟨hdiscard.1, fun hrun => (hdiscard.2 hrun).cursor fun _ => ?_⟩
        change b.resetAllCursor.isSome
        rw [hk]
        rfl

lemma completeLoop_guarded {n : ℕ} (h : Guarded a)
    (hclear : a.stopped = false → ∀ t ∈ a.readyResets, ¬Barred a.log t) : Guarded (completeLoop n a) := by
  induction n generalizing a with
  | zero => exact h.same rfl fun h => h
  | succ n ih =>
    unfold completeLoop
    split
    · exact h
    next s rest hready =>
      have hpush := pushResetOutcome_frame { a with readyResets := a.readyResets.erase s } s true
      have hpushed := fun hk : a.barrier.Kept =>
        pushResetOutcome_kept (a := { a with readyResets := a.readyResets.erase s }) (hk.unqueue s) s true
      dsimp only at hpush ⊢
      generalize pushResetOutcome { a with readyResets := a.readyResets.erase s } s true = b at hpush hpushed
      obtain ⟨hlog, hstop, hqueue⟩ := hpush
      cases hrun : a.stopped with
      | true =>
        have hfinished : (b.finishReset s).stopped = true := hstop hrun
        rw [activateInstallation_stopped hfinished]
        have hsafe : Safe b.log := hlog ▸ h.1
        refine ih (.halt hsafe hfinished) fun hrun' => absurd (hrun'.symm.trans hfinished) nofun
      | false =>
        have hk := h.2 hrun
        have hs : s ∈ a.readyResets := by
          change s ∈ a.readyResets.elems
          rw [hready]
          exact mem_cons_self
        have hbar : ¬Barred b.log s := hlog ▸ hclear hrun s hs
        have hfail : .failed s ∉ b.log := by
          rw [hlog]
          intro hmem
          obtain ⟨r, hr, hfailed⟩ := hk.failed s hmem
          obtain ⟨r', hr', -, -, hnot⟩ := hk.ready s hs
          cases hr.symm.trans hr'
          exact absurd (hfailed.symm.trans hnot) nofun
        have hout : s ∉ b.readyResets := by
          rw [hqueue]
          simp
        have hfinish : (b.finishReset s).barrier.Kept := (hpushed hk).finish hbar hfail hout
        have hactive := activateInstallation_kept hfinish s
        obtain ⟨hqueue', hlog'⟩ := activateInstallation_frame (b.finishReset s) s
        refine ih ((Guarded.of_kept hactive).same rfl fun h => h) fun _ t ht hbarred => ?_
        have ht' : t ∈ a.readyResets := by
          have ht : t ∈ ((b.finishReset s).activateInstallation s).readyResets := ht
          rw [hqueue', show (b.finishReset s).readyResets = b.readyResets from rfl, hqueue] at ht
          exact (OrdSet.mem_erase.1 ht).1
        refine hclear hrun t ht' ?_
        have hbarred : Barred ((b.finishReset s).activateInstallation s).log t := hbarred
        have hlog0 : (b.finishReset s).log = a.log := hlog
        rcases hlog' with hl | ⟨ℓ, hl⟩
        · rwa [hl, hlog0] at hbarred
        · rw [hl, hlog0] at hbarred
          exact hbarred.snoc.resolve_right nofun

lemma guarded_withstands : Withstands False (Sound (σ := σ)) Guarded where
  orderly ho := ho.elim
  act {a b} hsound h ha := by
    cases ha with
    | touch hq => exact h.same hq.barrier (congrArg Core.stopped hq.core).trans
    | tally | skip | clear | packet | push | pop | deliver | stage => exact h.same rfl fun h => h
    | discard s notify => exact discardInstallation_guarded h s notify
    | activate => exact activateInstallation_guarded h
    | reopen =>
      apply emitOpened_guarded
      exact h.same rfl fun h => h
    | reject hc ho => exact rejectDeclared_guarded h fun hrun => hsound.not_resetting hrun hc ho
    | reset s => exact beginReset_guarded h s
    | report => exact reportIncoming_guarded h
    | perform => exact performReset_guarded h
    | fail s => exact failReset_guarded h s
    | resetAll => exact ⟨h.1.snoc nofun, fun hrun => (h.2 hrun).resetAll _⟩
    | sweep => exact visitResetAll_guarded h hsound
    | complete =>
      refine completeLoop_guarded ?_ fun hrun t ht => (h.2 hrun).drained ht
      exact ⟨h.1.snoc nofun, fun hrun => (h.2 hrun).note nofun nofun nofun⟩
    | halt => exact .halt (closeAllChannels_safe h.1) rfl
    | poll => exact pollPacket_guarded h
    | @accept b d c hrun hb hnew ho hv spare hq =>
      have hkept : b.barrier.Kept := by
        rcases hb with rfl | ⟨s, rfl⟩
        · exact h.2 hrun
        · exact activateInstallation_kept (h.2 hrun) s
      refine emitOpened_guarded (.of_kept ?_) c.stream
      rw [hq.barrier]
      exact hkept.enrol hv.resetting hv.cursor
    | declare hrun _ _ hv => exact .of_kept ((h.2 hrun).enrol hv.resetting hv.cursor)
    | abort =>
      refine .halt ?_ rfl
      rw [abort]
      split <;> exact h.1

/-- A stream on which a lifetime began to close carries a new one only once both directions were reset, the peer's perhaps
before the closing with all others, and the messages taken out after that; one whose reset failed carries none. -/
theorem stream_reused_only_when_cleared (a : Association σ) (h : (machine σ).Reachable a) : Safe a.log := by
  exact ((sound_withstands.and guarded_withstands).reachable (fun hnew => ⟨new_sound hnew, new_guarded hnew⟩) h).2.1

def swept : List Op :=
  [.openChannel 0 chat, .handleInput 1 [4], .closeChannel 2 1, .handleInput 3 [5], .openChannel 4 chat]

lemma swept_log : (swept.foldl step started).log =
    [.admitted 1 1, .resetAll] ++ .closing 1 :: ([.drained, .outgoing 1, .drained] ++ [.admitted 1 2]) := by
  decide +kernel

theorem stream_reused_after_sweep :
    Safe ([.admitted 1 1, .resetAll] ++ .closing 1 :: ([.drained, .outgoing 1, .drained] ++ [.admitted 1 2])) := by
  rw [← swept_log]
  exact stream_reused_only_when_cleared _ (reachable_run swept)

/-- No incoming reset is reported between the closing of stream 1 and its next use. -/
theorem stream_reused_without_incoming :
    ∃ a, (machine Script).Reachable a ∧ ∃ pre mid post, a.log = pre ++ .closing 1 :: (mid ++ .admitted 1 2 :: post) ∧
      .incoming 1 ∉ mid ∧ .resetAll ∉ mid :=
  ⟨_, reachable_run swept, _, _, [], swept_log, by decide, by decide⟩

end Association

end Pulsebeam.Sctp
