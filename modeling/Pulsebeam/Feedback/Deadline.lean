import Pulsebeam.Feedback.Window

/-! The readiness order is exact, and what `next_deadline` makes of it. -/

namespace Pulsebeam.Feedback

open Pulsebeam.Lib List Nat OrdSet

variable {e : SentEntry}

lemma SentEntry.readiness_eq_some {w : Duration} {k : Readiness} :
    e.readiness w = some k ↔ ∃ d, e.reorderDeadline w = some d ∧ k = .missing d e.id := by
  simp [SentEntry.readiness, eq_comm]

lemma SentEntry.readiness_none (h : e.anchored = false) (w : Duration) : e.readiness w = none := by
  rw [SentEntry.readiness, reorderDeadline_eq_none h]
  rfl

lemma SentEntry.anchored_of_terminal (h : e.acknowledgment.isTerminal = true) : e.anchored = false := by
  unfold anchored
  cases hack : e.acknowledgment with
  | missing since higher => simp [hack, Acknowledgment.isTerminal] at h
  | _ => rfl

/-- The source or the packet that a key is about. -/
def Readiness.owner : Readiness → SpaceId ⊕ SentPacketId
  | .retired _ space => .inl space
  | .unscheduled space => .inl space
  | .missing _ sentId => .inr sentId

lemma SentEntry.readiness_owner {w : Duration} {k : Readiness} (h : e.readiness w = some k) : k.owner = .inr e.id := by
  obtain ⟨d, -, rfl⟩ := readiness_eq_some.1 h
  rfl

lemma SpaceHistory.readiness_owner (h : SpaceHistory) (space : SpaceId) (retention : Duration) :
    (h.readiness space retention).owner = .inl space := by
  unfold SpaceHistory.readiness
  split
  · split
    · rfl
    split <;> rfl
  · rfl

variable {space : SpaceId} {h h' : SpaceHistory} {sp : SpaceId}

lemma SpaceHistory.readiness_congr (ht : h'.terminal = h.terminal) (hc : h'.latestCommitAt = h.latestCommitAt)
    (space : SpaceId) (retention : Duration) : h'.readiness space retention = h.readiness space retention := by
  simp only [SpaceHistory.readiness, ht, hc]

namespace Sender

variable {s s' s'' : Sender} {e e' : SentEntry} {id : SentPacketId}

section Keys

/-- The key its owner asks for, each entry under a window of its own. -/
def keyUnder (s : Sender) (window : SentPacketId → Duration) : SpaceId ⊕ SentPacketId → Option Readiness
  | .inl space => (s.spaces.lookup space).map fun source => source.readiness space s.config.retention
  | .inr id => (s.entry id).bind fun e => e.readiness (window id)

def KeyedUnder (s : Sender) (window : SentPacketId → Duration) : Prop :=
  ∀ k, k ∈ s.readiness ↔ s.keyUnder window k.owner = some k

def Keyed (s : Sender) : Prop := s.KeyedUnder fun _ => s.reorderingWindow

variable {window window' : SentPacketId → Duration} {k : Readiness}

lemma owner_of_keyUnder {o : SpaceId ⊕ SentPacketId} (h : s.keyUnder window o = some k) : k.owner = o := by
  cases o with
  | inl space =>
    obtain ⟨source, -, rfl⟩ := Option.map_eq_some_iff.1 h
    exact source.readiness_owner space _
  | inr id =>
    obtain ⟨e, he, hr⟩ := Option.bind_eq_some_iff.1 h
    rw [SentEntry.readiness_owner hr, (entry_eq_some.1 he).2]

lemma keyUnder_entry (he : s.entry id = some e) : s.keyUnder window (.inr id) = e.readiness (window id) := by
  rw [keyUnder, he]
  rfl

lemma KeyedUnder.mem_space {st : SpaceHistory} (hk : s.KeyedUnder window) (hst : s.spaces.lookup space = some st) :
    st.readiness space s.config.retention ∈ s.readiness := by
  rw [hk, st.readiness_owner, keyUnder, hst]
  rfl

lemma KeyedUnder.mem_entry (hk : s.KeyedUnder window) (he : s.entry id = some e) (hr : e.readiness (window id) = some k) :
    k ∈ s.readiness := by
  rw [hk, SentEntry.readiness_owner hr, (entry_eq_some.1 he).2, keyUnder_entry he, hr]

lemma KeyedUnder.iff (hk : s.KeyedUnder window) :
    k ∈ s.readiness ↔ (∃ sp st, s.spaces.lookup sp = some st ∧ st.readiness sp s.config.retention = k) ∨
      ∃ id e, s.entry id = some e ∧ e.readiness (window id) = some k := by
  constructor
  · intro h
    rw [hk k] at h
    generalize k.owner = o at h
    cases o with
    | inl sp => exact .inl ⟨sp, Option.map_eq_some_iff.1 h⟩
    | inr id => exact .inr ⟨id, Option.bind_eq_some_iff.1 h⟩
  · rintro (⟨sp, st, hst, rfl⟩ | ⟨id, e, he, hr⟩)
    · exact hk.mem_space hst
    · exact hk.mem_entry he hr

lemma KeyedUnder.congr (hk : s.KeyedUnder window) (hkey : ∀ o, s'.keyUnder window' o = s.keyUnder window o)
    (hr : s'.readiness = s.readiness) : s'.KeyedUnder window' := by
  intro k
  rw [hr, hkey, hk k]

/-- A key tells its owner, so a step that changes the keys of one owner answers for that owner alone. -/
lemma KeyedUnder.replace (hk : s.KeyedUnder window) (o : SpaceId ⊕ SentPacketId)
    (hrest : ∀ x, x ≠ o → s'.keyUnder window' x = s.keyUnder window x)
    (hmem : ∀ k, k ∈ s'.readiness ↔
      (k ∈ s.readiness ∧ s.keyUnder window o ≠ some k) ∨ s'.keyUnder window' o = some k) : s'.KeyedUnder window' := by
  intro k
  rw [hmem, hk k]
  by_cases ho : k.owner = o
  · subst ho
    exact or_iff_right fun h => h.2 h.1
  rw [hrest _ ho]
  constructor
  · rintro (⟨h, -⟩ | h)
    · exact h
    · exact absurd (owner_of_keyUnder h) ho
  · exact fun h => .inl ⟨h, fun h' => ho (owner_of_keyUnder h')⟩

lemma keyUnder_space (hc : s'.config = s.config)
    (h : Option.Rel (fun st st' : SpaceHistory => st'.readiness sp s.config.retention =
      st.readiness sp s.config.retention) (s.spaces.lookup sp) (s'.spaces.lookup sp)) :
    s'.keyUnder window' (.inl sp) = s.keyUnder window (.inl sp) := by
  simp only [keyUnder, hc]
  generalize s.spaces.lookup sp = o at h
  generalize s'.spaces.lookup sp = o' at h
  cases h with
  | none => rfl
  | some h => exact congrArg some h

lemma Keyed.congr (hk : Keyed s) (hc : s'.config = s.config) (hs : s'.spaces = s.spaces)
    (he : s'.entries = s.entries) (hr : s'.readiness = s.readiness) (hw : s'.reorderingWindow = s.reorderingWindow) :
    Keyed s' := by
  refine KeyedUnder.congr hk (fun o => ?_) hr
  cases o with
  | inl space => simp only [keyUnder, hc, hs]
  | inr id => simp only [keyUnder, Sender.entry, entryAt, slot, he, hc, hw]

lemma Writes.keyed (h : Writes s s' id e e') (hk : Keyed s) : Keyed s' := by
  refine KeyedUnder.replace hk (.inr id) (fun o ho => ?_) fun k => ?_
  · cases o with
    | inl space => simp only [keyUnder, h.spaces, h.config]
    | inr x => simp only [keyUnder, h.entry_ne fun heq => ho (congrArg _ heq), h.reorderingWindow]
  · rw [keyUnder_entry h.found, keyUnder_entry h.entry_self, h.reorderingWindow]
    exact h.keys (fun _ => hk.mem_entry h.found) k

/-- The window of each entry once the loop has passed the first `k` slots. -/
def passedWindow (s : Sender) (k : ℕ) (id : SentPacketId) : Duration :=
  if s.slot id < k then s.observedReorderingWindow else s.reorderingWindow

lemma passedWindow_succ {k : ℕ} (h : s.slot id ≠ k) : s.passedWindow (k + 1) id = s.passedWindow k id := by
  simp only [passedWindow, Nat.lt_succ_iff_lt_or_eq, h, or_false]

lemma rekeyEntry_passedWindow (now : Duration) (s : Sender) (i k : ℕ) :
    (rekeyEntry now s i).passedWindow k = s.passedWindow k := by
  rcases rekeyEntry_cases now s i with ⟨h, -⟩ | ⟨e, f, keys, -, h, -⟩
  · rw [h]
  · rw [h]
    rfl

lemma KeyedUnder.rekeyEntry {k : ℕ} (hk : s.KeyedUnder (s.passedWindow k))
    (hring : ∀ i e, s.entryAt i = some e → s.slot e.id = i) (now : Duration) :
    (Sender.rekeyEntry now s k).KeyedUnder (s.passedWindow (k + 1)) := by
  rcases rekeyEntry_cases now s k with ⟨hsame, he⟩ | ⟨e, f, keys, he, hent, hmem⟩
  · rw [hsame]
    refine hk.congr (fun o => ?_) rfl
    cases o with
    | inl space => rfl
    | inr id =>
      by_cases hid : s.slot id = k
      · simp [keyUnder, Sender.entry, hid, he]
      · rw [keyUnder, keyUnder, passedWindow_succ hid]
  · have hslot := hring k e he
    have hfound : s.entry e.id = some e := entry_eq_some.2 ⟨hslot ▸ he, rfl⟩
    have hat := entryAt_set (r := { e with frozenReorderDeadline := f }) (lt_length_of_entryAt he)
    have hself : (Sender.rekeyEntry now s k).entry e.id = some { e with frozenReorderDeadline := f } := by
      rw [hent]
      exact entry_eq_some.2 ⟨(hat _).trans (if_pos hslot), rfl⟩
    have hold : s.passedWindow k e.id = s.reorderingWindow := if_neg (by omega)
    have hnew : s.passedWindow (k + 1) e.id = s.observedReorderingWindow := if_pos (by omega)
    refine hk.replace (.inr e.id) (fun o ho => ?_) fun key => ?_
    · rw [hent]
      cases o with
      | inl space => rfl
      | inr x =>
        have hx : e.id ≠ x := fun heq => ho (congrArg _ heq.symm)
        change (((s.entries.set k _)[s.slot x]?.join).filter _).bind _ = ((s.entryAt (s.slot x)).filter _).bind _
        rw [hat]
        by_cases hk : s.slot x = k
        · simp [hk, he, Option.filter, hx]
        · rw [if_neg hk, passedWindow_succ hk]
    · rw [keyUnder_entry hfound, keyUnder_entry hself, hold, hnew, hent]
      exact hmem (fun key hr => hk.mem_entry hfound (hold.symm ▸ hr)) key

lemma Keyed.applyReorderingWindow (hk : Keyed s) (hw : Windowed s) (now : Duration) :
    Keyed (s.applyReorderingWindow now) := by
  unfold Sender.applyReorderingWindow
  split
  · exact hk
  have hloop : ∀ n, let t := (List.range n).foldl (rekeyEntry now) s; t.KeyedUnder (t.passedWindow n) := by
    intro n
    induction n with
    | zero => exact hk
    | succ n ih =>
      rw [range_succ, foldl_append, foldl_cons, foldl_nil]
      dsimp only
      rw [rekeyEntry_passedWindow]
      exact ih.rekeyEntry (hw.follows (foldl_follows (rekeyEntry_follows now) (List.range n) s)).ring now
  have hr := hloop s.entries.length
  have hfol := foldl_follows (rekeyEntry_follows now) (List.range s.entries.length) s
  revert hr hfol
  dsimp only
  generalize (List.range s.entries.length).foldl _ s = t
  intro hr hfol
  refine hr.congr (fun o => ?_) rfl
  cases o with
  | inl space => rfl
  | inr id =>
    change (t.entry id).bind _ = (t.entry id).bind _
    cases he : t.entry id with
    | none => rfl
    | some e =>
      have hlt : t.slot id < s.entries.length := hfol.length ▸ lt_length_of_entryAt (entry_eq_some.1 he).1
      exact congrArg e.readiness (if_pos hlt).symm

variable {acks : SentPacketId → Prop} {edges : Prop}

lemma Keyed.still (hk : Keyed s) (h : Still s s') : Keyed s' :=
  hk.congr h.config h.spaces h.entries h.readiness h.reorderingWindow

lemma Keyed.micro (hk : Keyed s) (hw : Windowed s) (h : Micro acks edges s s') : Keyed s' := by
  cases h.does with
  | still h => exact hk.still h
  | writes h _ _ _ => exact h.keyed hk
  | last _ => exact hk.congr rfl rfl rfl rfl rfl
  | window now => exact hk.applyReorderingWindow hw now
  | edge q hq => exact hk.congr rfl rfl rfl rfl rfl
  | note space f hq hf =>
    obtain ⟨hb, hread, -, -, -⟩ := updateSpace_beside s space f
    have hent : ∀ id, (s.updateSpace space f).entry id = s.entry id := fun id => by
      simp only [Sender.entry, entryAt, slot, hb.entries, hb.config]
    refine KeyedUnder.congr hk (fun o => ?_) hread
    cases o with
    | inl sp =>
      refine keyUnder_space hb.config (rel_imp (updateSpace_rel s space f sp) fun {st st'} _ heq => ?_)
      subst heq
      split
      · exact SpaceHistory.readiness_congr (hf _).terminal (hf _).latestCommitAt _ _
      · rfl
    | inr id => simp only [keyUnder, hent, hb.reorderingWindow]

end Keys

section Queue

structure Queued (s : Sender) : Prop where
  missing : ∀ id e, s.entry id = some e → e.acknowledgment.isMissing = true → s.missing.count id = 1
  pending : ∀ id e, s.entry id = some e → e.acknowledgment = .pending → id ∉ s.missing
  known : ∀ id ∈ s.missing, id < s.nextSentId

lemma Queued.congr (hq : Queued s) (he : ∀ id, s'.entry id = s.entry id) (hm : s'.missing = s.missing)
    (hn : s'.nextSentId = s.nextSentId) : Queued s' :=
  ⟨fun id e h => by rw [hm]; exact hq.missing id e (he id ▸ h), fun id e h => by rw [hm]; exact hq.pending id e (he id ▸ h),
    fun id h => by rw [hn]; exact hq.known id (hm ▸ h)⟩

lemma Queued.still (hq : Queued s) (h : Still s s') : Queued s' := hq.congr h.entry h.missing h.nextSentId

lemma Writes.queued (h : Writes s s' id e e') (hq : Queued s) (hm : s'.missing = s.missing)
    (hack : e'.acknowledgment.isMissing = true → e.acknowledgment.isMissing = true)
    (hpend : e'.acknowledgment = .pending → e.acknowledgment = .pending) : Queued s' := by
  refine ⟨fun x y hy hmiss => ?_, fun x y hy hp => ?_, fun x hx => ?_⟩
  · rw [hm]
    rcases h.entry_cases hy with ⟨rfl, rfl⟩ | ⟨-, hy⟩
    · exact hq.missing _ e h.found (hack hmiss)
    · exact hq.missing x y hy hmiss
  · rw [hm]
    rcases h.entry_cases hy with ⟨rfl, rfl⟩ | ⟨-, hy⟩
    · exact hq.pending _ e h.found (hpend hp)
    · exact hq.pending x y hy hp
  · rw [h.nextSentId]
    exact hq.known x (hm ▸ hx)

lemma Writes.queued_missing (h : Writes s s' id e e') (hq : Queued s) (hw : Windowed s)
    (hm : s'.missing = s.missing ++ [id]) (hp : e.acknowledgment = .pending)
    (hmiss : e'.acknowledgment.isMissing = true) : Queued s' := by
  refine ⟨fun x y hy hx => ?_, fun x y hy hx => ?_, fun x hx => ?_⟩
  · rw [hm, count_append]
    rcases h.entry_cases hy with ⟨rfl, rfl⟩ | ⟨hne, hy⟩
    · rw [count_eq_zero_of_not_mem (hq.pending _ e h.found hp), count_singleton_self]
    · rw [hq.missing x y hy hx, count_eq_zero_of_not_mem (by simpa using hne)]
  · rw [hm, mem_append]
    rcases h.entry_cases hy with ⟨-, rfl⟩ | ⟨hne, hy⟩
    · rw [hx] at hmiss
      cases hmiss
    rintro (hx' | hx')
    · exact hq.pending x y hy hx hx'
    · exact hne (by simpa using hx')
  · rw [h.nextSentId]
    rw [hm, mem_append] at hx
    rcases hx with hx | hx
    · exact hq.known x hx
    obtain rfl : x = id := by simpa using hx
    obtain ⟨hat, hid⟩ := entry_eq_some.1 h.found
    exact hid ▸ hw.known _ e hat

variable {acks : SentPacketId → Prop} {edges : Prop}

lemma Queued.micro (hq : Queued s) (hw : Windowed s) (h : Micro acks edges s s') : Queued s' := by
  cases h.does with
  | still h => exact hq.still h
  | writes h _ hm _ =>
    rcases hm with ⟨hm, hmiss, hpend⟩ | ⟨hm, hp, hmiss⟩
    · exact h.queued hq hm hmiss hpend
    · exact h.queued_missing hq hw hm hp hmiss
  | last _ => exact hq.congr (fun _ => rfl) rfl rfl
  | window now =>
    refine ⟨fun id e' he' hmiss => ?_, fun id e' he' hp => ?_, fun id hid => ?_⟩
    · obtain ⟨e, f, he, rfl⟩ := applyReorderingWindow_entry he'
      rw [(applyReorderingWindow_lists s now).2]
      exact hq.missing id e he hmiss
    · obtain ⟨e, f, he, rfl⟩ := applyReorderingWindow_entry he'
      rw [(applyReorderingWindow_lists s now).2]
      exact hq.pending id e he hp
    · rw [(applyReorderingWindow_lists s now).2] at hid
      rw [(applyReorderingWindow_follows).nextSentId]
      exact hq.known id hid
  | edge q hq' => exact hq.congr (fun _ => rfl) rfl rfl
  | note space f hq' hf =>
    obtain ⟨hb, -⟩ := updateSpace_beside s space f
    exact hq.congr (fun id => by simp only [Sender.entry, entryAt, slot, hb.entries, hb.config]) hb.missing hb.nextSentId

end Queue

section Scheduled

structure Scheduled (s : Sender) : Prop where
  windowed : Windowed s
  keyed : Keyed s
  queued : Queued s

lemma Scheduled.micro {acks : SentPacketId → Prop} {edges : Prop} (hs : Scheduled s) (h : Micro acks edges s s') :
    Scheduled s' :=
  ⟨hs.windowed.follows h.follows, hs.keyed.micro hs.windowed h, hs.queued.micro hs.windowed h⟩

lemma Keyed.insert {st : SpaceHistory} {keys : OrdSet Readiness} (hk : Keyed s)
    (hmem : ∀ k, k ∈ keys ↔ (k ∈ s.readiness ∧ ∀ old, s.spaces.lookup space = some old →
      old.readiness space s.config.retention ≠ k) ∨ st.readiness space s.config.retention = k) :
    Keyed { s with readiness := keys, spaces := s.spaces.insert space st } := by
  refine KeyedUnder.replace hk (.inl space) (fun o ho => ?_) fun k => ?_
  · cases o with
    | inl sp =>
      simp only [keyUnder]
      rw [AList.lookup_insert_ne fun h => ho (congrArg _ h)]
    | inr id => rfl
  · refine (hmem k).trans (or_congr (and_congr_right' ?_) ?_)
    · simp [keyUnder]
    · simp [keyUnder]

lemma Keyed.reclaim {deadline : Option Duration} (hk : Keyed s)
    (hhead : s.readiness.elems.head? = some (.retired deadline space)) :
    Keyed { s with readiness := s.readiness.erase (.retired deadline space), spaces := s.spaces.erase space } := by
  have hown := (hk _).1 (mem_of_mem_head? hhead)
  refine KeyedUnder.replace hk (.inl space) (fun o ho => ?_) fun k => ?_
  · cases o with
    | inl sp =>
      simp only [keyUnder]
      rw [AList.lookup_erase_ne fun h => ho (congrArg _ h)]
    | inr id => rfl
  · have hgone : (s.spaces.erase space).lookup space = none := AList.lookup_erase _ _
    rw [mem_erase, show s.keyUnder _ (.inl space) = some _ from hown]
    simp [keyUnder, hgone, eq_comm]

lemma Scheduled.chore (hs : Scheduled s) (h : Chore s s') : Scheduled s' := by
  refine ⟨hs.windowed.chore h, ?_, ?_⟩
  · cases h with
    | requeue | oldest => exact hs.keyed.congr rfl rfl rfl rfl rfl
    | @confirm id rest hwork hm =>
      have hk : Keyed { s with missing := rest } := hs.keyed.congr rfl rfl rfl rfl rfl
      have hw : Windowed { s with missing := rest } := hs.windowed.same { Shape.refl s with } rfl rfl
      exact hk.micro hw (confirm_micro hwork id)
    | reclaim hhead => exact hs.keyed.reclaim hhead
  · cases h with
    | requeue _ hsub hcount =>
      refine ⟨fun x e he hmiss => ?_, fun x e he hp hx => hs.queued.pending x e he hp (hsub x hx),
        fun x hx => hs.queued.known x (hsub x hx)⟩
      exact (hcount x e he hmiss).trans (hs.queued.missing x e he hmiss)
    | @confirm id rest _ hm =>
      -- The head of the queue is lost, everything else waits as before.
      have hold : ∀ x e, x ≠ id → s.entry x = some e → (e.acknowledgment.isMissing = true → rest.count x = 1) ∧
          (e.acknowledgment = .pending → x ∉ rest) := by
        intro x e hx he
        refine ⟨fun hmiss => ?_, fun hp hmem => ?_⟩
        · rw [count_tail hx, ← hm]
          exact hs.queued.missing x e he hmiss
        · exact hs.queued.pending x e he hp (hm ▸ mem_cons_of_mem _ hmem)
      have hknown : ∀ x ∈ rest, x < s.nextSentId := fun x hx =>
        hs.queued.known x (hm ▸ mem_cons_of_mem _ hx)
      rcases charged_cases { s with missing := rest } id (s.lossWork + 1) .reordering with
        ⟨hsame, hterm⟩ | ⟨e, -, b, hwr, hmiss, -⟩
      · have hne : ∀ {x e}, s.entry x = some e → e.acknowledgment.isTerminal = false → x ≠ id := by
          rintro x e he hlive rfl
          rw [hterm e he] at hlive
          cases hlive
        refine Queued.still ⟨fun x e he hx => ?_, fun x e he hx => ?_, hknown⟩ hsame
        · refine (hold x e (hne he ?_) he).1 hx
          cases hack : e.acknowledgment <;> simp [hack, Acknowledgment.isMissing, Acknowledgment.isTerminal] at hx ⊢
        · exact (hold x e (hne he (by rw [hx]; rfl)) he).2 hx
      · refine ⟨fun x y hy hx => ?_, fun x y hy hx => ?_, fun x hx => ?_⟩
        · rw [hmiss]
          rcases hwr.entry_cases hy with ⟨-, rfl⟩ | ⟨hne, hy⟩
          · cases hx
          · exact (hold x y hne hy).1 hx
        · rw [hmiss]
          rcases hwr.entry_cases hy with ⟨-, rfl⟩ | ⟨hne, hy⟩
          · cases hx
          · exact (hold x y hne hy).2 hx
        · rw [hmiss] at hx
          rw [hwr.nextSentId]
          exact hknown x hx
    | reclaim | oldest => exact hs.queued.congr (fun _ => rfl) rfl rfl

variable {context : SendCommit} {config : SenderConfig} {granted : Bool}

lemma Commits.scheduled (h : Commits s s' context) (hs : Scheduled s) : Scheduled s' := by
  refine ⟨h.windowed hs.windowed, fun k => ?_, fun x y hy hx => ?_, fun x y hy hx => ?_, fun x hx => ?_⟩
  · rw [h.keys, hs.keyed k]
    cases ho : k.owner with
    | inl sp =>
      have hsp : s'.keyUnder (fun _ => s'.reorderingWindow) (.inl sp) =
          s.keyUnder (fun _ => s.reorderingWindow) (.inl sp) := by
        refine keyUnder_space h.config (rel_imp (h.spaces sp) fun {st st'} hst hrel => ?_)
        obtain ⟨st1, ht, rfl⟩ := hrel
        split
        next hspace =>
          subst hspace
          have hlive := h.live st hst
          have hlive1 : (spaceAfterCommit st1 context s.nextSentId).terminal = false := ht.terminal.trans hlive
          simp [SpaceHistory.readiness, hlive, hlive1]
        · exact SpaceHistory.readiness_congr ht.terminal ht.latestCommitAt _ _
      rw [hsp]
      exact and_iff_left fun e _ hr => by cases ho.symm.trans (SentEntry.readiness_owner hr)
    | inr x =>
      have hat := h.entryAt hs.windowed (s.slot x)
      by_cases hx : s.slot x = s.slot s.nextSentId
      · -- The slot of the new packet: its occupant loses its key, the newcomer has none.
        rw [if_pos hx] at hat
        have hnew : s'.keyUnder (fun _ => s'.reorderingWindow) (.inr x) = none := by
          rw [keyUnder, Sender.entry, h.slot, hat, Option.bind_eq_none_iff]
          intro e he
          cases (Option.filter_eq_some_iff.1 he).1
          rfl
        rw [hnew]
        refine iff_of_false ?_ (by simp)
        rintro ⟨hkey, hne⟩
        obtain ⟨e, he, hr⟩ := Option.bind_eq_some_iff.1 hkey
        exact hne e (hx ▸ (entry_eq_some.1 he).1) hr
      · rw [if_neg hx] at hat
        have hsame : s'.keyUnder (fun _ => s'.reorderingWindow) (.inr x) =
            s.keyUnder (fun _ => s.reorderingWindow) (.inr x) := by
          rw [keyUnder, keyUnder, Sender.entry, h.slot, hat, h.reorderingWindow]
          rfl
        rw [hsame]
        refine and_iff_left fun e he hr => hx ?_
        cases ho.symm.trans (SentEntry.readiness_owner hr)
        exact hs.windowed.ring _ e he
  · rw [h.missing]
    rcases h.entry_cases hs.windowed hy with ⟨-, rfl⟩ | ⟨-, hy⟩
    · cases hx
    · exact hs.queued.missing x y hy hx
  · rw [h.missing]
    rcases h.entry_cases hs.windowed hy with ⟨rfl, -⟩ | ⟨-, hy⟩
    · exact fun hmem => lt_irrefl _ (hs.queued.known _ hmem)
    · exact hs.queued.pending x y hy hx
  · rw [h.nextSentId]
    exact lt_succ_of_lt (hs.queued.known x (h.missing ▸ hx))

lemma Switches.scheduled {epoch : Epoch} {available : Bool} (h : Switches s s' epoch available)
    (hsw : s.switches epoch available = true) (hs : Scheduled s) : Scheduled s' := by
  have hterm : ∀ {x y}, s'.entry x = some y → y.acknowledgment.isTerminal = true := fun hy =>
    h.terminal hs.windowed hsw (entry_eq_some.1 hy).1
  refine ⟨h.windowed hs.windowed, fun k => ?_, fun x y hy hx => ?_, fun x y hy hx => ?_, fun x hx => ?_⟩
  · rw [h.keys, hs.keyed k]
    cases ho : k.owner with
    | inl sp =>
      have hkey w : s'.keyUnder w (.inl sp) = s.keyUnder (fun _ => s.reorderingWindow) (.inl sp) := keyUnder_space h.config
        (rel_imp (h.spaces sp) fun _ hf => SpaceHistory.readiness_congr hf.terminal hf.latestCommitAt _ _)
      rw [hkey]
      exact and_iff_left fun i e _ hr => by cases ho.symm.trans (SentEntry.readiness_owner hr)
    | inr x =>
      refine iff_of_false (fun ⟨hkey, hne⟩ => ?_) fun hkey => ?_
      · obtain ⟨e, he, hr⟩ := Option.bind_eq_some_iff.1 hkey
        exact hne _ e (entry_eq_some.1 he).1 hr
      · obtain ⟨e, he, hr⟩ := Option.bind_eq_some_iff.1 hkey
        rw [SentEntry.readiness_none (SentEntry.anchored_of_terminal (hterm he))] at hr
        cases hr
  · have := hterm hy
    cases hack : y.acknowledgment <;> simp [hack, Acknowledgment.isMissing, Acknowledgment.isTerminal] at hx this
  · have := hterm hy
    rw [hx] at this
    cases this
  · rw [h.missing] at hx
    cases hx

lemma scheduled_blank (hw : Windowed s) (hent : ∀ i, s.entryAt i = none) (hk : Keyed s)
    (hm : ∀ id ∈ s.missing, id < s.nextSentId) : Scheduled s := by
  have hno : ∀ {x y}, s.entry x ≠ some y := fun {x y} hy => by
    have := (entry_eq_some.1 hy).1
    rw [hent] at this
    cases this
  exact ⟨hw, hk, fun x y hy => absurd hy hno, fun x y hy => absurd hy hno, hm⟩

lemma keyed_empty (hent : ∀ i, s.entryAt i = none) (hs : s.spaces = ∅) (hr : s.readiness = .empty) : Keyed s := by
  intro k
  rw [hr]
  refine iff_of_false not_mem_empty fun h => ?_
  cases ho : k.owner with
  | inl sp => simp [ho, keyUnder, hs] at h
  | inr id => simp [ho, keyUnder, Sender.entry, hent] at h

lemma scheduled_unfunded (h : config.validate = true) : Scheduled (unfunded config) :=
  scheduled_blank (windowed_unfunded h) (fun _ => rfl) (keyed_empty (fun _ => rfl) rfl rfl) nofun

section

variable (hs : Scheduled s)

include hs

lemma Scheduled.clear (epoch : Epoch) : Scheduled (s.clear epoch) :=
  scheduled_blank (hs.windowed.clear epoch) (entryAt_replicate rfl) (keyed_empty (entryAt_replicate rfl) rfl rfl) nofun

lemma Scheduled.abort : Scheduled s.abort :=
  scheduled_blank hs.windowed.abort (fun _ => rfl) (keyed_empty (fun _ => rfl) rfl rfl) nofun

lemma Scheduled.prepareFeedbackProfile {profile : FeedbackMode}
    (h : s.prepareFeedbackProfile profile granted = .ok s') : Scheduled s' := by
  have hw := hs.windowed.prepareFeedbackProfile h
  unfold Sender.prepareFeedbackProfile at h
  split at h
  next hm =>
    split at h
    · cases h
      refine scheduled_blank hw (entryAt_replicate rfl) (KeyedUnder.congr hs.keyed (fun o => ?_) rfl) hs.queued.known
      cases o with
      | inl space => rfl
      | inr id => simp [keyUnder, Sender.entry, entryAt_replicate, (hs.windowed.bare hm).1]
    · cases h
  · split at h
    · cases h
      exact hs
    · cases h

lemma Scheduled.prepareCommit : Scheduled (s.prepareCommit context granted).2 := by
  refine ⟨hs.windowed.tidies prepareCommit_tidies, ?_, ?_⟩ <;> unfold Sender.prepareCommit <;> split
  · exact hs.keyed
  · split
    · exact hs.keyed
    split
    · exact hs.keyed
    next hnew =>
      refine hs.keyed.insert fun k => ?_
      rw [mem_insert, or_comm, eq_comm]
      simp [hnew, SpaceHistory.readiness]
  · exact hs.queued
  · split
    · exact hs.queued
    split
    · exact hs.queued
    · exact hs.queued.congr (fun _ => rfl) rfl rfl

lemma Scheduled.retireSource (space : SpaceId) : Scheduled (s.retireSource space) := by
  refine ⟨hs.windowed.tidies retireSource_tidies, ?_, ?_⟩ <;> unfold Sender.retireSource <;>
    cases hst : s.spaces.lookup space
  · exact hs.keyed
  next source =>
    have hmem := hs.keyed.mem_space hst
    dsimp only
    split
    · exact hs.keyed
    split
    · refine hs.keyed.insert fun k => ?_
      rw [mem_insert, mem_erase, or_comm, eq_comm]
      simp [hst, eq_comm]
    next heq =>
      have heq := not_not.1 heq
      refine hs.keyed.insert fun k => ?_
      rw [← heq]
      by_cases hk : source.readiness space s.config.retention = k
      · simp [hk, hk ▸ hmem]
      · simp [hk, hst]
  · exact hs.queued
  · dsimp only
    split
    · exact hs.queued
    · split <;> exact hs.queued.congr (fun _ => rfl) rfl rfl

lemma Scheduled.congr (hw : Windowed s') (hc : s'.config = s.config) (hsp : s'.spaces = s.spaces)
    (he : s'.entries = s.entries) (hr : s'.readiness = s.readiness) (hwin : s'.reorderingWindow = s.reorderingWindow)
    (hm : s'.missing = s.missing) (hn : s'.nextSentId = s.nextSentId) : Scheduled s' :=
  ⟨hw, hs.keyed.congr hc hsp he hr hwin,
    hs.queued.congr (fun id => by simp only [Sender.entry, entryAt, slot, he, hc]) hm hn⟩

lemma Scheduled.apply (op : SenderOp) : Scheduled (s.apply op) := by
  have hw := hs.windowed.apply op
  cases op with
  | prepareFeedbackProfile profile granted => exact orElse_keep hs fun _ => hs.prepareFeedbackProfile
  | prepareCommit context granted => exact hs.prepareCommit
  | commitPreflighted context room => exact commitPreflighted_keep hs fun _ h => h.scheduled hs
  | processFeedback batch room => exact (processFeedback_steps s batch room).keep (fun _ _ h hs => Scheduled.micro hs h) hs
  | rejectUnmappedFeedback epoch statuses =>
    refine hs.congr hw ?_ ?_ ?_ ?_ ?_ ?_ ?_ <;>
      · dsimp only [Sender.apply, Sender.rejectUnmappedFeedback]
        split
        · rfl
        · split <;> rfl
  | expire now limit =>
    exact (expire_expires s now limit).keep (fun _ _ h hs => Scheduled.micro hs h)
      (fun _ _ h hs => Scheduled.chore hs h) hs
  | clearObservations => exact hs.congr hw rfl rfl rfl rfl rfl rfl rfl
  | setApplicationLimited limited => exact hs.congr hw rfl rfl rfl rfl rfl rfl rfl
  | setAvailability epoch available =>
    cases hsw : s.switches epoch available with
    | false =>
      dsimp only [Sender.apply]
      rwa [setAvailability_same hsw]
    | true => exact (setAvailability_switches hsw).scheduled hsw hs
  | retireSource space => exact hs.retireSource space
  | clear epoch => exact hs.clear epoch
  | abort => exact hs.abort

end

lemma scheduled {guard : Sender → SenderOp → Prop} (h : (machine config guard).Reachable s) : Scheduled s := by
  refine h.invariant ?_ fun _ op hs _ => hs.apply op
  rintro s ⟨hvalid, rfl⟩
  exact scheduled_unfunded hvalid

end Scheduled

section NextDeadline

lemma min?_le {l : List ℕ} {a : ℕ} (h : a ∈ l) : ∃ n, l.min? = some n ∧ n ≤ a := by
  obtain ⟨n, hn⟩ := Option.isSome_iff_exists.1 (isSome_min?_of_mem h)
  exact ⟨n, hn, (min?_eq_some_iff.1 hn).2 a h⟩

lemma readiness_lt_iff {a b : Readiness} : a < b ↔ a.key < b.key := Iff.rfl

variable {l : List Readiness} {d : Duration}

lemma findMissing_le (hl : l.Pairwise (· < ·)) (h : .missing d id ∈ l) :
    ∃ n, (l.findSome? fun key => match key with
      | .missing deadline _ => some deadline
      | _ => none) = some n ∧ n ≤ d := by
  induction hl with
  | nil => cases h
  | @cons k l hk _ ih =>
    cases k with
    | retired => exact ih ((mem_cons.1 h).resolve_left nofun)
    | unscheduled => exact ih ((mem_cons.1 h).resolve_left nofun)
    | missing d' id' =>
      refine ⟨d', rfl, ?_⟩
      rcases mem_cons.1 h with heq | h
      · cases heq
        exact le_rfl
      have hlt := readiness_lt_iff.1 (hk _ h)
      have hlt : d' < d ∨ d' = d ∧ id' < id := by simpa [Readiness.key, Prod.Lex.toLex_lt_toLex] using hlt
      exact hlt.elim le_of_lt fun h => h.1.le

lemma head_retired (hl : l.Pairwise (· < ·)) (h : .retired (some d) space ∈ l) :
    ∃ deadline sp, l.head? = some (.retired deadline sp) ∧ ∀ n, deadline = some n → n ≤ d := by
  cases hl with
  | nil => cases h
  | @cons k l hk _ =>
    rcases mem_cons.1 h with heq | h
    · cases heq
      exact ⟨some d, space, rfl, fun n hn => by cases hn; exact le_rfl⟩
    have hlt := readiness_lt_iff.1 (hk _ h)
    cases k with
    | retired deadline sp =>
      refine ⟨deadline, sp, rfl, ?_⟩
      rintro n rfl
      have hlt : n < d ∨ n = d ∧ sp < space := by simpa [Readiness.key, Prod.Lex.toLex_lt_toLex] using hlt
      exact hlt.elim le_of_lt fun h => h.1.le
    | unscheduled => simp [Readiness.key, Prod.Lex.toLex_lt_toLex] at hlt
    | missing => simp [Readiness.key, Prod.Lex.toLex_lt_toLex] at hlt

variable {now d : Duration}

lemma Scheduled.nextDeadline_reorder (hs : Scheduled s) (he : s.entry id = some e)
    (hd : e.reorderDeadline s.reorderingWindow = some d) : ∃ n, s.nextDeadline now = some n ∧ n ≤ d := by
  have hmem : Readiness.missing d e.id ∈ s.readiness :=
    hs.keyed.mem_entry he (SentEntry.readiness_eq_some.2 ⟨d, hd, rfl⟩)
  obtain ⟨m, hm, hle⟩ := findMissing_le s.readiness.sorted hmem
  have hfirst : s.firstMissing = some m := hm
  obtain ⟨n, hn, hnm⟩ : ∃ n, s.nextDeadline now = some n ∧ n ≤ m := by
    apply min?_le
    simp [hfirst]
  exact ⟨n, hn, hnm.trans hle⟩

lemma Scheduled.nextDeadline_retired (hs : Scheduled s) {st : SpaceHistory} (hst : s.spaces.lookup sp = some st)
    (hd : st.readiness sp s.config.retention = .retired (some d) sp) :
    ∃ n, s.nextDeadline now = some n ∧ n ≤ max now d := by
  have hmem : Readiness.retired _ sp ∈ s.readiness := hd ▸ hs.keyed.mem_space hst
  obtain ⟨deadline, sp', hhead, hle⟩ := head_retired s.readiness.sorted hmem
  obtain ⟨n, hn, hnm⟩ : ∃ n, s.nextDeadline now = some n ∧ n ≤ deadline.getD now := by
    apply min?_le
    simp [hhead]
  refine ⟨n, hn, hnm.trans ?_⟩
  cases deadline with
  | none => exact le_max_left _ _
  | some m => exact (hle m rfl).trans (le_max_right _ _)

lemma Scheduled.nextDeadline_sent (hlt : s.oldestSentId < s.nextSentId) (he : s.entry s.oldestSentId = some e)
    (hd : Duration.checkedAdd e.committedAt s.config.retention = some d) : ∃ n, s.nextDeadline now = some n ∧ n ≤ d := by
  apply min?_le
  simp [hlt, he, hd]

/-- In every run the readiness order is exact, and the next deadline comes no later than what is pending, except for a
retired space past its deadline. -/
theorem readiness_exact {config : SenderConfig} (h : (machine config fun _ _ => True).Reachable s) :
    (∀ k, k ∈ s.readiness ↔
      (∃ sp st, s.spaces.lookup sp = some st ∧ st.readiness sp s.config.retention = k) ∨
        ∃ e, some e ∈ s.entries ∧ e.anchored = true ∧ e.readiness s.reorderingWindow = some k) ∧
    (∀ e, some e ∈ s.entries → e.anchored = true → s.missing.count e.id = 1) ∧
    ∀ now,
      (∀ e d, some e ∈ s.entries → e.reorderDeadline s.reorderingWindow = some d →
        ∃ n, s.nextDeadline now = some n ∧ n ≤ d) ∧
      (∀ sp st d, s.spaces.lookup sp = some st → st.readiness sp s.config.retention = .retired (some d) sp →
        ∃ n, s.nextDeadline now = some n ∧ n ≤ max now d) ∧
      ∀ e d, some e ∈ s.entries → s.oldestSentId ≤ e.id →
        (∀ x, some x ∈ s.entries → s.oldestSentId ≤ x.id → e.id ≤ x.id) →
        Duration.checkedAdd e.committedAt s.config.retention = some d → ∃ n, s.nextDeadline now = some n ∧ n ≤ d := by
  have hs := scheduled h
  have hentry : ∀ {e}, some e ∈ s.entries → s.entry e.id = some e := by
    intro e he
    obtain ⟨i, hi⟩ := mem_entries.1 he
    exact hs.windowed.entry hi
  have hanch : ∀ {e : SentEntry} {w k}, e.readiness w = some k → e.anchored = true := by
    intro e w k hr
    by_contra hn
    rw [SentEntry.readiness_none (by simpa using hn)] at hr
    cases hr
  refine ⟨fun k => ?_, fun e he ha => ?_, fun now => ⟨fun e d he hd => ?_, fun sp st d hst hd => ?_,
    fun e d he hold hmin hd => ?_⟩⟩
  · refine hs.keyed.iff.trans (or_congr_right ⟨?_, ?_⟩)
    · rintro ⟨id, e, he, hr⟩
      exact ⟨e, mem_of_entry he, hanch hr, hr⟩
    · rintro ⟨e, he, -, hr⟩
      exact ⟨e.id, e, hentry he, hr⟩
  · refine hs.queued.missing e.id e (hentry he) ?_
    unfold SentEntry.anchored at ha
    split at ha
    next hack =>
      rw [hack]
      rfl
    · cases ha
  · exact hs.nextDeadline_reorder (hentry he) hd
  · exact hs.nextDeadline_retired hst hd
  · have hlt : e.id < s.nextSentId := by
      obtain ⟨i, hi⟩ := mem_entries.1 he
      exact hs.windowed.known i e hi
    have hnext := hold.trans_lt hlt
    obtain ⟨x, hx⟩ := hs.windowed.retained s.oldestSentId le_rfl hnext
    have hxid := (entry_eq_some.1 hx).2
    have heid : e.id = s.oldestSentId := le_antisymm (hxid ▸ hmin x (mem_of_entry hx) hxid.ge) hold
    exact Scheduled.nextDeadline_sent hnext (heid ▸ hentry he) hd

def overdueOps : List SenderOp :=
  [.prepareFeedbackProfile .continuous true, .setAvailability 1 true] ++ leakCommit 0 1 ++
    [.expire 10 2, .retireSource 0, .prepareCommit ⟨20, 100, 1, ⟨1, 2, some 2, 0⟩⟩ true, .retireSource 1]

def overdueState : Sender := overdueOps.foldl apply (unfunded leakConfig)

lemma overdueState_reachable : (machine leakConfig fun _ _ => True).Reachable overdueState :=
  reachable_foldl (by decide)

theorem deadline_passed : ∃ s now sp st d n, (machine leakConfig fun _ _ => True).Reachable s ∧
    s.spaces.lookup sp = some st ∧ st.readiness sp s.config.retention = .retired (some d) sp ∧
    s.nextDeadline now = some n ∧ d < n := by
  have hst : ((overdueState.spaces.lookup 0).any fun st =>
      decide (st.readiness 0 overdueState.config.retention = .retired (some 10) 0)) = true := by decide +kernel
  obtain ⟨st, hlook, hread⟩ := (Option.any_eq_true _ _).1 hst
  exact ⟨overdueState, 110, 0, st, 10, 110, overdueState_reachable, hlook, of_decide_eq_true hread, by decide +kernel,
    by decide⟩

theorem readiness_exact_overdue :
    (machine leakConfig fun _ _ => True).Reachable overdueState ∧
      (Readiness.retired none 1 ∈ overdueState.readiness ↔
        (∃ sp st, overdueState.spaces.lookup sp = some st ∧
          st.readiness sp overdueState.config.retention = .retired none 1) ∨
        ∃ e, some e ∈ overdueState.entries ∧ e.anchored = true ∧
          e.readiness overdueState.reorderingWindow = some (.retired none 1)) ∧
      Readiness.retired none 1 ∈ overdueState.readiness :=
  ⟨overdueState_reachable, (readiness_exact overdueState_reachable).1 _, by decide +kernel⟩

end NextDeadline

end Sender

end Pulsebeam.Feedback
