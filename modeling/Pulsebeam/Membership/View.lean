import Pulsebeam.Lib.Mark
import Pulsebeam.Lib.OrdMap
import Pulsebeam.Lib.OrdSet
import Pulsebeam.Lib.Word

/-! The membership view: what a node makes of the records it hears of other nodes. Times are in nanoseconds. -/

namespace Pulsebeam.Membership

open Pulsebeam.Lib List OrdMap OrdSet

def historyRetention : ℕ := 48 * 60 * 60 * 1000000000

structure Incarnation (N A : Type*) where
  nodeId : N
  generationId : ℕ
  gossipAdvertiseAddr : A

inductive Liveness
  | known
  | live
  | suspected
  deriving DecidableEq, Repr

structure Member (M : Type*) where
  liveness : Liveness
  superseded : Bool
  conflicting : Bool
  supported : Bool
  metadata : M
  deriving DecidableEq, Repr

def Member.isUsable {M : Type*} (m : Member M) : Bool :=
  m.supported && m.liveness == .live && !m.superseded && !m.conflicting

structure Record (N A M : Type*) where
  id : Incarnation N A
  liveness : Liveness
  metadata : Option M

inductive Change (N A : Type*)
  | joined (id : Incarnation N A)
  | removed (id : Incarnation N A)
  | liveness (id : Incarnation N A)
  | metadata (id : Incarnation N A)
  | status (id : Incarnation N A)
  | incarnation (id : N)

structure History (A : Type*) where
  generation : ℕ
  lastObserved : ℕ
  firstAddress : A
  conflicting : Bool
  deriving DecidableEq, Repr

variable {N A M : Type*} [LinearOrder N] [LinearOrder A]

instance : LinearOrder (Incarnation N A) :=
  LinearOrder.lift' (fun i => toLex (i.nodeId, toLex (i.generationId, i.gossipAdvertiseAddr))) fun i j h => by
    obtain ⟨n, g, a⟩ := i
    obtain ⟨n', g', a'⟩ := j
    simpa using h

structure Snapshot (N A M : Type*) [LinearOrder N] [LinearOrder A] where
  revision : ℕ
  members : OrdMap (Incarnation N A) (Member M)
  highestGenerations : OrdMap N ℕ
  changes : List (Change N A)

structure View (N A M : Type*) [LinearOrder N] [LinearOrder A] where
  snapshot : Snapshot N A M
  history : OrdMap N (History A)

def View.new : View N A M := ⟨⟨0, ∅, ∅, []⟩, ∅⟩

def History.note (now : ℕ) (id : Incarnation N A) (h : History A) : History A :=
  let h := if h.generation < id.generationId then
    { h with generation := id.generationId, firstAddress := id.gossipAdvertiseAddr, conflicting := false } else h
  if id.generationId = h.generation then
    { h with lastObserved := now, conflicting := h.conflicting || h.firstAddress ≠ id.gossipAdvertiseAddr }
  else h

def observe (now : ℕ) (history : OrdMap N (History A)) (id : Incarnation N A) : OrdMap N (History A) :=
  history.insert id.nodeId
    (((history.get? id.nodeId).getD ⟨id.generationId, now, id.gossipAdvertiseAddr, false⟩).note now id)

def retained (history : OrdMap N (History A)) (now : ℕ) : OrdMap N (History A) :=
  history.retain fun _ h => now - h.lastObserved ≤ historyRetention

def remember (history : OrdMap N (History A)) (ids : List (Incarnation N A)) (now : ℕ) : OrdMap N (History A) :=
  ids.foldl (observe now) (retained history now)

def addresses (ids : List (Incarnation N A)) (id : Incarnation N A) : OrdSet A :=
  OrdSet.empty.insertAll
    ((ids.filter fun i => i.nodeId = id.nodeId ∧ i.generationId = id.generationId).map (·.gossipAdvertiseAddr))

def member [Inhabited M] (history : OrdMap N (History A)) (ids : List (Incarnation N A)) (r : Record N A M) : Member M where
  liveness := r.liveness
  superseded := (history.get? r.id.nodeId).any fun h => r.id.generationId < h.generation
  conflicting := decide (1 < (addresses ids r.id).elems.length) ||
    (history.get? r.id.nodeId).any fun h => h.generation == r.id.generationId && h.conflicting
  supported := r.metadata.isSome
  metadata := r.metadata.getD default

def collect [Inhabited M] (history : OrdMap N (History A)) (records : List (Record N A M)) :
    OrdMap (Incarnation N A) (Member M) :=
  records.foldl (fun m r => m.insert r.id (member history (records.map (·.id)) r)) ∅

def Snapshot.changesTo [DecidableEq M] (s : Snapshot N A M) (members : OrdMap (Incarnation N A) (Member M))
    (highest : OrdMap N ℕ) : List (Change N A) :=
  (members.entries.flatMap fun (id, member) =>
    match s.members.get? id with
    | some old =>
      (if old.liveness ≠ member.liveness then [.liveness id] else []) ++
      (if old.metadata ≠ member.metadata then [.metadata id] else []) ++
      (if old.superseded ≠ member.superseded ∨ old.conflicting ≠ member.conflicting ∨ old.supported ≠ member.supported
        then [.status id] else [])
    | none => [.joined id]) ++
  (s.members.keys.filter fun id => (members.get? id).isNone).map .removed ++
  ((OrdSet.empty.insertAll (s.highestGenerations.keys ++ highest.keys)).elems.filter fun n =>
    s.highestGenerations.get? n ≠ highest.get? n).map .incarnation

/-- The view after an update, and whether its snapshot changed; nothing when the revisions are used up. -/
def View.update [DecidableEq M] [Inhabited M] (v : View N A M) (records : List (Record N A M)) (now : ℕ) :
    View N A M × Option Bool :=
  let history := remember v.history (records.map (·.id)) now
  let highest := history.mapValues fun _ h => h.generation
  let members := collect history records
  if v.snapshot.revision ≠ 0 ∧ v.snapshot.members.entries = members.entries ∧
      v.snapshot.highestGenerations.entries = highest.entries then ({ v with history := history }, some false)
  else if v.snapshot.revision + 1 ≤ Word.max 64 then
    (⟨⟨v.snapshot.revision + 1, members, highest, v.snapshot.changesTo members highest⟩, history⟩, some true)
  else ({ v with history := history }, none)

variable {ids ids' : List (Incarnation N A)} {id : Incarnation N A} {h : History A} {n : N} {g now : ℕ} {a b : A}
  {history history' : OrdMap N (History A)} {p q : Mark A} {t : ℕ}

def History.mark (h : History A) : Mark A := ⟨h.generation, h.lastObserved, if h.conflicting then none else some h.firstAddress⟩

def Incarnation.mark (now : ℕ) (i : Incarnation N A) : Mark A := ⟨i.generationId, now, some i.gossipAdvertiseAddr⟩

def known (history : OrdMap N (History A)) (n : N) : WithBot (Mark A) := (history.get? n).elim ⊥ fun h => h.mark

def sighted (n : N) (ids : List (Incarnation N A)) (now : ℕ) : WithBot (Mark A) :=
  (ids.toFinset.filter (·.nodeId = n)).sup fun i => (i.mark now : WithBot (Mark A))

def Past (history : OrdMap N (History A)) (now : ℕ) : Prop := ∀ n h, history.get? n = some h → h.lastObserved ≤ now

omit [LinearOrder N] in
lemma note_mark (id : Incarnation N A) (hle : h.lastObserved ≤ now) : (h.note now id).mark = h.mark ⊔ id.mark now := by
  simp only [History.note, History.mark, Incarnation.mark, Mark.sup_def, Mark.join]
  grind

omit [LinearOrder N] in
lemma lastObserved_note (id : Incarnation N A) (hle : h.lastObserved ≤ now) : (h.note now id).lastObserved ≤ now := by
  simp only [History.note]
  grind

lemma past_observe (hpast : Past history now) : Past (observe now history id) now := by
  intro n h hh
  rw [observe, get?_insert] at hh
  split at hh
  · cases hh
    apply lastObserved_note
    cases hp : history.get? id.nodeId with
    | none => exact le_rfl
    | some p => exact hpast _ p hp
  · exact hpast n h hh

lemma known_observe (hpast : Past history now) (id : Incarnation N A) (n : N) :
    known (observe now history id) n = known history n ⊔ if id.nodeId = n then ↑(id.mark now) else ⊥ := by
  rw [known, observe, get?_insert]
  by_cases hn : n = id.nodeId
  · subst hn
    rw [if_pos rfl, known]
    cases hp : history.get? id.nodeId with
    | none =>
      have hnew := note_mark (h := ⟨id.generationId, now, id.gossipAdvertiseAddr, false⟩) id (le_refl now)
      simp only [Option.elim, Option.getD_none, hnew]
      exact congrArg _ (sup_idem _)
    | some p => simp [note_mark id (hpast _ p hp)]
  · rw [if_neg hn, if_neg (Ne.symm hn), sup_bot_eq, known]

lemma known_foldl (hpast : Past history now) :
    known (ids.foldl (observe now) history) n = known history n ⊔ sighted n ids now := by
  induction ids generalizing history with
  | nil => simp [sighted]
  | cons id ids ih =>
    rw [foldl_cons, ih (past_observe hpast), known_observe hpast, sup_assoc, sighted, sighted, toFinset_cons,
      Finset.filter_insert]
    split
    · rw [Finset.sup_insert]
    · rw [bot_sup_eq]

omit [LinearOrder A] in
lemma past_retained (hpast : Past history now) : Past (retained history now) now :=
  fun n h hh => hpast n h (get?_retain.1 hh).1

lemma past_remember (hpast : Past history now) : Past (remember history ids now) now := by
  rw [remember]
  have hkept := past_retained hpast
  generalize retained history now = kept at hkept
  induction ids generalizing kept with
  | nil => exact hkept
  | cons id ids ih => exact ih _ (past_observe hkept)

lemma known_remember (hpast : Past history now) (ids : List (Incarnation N A)) (n : N) :
    known (remember history ids now) n = known (retained history now) n ⊔ sighted n ids now :=
  known_foldl (past_retained hpast)

omit [LinearOrder A] in
lemma get?_retained : (retained history now).get? n =
    (history.get? n).filter fun h => now - h.lastObserved ≤ historyRetention := by
  refine Option.ext fun h => ?_
  rw [retained, get?_retain, Option.filter_eq_some_iff]

omit [LinearOrder A] in
lemma known_eq_coe : known history n = ↑p ↔ ∃ h, history.get? n = some h ∧ h.mark = p := by
  rw [known]
  cases history.get? n <;> simp

omit [LinearOrder A] in
lemma known_retained (hk : known history n = ↑p) (hp : now - p.date ≤ historyRetention) :
    known (retained history now) n = ↑p := by
  obtain ⟨h, hh, rfl⟩ := known_eq_coe.1 hk
  exact known_eq_coe.2 ⟨h, get?_retain.2 ⟨hh, decide_eq_true hp⟩, rfl⟩

omit [LinearOrder A] in
lemma known_retained_congr (hh : known history n = known history' n) :
    known (retained history now) n = known (retained history' now) n := by
  rw [known, known] at hh ⊢
  rw [get?_retained, get?_retained]
  cases hp : history.get? n with
  | none =>
    cases hp' : history'.get? n with
    | none => rfl
    | some h' => simp [hp, hp'] at hh
  | some h =>
    cases hp' : history'.get? n with
    | none => simp [hp, hp'] at hh
    | some h' =>
      rw [hp, hp'] at hh
      have hdate : h.lastObserved = h'.lastObserved := congrArg Mark.date (WithBot.coe_inj.1 hh)
      rw [Option.filter_some, Option.filter_some, hdate]
      split
      · exact hh
      · rfl

lemma mark_le_sighted (hi : ⟨n, g, a⟩ ∈ ids) : ((⟨g, now, some a⟩ : Mark A) : WithBot (Mark A)) ≤ sighted n ids now :=
  Finset.le_sup (f := fun i : Incarnation N A => (i.mark now : WithBot (Mark A))) (b := ⟨n, g, a⟩) (by simpa using hi)

lemma sighted_le (hids : ∀ i ∈ ids, i.nodeId = n → i.generationId ≤ g) (ht : now ≤ t) :
    sighted n ids now ≤ ((⟨g, t, none⟩ : Mark A) : WithBot (Mark A)) := by
  refine Finset.sup_le fun i hi => WithBot.coe_le_coe.2 (Mark.le_iff.2 ?_)
  obtain ⟨hi, hn⟩ := Finset.mem_filter.1 hi
  exact (hids i (mem_toFinset.1 hi) hn).lt_or_eq.imp id fun h => ⟨h, ht, .inl rfl⟩

variable {records records' : List (Record N A M)}

lemma one_lt_addresses : 1 < (addresses ids id).elems.length ↔ ∃ a b, ⟨id.nodeId, id.generationId, a⟩ ∈ ids ∧
    ⟨id.nodeId, id.generationId, b⟩ ∈ ids ∧ a ≠ b := by
  have hmem (a : A) : a ∈ (addresses ids id).elems ↔ ⟨id.nodeId, id.generationId, a⟩ ∈ ids := by
    rw [mem_elems, addresses, mem_insertAll]
    simp only [mem_map, mem_filter, decide_eq_true_eq, not_mem_empty, or_false]
    constructor
    · rintro ⟨⟨n, g, a⟩, ⟨hi, rfl, rfl⟩, rfl⟩
      exact hi
    · exact fun h => ⟨_, ⟨h, rfl, rfl⟩, rfl⟩
  have hnodup := (addresses ids id).nodup
  simp only [← hmem]
  generalize (addresses ids id).elems = l at hnodup ⊢
  rcases l with _ | ⟨x, _ | ⟨y, l⟩⟩
  · simp
  · simp
  · have hne : x ≠ y := fun h => (nodup_cons.1 hnodup).1 (h ▸ mem_cons_self)
    exact iff_of_true (by simp) ⟨x, y, by simp, by simp, hne⟩

lemma get?_collect (records : List (Record N A M)) (f : Record N A M → Member M)
    (m : OrdMap (Incarnation N A) (Member M)) (i : Incarnation N A) :
    (∀ x, (records.foldl (fun m r => m.insert r.id (f r)) m).get? i = some x →
      (∃ r ∈ records, r.id = i ∧ f r = x) ∨ m.get? i = some x) ∧
    ((records.foldl (fun m r => m.insert r.id (f r)) m).get? i = none → m.get? i = none ∧ ∀ r ∈ records, r.id ≠ i) := by
  induction records generalizing m with
  | nil => simp
  | cons r l ih =>
    obtain ⟨hsome, hnone⟩ := ih _
    refine ⟨fun x hx => ?_, fun hx => ?_⟩
    · rcases hsome x hx with ⟨s, hs, hi⟩ | hm
      · exact .inl ⟨s, mem_cons_of_mem _ hs, hi⟩
      rw [get?_insert] at hm
      split at hm
      next hi => exact .inl ⟨r, mem_cons_self, hi.symm, Option.some.inj hm⟩
      · exact .inr hm
    · obtain ⟨hm, hl⟩ := hnone hx
      rw [get?_insert] at hm
      split at hm
      · cases hm
      next hne => exact ⟨hm, forall_mem_cons.2 ⟨Ne.symm hne, hl⟩⟩

section

variable [Inhabited M] {i : Incarnation N A} {m : Member M}

lemma member_known (history : OrdMap N (History A)) (ids : List (Incarnation N A)) (r : Record N A M) :
    ((member history ids r).superseded = true ↔ ∃ p : Mark A, known history r.id.nodeId = ↑p ∧ r.id.generationId < p.rank) ∧
      ((member history ids r).conflicting = true ↔ (∃ a b, ⟨r.id.nodeId, r.id.generationId, a⟩ ∈ ids ∧
          ⟨r.id.nodeId, r.id.generationId, b⟩ ∈ ids ∧ a ≠ b) ∨
        ∃ p : Mark A, known history r.id.nodeId = ↑p ∧ p.rank = r.id.generationId ∧ p.value = none) := by
  simp only [member, Bool.or_eq_true, decide_eq_true_eq, one_lt_addresses, known]
  cases history.get? r.id.nodeId with
  | none => simp
  | some h => simp [History.mark]

def Consistent (records : List (Record N A M)) : Prop := ∀ r ∈ records, ∀ s ∈ records, r.id = s.id → r = s

lemma collect_congr (hh : ∀ n, known history n = known history' n) (hperm : records.Perm records')
    (hc : Consistent records) : collect history records = collect history' records' := by
  have hids (i : Incarnation N A) : i ∈ records.map (·.id) ↔ i ∈ records'.map (·.id) := (hperm.map _).mem_iff
  have hmember (r : Record N A M) : member history (records.map (·.id)) r = member history' (records'.map (·.id)) r := by
    obtain ⟨hsup, hconf⟩ := member_known history (records.map (·.id)) r
    obtain ⟨hsup', hconf'⟩ := member_known history' _ r
    simp only [hids, hh] at hsup hconf
    have h1 := Bool.eq_iff_iff.2 (hsup.trans hsup'.symm)
    have h2 := Bool.eq_iff_iff.2 (hconf.trans hconf'.symm)
    rw [Member.mk.injEq]
    exact ⟨rfl, h1, h2, rfl, rfl⟩
  refine ext_get? fun i => ?_
  obtain ⟨hsome, hnone⟩ := get?_collect records _ ∅ i
  obtain ⟨hsome', hnone'⟩ := get?_collect records' _ ∅ i
  cases h : (collect history records).get? i with
  | none =>
    cases h' : (collect history' records').get? i with
    | none => rfl
    | some m' =>
      obtain ⟨r, hr, hi, -⟩ := (hsome' m' h').resolve_right nofun
      exact absurd hi ((hnone h).2 r (hperm.mem_iff.2 hr))
  | some m =>
    obtain ⟨r, hr, hi, rfl⟩ := (hsome m h).resolve_right nofun
    cases h' : (collect history' records').get? i with
    | none => exact absurd hi ((hnone' h').2 r (hperm.mem_iff.1 hr))
    | some m' =>
      obtain ⟨r', hr', hi', rfl⟩ := (hsome' m' h').resolve_right nofun
      obtain rfl := hc r hr r' (hperm.mem_iff.2 hr') (hi.trans hi'.symm)
      rw [hmember]

lemma usable_cases (hm : (collect history records).get? i = some m) (hu : m.isUsable = true) : i ∈ records.map (·.id) ∧
      (∀ p : Mark A, known history i.nodeId = ↑p → p.rank ≤ i.generationId ∧ (p.rank = i.generationId → p.value ≠ none)) ∧
      ∀ a, ⟨i.nodeId, i.generationId, a⟩ ∈ records.map (·.id) → a = i.gossipAdvertiseAddr := by
  obtain ⟨r, hr, rfl, rfl⟩ := ((get?_collect records _ _ _).1 _ hm).resolve_right (by simp)
  have hmem : r.id ∈ records.map (·.id) := mem_map_of_mem hr
  obtain ⟨hsup, hconf⟩ := member_known history _ r
  simp only [Member.isUsable, Bool.and_eq_true, Bool.not_eq_true'] at hu
  rw [← Bool.not_eq_true, ← Bool.not_eq_true, hsup, hconf] at hu
  refine ⟨hmem, fun p hp => ⟨?_, fun hr hv => hu.2 (.inr ⟨p, hp, hr, hv⟩)⟩, fun a ha => ?_⟩
  · exact not_lt.1 fun hlt => hu.1.2 ⟨p, hp, hlt⟩
  · by_contra hne
    exact hu.2 (.inl ⟨a, _, ha, hmem, hne⟩)

variable [DecidableEq M] {v v' : View N A M}

lemma update_history : (v.update records now).1.history = remember v.history (records.map (·.id)) now := by
  simp only [View.update]
  split
  · rfl
  · split <;> rfl

lemma update_cases (v : View N A M) (records : List (Record N A M)) (now : ℕ) :
    ((v.update records now).2 ≠ none ∧ (v.update records now).1.snapshot.members =
      collect (remember v.history (records.map (·.id)) now) records) ∨
    ((v.update records now).2 = none ∧ (v.update records now).1.snapshot = v.snapshot) := by
  have hext {m m' : OrdMap (Incarnation N A) (Member M)} (h : m.entries = m'.entries) : m = m' := by
    cases m
    cases h
    rfl
  simp only [View.update]
  split
  next heq => exact .inl ⟨nofun, hext heq.2.1⟩
  · split
    · exact .inl ⟨nofun, rfl⟩
    · exact .inr ⟨rfl, rfl⟩

lemma update_congr (hs : v.snapshot = v'.snapshot)
    (hh : ∀ n, known (remember v.history (records.map (·.id)) now) n = known (remember v'.history (records'.map (·.id)) now) n)
    (hperm : records.Perm records') (hc : Consistent records) :
    (v.update records now).1.snapshot = (v'.update records' now).1.snapshot := by
  have hhigh : (remember v.history (records.map (·.id)) now).mapValues (fun _ h => h.generation) =
      (remember v'.history (records'.map (·.id)) now).mapValues fun _ h => h.generation := by
    refine ext_get? fun n => ?_
    have hn := hh n
    rw [get?_mapValues, get?_mapValues]
    rw [known, known] at hn
    revert hn
    cases (remember v.history _ now).get? n <;>
      cases (remember v'.history _ now).get? n <;> simp [History.mark]
    exact fun h _ _ => h
  simp only [View.update, hs, hhigh, collect_congr hh hperm hc]
  split
  · rfl
  · split <;> rfl

structure Update (N A M : Type*) where
  now : ℕ
  records : List (Record N A M)

def Update.incarnations {N A M : Type*} (u : Update N A M) : List (Incarnation N A) := u.records.map (·.id)

/-- The generation stays the node's highest, and is not missed for longer than the retention. -/
def Held (n : N) (g : ℕ) : ℕ → List (Update N A M) → Prop
  | _, [] => True
  | last, u :: us => u.now - last ≤ historyRetention ∧ (∀ i ∈ u.incarnations, i.nodeId = n → i.generationId ≤ g) ∧
    Held n g (if ∃ i ∈ u.incarnations, i.nodeId = n ∧ i.generationId = g then u.now else last) us

def View.apply (v : View N A M) (u : Update N A M) : View N A M := (v.update u.records u.now).1

def run (log : List (Update N A M)) : View N A M := log.foldl View.apply View.new

def View.highest (v : View N A M) (n : N) : Option ℕ := (v.history.get? n).map (·.generation)

variable {u w : Update N A M} {us log log' : List (Update N A M)}

lemma known_apply (hpast : Past v.history u.now) (n : N) :
    known (v.apply u).history n = known (retained v.history u.now) n ⊔ sighted n u.incarnations u.now := by
  rw [View.apply, update_history]
  exact known_remember hpast _ n

lemma past_apply (hpast : Past v.history u.now) : Past (v.apply u).history u.now := by
  rw [View.apply, update_history]
  exact past_remember hpast

omit [LinearOrder A] in
lemma Past.mono (hpast : Past history now) (ht : now ≤ t) : Past history t := fun n h hh => (hpast n h hh).trans ht

lemma run_concat (log : List (Update N A M)) (u : Update N A M) : run (log ++ [u]) = (run log).apply u := by
  rw [run, run, foldl_append, foldl_cons, foldl_nil]

lemma past_run (htimes : log.Pairwise fun u u' => u.now ≤ u'.now) (ht : ∀ u ∈ log, u.now ≤ t) :
    Past (run log).history t := by
  induction log using List.reverseRecOn generalizing t with
  | nil => exact fun n h hh => by cases hh
  | append_singleton log u ih =>
    obtain ⟨hlog, -, hlast⟩ := pairwise_append.1 htimes
    rw [run_concat]
    exact (past_apply (ih hlog fun w hw => hlast w hw u (by simp))).mono (ht u (by simp))

lemma held_known {last : ℕ} (hk : known v.history n = ↑p) (hlast : last ≤ p.date) (hheld : Held n p.rank last us)
    (htimes : us.Pairwise fun u u' => u.now ≤ u'.now) (hpast : ∀ u ∈ us, Past v.history u.now) :
    ∃ q : Mark A, known (us.foldl View.apply v).history n = ↑q ∧ q.rank = p.rank ∧ p ≤ q ∧
      ∀ u ∈ us, ∀ a, ⟨n, p.rank, a⟩ ∈ u.incarnations → ∃ t, ⟨p.rank, t, some a⟩ ≤ q := by
  induction us generalizing v p last with
  | nil => exact ⟨p, hk, rfl, le_rfl, by simp⟩
  | cons u us ih =>
    obtain ⟨hnow, hle, hheld⟩ := hheld
    obtain ⟨hfirst, htimes⟩ := pairwise_cons.1 htimes
    have hu := hpast u (by simp)
    have hnext := known_apply hu n
    rw [known_retained hk (by omega)] at hnext
    obtain ⟨q, hq, hpq⟩ := WithBot.coe_le_iff.1 (hnext ▸ le_sup_left : ↑p ≤ known (v.apply u).history n)
    have hseen (a : A) (ha : ⟨n, p.rank, a⟩ ∈ u.incarnations) : ⟨p.rank, u.now, some a⟩ ≤ q :=
      WithBot.coe_le_coe.1 ((mark_le_sighted ha).trans (hq ▸ hnext ▸ le_sup_right))
    have htop : q ≤ ⟨p.rank, max p.date u.now, none⟩ := by
      refine WithBot.coe_le_coe.1 (hq ▸ hnext ▸ sup_le (WithBot.coe_le_coe.2 (Mark.le_iff.2 ?_)) ?_)
      · exact .inr ⟨rfl, le_max_left _ _, .inl rfl⟩
      · exact sighted_le hle (le_max_right _ _)
    have hrank : q.rank = p.rank := by
      rw [Mark.le_iff] at hpq htop
      simp only at htop
      omega
    have hdate : (if ∃ i ∈ u.incarnations, i.nodeId = n ∧ i.generationId = p.rank then u.now else last) ≤ q.date := by
      split
      next hi =>
        obtain ⟨⟨n', g, a⟩, hi, rfl, rfl⟩ := hi
        have hle := Mark.le_iff.1 (hseen a hi)
        simp only [hrank, lt_irrefl, false_or] at hle
        exact hle.2.1
      · rw [Mark.le_iff] at hpq
        omega
    obtain ⟨q', hk', hrank', hqq', hlater⟩ := ih hq hdate (hrank ▸ hheld) htimes
      fun w hw => (past_apply hu).mono (hfirst w hw)
    refine ⟨q', hk', hrank'.trans hrank, hpq.trans hqq', forall_mem_cons.2 ⟨fun a ha => ?_, hrank ▸ hlater⟩⟩
    exact ⟨u.now, (hseen a ha).trans hqq'⟩

lemma run_unique (htimes : log.Pairwise fun u u' => u.now ≤ u'.now) {j : Incarnation N A} {m' : Member M}
    (hi : (run log).snapshot.members.get? i = some m) (hj : (run log).snapshot.members.get? j = some m')
    (hu : m.isUsable = true) (hu' : m'.isUsable = true) (hn : i.nodeId = j.nodeId) : i = j := by
  induction log using List.reverseRecOn with
  | nil => cases hi
  | append_singleton log u ih =>
    obtain ⟨hlog, -, hlast⟩ := pairwise_append.1 htimes
    rw [run_concat, View.apply] at hi hj
    rcases update_cases _ u.records u.now with ⟨-, hm⟩ | ⟨-, hs⟩
    · rw [hm] at hi hj
      obtain ⟨hmem, hh, hsole⟩ := usable_cases hi hu
      obtain ⟨hmem', hh', -⟩ := usable_cases hj hu'
      obtain ⟨n, g, a⟩ := i
      obtain ⟨n', g', b⟩ := j
      obtain rfl : n = n' := hn
      have hknown := known_remember (past_run hlog fun w hw => hlast w hw u (by simp)) (u.records.map (·.id)) n
      obtain ⟨p, hp, hle⟩ := WithBot.coe_le_iff.1 ((mark_le_sighted hmem).trans (hknown ▸ le_sup_right))
      have hle' := WithBot.coe_le_coe.1 ((mark_le_sighted hmem').trans (hp ▸ hknown ▸ le_sup_right))
      have hg := (hh p hp).1
      have hg' := (hh' p hp).1
      rw [Mark.le_iff] at hle hle'
      obtain rfl : g = g' := by
        simp only at hle hle' hg hg'
        omega
      rw [hsole b hmem']
    · rw [hs] at hi hj
      exact ih hlog hi hj

def Reordered (u u' : Update N A M) : Prop := u.now = u'.now ∧ u.records.Perm u'.records ∧ Consistent u.records

lemma run_congr (htimes : log.Pairwise fun u u' => u.now ≤ u'.now) (hlog : List.Forall₂ Reordered log log') :
    (run log).snapshot = (run log').snapshot := by
  have hrun : ∀ v v' : View N A M, v.snapshot = v'.snapshot → (∀ n, known v.history n = known v'.history n) →
      (∀ u ∈ log, Past v.history u.now ∧ Past v'.history u.now) →
      (log.foldl View.apply v).snapshot = (log'.foldl View.apply v').snapshot := by
    induction hlog with
    | nil => exact fun v v' hs _ _ => hs
    | @cons u u' us us' hu hus ih =>
      obtain ⟨hnow, hperm, hc⟩ := hu
      obtain ⟨hfirst, htimes⟩ := pairwise_cons.1 htimes
      intro v v' hs hh hpast
      obtain ⟨hp, hp'⟩ := hpast u (by simp)
      have hids : u.incarnations.toFinset = u'.incarnations.toFinset := toFinset_eq_of_perm _ _ (hperm.map _)
      have hknown (n : N) : known (remember v.history u.incarnations u.now) n =
          known (remember v'.history u'.incarnations u.now) n := by
        rw [known_remember hp, known_remember hp', known_retained_congr (hh n), sighted, sighted, hids]
      refine ih htimes _ _ ?_ (fun n => ?_) fun w hw => ⟨(past_apply hp).mono (hfirst w hw), ?_⟩
      · rw [View.apply, View.apply, ← hnow]
        exact update_congr hs hknown hperm hc
      · rw [View.apply, View.apply, update_history, update_history, ← hnow]
        exact hknown n
      · rw [View.apply, update_history, ← hnow]
        exact (past_remember hp').mono (hfirst w hw)
  exact hrun _ _ rfl (fun n => rfl) fun _ _ => ⟨fun _ _ h => (by cases h), fun _ _ h => (by cases h)⟩

lemma not_usable_of_known (htaken : ((run log).update w.records w.now).2 ≠ none)
    (hi : (run (log ++ [w])).snapshot.members.get? i = some m) (hk : known (run (log ++ [w])).history i.nodeId = ↑p)
    (hlow : i.generationId < p.rank ∨ i.generationId = p.rank ∧ p.value = none) : m.isUsable = false := by
  rw [run_concat, View.apply] at hi hk
  rw [update_history] at hk
  rw [((update_cases _ _ _).resolve_right fun h => htaken h.1).2] at hi
  refine Bool.eq_false_iff.2 fun hu => ?_
  obtain ⟨hle, hvalue⟩ := (usable_cases hi hu).2.1 p hk
  obtain hlt | ⟨heq, hnone⟩ := hlow
  · exact absurd hle hlt.not_ge
  · exact hvalue heq.symm hnone

lemma held_run (htimes : (log ++ u :: us).Pairwise fun u u' => u.now ≤ u'.now)
    (hhigh : known (run (log ++ [u])).history n = ↑p) (hseen : ⟨n, p.rank, a⟩ ∈ u.incarnations)
    (hheld : Held n p.rank u.now us) : ∃ q : Mark A, known (run (log ++ u :: us)).history n = ↑q ∧ q.rank = p.rank ∧
      ∀ w ∈ u :: us, ∀ b, ⟨n, p.rank, b⟩ ∈ w.incarnations → ∃ t, ⟨p.rank, t, some b⟩ ≤ q := by
  obtain ⟨hlog, hrest, hlast⟩ := pairwise_append.1 htimes
  obtain ⟨hfirst, hus⟩ := pairwise_cons.1 hrest
  have hpast : Past (run log).history u.now := past_run hlog fun w hw => hlast w hw u (by simp)
  have hknown := known_apply hpast n
  have hnow (b : A) (hb : ⟨n, p.rank, b⟩ ∈ u.incarnations) : ⟨p.rank, u.now, some b⟩ ≤ p := by
    rw [run_concat] at hhigh
    exact WithBot.coe_le_coe.1 ((mark_le_sighted hb).trans (hhigh ▸ hknown ▸ le_sup_right))
  have hdate := Mark.le_iff.1 (hnow a hseen)
  simp only [lt_irrefl, false_or] at hdate
  obtain ⟨q, hq, hrank, hpq, hlater⟩ := held_known hhigh hdate.2.1 hheld hus fun w hw => by
    rw [run_concat]
    exact (past_apply hpast).mono (hfirst w hw)
  refine ⟨q, ?_, hrank, forall_mem_cons.2 ⟨fun b hb => ⟨u.now, (hnow b hb).trans hpq⟩, hlater⟩⟩
  rw [append_cons, run, foldl_append]
  exact hq

theorem snapshots_fenced (log : List (Update N A M)) (w : Update N A M)
    (htimes : (log ++ [w]).Pairwise fun u u' => u.now ≤ u'.now) :
    -- One usable incarnation for a node.
    (∀ i j m m', (run (log ++ [w])).snapshot.members.get? i = some m →
      (run (log ++ [w])).snapshot.members.get? j = some m' → m.isUsable = true → m'.isUsable = true →
      i.nodeId = j.nodeId → i = j) ∧
    -- While the highest generation is held, none of a lower one, and none of it once it was observed at two addresses.
    (((run log).update w.records w.now).2 ≠ none → ∀ before u after n g a, log ++ [w] = before ++ u :: after →
      (run (before ++ [u])).highest n = some g → ⟨n, g, a⟩ ∈ u.incarnations → Held n g u.now after →
      ∀ i m, (run (log ++ [w])).snapshot.members.get? i = some m → i.nodeId = n →
        (i.generationId < g → m.isUsable = false) ∧
        ∀ b, (∃ u' ∈ u :: after, ⟨n, g, b⟩ ∈ u'.incarnations) → a ≠ b → i.generationId = g → m.isUsable = false) ∧
    -- The order of the records in the updates does not matter.
    ∀ log', List.Forall₂ Reordered (log ++ [w]) log' → (run log').snapshot.members = (run (log ++ [w])).snapshot.members ∧
      (run log').snapshot.highestGenerations = (run (log ++ [w])).snapshot.highestGenerations := by
  refine ⟨fun i j m m' hi hj hu hu' => run_unique htimes hi hj hu hu', fun htaken => ?_, fun log' hlog => ?_⟩
  · rintro before u after n g a hsplit hhigh ha hheld i m hi rfl
    obtain ⟨h, hh, rfl⟩ := Option.map_eq_some_iff.1 hhigh
    have hk : known (run (before ++ [u])).history i.nodeId = ↑h.mark := known_eq_coe.2 ⟨h, hh, rfl⟩
    obtain ⟨q, hq, hrank, hseen⟩ := held_run (hsplit ▸ htimes) hk ha hheld
    rw [← hsplit] at hq
    refine ⟨fun hlt => not_usable_of_known htaken hi hq (.inl (hrank.symm ▸ hlt)), ?_⟩
    rintro b ⟨u', hu', hb⟩ hne hgen
    refine not_usable_of_known htaken hi hq (.inr ⟨hgen.trans hrank.symm, ?_⟩)
    obtain ⟨t, ht⟩ := hseen u (by simp) a ha
    obtain ⟨t', ht'⟩ := hseen u' hu' b hb
    rw [Mark.le_iff] at ht ht'
    simp only [hrank, lt_irrefl, false_or, true_and] at ht ht'
    by_contra hne'
    have hsome := (ht.2.resolve_left hne').symm.trans (ht'.2.resolve_left hne')
    exact hne (Option.some.inj hsome)
  · rw [run_congr htimes hlog]
    exact ⟨rfl, rfl⟩

end

def moves : List (Update ℕ ℕ Unit) :=
  [⟨0, [⟨⟨7, 1, 10⟩, .live, some ()⟩, ⟨⟨7, 2, 20⟩, .live, some ()⟩]⟩, ⟨5, [⟨⟨7, 2, 21⟩, .live, some ()⟩]⟩]

theorem snapshots_fenced_moved : ((run moves).snapshot.members.get? ⟨7, 2, 21⟩).map (·.isUsable) = some false := by
  have hfenced := ((snapshots_fenced [moves.head (by decide)] ⟨5, [⟨⟨7, 2, 21⟩, .live, some ()⟩]⟩ (by simp [moves])).2.1
    (by decide +kernel)) [] (moves.head (by decide)) [⟨5, [⟨⟨7, 2, 21⟩, .live, some ()⟩]⟩] 7 2 20 rfl
    (by decide +kernel) (by simp [moves, Update.incarnations]) ⟨by decide, by simp [Update.incarnations], trivial⟩
  cases hm : (run moves).snapshot.members.get? ⟨7, 2, 21⟩ with
  | none => exact absurd hm (by decide +kernel)
  | some m => exact congrArg some ((hfenced _ m hm rfl).2 21 (by simp [moves, Update.incarnations]) (by decide) rfl)

/-- Of two records of one incarnation the later one counts. -/
theorem order_of_duplicates : ∃ u u' : Update ℕ ℕ Unit, u.now = u'.now ∧ u.records.Perm u'.records ∧
    ((run [u]).snapshot.members.get? ⟨7, 1, 10⟩).map (·.isUsable) = some false ∧
    ((run [u']).snapshot.members.get? ⟨7, 1, 10⟩).map (·.isUsable) = some true :=
  ⟨⟨0, [⟨⟨7, 1, 10⟩, .live, some ()⟩, ⟨⟨7, 1, 10⟩, .suspected, some ()⟩]⟩,
    ⟨0, [⟨⟨7, 1, 10⟩, .suspected, some ()⟩, ⟨⟨7, 1, 10⟩, .live, some ()⟩]⟩, rfl, .swap _ _ _,
    by decide +kernel, by decide +kernel⟩

end Pulsebeam.Membership
