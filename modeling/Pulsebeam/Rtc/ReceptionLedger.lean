import Pulsebeam.Rtc.ReceiveStream

/-! What the receive state reports and asks for, against the packets it accepted. -/

namespace Pulsebeam.Rtc

open Pulsebeam.Lib List Nat SlotRing

structure Nack where
  sequence : ℕ
  time : ℕ
deriving DecidableEq

structure Ledger where
  stream : ReceiveStream
  accepted : List ℕ := []
  nacks : List Nack := []

namespace Ledger

open ReceiveStream

def named (highest wire : ℕ) : ℕ := highest - (((highest : ℤ) - wire) % 2 ^ 16).toNat

def requests (l : Ledger) (now : ℕ) : List Nack :=
  match (l.stream.pollControl now).2 with
  | some (.nack wire) => [⟨named l.stream.highest wire, now⟩]
  | _ => []

def step (l : Ledger) : Reception.Op → Ledger
  | .packet p =>
    { l with
      stream := (l.stream.accept p.sequence p.timestamp p.time p.repair).1
      accepted :=
        if (l.stream.accept p.sequence p.timestamp p.time p.repair).2 then
          l.accepted ++ (l.stream.extend p.sequence).toList
        else l.accepted }
  | .senderReport seconds fraction arrival => { l with stream := l.stream.senderReport seconds fraction arrival }
  | .pollControl now => { l with stream := (l.stream.pollControl now).1, nacks := l.nacks ++ l.requests now }

def machine (clockRate : ℕ) (nack : Bool) : Machine Ledger Reception.Op where
  init l := l = { stream := .new clockRate nack }
  guard _ _ := True
  step := step

def lost (l : Ledger) (base : ℕ) : Finset ℕ := (Finset.Icc base l.stream.highest).filter (· ∉ l.accepted)

def attempts (l : Ledger) (sequence : ℕ) : ℕ := l.nacks.countP (·.sequence = sequence)

/-- The second of two requests for one packet comes an interval after the first, unless the clock ends before. -/
def Apart (a b : Nack) : Prop :=
  a.sequence = b.sequence → a.time + nackInterval ≤ b.time ∨ instantMax < a.time + nackInterval

structure Counted (l : Ledger) : Prop where
  nodup : l.accepted.Nodup
  unset : l.stream.base = none → l.accepted = [] ∧ l.stream.highest = 0
  based : ∀ base, l.stream.base = some base → l.stream.highest ∈ l.accepted ∧
    ∀ a ∈ l.accepted, base ≤ a ∧ a ≤ l.stream.highest
  fits : l.stream.highest < 2 ^ 64
  slot : ∀ a ∈ l.accepted, l.stream.highest < a + reorderWindow → l.stream.seen (SlotRing.index reorderWindow a) = a
  held : ∀ i, l.stream.seen i = Word.max 64 ∨ l.stream.seen i ∈ l.accepted
  received : l.stream.received = min l.accepted.length (Word.max 64)

structure Wanted (l : Ledger) (m : Missing) : Prop where
  absent : m.sequence ∉ l.accepted
  late : ∃ first ∈ l.accepted.head?, first < m.sequence
  early : m.sequence < l.stream.highest
  recent : l.stream.highest < m.sequence + reorderWindow
  tried : m.attempts = l.attempts m.sequence
  few : m.attempts < 5
  waited : ∀ n ∈ l.nacks, n.sequence = m.sequence → n.time + nackInterval ≤ m.next ∨ instantMax < n.time + nackInterval

structure Asking (l : Ledger) : Prop where
  ordered : l.stream.missing.Pairwise (·.sequence < ·.sequence)
  wanted : ∀ m ∈ l.stream.missing, Wanted l m
  past : ∀ n ∈ l.nacks, n.sequence < l.stream.highest
  few : ∀ sequence, l.attempts sequence ≤ 5
  spaced : l.nacks.Pairwise Apart

variable {l : Ledger} {p : Arrival} {e now : ℕ} {s : ReceiveStream} {base sequence highest : ℕ}

section Accept

lemma sequence_lt : p.sequence < 2 ^ 16 := by
  have hcast := Reception.sequence_cast p
  omega

lemma signedSub_emod (a b : ℕ) : Word.signedSub 16 a b % 65536 = ((a : ℤ) - b) % 65536 := Int.bmod_emod

lemma extend_spec (h : s.extend sequence = some e) (hs : sequence < 2 ^ 16) : e % 2 ^ 16 = sequence ∧ e < 2 ^ 64 := by
  unfold extend at h
  split at h
  · have hmod := signedSub_emod sequence (s.highest % 2 ^ 16)
    rw [checkedAddSigned] at h
    split at h
    next hr =>
      cases h
      omega
    · cases h
  · cases h
    omega

lemma index_of_mod (hmod : e % 2 ^ 16 = p.sequence) :
    SlotRing.index reorderWindow p.sequence = SlotRing.index reorderWindow e := by
  rw [index_eq_iff, ← hmod]
  exact mod_mod_of_dvd e (by decide : reorderWindow ∣ 2 ^ 16)

lemma step_of_new (he : l.stream.extend p.sequence = some e) (hwin : l.stream.highest < e + reorderWindow)
    (hseen : l.stream.seen (SlotRing.index reorderWindow e) ≠ e) :
    l.step (.packet p) =
      { l with stream := l.stream.record p.sequence e p.timestamp p.time p.repair, accepted := l.accepted ++ [e] } := by
  rw [← index_of_mod (extend_spec he (sequence_lt)).1] at hseen
  have hw : 0 < reorderWindow := by decide
  have hrecorded : l.stream.accept p.sequence p.timestamp p.time p.repair =
      (l.stream.record p.sequence e p.timestamp p.time p.repair, true) := by
    rw [accept, he]
    simp only [if_neg (show ¬ reorderWindow ≤ l.stream.highest - e by omega), if_neg hseen]
  simp [step, hrecorded, he]

lemma step_packet : l.step (.packet p) = l ∨ ∃ e, e % 2 ^ 16 = p.sequence ∧ e < 2 ^ 64 ∧
    l.stream.highest < e + reorderWindow ∧ l.stream.seen (SlotRing.index reorderWindow e) ≠ e ∧
    l.step (.packet p) =
      { l with stream := l.stream.record p.sequence e p.timestamp p.time p.repair, accepted := l.accepted ++ [e] } := by
  cases he : l.stream.extend p.sequence with
  | none =>
    have hrefused : l.stream.accept p.sequence p.timestamp p.time p.repair = (l.stream, false) := by
      rw [accept, he]
    simp [step, hrefused]
  | some e =>
    obtain ⟨hmod, hlt⟩ := extend_spec he (sequence_lt)
    by_cases hwin : reorderWindow ≤ l.stream.highest - e
    · simp [step, accept, he, if_pos hwin]
    by_cases hseen : l.stream.seen (SlotRing.index reorderWindow e) = e
    · rw [← index_of_mod hmod] at hseen
      simp [step, accept, he, if_pos hseen]
    · exact .inr ⟨e, hmod, hlt, by omega, hseen, step_of_new he (by omega) hseen⟩

lemma Counted.new_of_seen (h : Counted l) (hwin : l.stream.highest < e + reorderWindow)
    (hseen : l.stream.seen (SlotRing.index reorderWindow e) ≠ e) : e ∉ l.accepted :=
  fun hmem => hseen (h.slot e hmem hwin)

lemma Counted.le_highest (h : Counted l) {a : ℕ} (ha : a ∈ l.accepted) : a ≤ l.stream.highest := by
  cases hbase : l.stream.base with
  | none =>
    rw [(h.unset hbase).1] at ha
    cases ha
  | some base => exact ((h.based base hbase).2 a ha).2

lemma Counted.record (h : Counted l) (hmod : e % 2 ^ 16 = p.sequence) (hlt : e < 2 ^ 64)
    (hwin : l.stream.highest < e + reorderWindow) (hseen : l.stream.seen (SlotRing.index reorderWindow e) ≠ e) :
    Counted { l with
      stream := l.stream.record p.sequence e p.timestamp p.time p.repair
      accepted := l.accepted ++ [e] } := by
  have hnew := h.new_of_seen hwin hseen
  have hslots : (l.stream.record p.sequence e p.timestamp p.time p.repair).seen =
      Function.update l.stream.seen (SlotRing.index reorderWindow e) e := by
    rw [← index_of_mod hmod]
    rfl
  have hhighest : (l.stream.record p.sequence e p.timestamp p.time p.repair).highest = max l.stream.highest e := rfl
  have hfits := h.fits
  refine ⟨?_, fun hnone => ?_, fun base hbase => ⟨?_, fun a ha => ?_⟩, ?_, fun a ha hin => ?_, fun i => ?_, ?_⟩
  · exact h.nodup.append (nodup_singleton e) (by simpa using hnew)
  · cases hnone
  · rw [hhighest, mem_append, mem_singleton]
    rcases le_total l.stream.highest e with hle | hle
    · exact .inr (max_eq_right hle)
    rw [max_eq_left hle]
    cases hold : l.stream.base with
    | none =>
      have hzero := (h.unset hold).2
      exact .inr (by omega)
    | some old => exact .inl (h.based old hold).1
  · rw [hhighest]
    cases hold : l.stream.base with
    | none =>
      have hle := hbase.symm.trans (congrArg (fun b => some ((Option.map _ b).getD e)) hold)
      have heq : base = e := by simpa using hle
      rw [(h.unset hold).1, nil_append, mem_singleton] at ha
      omega
    | some old =>
      have hle := hbase.symm.trans (congrArg (fun b => some ((Option.map _ b).getD e)) hold)
      have heq : base = min old e := by simpa using hle
      rcases mem_append.1 ha with ha | ha
      · have := (h.based old hold).2 a ha
        omega
      · rw [mem_singleton] at ha
        omega
  · rw [hhighest]
    omega
  · rw [hhighest] at hin
    rw [hslots]
    rcases mem_append.1 ha with ha | ha
    · have hle := h.le_highest ha
      have hne : a ≠ e := fun heq => hnew (heq ▸ ha)
      have hindex : SlotRing.index reorderWindow a ≠ SlotRing.index reorderWindow e := by
        rcases lt_or_gt_of_ne hne with hae | hae
        · exact index_ne hae (by omega)
        · exact (index_ne hae (by omega)).symm
      rw [Function.update_of_ne hindex]
      exact h.slot a ha (by omega)
    · rw [mem_singleton.1 ha, Function.update_self]
  · rw [hslots]
    by_cases hi : i = SlotRing.index reorderWindow e
    · rw [hi]
      exact .inr (by simp)
    rw [Function.update_of_ne hi]
    rcases h.held i with hfree | hmem
    · exact .inl hfree
    · exact .inr (mem_append_left _ hmem)
  · have hreceived : (l.stream.record p.sequence e p.timestamp p.time p.repair).received = min _ _ := rfl
    rw [hreceived, h.received, length_append, length_singleton]
    generalize Word.max 64 = top
    omega

lemma card_lost (h : Counted l) (hbase : l.stream.base = some base) :
    (l.lost base).card + l.accepted.length = l.stream.highest - base + 1 := by
  obtain ⟨htop, hrange⟩ := h.based base hbase
  have hsub : l.accepted.toFinset ⊆ Finset.Icc base l.stream.highest := by
    intro a ha
    exact Finset.mem_Icc.2 (hrange a (mem_toFinset.1 ha))
  have heq : l.lost base = Finset.Icc base l.stream.highest \ l.accepted.toFinset := by
    ext a
    simp [lost]
  have hle := (hrange _ htop).1
  rw [heq, ← toFinset_card_of_nodup h.nodup, Finset.card_sdiff_add_card_eq_card hsub, card_Icc]
  omega

lemma foldl_pushMissing (f : ℕ → Missing) (sequences : List ℕ) (missing : List Missing)
    (h : missing.length + sequences.length ≤ reorderWindow) :
    sequences.foldl (fun l sequence => pushMissing l (f sequence)) missing = missing ++ sequences.map f := by
  induction sequences generalizing missing with
  | nil => simp
  | cons sequence rest ih =>
    rw [length_cons] at h
    have hroom : pushMissing missing (f sequence) = missing ++ [f sequence] := by
      rw [pushMissing, if_neg (by omega)]
    rw [foldl_cons, hroom, ih _ (by simp only [length_append, length_singleton]; omega)]
    simp

lemma length_le_of_ordered {missing : List Missing} (lo hi : ℕ) (h : missing.Pairwise (·.sequence < ·.sequence))
    (hrange : ∀ m ∈ missing, lo ≤ m.sequence ∧ m.sequence < hi) : missing.length ≤ hi - lo := by
  have hnodup : (missing.map (·.sequence)).Nodup := (pairwise_map.2 h).imp fun hlt => hlt.ne
  have hsub : (missing.map (·.sequence)).toFinset ⊆ Finset.Ico lo hi := by
    intro a ha
    obtain ⟨m, hm, rfl⟩ := mem_map.1 (mem_toFinset.1 ha)
    exact Finset.mem_Ico.2 (hrange m hm)
  have hcard := Finset.card_le_card hsub
  rwa [toFinset_card_of_nodup hnodup, length_map, card_Ico] at hcard

lemma Asking.missingAfter (h : Asking l) (hlt : e < 2 ^ 64) (arrival : ℕ) :
    (l.stream.missingAfter e arrival).Pairwise (·.sequence < ·.sequence) ∧
    ∀ m ∈ l.stream.missingAfter e arrival, m ∈ l.stream.missing ∧ m.sequence ≠ e ∧ e < m.sequence + reorderWindow ∨
      l.stream.base.isSome ∧ l.stream.highest < m.sequence ∧ m.sequence < e ∧ e < m.sequence + reorderWindow ∧
        m.attempts = 0 := by
  unfold ReceiveStream.missingAfter
  set kept := l.stream.missing.filter fun m => m.sequence ≠ e ∧ e - m.sequence < reorderWindow with hkept
  have hold : kept.Pairwise (·.sequence < ·.sequence) := h.ordered.filter _
  have hmem : ∀ m ∈ kept, m ∈ l.stream.missing ∧ m.sequence ≠ e ∧ e < m.sequence + reorderWindow := by
    intro m hm
    obtain ⟨hin, hcond⟩ := mem_filter.1 hm
    obtain ⟨hne, hnear⟩ := of_decide_eq_true hcond
    exact ⟨hin, hne, by omega⟩
  split
  next hskip =>
    obtain ⟨hbase, hgt, -⟩ := hskip
    have hnext : Word.saturatingAdd 64 l.stream.highest 1 = l.stream.highest + 1 := min_eq_left (by
      have hmax : Word.max 64 = 2 ^ 64 - 1 := rfl
      omega)
    rw [hnext]
    set first := max (l.stream.highest + 1) _ with hfirst
    have hroom : kept.length ≤ l.stream.highest - (e - (reorderWindow - 1)) := by
      refine length_le_of_ordered _ _ hold fun m hm => ?_
      obtain ⟨hin, -, hnear⟩ := hmem m hm
      have := (h.wanted m hin).early
      omega
    rw [foldl_pushMissing _ _ _ (by rw [length_range']; omega)]
    have hfresh : ∀ m ∈ (List.range' first (e - first)).map fun s => (⟨s, later arrival nackDelay, 0⟩ : Missing),
        l.stream.highest < m.sequence ∧ m.sequence < e ∧ e < m.sequence + reorderWindow ∧ m.attempts = 0 := by
      intro m hm
      obtain ⟨s, hs, rfl⟩ := mem_map.1 hm
      rw [mem_range'_1] at hs
      exact ⟨by dsimp only; omega, by dsimp only; omega, by dsimp only; omega, rfl⟩
    refine ⟨pairwise_append.2 ⟨hold, ?_, fun a ha b hb => ?_⟩, fun m hm => ?_⟩
    · exact pairwise_map.2 pairwise_lt_range'
    · exact lt_trans (h.wanted a (hmem a ha).1).early (hfresh b hb).1
    · rcases mem_append.1 hm with hm | hm
      · exact .inl (hmem m hm)
      · exact .inr ⟨hbase, hfresh m hm⟩
  · exact ⟨hold, fun m hm => .inl (hmem m hm)⟩

lemma Counted.exists_first (h : Counted l) (hbase : l.stream.base.isSome) :
    ∃ first ∈ l.accepted.head?, first ≤ l.stream.highest := by
  obtain ⟨base, hb⟩ := Option.isSome_iff_exists.1 hbase
  cases hacc : l.accepted with
  | nil =>
    have hmem := (h.based base hb).1
    rw [hacc] at hmem
    cases hmem
  | cons first rest => exact ⟨first, rfl, h.le_highest (hacc ▸ mem_cons_self)⟩

lemma mem_head?_append {first : ℕ} (h : first ∈ l.accepted.head?) : first ∈ (l.accepted ++ [e]).head? := by
  cases hacc : l.accepted with
  | nil =>
    rw [hacc] at h
    cases h
  | cons a rest =>
    rw [hacc] at h
    exact h

lemma Asking.record (h : Asking l) (hc : Counted l) (hlt : e < 2 ^ 64) :
    Asking { l with
      stream := l.stream.record p.sequence e p.timestamp p.time p.repair
      accepted := l.accepted ++ [e] } := by
  obtain ⟨hordered, hmem⟩ := h.missingAfter hlt p.time
  refine ⟨hordered, fun m hm => ?_, fun n hn => ?_, h.few, h.spaced⟩
  · rcases hmem m hm with ⟨hin, hne, hnear⟩ | ⟨hbase, hgt, hlt', hnear, hzero⟩
    · obtain ⟨habsent, ⟨first, hfirst, hlate⟩, hearly, hrecent, htried, hfew, hwaited⟩ := h.wanted m hin
      refine ⟨?_, ⟨first, mem_head?_append hfirst, hlate⟩, ?_, ?_, htried, hfew, hwaited⟩
      · simp [habsent, hne]
      · exact lt_of_lt_of_le hearly (le_max_left _ _)
      · exact max_lt hrecent hnear
    · obtain ⟨first, hfirst, hle⟩ := hc.exists_first hbase
      have hnever : ∀ n ∈ l.nacks, n.sequence ≠ m.sequence := fun n hn => by
        have := h.past n hn
        omega
      refine ⟨?_, ⟨first, mem_head?_append hfirst, by omega⟩, ?_, ?_, ?_, by omega,
        fun n hn heq => absurd heq (hnever n hn)⟩
      · have habsent : m.sequence ∉ l.accepted := fun ha => absurd (hc.le_highest ha) (by omega)
        simp [habsent, hlt'.ne]
      · exact lt_of_lt_of_le hlt' (le_max_right _ _)
      · exact max_lt (by omega) hnear
      · rw [hzero, eq_comm]
        exact countP_eq_zero.2 fun n hn => by simpa using hnever n hn
  · exact lt_of_lt_of_le (h.past n hn) (le_max_left _ _)

end Accept

section Poll

lemma pollControl_cases (s : ReceiveStream) (now : ℕ) :
    (∃ before m after, s.missing = before ++ m :: after ∧ m.next ≤ now ∧ s.pollControl now =
      ({ s with missing := before ++ (retry now m).toList ++ after }, some (.nack (m.sequence % 2 ^ 16)))) ∨
    (s.pollControl now).1.missing = s.missing ∧ ∀ wire, (s.pollControl now).2 ≠ some (.nack wire) := by
  cases hfind : s.missing.findIdx? (·.next ≤ now) with
  | some i =>
    obtain ⟨hi, hdue, -⟩ := findIdx?_eq_some_iff_getElem.1 hfind
    refine .inl ⟨s.missing.take i, s.missing[i], s.missing.drop (i + 1), ?_, by simpa using hdue, ?_⟩
    · rw [← drop_eq_getElem_cons hi, take_append_drop]
    · simp only [pollControl, hfind, getElem?_eq_getElem hi]
  | none =>
    refine .inr ?_
    simp only [pollControl, hfind]
    split
    · exact ⟨rfl, nofun⟩
    split
    · exact ⟨rfl, nofun⟩
    · exact ⟨rfl, nofun⟩

lemma pollControl_received : (s.pollControl now).1.received = s.received := by
  rcases pollControl_cases s now with ⟨before, m, after, -, -, heq⟩ | -
  · rw [heq]
  unfold pollControl
  split
  · split <;> rfl
  split
  · rfl
  · split <;> rfl

lemma Counted.of_stream (h : Counted l) {nacks : List Nack} (hbase : s.base = l.stream.base)
    (hhighest : s.highest = l.stream.highest) (hseen : s.seen = l.stream.seen)
    (hreceived : s.received = l.stream.received) : Counted ⟨s, l.accepted, nacks⟩ := by
  obtain ⟨hnodup, hunset, hbased, hfits, hslot, hheld, hcount⟩ := h
  constructor <;> simp only [hbase, hhighest, hseen, hreceived]
  all_goals assumption

lemma named_eq (hlt : sequence < highest) (hnear : highest < sequence + reorderWindow) :
    named highest (sequence % 2 ^ 16) = sequence := by
  have hw : reorderWindow = 256 := rfl
  unfold named
  omega

lemma attempts_append (l : Ledger) (n : Nack) (sequence : ℕ) :
    attempts { l with nacks := l.nacks ++ [n] } sequence =
      l.attempts sequence + if n.sequence = sequence then 1 else 0 := by
  simp [attempts]

lemma le_later {duration : ℕ} : now ≤ later now duration := by
  unfold later
  split <;> omega

lemma later_or {duration : ℕ} : now + duration ≤ later now duration ∨ instantMax < now + duration := by
  unfold later
  split <;> omega

lemma retry_cases {m k : Missing} (h : k ∈ (retry now m).toList) :
    m.attempts + 1 < 5 ∧ k = ⟨m.sequence, later now nackInterval, m.attempts + 1⟩ := by
  have hmax : Word.max 8 = 255 := rfl
  rw [Option.mem_toList] at h
  unfold retry at h
  split at h
  · cases h
  next hlt =>
    have hmin : min (m.attempts + 1) (Word.max 8) = m.attempts + 1 := by omega
    rw [hmin] at h hlt
    cases h
    exact ⟨by omega, rfl⟩

lemma Asking.request {before after : List Missing} {m : Missing} (h : Asking l)
    (hmissing : l.stream.missing = before ++ m :: after) (hdue : m.next ≤ now) :
    Asking { l with
      stream := { l.stream with missing := before ++ (retry now m).toList ++ after }
      nacks := l.nacks ++ [⟨m.sequence, now⟩] } := by
  have hm := h.wanted m (by simp [hmissing])
  have hordered := h.ordered
  rw [hmissing, pairwise_append, pairwise_cons] at hordered
  obtain ⟨hbefore, ⟨hmafter, hafter⟩, hcross⟩ := hordered
  have hretry : ∀ k ∈ (retry now m).toList, k.sequence = m.sequence := fun k hk => by rw [(retry_cases hk).2]
  have hwait : ∀ n ∈ l.nacks, n.sequence = m.sequence →
      n.time + nackInterval ≤ now ∨ instantMax < n.time + nackInterval := fun n hn heq =>
    (hm.waited n hn heq).imp_left fun hle => hle.trans hdue
  have hother : ∀ k ∈ l.stream.missing, k.sequence ≠ m.sequence →
      Wanted { l with
        stream := { l.stream with missing := before ++ (retry now m).toList ++ after }
        nacks := l.nacks ++ [⟨m.sequence, now⟩] } k := by
    intro k hk hne
    obtain ⟨habsent, hlate, hearly, hrecent, htried, hfew, hwaited⟩ := h.wanted k hk
    refine ⟨habsent, hlate, hearly, hrecent, ?_, hfew, fun n hn heq => ?_⟩
    · have hcount := attempts_append l ⟨m.sequence, now⟩ k.sequence
      rw [if_neg hne.symm, ← htried] at hcount
      exact hcount.symm
    · rcases mem_append.1 hn with hn | hn
      · exact hwaited n hn heq
      · rw [mem_singleton.1 hn] at heq
        exact absurd heq hne.symm
  refine ⟨?_, fun k hk => ?_, fun n hn => ?_, fun sequence => ?_, ?_⟩
  · rw [append_assoc, pairwise_append, pairwise_append]
    refine ⟨hbefore, ⟨?_, hafter, fun k hk a ha => ?_⟩, fun b hb k hk => ?_⟩
    · cases retry now m with
      | none => exact List.Pairwise.nil
      | some k => exact pairwise_singleton _ _
    · rw [hretry k hk]
      exact hmafter a ha
    · rcases mem_append.1 hk with hk | hk
      · rw [hretry k hk]
        exact hcross b hb m mem_cons_self
      · exact hcross b hb k (mem_cons_of_mem _ hk)
  · rcases mem_append.1 hk with hk | hk
    · rcases mem_append.1 hk with hk | hk
      · exact hother k (by simp [hmissing, hk]) (hcross k hk m mem_cons_self).ne
      obtain ⟨hfew, rfl⟩ := retry_cases hk
      refine { hm with tried := ?_, few := hfew, waited := fun n hn heq => ?_ }
      · have hcount := attempts_append l ⟨m.sequence, now⟩ m.sequence
        rw [if_pos rfl, ← hm.tried] at hcount
        exact hcount.symm
      · dsimp only
        rcases mem_append.1 hn with hn | hn
        · exact (hwait n hn heq).imp_left fun hle => hle.trans (le_later)
        · rw [mem_singleton.1 hn]
          exact later_or
    · exact hother k (by simp [hmissing, hk]) (hmafter k hk).ne'
  · rcases mem_append.1 hn with hn | hn
    · exact h.past n hn
    · rw [mem_singleton.1 hn]
      exact hm.early
  · have hcount := attempts_append l ⟨m.sequence, now⟩ sequence
    have hfew := h.few sequence
    have htried := hm.tried
    have hmfew := hm.few
    refine le_of_eq_of_le hcount ?_
    split
    next heq =>
      dsimp only at heq
      rw [heq] at htried
      omega
    · exact hfew
  · refine pairwise_append.2 ⟨h.spaced, pairwise_singleton _ _, fun n hn b hb => ?_⟩
    rw [mem_singleton.1 hb]
    exact hwait n hn

lemma Asking.of_stream (h : Asking l) (hhighest : s.highest = l.stream.highest)
    (hmissing : s.missing = l.stream.missing) : Asking { l with stream := s } := by
  obtain ⟨hordered, hwanted, hpast, hfew, hspaced⟩ := h
  refine ⟨hmissing ▸ hordered, fun m hm => ?_, fun n hn => hhighest ▸ hpast n hn, hfew, hspaced⟩
  obtain ⟨habsent, hlate, hearly, hrecent, htried, hfew, hwaited⟩ := hwanted m (hmissing ▸ hm)
  exact ⟨habsent, hlate, hhighest ▸ hearly, hhighest ▸ hrecent, htried, hfew, hwaited⟩

lemma requests_cases (h : Asking l) :
    (∃ before m after, l.stream.missing = before ++ m :: after ∧ m.next ≤ now ∧ l.requests now = [⟨m.sequence, now⟩] ∧
      (l.stream.pollControl now).1 = { l.stream with missing := before ++ (retry now m).toList ++ after }) ∨
    (l.stream.pollControl now).1.missing = l.stream.missing ∧ l.requests now = [] := by
  rcases pollControl_cases l.stream now with ⟨before, m, after, hmissing, hdue, heq⟩ | ⟨hsame, hnone⟩
  · have hm := h.wanted m (by simp [hmissing])
    refine .inl ⟨before, m, after, hmissing, hdue, ?_, by rw [heq]⟩
    simp only [requests, heq, named_eq hm.early hm.recent]
  refine .inr ⟨hsame, ?_⟩
  unfold requests
  split
  next wire heq => exact absurd heq (hnone wire)
  · rfl

end Poll

section Run

variable {clockRate : ℕ} {nack : Bool}

lemma sound (h : (machine clockRate nack).Reachable l) : Counted l ∧ Asking l := by
  refine h.invariant (I := fun l => Counted l ∧ Asking l) ?_ ?_
  · rintro _ rfl
    refine ⟨⟨nodup_nil, fun _ => ⟨rfl, rfl⟩, nofun, Nat.two_pow_pos 64, nofun,
      fun _ => .inl rfl, (Nat.zero_min _).symm⟩, ⟨List.Pairwise.nil, nofun, nofun,
      fun _ => Nat.zero_le 5, List.Pairwise.nil⟩⟩
  · rintro l op ⟨hc, ha⟩ -
    change Counted (l.step op) ∧ Asking (l.step op)
    cases op with
    | packet p =>
      rcases step_packet with hsame | ⟨e, hmod, hlt, hwin, hseen, heq⟩
      · rw [hsame]
        exact ⟨hc, ha⟩
      · rw [heq]
        exact ⟨hc.record hmod hlt hwin hseen, ha.record hc hlt⟩
    | senderReport seconds fraction arrival =>
      exact ⟨hc.of_stream rfl rfl rfl rfl, ha.of_stream rfl rfl⟩
    | pollControl now =>
      obtain ⟨hbase, hhighest, hseen⟩ := Reception.pollControl_keeps l.stream now
      refine ⟨hc.of_stream hbase hhighest hseen (pollControl_received), ?_⟩
      rcases requests_cases ha with ⟨before, m, after, hmissing, hdue, hreq, hstream⟩ | ⟨hsame, hreq⟩
      · have hstep := ha.request hmissing hdue
        rw [← hstream, ← hreq] at hstep
        exact hstep
      have hstep := ha.of_stream hhighest hsame
      rw [step, hreq, append_nil]
      exact hstep

lemma received_le (h : Counted l) (hbase : l.stream.base = some base) :
    l.stream.received ≤ l.stream.highest - base + 1 := by
  have hcard := card_lost h hbase
  rw [h.received]
  exact le_trans (min_le_left _ _) (by omega)

lemma pollControl_report {fraction total jitter lastSr delay : ℕ}
    (h : (s.pollControl now).2 = some (.report fraction total highest jitter lastSr delay)) :
    ∃ base, s.base = some base ∧ total = min (Word.saturatingAdd 64 (s.highest - base) 1 - s.received) 0x7fffff := by
  unfold pollControl at h
  split at h
  · split at h
    · cases h
    · cases h
  · split at h
    · cases h
    · split at h
      · cases h
      next base hbase =>
        simp only [Option.some.injEq, Control.report.injEq] at h
        exact ⟨base, hbase, h.2.1.symm⟩

lemma report_exact (h : Counted l) (hbase : l.stream.base = some base) (hspan : l.stream.highest - base + 1 < 2 ^ 64) :
    Word.saturatingAdd 64 (l.stream.highest - base) 1 - l.stream.received = (l.lost base).card := by
  have hmax : Word.max 64 = 2 ^ 64 - 1 := rfl
  have hcard := card_lost h hbase
  have hexpected : Word.saturatingAdd 64 _ 1 = l.stream.highest - base + 1 := min_eq_left (by omega)
  have hreceived : l.stream.received = l.accepted.length := by
    rw [h.received]
    exact min_eq_left (by omega)
  omega

lemma Asking.length_le (h : Asking l) : l.stream.missing.length ≤ 256 := by
  have hw : reorderWindow = 256 := rfl
  have hle := length_le_of_ordered (l.stream.highest - 255) l.stream.highest h.ordered fun m hm => by
    have hearly := (h.wanted m hm).early
    have hrecent := (h.wanted m hm).recent
    omega
  omega

/-- The reports count what was lost as long as the numbers in between fit a word, and packets are asked for at most five
times, an interval apart as long as the clock does not end, and only while they are missing. -/
theorem ledger_balances (h : (machine clockRate nack).Reachable l) :
    (∀ base, l.stream.base = some base → l.stream.received ≤ l.stream.highest - base + 1) ∧
    (∀ now fraction total highest jitter lastSr delay,
      (l.stream.pollControl now).2 = some (.report fraction total highest jitter lastSr delay) →
      ∃ base, l.stream.base = some base ∧
        (l.stream.highest - base + 1 < 2 ^ 64 → total = min 0x7fffff (l.lost base).card)) ∧
    (∀ now, ∀ n ∈ l.requests now, n.sequence ∉ l.accepted ∧ (∃ first ∈ l.accepted.head?, first < n.sequence) ∧
      n.sequence < l.stream.highest) ∧
    (∀ sequence, l.attempts sequence ≤ 5) ∧ l.nacks.Pairwise Apart ∧
    l.stream.missing.length ≤ 256 ∧ l.stream.missing.Pairwise (·.sequence < ·.sequence) := by
  obtain ⟨hc, ha⟩ := sound h
  refine ⟨fun base hbase => received_le hc hbase, fun now fraction total highest jitter lastSr delay hreport => ?_,
    fun now n hn => ?_, ha.few, ha.spaced, ha.length_le, ha.ordered⟩
  · obtain ⟨base, hbase, htotal⟩ := pollControl_report hreport
    refine ⟨base, hbase, fun hspan => ?_⟩
    rw [htotal, report_exact hc hbase hspan, min_comm]
  rcases requests_cases ha with ⟨before, m, after, hmissing, -, hreq, -⟩ | ⟨-, hreq⟩
  · have hm := ha.wanted m (by simp [hmissing])
    rw [hreq, mem_singleton] at hn
    rw [hn]
    exact ⟨hm.absent, hm.late, hm.early⟩
  · rw [hreq] at hn
    cases hn

def skipped (polls : List ℕ) : Ledger :=
  (.packet ⟨0, 0, 0, false⟩ :: .packet ⟨2, 0, 0, false⟩ :: polls.map .pollControl).foldl step { stream := .new 90000 true }

lemma reachable_skipped (polls : List ℕ) : (machine 90000 true).Reachable (skipped polls) :=
  Machine.Reachable.run (.init rfl) (Machine.admits_of_forall (fun _ _ => trivial) _ _)

theorem ledger_balances_skipped : (machine 90000 true).Reachable (skipped [nackDelay]) ∧
    (skipped [nackDelay]).attempts 1 = 1 ∧ ∀ sequence, (skipped [nackDelay]).attempts sequence ≤ 5 :=
  ⟨reachable_skipped _, by decide +kernel, (ledger_balances (reachable_skipped _)).2.2.2.1⟩

theorem nack_repeats_as_clock_ends : ∃ l, (machine 90000 true).Reachable l ∧
    l.nacks = [⟨1, instantMax⟩, ⟨1, instantMax⟩] :=
  ⟨_, reachable_skipped [instantMax, instantMax], by decide +kernel⟩

end Run

section Overflow

structure Following (numbers : List ℕ) (top : ℕ) (l : Ledger) : Prop where
  reachable : (machine 90000 false).Reachable l
  base : l.stream.base = some 0
  highest : l.stream.highest = top
  accepted : l.accepted = numbers
  silent : l.stream.nack = false
  missing : l.stream.missing = []
  report : l.stream.nextReport = some (later 0 reportInterval)

variable {numbers : List ℕ} {top k : ℕ}

lemma Following.extend (h : Following numbers top l) (hk : top < k) (hnear : k ≤ top + 1000) (hlt : k < 2 ^ 64) :
    l.stream.extend (Arrival.sequence ⟨k, 0, 0, false⟩) = some k := by
  have hseq := Reception.sequence_cast ⟨k, 0, 0, false⟩
  have hdelta : Word.signedSub 16 (Arrival.sequence ⟨k, 0, 0, false⟩) (top % 2 ^ 16) = (k : ℤ) - top := by
    apply Word.signedSub_eq
    · rw [hseq]
      exact Int.mod_modEq _ _
    · push_cast
      exact Int.mod_modEq _ _
    · omega
    · omega
  rw [ReceiveStream.extend, h.base, Option.isSome_some, if_pos rfl, h.highest, hdelta, checkedAddSigned,
    if_pos (by omega)]
  congr 1
  omega

lemma Following.take (h : Following numbers top l) (hk : top < k) (hnear : k ≤ top + 200) (hlt : k < 2 ^ 64)
    (hfree : k ≠ Word.max 64 ∨ ∃ j ∈ numbers, k = j + reorderWindow) :
    Following (numbers ++ [k]) k (l.step (.packet ⟨k, 0, 0, false⟩)) := by
  have hw : reorderWindow = 256 := rfl
  have hext := h.extend hk (by omega) hlt
  have hc := (sound h.reachable).1
  have hhighest := h.highest
  have hseen : l.stream.seen (SlotRing.index reorderWindow k) ≠ k := by
    intro hseen
    rcases hfree with hne | hmem
    · rcases hc.held _ with hmax | hin
      · exact hne (hseen.symm.trans hmax)
      · have := hc.le_highest hin
        omega
    · obtain ⟨j, hj, rfl⟩ := hmem
      have hslot := hc.slot j (h.accepted ▸ hj) (by omega)
      have hindex : SlotRing.index reorderWindow _ = SlotRing.index reorderWindow j :=
        index_eq_iff.2 (add_mod_right j reorderWindow)
      rw [hindex] at hseen
      omega
  have hstep := step_of_new hext (by omega) hseen
  refine ⟨.step (Reception.Op.packet ⟨k, 0, 0, false⟩) h.reachable trivial, ?_, ?_, ?_, ?_, ?_, ?_⟩
  · rw [hstep]
    simp [ReceiveStream.record, h.base]
  · rw [hstep]
    simp only [ReceiveStream.record]
    omega
  · rw [hstep]
    simp only [h.accepted]
  · rw [hstep]
    exact h.silent
  · rw [hstep]
    simp [ReceiveStream.record, ReceiveStream.missingAfter, h.missing, h.silent]
  · rw [hstep]
    simp [ReceiveStream.record, h.report]

lemma exists_following (n : ℕ) (hn : n < 2 ^ 64 - 1) : ∃ l, Following (List.range (n + 1)) n l := by
  have hmax : Word.max 64 = 2 ^ 64 - 1 := rfl
  induction n with
  | zero =>
    exact ⟨step { stream := .new 90000 false } (.packet ⟨0, 0, 0, false⟩),
      .step (M := machine 90000 false) (.packet ⟨0, 0, 0, false⟩) (.init rfl) trivial, rfl, rfl, rfl, rfl, rfl, rfl⟩
  | succ n ih =>
    obtain ⟨l, hl⟩ := ih (by omega)
    have hnext := hl.take (k := n + 1) (by omega) (by omega) (by omega) (.inl (by omega))
    rw [← range_succ] at hnext
    exact ⟨_, hnext⟩

/-- With all numbers of a word but one accepted, the report counts none as lost. -/
theorem report_misses_one : ∃ l now fraction highest jitter lastSr delay, (machine 90000 false).Reachable l ∧
    l.stream.base = some 0 ∧
    (l.stream.pollControl now).2 = some (.report fraction 0 highest jitter lastSr delay) ∧
    0 ≠ min 0x7fffff (l.lost 0).card := by
  have hmax : Word.max 64 = 2 ^ 64 - 1 := rfl
  obtain ⟨l, hl⟩ := exists_following (2 ^ 64 - 3) (by omega)
  have hlast := hl.take (k := 2 ^ 64 - 1) (by omega) (by omega) (by omega)
    (.inr ⟨2 ^ 64 - 257, mem_range.2 (by omega), by rw [reorderWindow]; omega⟩)
  generalize l.step _ = l' at hlast
  have hc := (sound hlast.reachable).1
  have hcard := card_lost hc hlast.base
  have hreceived := hc.received
  rw [hlast.accepted, length_append, length_range, length_singleton] at hcard hreceived
  rw [hlast.highest] at hcard
  have hreport : ∃ fraction highest jitter lastSr delay, (l'.stream.pollControl (later 0 reportInterval)).2 =
      some (.report fraction (min (Word.saturatingAdd 64 (l'.stream.highest - 0) 1 - l'.stream.received) 0x7fffff)
        highest jitter lastSr delay) := by
    simp [pollControl, hlast.missing, hlast.report, hlast.base]
  obtain ⟨fraction, highest, jitter, lastSr, delay, hreport⟩ := hreport
  have hnone : min (Word.saturatingAdd 64 (l'.stream.highest - 0) 1 - l'.stream.received) 0x7fffff = 0 := by
    rw [Word.saturatingAdd]
    omega
  rw [hnone] at hreport
  exact ⟨l', _, fraction, highest, jitter, lastSr, delay, hlast.reachable, hlast.base, hreport, by omega⟩

end Overflow

end Ledger

end Pulsebeam.Rtc
