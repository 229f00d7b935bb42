import Pulsebeam.Lib.Run
import Pulsebeam.Lib.SlotRing
import Pulsebeam.Lib.Word

/-! The receive state of one RTP source: which packets were seen, which are asked for again, and the reports about it. -/

namespace Pulsebeam.Rtc

open Pulsebeam.Lib List Nat SlotRing Function

def reorderWindow : ℕ := 256

-- Times are in nanoseconds.
def nackDelay : ℕ := 10000000

def nackInterval : ℕ := 50000000

def reportInterval : ℕ := 1000000000

def instantMax : ℕ := 2 ^ 64 * 1000000000 - 1

def later (instant duration : ℕ) : ℕ := if instant + duration ≤ instantMax then instant + duration else instant

structure Missing where
  sequence : ℕ
  next : ℕ
  attempts : ℕ

structure ReceiveStream where
  base : Option ℕ := none
  highest : ℕ := 0
  seen : Fin reorderWindow → ℕ := fun _ => Word.max 64
  received : ℕ := 0
  missing : List Missing := []
  nack : Bool
  clockRate : ℕ
  previousArrival : Option (ℕ × ℕ) := none
  jitterQ4 : ℕ := 0
  nextReport : Option ℕ := none
  expectedPrior : ℕ := 0
  receivedPrior : ℕ := 0
  lastSr : Option (ℕ × ℕ) := none

instance : NeZero reorderWindow := ⟨by decide⟩

namespace ReceiveStream

def new (clockRate : ℕ) (nack : Bool) : ReceiveStream := { nack := nack, clockRate := clockRate }

def checkedAddSigned (a : ℕ) (d : ℤ) : Option ℕ :=
  if 0 ≤ (a : ℤ) + d ∧ (a : ℤ) + d < 2 ^ 64 then some ((a : ℤ) + d).toNat else none

variable (s : ReceiveStream)

def extend (sequence : ℕ) : Option ℕ :=
  if s.base.isSome then checkedAddSigned s.highest (Word.signedSub 16 sequence (s.highest % 2 ^ 16)) else some sequence

def pushMissing (missing : List Missing) (m : Missing) : List Missing :=
  (if missing.length = reorderWindow then missing.tail else missing) ++ [m]

def missingAfter (extended arrival : ℕ) : List Missing :=
  let missing := s.missing.filter fun m => m.sequence ≠ extended ∧ extended - m.sequence < reorderWindow
  if s.base.isSome ∧ s.highest < extended ∧ s.nack then
    let first := max (Word.saturatingAdd 64 s.highest 1) (extended - (reorderWindow - 1))
    (List.range' first (extended - first)).foldl
      (fun l sequence => pushMissing l ⟨sequence, later arrival nackDelay, 0⟩) missing
  else missing

def jitterAfter (timestamp arrival : ℕ) : ℕ :=
  match s.previousArrival with
  | none => s.jitterQ4
  | some (previous, previousTimestamp) =>
    let elapsed := min (Word.saturatingMul 128 ((arrival - previous) / 1000) s.clockRate / 1000000) (Word.max 127)
    let ticks := Word.signedSub 32 timestamp previousTimestamp
    let difference := min ((elapsed : ℤ) - ticks).natAbs (Word.max 64)
    Word.saturatingAdd 64 s.jitterQ4 difference - Word.saturatingAdd 64 s.jitterQ4 8 / 16

def record (sequence extended timestamp arrival : ℕ) (repair : Bool) : ReceiveStream :=
  let timed := !repair && (s.base.isNone || s.highest < extended)
  { s with
    seen := Function.update s.seen (SlotRing.index reorderWindow sequence) extended
    missing := s.missingAfter extended arrival
    jitterQ4 := if timed then s.jitterAfter timestamp arrival else s.jitterQ4
    previousArrival := if timed then some (arrival, timestamp) else s.previousArrival
    base := some ((s.base.map (min · extended)).getD extended)
    highest := max s.highest extended
    received := Word.saturatingAdd 64 s.received 1
    nextReport := some (s.nextReport.getD (later arrival reportInterval)) }

def accept (sequence timestamp arrival : ℕ) (repair : Bool) : ReceiveStream × Bool :=
  match s.extend sequence with
  | none => (s, false)
  | some extended =>
    if reorderWindow ≤ s.highest - extended then (s, false)
    else if s.seen (SlotRing.index reorderWindow sequence) = extended then (s, false)
    else (s.record sequence extended timestamp arrival repair, true)

def senderReport (seconds fraction arrival : ℕ) : ReceiveStream :=
  { s with lastSr := some ((seconds * 2 ^ 16) % 2 ^ 32 + fraction / 2 ^ 16, arrival) }

inductive Control
  | nack (sequence : ℕ)
  | report (fraction lost highest jitter lastSr delay : ℕ)

def retry (now : ℕ) (m : Missing) : Option Missing :=
  if 5 ≤ min (m.attempts + 1) (Word.max 8) then none
  else some ⟨m.sequence, later now nackInterval, min (m.attempts + 1) (Word.max 8)⟩

def pollControl (now : ℕ) : ReceiveStream × Option Control :=
  match s.missing.findIdx? (·.next ≤ now) with
  | some i =>
    match s.missing[i]? with
    | none => (s, none)
    | some m =>
      ({ s with missing := s.missing.take i ++ (retry now m).toList ++ s.missing.drop (i + 1) },
        some (.nack (m.sequence % 2 ^ 16)))
  | none =>
    if s.nextReport.all (now < ·) then (s, none)
    else
      match s.base with
      | none => ({ s with nextReport := some (later now reportInterval) }, none)
      | some base =>
        let expected := Word.saturatingAdd 64 (s.highest - base) 1
        let lost := min (expected - s.received) 0x7fffff
        let intervalExpected := expected - s.expectedPrior
        let intervalLost := intervalExpected - (s.received - s.receivedPrior)
        let fraction := if intervalExpected = 0 then 0 else min (Word.saturatingMul 64 intervalLost 256 / intervalExpected) 255
        let delay := s.lastSr.map fun sr => min (Word.saturatingMul 128 ((now - sr.2) / 1000) 65536 / 1000000) (Word.max 32)
        ({ s with
            nextReport := some (later now reportInterval)
            expectedPrior := expected
            receivedPrior := s.received },
          some (.report fraction lost (s.highest % 2 ^ 32) (min (s.jitterQ4 / 16) (Word.max 32)) ((s.lastSr.map (·.1)).getD 0)
            (delay.getD 0)))

end ReceiveStream

structure Arrival where
  number : ℤ
  timestamp : ℕ
  time : ℕ
  repair : Bool

def Arrival.sequence (p : Arrival) : ℕ := (p.number % 2 ^ 16).toNat

structure Reception where
  stream : ReceiveStream
  accepted : List ℤ := []

namespace Reception

inductive Op
  | packet (p : Arrival)
  | senderReport (seconds fraction arrival : ℕ)
  | pollControl (now : ℕ)

def answer (r : Reception) (p : Arrival) : Bool := (r.stream.accept p.sequence p.timestamp p.time p.repair).2

def step (r : Reception) : Op → Reception
  | .packet p =>
    { stream := (r.stream.accept p.sequence p.timestamp p.time p.repair).1
      accepted := if r.answer p then r.accepted ++ [p.number] else r.accepted }
  | .senderReport seconds fraction arrival => { r with stream := r.stream.senderReport seconds fraction arrival }
  | .pollControl now => { r with stream := (r.stream.pollControl now).1 }

def Near (r : Reception) (number : ℤ) : Prop :=
  ∀ h ∈ r.accepted, (∀ a ∈ r.accepted, a ≤ h) → (number - h).natAbs ≤ 32767

def Fresh (r : Reception) (number : ℤ) : Prop := number ∉ r.accepted ∧ ∀ a ∈ r.accepted, a - number < reorderWindow

def origin (r : Reception) : ℤ := (r.accepted.head?.map fun f => f - f % 2 ^ 16).getD 0

/-- The number is not in an earlier cycle than the first packet, unless it is too old anyway. -/
def SameCycle (r : Reception) (number : ℤ) : Prop :=
  r.accepted = [] ∨ r.origin ≤ number ∨ ∃ a ∈ r.accepted, reorderWindow ≤ a - number

def Counted (r : Reception) (number : ℤ) : Prop := r.accepted = [] ∨ number - r.origin < 2 ^ 64 - 1

structure Tracks (o : ℤ) (r : Reception) : Prop where
  cycle : (2 ^ 16 : ℤ) ∣ o
  unset : r.accepted = [] → r.stream.base = none ∧ r.stream.highest = 0
  based : r.accepted ≠ [] → r.stream.base.isSome ∧ o = r.origin ∧ o + r.stream.highest ∈ r.accepted
  lower : ∀ a ∈ r.accepted, o ≤ a
  upper : ∀ a ∈ r.accepted, a ≤ o + r.stream.highest
  slot : ∀ k ≤ r.stream.highest, r.stream.highest < k + reorderWindow →
    (r.stream.seen (SlotRing.index reorderWindow k) = k ↔ o + k ∈ r.accepted)
  past : ∀ i, r.stream.seen i = Word.max 64 ∨ r.accepted ≠ [] ∧ r.stream.seen i ≤ r.stream.highest
  fits : r.stream.highest < Word.max 64

variable {r : Reception} {p : Arrival} {o : ℤ} {k : ℕ} {s : ReceiveStream} {clockRate : ℕ} {nack : Bool} {n : ℤ}

lemma sequence_cast (p : Arrival) : (p.sequence : ℤ) = p.number % 2 ^ 16 := by
  have h := Int.emod_nonneg p.number (by decide : (2 ^ 16 : ℤ) ≠ 0)
  exact Int.toNat_of_nonneg h

lemma index_sequence (ho : (2 ^ 16 : ℤ) ∣ o) (hk : p.number = o + k) :
    SlotRing.index reorderWindow p.sequence = SlotRing.index reorderWindow k := by
  rw [index_eq_iff]
  have hseq := sequence_cast p
  have h : (p.sequence : ℤ) % 256 = (k : ℤ) % 256 := by omega
  exact_mod_cast h

lemma Tracks.extend_of_ne (h : Tracks o r) (hne : r.accepted ≠ []) (hnear : r.Near p.number) :
    r.stream.extend p.sequence = ReceiveStream.checkedAddSigned r.stream.highest (p.number - o - r.stream.highest) := by
  obtain ⟨hbase, _, htop⟩ := h.based hne
  have hdist := hnear _ htop fun a ha => h.upper a ha
  have hseq : (p.sequence : ℤ) ≡ p.number [ZMOD 2 ^ (15 + 1)] := by
    rw [sequence_cast p]
    exact Int.mod_modEq _ _
  have hhigh : ((r.stream.highest % 2 ^ 16 : ℕ) : ℤ) ≡ o + r.stream.highest [ZMOD 2 ^ (15 + 1)] := by
    have hdvd := h.cycle
    rw [Int.ModEq]
    omega
  have hsub := Word.signedSub_eq hseq hhigh (by omega) (by omega)
  rw [ReceiveStream.extend, if_pos hbase, hsub]
  congr 1
  omega

lemma Tracks.seen_iff (h : Tracks o r) (hlt : k < Word.max 64) (hwin : r.stream.highest < k + reorderWindow) :
    r.stream.seen (SlotRing.index reorderWindow k) = k ↔ o + k ∈ r.accepted := by
  rcases lt_or_ge r.stream.highest k with hhigh | hhigh
  · constructor
    · rcases h.past (SlotRing.index reorderWindow k) with hp | ⟨_, hp⟩
      · omega
      · omega
    · intro hmem
      have := h.upper _ hmem
      omega
  · exact h.slot k hhigh hwin

section

variable (h : Tracks o r) (hfirst : r.accepted = [] → o = p.number - p.number % 2 ^ 16) (hnear : r.Near p.number)
  (hk : p.number = o + k) (hlt : k < Word.max 64)

include h hfirst hnear hk hlt

lemma Tracks.extend : r.stream.extend p.sequence = some k := by
  have hmax : Word.max 64 = 2 ^ 64 - 1 := rfl
  by_cases hne : r.accepted = []
  · have hseq := sequence_cast p
    have ho := hfirst hne
    rw [ReceiveStream.extend, (h.unset hne).1, if_neg (by decide)]
    congr 1
    omega
  · rw [h.extend_of_ne hne hnear, ReceiveStream.checkedAddSigned, if_pos (by omega)]
    congr 1
    omega

lemma Tracks.answer_iff : r.answer p = true ↔ r.Fresh p.number := by
  unfold answer ReceiveStream.accept Fresh
  rw [h.extend hfirst hnear hk hlt, index_sequence h.cycle hk, hk]
  dsimp only
  have hw : 0 < reorderWindow := by decide
  by_cases hwin : r.stream.highest < k + reorderWindow
  · rw [if_neg (by omega)]
    have hall : ∀ a ∈ r.accepted, a - (o + k) < reorderWindow := by
      intro a ha
      have := h.upper a ha
      omega
    by_cases hseen : r.stream.seen (SlotRing.index reorderWindow k) = k
    · rw [if_pos hseen]
      simp [(h.seen_iff hlt hwin).1 hseen]
    · rw [if_neg hseen]
      exact iff_of_true rfl ⟨mt (h.seen_iff hlt hwin).2 hseen, hall⟩
  · have hne : r.accepted ≠ [] := by
      intro hnil
      rw [(h.unset hnil).2] at hwin
      omega
    rw [if_pos (by omega)]
    constructor
    · intro hfalse
      cases hfalse
    · intro hfresh
      have := hfresh.2 _ (h.based hne).2.2
      omega

end

lemma origin_append {l : List ℤ} (h : l ≠ []) : origin ⟨s, l ++ [n]⟩ = origin ⟨s, l⟩ := by
  cases l with
  | nil => exact absurd rfl h
  | cons f l => rfl

lemma Tracks.record (h : Tracks o r) (hfirst : r.accepted = [] → o = p.number - p.number % 2 ^ 16)
    (hk : p.number = o + k) (hlt : k < Word.max 64) (hwin : r.stream.highest < k + reorderWindow) :
    Tracks o ⟨r.stream.record p.sequence k p.timestamp p.time p.repair, r.accepted ++ [p.number]⟩ := by
  have hhighest : (r.stream.record p.sequence k p.timestamp p.time p.repair).highest = max r.stream.highest k := rfl
  have hseen : (r.stream.record p.sequence k p.timestamp p.time p.repair).seen =
      Function.update r.stream.seen (SlotRing.index reorderWindow k) k := by
    rw [← index_sequence h.cycle hk]
    rfl
  have hzero : r.accepted = [] → r.stream.highest = 0 := fun hnil => (h.unset hnil).2
  refine ⟨h.cycle, by simp, fun _ => ⟨rfl, ?_, ?_⟩, ?_, ?_, ?_, ?_, ?_⟩
  · by_cases hne : r.accepted = []
    · rw [hfirst hne]
      simp [origin, hne]
    · rw [origin_append hne]
      exact (h.based hne).2.1
  · rw [hhighest, mem_append, mem_singleton]
    by_cases hle : r.stream.highest ≤ k
    · exact .inr (by omega)
    have hne : r.accepted ≠ [] := fun hnil => hle (by rw [hzero hnil]; omega)
    rw [max_eq_left (by omega)]
    exact .inl (h.based hne).2.2
  · intro a ha
    rcases mem_append.1 ha with ha | ha
    · exact h.lower a ha
    · rw [mem_singleton.1 ha]
      omega
  · intro a ha
    rw [hhighest]
    rcases mem_append.1 ha with ha | ha
    · have := h.upper a ha
      omega
    · rw [mem_singleton.1 ha]
      omega
  · intro j hj hjwin
    rw [hhighest] at hj hjwin
    rw [hseen, mem_append, mem_singleton]
    by_cases hjk : j = k
    · subst hjk
      rw [update_self]
      exact iff_of_true rfl (.inr hk.symm)
    have hidx : SlotRing.index reorderWindow j ≠ SlotRing.index reorderWindow k := by
      rcases lt_or_gt_of_ne hjk with hlt' | hlt'
      · exact index_ne hlt' (by omega)
      · exact (index_ne hlt' (by omega)).symm
    have hnot : ¬ o + (j : ℤ) = p.number := by omega
    have hfits := h.fits
    rw [update_of_ne hidx, h.seen_iff (by omega) (by omega)]
    exact (or_iff_left hnot).symm
  · intro i
    rw [hseen]
    by_cases hi : i = SlotRing.index reorderWindow k
    · rw [hi, update_self]
      exact .inr ⟨by simp, le_max_right _ _⟩
    rw [update_of_ne hi]
    rcases h.past i with hp | ⟨_, hp⟩
    · exact .inl hp
    · exact .inr ⟨by simp, hp.trans (le_max_left _ _)⟩
  · rw [hhighest]
    have := h.fits
    omega

lemma Tracks.answer_of_lt (h : Tracks o r) (hne : r.accepted ≠ []) (hnear : r.Near p.number) (hlt : p.number < o) :
    r.answer p = false := by
  unfold answer ReceiveStream.accept
  rw [h.extend_of_ne hne hnear, ReceiveStream.checkedAddSigned, if_neg (by omega)]

lemma step_of_false (h : r.answer p = false) : r.step (.packet p) = r := by
  have hstream : (r.stream.accept p.sequence p.timestamp p.time p.repair).1 = r.stream := by
    unfold answer at h
    unfold ReceiveStream.accept at h ⊢
    split at h
    · rfl
    split at h
    next hold => rw [if_pos hold]
    next hold =>
      split at h
      next hseen => rw [if_neg hold, if_pos hseen]
      · cases h
  rw [step, hstream, if_neg (by rw [h]; decide)]

lemma step_of_true (h : r.answer p = true) (hk : r.stream.extend p.sequence = some k) :
    r.stream.highest < k + reorderWindow ∧ r.step (.packet p) =
      ⟨r.stream.record p.sequence k p.timestamp p.time p.repair, r.accepted ++ [p.number]⟩ := by
  rw [step, if_pos h]
  unfold answer at h
  unfold ReceiveStream.accept at h ⊢
  rw [hk] at h ⊢
  dsimp only at h ⊢
  split at h
  · cases h
  next hold =>
    split at h
    · cases h
    next hseen =>
      rw [if_neg hold, if_neg hseen]
      exact ⟨by omega, rfl⟩

def machine (clockRate : ℕ) (nack : Bool) : Machine Reception Op where
  init r := r = { stream := .new clockRate nack }
  guard r
    | .packet p => r.Near p.number ∧ r.SameCycle p.number ∧ r.Counted p.number
    | _ => True
  step := step

lemma Tracks.place (h : Tracks o r) (number : ℤ) :
    ∃ o', Tracks o' r ∧ (r.accepted = [] → o' = number - number % 2 ^ 16) ∧ (r.accepted ≠ [] → o' = o) := by
  by_cases hne : r.accepted = []
  · refine ⟨number - number % 2 ^ 16, ⟨Int.dvd_self_sub_emod, h.unset, fun hn => absurd hne hn, ?_, ?_, ?_, h.past, h.fits⟩,
      fun _ => rfl, fun hn => absurd hne hn⟩
    · simp [hne]
    · simp [hne]
    intro k hk hwin
    have hlt : k < Word.max 64 := lt_of_le_of_lt hk h.fits
    rw [h.seen_iff hlt hwin]
    simp [hne]
  · exact ⟨o, h, fun hn => absurd hn hne, fun _ => rfl⟩

lemma Tracks.exists_number (h : Tracks o r) (hfirst : r.accepted = [] → o = p.number - p.number % 2 ^ 16)
    (hcount : r.Counted p.number) (hle : o ≤ p.number) : ∃ k : ℕ, p.number = o + k ∧ k < Word.max 64 := by
  have hmax : Word.max 64 = 2 ^ 64 - 1 := rfl
  refine ⟨(p.number - o).toNat, by omega, ?_⟩
  by_cases hne : r.accepted = []
  · have := hfirst hne
    omega
  have ho := (h.based hne).2.1
  have hlt := hcount.resolve_left hne
  omega

lemma Tracks.packet (h : Tracks o r) (hnear : r.Near p.number) (hcount : r.Counted p.number) :
    ∃ o', Tracks o' (r.step (.packet p)) := by
  cases hans : r.answer p with
  | false => exact ⟨o, (step_of_false hans).symm ▸ h⟩
  | true =>
    obtain ⟨o', h', hfirst, _⟩ := h.place p.number
    have hle : o' ≤ p.number := by
      by_contra hlt
      by_cases hne : r.accepted = []
      · have := hfirst hne
        omega
      · rw [h'.answer_of_lt hne hnear (by omega)] at hans
        cases hans
    obtain ⟨k, hk, hlt⟩ := h'.exists_number hfirst hcount hle
    obtain ⟨hwin, hstep⟩ := step_of_true hans (h'.extend hfirst hnear hk hlt)
    exact ⟨o', hstep ▸ h'.record hfirst hk hlt hwin⟩

lemma Tracks.of_stream (h : Tracks o r) (hbase : s.base = r.stream.base) (hhighest : s.highest = r.stream.highest)
    (hseen : s.seen = r.stream.seen) : Tracks o { r with stream := s } := by
  obtain ⟨hcycle, hunset, hbased, hlower, hupper, hslot, hpast, hfits⟩ := h
  rw [← hbase, ← hhighest] at hunset
  rw [← hbase, ← hhighest] at hbased
  rw [← hhighest] at hupper hslot hpast hfits
  rw [← hseen] at hslot hpast
  exact ⟨hcycle, hunset, hbased, hlower, hupper, hslot, hpast, hfits⟩

lemma pollControl_keeps (s : ReceiveStream) (now : ℕ) : (s.pollControl now).1.base = s.base ∧
    (s.pollControl now).1.highest = s.highest ∧ (s.pollControl now).1.seen = s.seen := by
  unfold ReceiveStream.pollControl
  split
  · split
    · exact ⟨rfl, rfl, rfl⟩
    · exact ⟨rfl, rfl, rfl⟩
  split
  · exact ⟨rfl, rfl, rfl⟩
  split
  · exact ⟨rfl, rfl, rfl⟩
  · exact ⟨rfl, rfl, rfl⟩

lemma tracks (h : (machine clockRate nack).Reachable r) : ∃ o, Tracks o r := by
  refine h.invariant (I := fun r => ∃ o, Tracks o r) ?_ ?_
  · rintro _ rfl
    have hmax : (0 : ℕ) < Word.max 64 := by decide
    refine ⟨0, dvd_zero _, fun _ => ⟨rfl, rfl⟩, fun hn => absurd rfl hn, by simp, by simp, ?_, fun _ => .inl rfl, hmax⟩
    intro k hk _
    obtain rfl : k = 0 := le_zero.1 hk
    exact iff_of_false hmax.ne' (by simp)
  · rintro r op ⟨o, ho⟩ hg
    cases op with
    | packet p => exact ho.packet hg.1 hg.2.2
    | senderReport seconds fraction arrival => exact ⟨o, ho.of_stream rfl rfl rfl⟩
    | pollControl now =>
      obtain ⟨hbase, hhighest, hseen⟩ := pollControl_keeps r.stream now
      exact ⟨o, ho.of_stream hbase hhighest hseen⟩

/-- A packet is accepted exactly if it is new and in the window, as long as it is not counted from before the cycle of the
first packet; there it is refused even when it is new. -/
theorem accept_exact_iff_sameCycle (h : (machine clockRate nack).Reachable r)
    (hnear : r.Near p.number) (hcount : r.Counted p.number) :
    (r.answer p = true ↔ r.Fresh p.number) ↔ r.SameCycle p.number := by
  obtain ⟨o, ho⟩ := tracks h
  obtain ⟨o, ho, hfirst, -⟩ := ho.place p.number
  by_cases hle : o ≤ p.number
  · obtain ⟨k, hk, hlt⟩ := ho.exists_number hfirst hcount hle
    refine iff_of_true (ho.answer_iff hfirst hnear hk hlt) ?_
    by_cases hne : r.accepted = []
    · exact .inl hne
    · exact .inr (.inl ((ho.based hne).2.1 ▸ hle))
  · have hne : r.accepted ≠ [] := by
      intro hnil
      have := hfirst hnil
      omega
    have horigin := (ho.based hne).2.1
    rw [ho.answer_of_lt hne hnear (by omega), SameCycle, Fresh]
    have hnew : p.number ∉ r.accepted := fun hmem => hle (ho.lower _ hmem)
    simp only [hne, false_or, Bool.false_eq_true, false_iff, hnew, not_false_eq_true, true_and, not_forall, not_lt]
    constructor
    · rintro ⟨a, ha, hold⟩
      exact .inr ⟨a, ha, hold⟩
    · rintro (hin | ⟨a, ha, hold⟩)
      · omega
      · exact ⟨a, ha, hold⟩

def joined : Reception := step { stream := .new 90000 true } (.packet ⟨0, 0, 0, false⟩)

lemma accepted_joined : joined.accepted = [0] := by decide +kernel

lemma reachable_joined : (machine 90000 true).Reachable joined := by
  have hnear : Near { stream := .new 90000 true } 0 := nofun
  exact Machine.Reachable.step (Op.packet ⟨0, 0, 0, false⟩) (.init rfl)
    ⟨hnear, .inl rfl, .inl rfl⟩

lemma near_joined (h : n.natAbs ≤ 32767) : joined.Near n := by
  intro a hmem _
  rw [accepted_joined, mem_singleton] at hmem
  subst hmem
  rwa [Int.sub_zero]

theorem accept_exact_joined : (machine 90000 true).Reachable joined ∧ joined.Near 1 ∧ joined.Counted 1 ∧
    ((joined.answer ⟨1, 3000, 0, false⟩ = true ↔ joined.Fresh 1) ↔ joined.SameCycle 1) := by
  have hnear : joined.Near 1 := near_joined (by decide)
  have hcount : joined.Counted 1 := by
    exact .inr (by decide)
  exact ⟨reachable_joined, hnear, hcount, accept_exact_iff_sameCycle reachable_joined hnear hcount⟩

/-- The packet just before the first one is new and in the window, and is refused. -/
theorem accept_refuses_new : (machine 90000 true).Reachable joined ∧ joined.Near (-1) ∧ joined.Fresh (-1) ∧
    joined.answer ⟨-1, 0, 0, false⟩ = false := by
  refine ⟨reachable_joined, near_joined (by decide), ?_, by decide +kernel⟩
  unfold Fresh
  decide

end Reception

end Pulsebeam.Rtc
