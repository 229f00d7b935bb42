import Pulsebeam.Lib.Circle
import Pulsebeam.Lib.Run
import Pulsebeam.Lib.Word

/-! The deficit round robin among the senders of a connection. -/

namespace Pulsebeam.Rtc

open Pulsebeam.Lib

structure SenderScheduler where
  deficits : OrdMap ℕ ℤ
  cursor : ℕ
  deferred : Bool

namespace SenderScheduler

section Model

def quantum : ℤ := 1200

def workBudget : ℕ := 256

def default : SenderScheduler := ⟨∅, 0, false⟩

def deficit (s : SenderScheduler) (sender : ℕ) : ℤ := (s.deficits.get? sender).getD 0

def charge (s : SenderScheduler) (sender next : ℕ) (needed left : ℤ) : SenderScheduler :=
  { s with deficits := s.deficits.insert sender left, cursor := if needed ≤ left then sender else next }

def visit (s : SenderScheduler) (eligible : OrdMap ℕ ℕ) (sender bytes : ℕ) : SenderScheduler × Option ℕ :=
  let next := ((eligible.after sender).map (·.1)).getD sender
  let needed : ℤ := min bytes (2 ^ 63 - 1)
  if needed ≤ s.deficit sender then
    (s.charge sender next needed (Word.saturateSigned 64 (s.deficit sender - needed)), some sender)
  else (s.charge sender next needed (Word.saturateSigned 64 (s.deficit sender + quantum)), none)

def selectLoop (eligible : OrdMap ℕ ℕ) : ℕ → SenderScheduler → SenderScheduler × Option ℕ
  | 0, s => ({ s with deferred := !eligible.entries.isEmpty }, none)
  | rounds + 1, s =>
    match eligible.onward s.cursor with
    | none => (s, none)
    | some (sender, bytes) =>
      match s.visit eligible sender bytes with
      | (s, some sender) => (s, some sender)
      | (s, none) => selectLoop eligible rounds s

def select (s : SenderScheduler) (eligible : OrdMap ℕ ℕ) : SenderScheduler × Option ℕ :=
  selectLoop eligible workBudget { s with deferred := false }

end Model

section Select

variable {s : SenderScheduler} {eligible : OrdMap ℕ ℕ} {x p : ℕ}

def left (deficit : ℤ) (p : ℕ) : ℤ := (if p ≤ deficit then deficit else deficit + quantum) - p

def nextOf (eligible : OrdMap ℕ ℕ) (x : ℕ) : ℕ := ((eligible.after x).map (·.1)).getD x

lemma saturateSigned_of_small {x : ℤ} (hlo : -10000 ≤ x) (hhi : x ≤ 10000) : Word.saturateSigned 64 x = x := by
  unfold Word.saturateSigned
  omega

lemma needed_of_small (hp : p ≤ 1200) : min (p : ℤ) (2 ^ 63 - 1) = p := by
  omega

lemma visit_pays (eligible : OrdMap ℕ ℕ) (hp : p ≤ 1200) (hd : s.deficit x < 2400) (hpay : p ≤ s.deficit x) :
    s.visit eligible x p = (s.charge x (nextOf eligible x) p (s.deficit x - p), some x) := by
  unfold visit
  simp only [needed_of_small hp, if_pos hpay, nextOf]
  rw [saturateSigned_of_small (by omega) (by omega)]

lemma visit_adds (hp : p ≤ 1200) (hd : 0 ≤ s.deficit x) (hpay : s.deficit x < p) :
    s.visit eligible x p = ({ s with deficits := s.deficits.insert x (s.deficit x + quantum), cursor := x }, none) := by
  have hcover : (p : ℤ) ≤ s.deficit x + quantum := by
    rw [quantum]
    omega
  unfold visit
  simp only [needed_of_small hp, if_neg (not_le.2 hpay), charge]
  rw [saturateSigned_of_small (by rw [quantum]; omega) (by rw [quantum]; omega), if_pos hcover]

lemma select_eq (hturn : eligible.onward s.cursor = some (x, p)) (hp : p ≤ 1200) (hd : 0 ≤ s.deficit x)
    (hd' : s.deficit x < 2400) :
    s.select eligible = (⟨s.deficits.insert x (left (s.deficit x) p),
      if p ≤ left (s.deficit x) p then x else nextOf eligible x, false⟩, some x) := by
  unfold select
  rw [show workBudget = 254 + 1 + 1 from rfl, selectLoop]
  simp only [hturn]
  by_cases hpay : (p : ℤ) ≤ s.deficit x
  · have hvisit := visit_pays eligible (s := { s with deferred := false }) hp hd' hpay
    rw [hvisit, left, if_pos hpay]
    rfl
  have hadds : visit { s with deferred := false } eligible x p =
      (⟨s.deficits.insert x (s.deficit x + quantum), x, false⟩, none) := visit_adds hp hd (not_le.1 hpay)
  rw [hadds]
  simp only
  rw [selectLoop, OrdMap.onward_of_get? (OrdMap.get?_of_turn hturn)]
  simp only
  have hdeficit : deficit ⟨s.deficits.insert x (s.deficit x + quantum), x, false⟩ x = s.deficit x + quantum := by
    simp [deficit]
  rw [visit_pays eligible hp (by rw [hdeficit, quantum]; omega) (by rw [hdeficit, quantum]; omega), hdeficit, left,
    if_neg hpay, charge, OrdMap.insert_insert]

end Select

section Fair

structure Backlog where
  scheduler : SenderScheduler
  eligible : OrdMap ℕ ℕ
  served : ℕ → ℕ

namespace Backlog

/-- A selection; `next` is the size of the packet that comes to the head of the sender's queue. -/
def step (b : Backlog) (next : ℕ) : Backlog :=
  match b.scheduler.select b.eligible with
  | (s, some sender) =>
    ⟨s, b.eligible.insert sender next,
      Function.update b.served sender (b.served sender + (b.eligible.get? sender).getD 0)⟩
  | (s, none) => { b with scheduler := s }

def Sized (eligible : OrdMap ℕ ℕ) : Prop := ∀ k p, eligible.get? k = some p → 1 ≤ p ∧ p ≤ 1200

def machine (guard : Backlog → ℕ → Prop) : Machine Backlog ℕ where
  init b := b.scheduler = default ∧ Sized b.eligible ∧ b.served = fun _ => 0
  guard b next := (1 ≤ next ∧ next ≤ 1200) ∧ guard b next
  step := step

def Fair (b : Backlog) : Prop := ∀ x y p q, b.eligible.get? x = some p → b.eligible.get? y = some q →
  b.served x ≤ b.served y + 4800

/-- The next packet of the sender fits what is left of its deficit exactly if the packet that is paid for does. -/
def Steady (b : Backlog) (next : ℕ) : Prop := ∀ x p, b.eligible.onward b.scheduler.cursor = some (x, p) →
  (p ≤ left (b.scheduler.deficit x) p ↔ next ≤ left (b.scheduler.deficit x) p)

structure Bounded (b : Backlog) : Prop where
  sized : Sized b.eligible
  nonneg : ∀ k, 0 ≤ b.scheduler.deficit k
  small : ∀ k, b.scheduler.deficit k < 2400

structure Balanced (b : Backlog) : Prop extends Bounded b where
  waiting : ∀ x p k q, b.eligible.onward b.scheduler.cursor = some (x, p) → b.eligible.get? k = some q → k ≠ x →
    b.scheduler.deficit k < q
  rounds : ∀ x p, b.eligible.onward b.scheduler.cursor = some (x, p) → ∃ n : ℤ, ∀ k q, b.eligible.get? k = some q →
    b.served k + b.scheduler.deficit k = quantum * (n + if k < x ∨ k = x ∧ p ≤ b.scheduler.deficit x then 1 else 0)

variable {b : Backlog} {guard : Backlog → ℕ → Prop}

lemma balanced_init (h : (machine guard).init b) : Balanced b := by
  obtain ⟨hs, hsized, hserved⟩ := h
  have hd : ∀ k, b.scheduler.deficit k = 0 := by
    intro k
    rw [hs]
    rfl
  refine ⟨⟨hsized, fun k => (hd k).ge, fun k => by rw [hd]; norm_num⟩, fun x p k q _ hk _ => ?_, fun x p hx => ⟨0, ?_⟩⟩
  · rw [hd]
    have := (hsized k q hk).1
    omega
  · intro k q hk
    have hfirst : ¬ (k < x ∨ k = x ∧ (p : ℤ) ≤ b.scheduler.deficit x) := by
      rw [hd]
      rintro (hlt | ⟨rfl, hle⟩)
      · rcases Option.or_eq_some_iff.1 hx with hf | ⟨hnone, -⟩
        · have hle : x ≤ k := OrdMap.find?_le (p := fun x => decide _) b.eligible.sorted hf
            (OrdMap.mem_entries.2 hk) (by rw [hs]; simp [default])
          omega
        have hn := List.find?_eq_none.1 hnone _ (OrdMap.mem_entries.2 hk)
        rw [hs] at hn
        simp [default] at hn
      · have := (hsized k p (OrdMap.get?_of_turn hx)).1
        omega
    rw [if_neg hfirst, hd, hserved]
    simp

variable {next x p : ℕ} {d : ℤ}

lemma step_of_turn (h : Bounded b) (hturn : b.eligible.onward b.scheduler.cursor = some (x, p)) :
    b.step next = ⟨⟨b.scheduler.deficits.insert x (left (b.scheduler.deficit x) p),
        if p ≤ left (b.scheduler.deficit x) p then x else nextOf b.eligible x, false⟩,
      b.eligible.insert x next, Function.update b.served x (b.served x + p)⟩ := by
  have hp := OrdMap.get?_of_turn hturn
  unfold step
  rw [select_eq hturn (h.sized x p hp).2 (h.nonneg x) (h.small x)]
  simp only [hp, Option.getD_some]

lemma step_of_none (hturn : b.eligible.onward b.scheduler.cursor = none) :
    b.step next = { b with scheduler := { b.scheduler with deferred := false } } := by
  unfold step select
  rw [show workBudget = 255 + 1 from rfl, selectLoop]
  simp only [hturn]

lemma deficit_insert {s : SenderScheduler} {cursor : ℕ} {deferred : Bool} (k : ℕ) :
    deficit ⟨s.deficits.insert x d, cursor, deferred⟩ k = if k = x then d else s.deficit k := by
  unfold deficit
  rw [OrdMap.get?_insert]
  split <;> rfl

lemma left_nonneg (hd : 0 ≤ d) (hp : p ≤ 1200) : 0 ≤ left d p := by
  unfold left quantum
  split <;> omega

lemma left_lt (hd : d < 2400) (hp : p ≤ 1200) : left d p < 2400 := by
  unfold left quantum
  split <;> omega

lemma Bounded.step (h : Bounded b) (hnext : 1 ≤ next ∧ next ≤ 1200) : Bounded (b.step next) := by
  cases hturn : b.eligible.onward b.scheduler.cursor with
  | none =>
    rw [step_of_none hturn]
    exact ⟨h.sized, h.nonneg, h.small⟩
  | some e =>
    obtain ⟨x, p⟩ := e
    have hp := (h.sized x p (OrdMap.get?_of_turn hturn)).2
    rw [step_of_turn h hturn]
    refine ⟨fun k q hk => ?_, fun k => ?_, fun k => ?_⟩
    · rw [OrdMap.get?_insert] at hk
      split at hk
      · cases hk
        exact hnext
      · exact h.sized k q hk
    · rw [deficit_insert]
      split
      · exact left_nonneg (h.nonneg x) hp
      · exact h.nonneg k
    · rw [deficit_insert]
      split
      · exact left_lt (h.small x) hp
      · exact h.small k

lemma served_add_left {served n : ℤ} (h : served + d = quantum * (n + if p ≤ d then 1 else 0)) :
    served + p + left d p = quantum * (n + 1) := by
  unfold left
  split at h
  next hle =>
    omega
  next hlt =>
    rw [add_zero] at h
    rw [mul_add]
    omega

lemma Balanced.stay (h : Balanced b) (hnext : 1 ≤ next ∧ next ≤ 1200)
    (hturn : b.eligible.onward b.scheduler.cursor = some (x, p)) (hp : p ≤ left (b.scheduler.deficit x) p)
    (hn : next ≤ left (b.scheduler.deficit x) p) : Balanced (b.step next) := by
  have hbounded := h.toBounded.step hnext
  obtain ⟨n, hrounds⟩ := h.rounds x p hturn
  have hx := OrdMap.get?_of_turn hturn
  rw [step_of_turn h.toBounded hturn, if_pos hp] at hbounded ⊢
  have hturn' : (b.eligible.insert x next).onward x = some _ := OrdMap.onward_of_get? OrdMap.get?_insert_self
  refine ⟨hbounded, fun y q k r hy hk hne => ?_, fun y q hy => ⟨n, fun k r hk => ?_⟩⟩
  all_goals
    dsimp only at hy hk ⊢
    cases hturn'.symm.trans hy
    rw [deficit_insert]
  · rw [OrdMap.get?_insert_of_ne hne] at hk
    rw [if_neg hne]
    exact h.waiting x p k r hturn hk hne
  rw [deficit_insert]
  by_cases hkx : k = x
  · subst hkx
    rw [if_pos rfl, Function.update_self, if_pos (.inr ⟨rfl, hn⟩)]
    have hold := hrounds k p hx
    simp only [lt_irrefl, true_and, false_or] at hold
    exact served_add_left hold
  · rw [OrdMap.get?_insert_of_ne hkx] at hk
    have hold := hrounds k r hk
    rw [if_neg hkx, Function.update_of_ne hkx, hold]
    simp only [hkx, false_and]

lemma Balanced.leave (h : Balanced b) (hnext : 1 ≤ next ∧ next ≤ 1200)
    (hturn : b.eligible.onward b.scheduler.cursor = some (x, p)) (hp : left (b.scheduler.deficit x) p < p)
    (hn : left (b.scheduler.deficit x) p < next) : Balanced (b.step next) := by
  have hbounded := h.toBounded.step hnext
  obtain ⟨n, hrounds⟩ := h.rounds x p hturn
  have hx := OrdMap.get?_of_turn hturn
  obtain ⟨y, q, hafter, hy, horder⟩ := OrdMap.after_cases hx
  have hnextOf : nextOf b.eligible x = y := by simp [nextOf, hafter]
  rw [step_of_turn h.toBounded hturn, if_neg (not_le.2 hp), hnextOf] at hbounded ⊢
  have hget : ∀ k, (b.eligible.insert x next).get? k = if k = x then some next else b.eligible.get? k := fun k =>
    OrdMap.get?_insert
  obtain ⟨r, hr, hturn'⟩ : ∃ r, (b.eligible.insert x next).get? y = some r ∧
      (b.eligible.insert x next).onward y = some (y, r) := by
    by_cases hyx : y = x
    · exact ⟨next, by rw [hget, if_pos hyx], OrdMap.onward_of_get? (by rw [hget, if_pos hyx])⟩
    · exact ⟨q, by rw [hget, if_neg hyx, hy], OrdMap.onward_of_get? (by rw [hget, if_neg hyx, hy])⟩
  -- Nobody can pay for its packet now, the sender that has just been served included.
  have hpoor : ∀ k s, (b.eligible.insert x next).get? k = some s →
      (if k = x then left (b.scheduler.deficit x) p else b.scheduler.deficit k) < s := by
    intro k s hk
    rw [hget] at hk
    split
    next hkx =>
      rw [if_pos hkx] at hk
      cases hk
      exact hn
    next hkx =>
      rw [if_neg hkx] at hk
      exact h.waiting x p k s hturn hk hkx
  refine ⟨hbounded, fun z s k t hz hk _ => ?_, fun z s hz => ?_⟩ <;> dsimp only at hz
  · rw [deficit_insert]
    exact hpoor k t hk
  · cases hturn'.symm.trans hz
    have hcond : ∀ k, (k < y ∨ k = y ∧ (r : ℤ) ≤
        deficit ⟨b.scheduler.deficits.insert x (left (b.scheduler.deficit x) p), y, false⟩ y) ↔ k < y := by
      intro k
      rw [deficit_insert]
      have hlt := hpoor y r hr
      constructor
      · rintro (hk | ⟨-, hle⟩)
        · exact hk
        · exact absurd hle (not_le.2 hlt)
      · exact .inl
    have hvalue : ∀ k s, (b.eligible.insert x next).get? k = some s →
        ((Function.update b.served x (b.served x + p) k : ℕ) : ℤ) +
          (if k = x then left (b.scheduler.deficit x) p else b.scheduler.deficit k) =
          quantum * (n + if k ≤ x then 1 else 0) := by
      intro k s hk
      by_cases hkx : k = x
      · subst hkx
        have hold := hrounds k p hx
        simp only [lt_irrefl, true_and, false_or] at hold
        rw [if_pos rfl, Function.update_self, if_pos le_rfl]
        exact served_add_left hold
      · rw [hget, if_neg hkx] at hk
        have hold := hrounds k s hk
        simp only [hkx, false_and, or_false] at hold
        rw [if_neg hkx, Function.update_of_ne hkx, hold]
        simp only [le_iff_lt_or_eq, hkx, or_false]
    have hkeys : ∀ k s, (b.eligible.insert x next).get? k = some s → ∃ c, b.eligible.get? k = some c := by
      intro k s hk
      rw [hget] at hk
      split at hk
      next hkx => exact ⟨p, hkx ▸ hx⟩
      · exact ⟨s, hk⟩
    rcases horder with ⟨hlt, hleast⟩ | hall
    · refine ⟨n, fun k s hk => ?_⟩
      rw [deficit_insert, hvalue k s hk]
      simp only [hcond]
      have hiff : k ≤ x ↔ k < y := by
        obtain ⟨c, hc⟩ := hkeys k s hk
        constructor
        · exact fun hle => lt_of_le_of_lt hle hlt
        · intro hky
          by_contra hkx
          exact absurd (hleast k c hc (not_le.1 hkx)) (not_le.2 hky)
      simp only [hiff]
    · refine ⟨n + 1, fun k s hk => ?_⟩
      rw [deficit_insert, hvalue k s hk]
      simp only [hcond]
      obtain ⟨c, hc⟩ := hkeys k s hk
      obtain ⟨hge, hle⟩ := hall k c hc
      rw [if_pos hle, if_neg (not_lt.2 hge), add_zero]

lemma Balanced.step (h : Balanced b) (hnext : 1 ≤ next ∧ next ≤ 1200) (hsteady : b.Steady next) :
    Balanced (b.step next) := by
  cases hturn : b.eligible.onward b.scheduler.cursor with
  | none =>
    have hbounded := h.toBounded.step hnext
    rw [step_of_none hturn] at hbounded ⊢
    refine ⟨hbounded, fun x p k q hx => ?_, fun x p hx => ?_⟩ <;>
      · rw [hturn] at hx
        cases hx
  | some e =>
    obtain ⟨x, p⟩ := e
    by_cases hp : (p : ℤ) ≤ left (b.scheduler.deficit x) p
    · exact h.stay hnext hturn hp ((hsteady x p hturn).1 hp)
    · exact h.leave hnext hturn (not_le.1 hp) (not_le.1 fun hle => hp ((hsteady x p hturn).2 hle))

lemma Balanced.fair (h : Balanced b) : Fair b := by
  intro x y p q hx hy
  obtain ⟨z, r, hz⟩ := OrdMap.turn_isSome (fun k => decide (b.scheduler.cursor ≤ k)) hx
  obtain ⟨n, hrounds⟩ := h.rounds z r hz
  have hservedx := hrounds x p hx
  have hservedy := hrounds y q hy
  have hdx := h.nonneg x
  have hdy := h.small y
  unfold quantum at hservedx hservedy
  split at hservedx <;> split at hservedy <;> omega

lemma Bounded.select (h : Bounded b) (hx : b.eligible.get? x = some p) :
    ∃ y, (b.scheduler.select b.eligible).2 = some y := by
  obtain ⟨z, r, hz⟩ := OrdMap.turn_isSome (fun k => decide (b.scheduler.cursor ≤ k)) hx
  refine ⟨z, ?_⟩
  rw [select_eq hz (h.sized z r (OrdMap.get?_of_turn hz)).2 (h.nonneg z) (h.small z)]

/-- In every run a call with a sender waiting selects one, and service stays fair as long as the packet sizes of a sender do
not mislead the scheduler. -/
theorem fair_of_steady (h : (machine guard).Reachable b) :
    (∀ x p, b.eligible.get? x = some p → ∃ y, (b.scheduler.select b.eligible).2 = some y) ∧
      ((∀ b next, guard b next → Steady b next) → Fair b) := by
  refine ⟨fun x p hx => Bounded.select ?_ hx, fun hsteady => Balanced.fair ?_⟩
  · exact h.invariant (fun _ hb => (balanced_init hb).toBounded) fun _ _ hb hg => hb.step hg.1
  · exact h.invariant (fun _ => balanced_init) fun b next hb hg => hb.step hg.1 (hsteady b next hg.2)

def pair (size : ℕ) : Backlog := ⟨default, (OrdMap.empty.insert 0 1200).insert 1 size, fun _ => 0⟩

lemma pair_init {size : ℕ} (hsize : 1 ≤ size ∧ size ≤ 1200) : (machine guard).init (pair size) := by
  refine ⟨rfl, fun k p hk => ?_, rfl⟩
  simp only [pair, OrdMap.get?_insert] at hk
  split at hk
  · cases hk
    exact hsize
  split at hk
  · cases hk
    decide
  · cases hk

instance {guard : Backlog → ℕ → Prop} [∀ b next, Decidable (guard b next)] (b : Backlog) (next : ℕ) :
    Decidable ((machine guard).guard b next) :=
  inferInstanceAs (Decidable ((1 ≤ next ∧ next ≤ 1200) ∧ guard b next))

instance (b : Backlog) (next : ℕ) : Decidable (Steady b next) :=
  match h : b.eligible.onward b.scheduler.cursor with
  | none => .isTrue fun x p hx => by rw [h] at hx; cases hx
  | some (y, q) => decidable_of_iff ((q ≤ left (b.scheduler.deficit y) q) ↔ next ≤ left (b.scheduler.deficit y) q)
      ⟨fun hiff x p hx => by rw [h] at hx; cases hx; exact hiff, fun hs => hs y q h⟩

def starving : List ℕ := (List.replicate 9 [1200, 599, 1200, 601]).flatten

theorem unfair_halves : ∃ b, (machine fun _ _ => True).Reachable b ∧ ¬ Fair b := by
  refine ⟨starving.foldl step (pair 601), Machine.Reachable.run
    (.init (pair_init (by decide))) (by decide +kernel), fun hfair => ?_⟩
  have hle := hfair 0 1 1200 601 (by decide +kernel) (by decide +kernel)
  exact absurd hle (by decide +kernel)

theorem fair_of_steady_constant :
    (pair 100).eligible.get? 1 = some 100 ∧
      Fair (([1200] ++ List.replicate 12 100 ++ [1200]).foldl step (pair 100)) := by
  have h : (machine Steady).Reachable (([1200] ++ List.replicate 12 100 ++ [1200]).foldl step (pair 100)) :=
    Machine.Reachable.run (.init (pair_init (by decide))) (by decide +kernel)
  exact ⟨by decide +kernel, (fair_of_steady h).2 fun _ _ hg => hg⟩

end Backlog

end Fair

end SenderScheduler

end Pulsebeam.Rtc
