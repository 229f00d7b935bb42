import Pulsebeam.Lib.Run
import Pulsebeam.Lib.Word

/-! The pacer of the congestion controller: outbound bytes against a rate and a burst. Times are in nanoseconds. -/

namespace Pulsebeam.Cc

open Pulsebeam.Lib List Option Nat

def durationMax : ℕ := 2 ^ 64 * 1000000000 - 1
def maxDebt : ℕ := 500000000
def maxElapsed : ℕ := 2000000000
def maxBurstBytes : ℕ := 63000
def debtPerByte : ℕ := 8000000000

structure Pacer where
  processedAt : Option ℕ
  mediaDebt : ℕ
  paddingDebt : ℕ
  dataRate : ℕ
  configuredDataRate : ℕ
  paddingRate : ℕ
  burstWindow : ℕ
  paddingRemaining : ℕ
  chargedBytes : ℕ
  deriving DecidableEq, Repr

def debtLimit (rate : ℕ) : ℕ := if rate = 0 then Word.max 128 else Word.saturatingMul 128 rate maxDebt

def drainTime (debt rate : ℕ) : ℕ :=
  if rate = 0 then if debt = 0 then 0 else durationMax
  else
    let nanos := (debt + rate - 1) / rate
    if nanos / 1000000000 ≤ Word.max 64 then nanos else durationMax

namespace Pacer

def default : Pacer := ⟨none, 0, 0, 0, 0, 0, 0, 0, 0⟩

def configure (p : Pacer) (now dataRate paddingRate burstWindow : ℕ) : Pacer :=
  { p with
    dataRate := dataRate
    configuredDataRate := dataRate
    paddingRate := min paddingRate dataRate
    processedAt := some (p.processedAt.getD now)
    burstWindow := burstWindow
    paddingRemaining := if min paddingRate dataRate = 0 then 0 else p.paddingRemaining }

def nextDeadline (p : Pacer) : Option ℕ :=
  if p.dataRate = 0 then none
  else p.processedAt.bind fun processedAt =>
    let drain := drainTime p.mediaDebt p.dataRate
    let burst := min p.burstWindow (drainTime (Word.saturatingMul 128 maxBurstBytes debtPerByte) p.dataRate)
    let deadline := processedAt + if drain < burst then 0 else drain
    if deadline ≤ durationMax then some deadline else none

def eligible (p : Pacer) (now : ℕ) : Bool := p.nextDeadline.any fun deadline => decide (deadline ≤ now)

def advance (p : Pacer) (now : ℕ) : Pacer :=
  let previous := p.processedAt.getD now
  if now ≤ previous then { p with processedAt := some previous }
  else
    let elapsed := min (now - previous) maxElapsed
    { p with
      mediaDebt := p.mediaDebt - Word.saturatingMul 128 p.dataRate elapsed
      paddingDebt := p.paddingDebt - Word.saturatingMul 128 p.paddingRate elapsed
      processedAt := some now }

def processIdle (p : Pacer) (now : ℕ) : Pacer := p.advance now

def charge (debt bytes limit : ℕ) : ℕ :=
  min (Word.saturatingAdd 128 debt (Word.saturatingMul 128 bytes debtPerByte)) limit

def chargePadding (p : Pacer) (bytes : ℕ) : Pacer :=
  { p with paddingDebt := charge p.paddingDebt bytes (Word.saturatingMul 128 p.paddingRate maxDebt) }

def chargeSent (p : Pacer) (bytes : ℕ) : Pacer :=
  { p.chargePadding bytes with
    mediaDebt := charge p.mediaDebt bytes (debtLimit p.dataRate)
    chargedBytes := Word.saturatingAdd 128 p.chargedBytes bytes }

def commit (p : Pacer) (now wireBytes : ℕ) : Pacer :=
  (({ p with paddingRemaining := 0 } : Pacer).advance now).chargeSent wireBytes

def burstDebt (p : Pacer) : ℕ := min (p.dataRate * p.burstWindow) (maxBurstBytes * debtPerByte)

variable {p : Pacer} {now bytes : ℕ} {rate : ℕ} {debt : ℕ}

lemma saturatingMul_rate {n : ℕ} (hr : rate < 2 ^ 64) (hn : n ≤ maxElapsed) :
    Word.saturatingMul 128 rate n = rate * n := by
  have hle : rate * n ≤ 2 ^ 64 * maxElapsed := Nat.mul_le_mul hr.le hn
  exact min_eq_left (hle.trans (by decide))

lemma debtLimit_eq (h : 0 < rate) (hr : rate < 2 ^ 64) : debtLimit rate = rate * maxDebt := by
  rw [debtLimit, if_neg h.ne', saturatingMul_rate hr (by decide)]

lemma le_mul_div_ceil (debt : ℕ) (h : 0 < rate) : debt ≤ rate * ((debt + rate - 1) / rate) := by
  have hdiv := div_add_mod (debt + rate - 1) rate
  have hmod := mod_lt (debt + rate - 1) h
  omega

lemma mul_div_ceil_lt (debt : ℕ) (h : 0 < rate) : rate * ((debt + rate - 1) / rate) < debt + rate := by
  have hdiv := mul_div_le (debt + rate - 1) rate
  omega

lemma drainTime_le (debt rate : ℕ) : drainTime debt rate ≤ durationMax := by
  have hsec (n : ℕ) (hn : n / 1000000000 ≤ Word.max 64) : n ≤ durationMax := by
    rw [Word.max] at hn
    rw [durationMax]
    omega
  unfold drainTime
  split
  · split
    · exact zero_le _
    · exact le_rfl
  dsimp only
  split
  next h => exact hsec _ h
  · exact le_rfl

lemma le_mul_drainTime (h : 0 < rate) (hd : drainTime debt rate < durationMax) : debt ≤ rate * drainTime debt rate := by
  have hle := le_mul_div_ceil debt h
  rw [drainTime, if_neg h.ne'] at hd ⊢
  dsimp only at hd ⊢
  split at hd
  next hs => rwa [if_pos hs]
  · exact absurd hd (lt_irrefl _)

lemma drainTime_le_div (h : 0 < rate) : drainTime debt rate ≤ (debt + rate - 1) / rate := by
  rw [drainTime, if_neg h.ne']
  dsimp only
  split
  · exact le_rfl
  next hs =>
    rw [Word.max] at hs
    rw [durationMax]
    omega

lemma mediaDebt_of_drain_lt (h : 0 < p.dataRate) (hlt : drainTime p.mediaDebt p.dataRate <
    min p.burstWindow (drainTime (Word.saturatingMul 128 maxBurstBytes debtPerByte) p.dataRate)) :
    p.mediaDebt ≤ p.burstDebt := by
  obtain ⟨hw, hb⟩ := lt_min_iff.1 hlt
  have hdebt := le_mul_drainTime h (hb.trans_le (drainTime_le _ _))
  refine le_min (hdebt.trans (mul_le_mul_left _ hw.le)) ?_
  rw [show Word.saturatingMul 128 maxBurstBytes debtPerByte = maxBurstBytes * debtPerByte by decide] at hb
  have hstep := mul_le_mul_left p.dataRate (succ_le_of_lt (hb.trans_le (drainTime_le_div h)))
  have hceil := mul_div_ceil_lt (maxBurstBytes * debtPerByte) h
  rw [mul_succ] at hstep
  omega

@[simp] lemma advance_dataRate : (p.advance now).dataRate = p.dataRate := by
  simp only [advance]
  split <;> rfl

@[simp] lemma advance_burstWindow : (p.advance now).burstWindow = p.burstWindow := by
  simp only [advance]
  split <;> rfl

lemma mediaDebt_advance (hr : p.dataRate < 2 ^ 64) {at' : ℕ} (hat : p.processedAt = some at') (now : ℕ) :
    ∃ c, (p.advance now).processedAt = some c ∧ at' ≤ c ∧ now ≤ c ∧ (at' ≤ now → c = now) ∧
      (p.advance now).mediaDebt = p.mediaDebt - p.dataRate * min (c - at') maxElapsed := by
  simp only [advance, hat]
  split
  next hle =>
    refine ⟨at', rfl, le_rfl, hle, fun h => le_antisymm h hle, ?_⟩
    rw [Nat.sub_self, Nat.zero_min, mul_zero, Nat.sub_zero]
  next hle =>
    rw [saturatingMul_rate hr (min_le_right _ _)]
    exact ⟨now, rfl, (not_le.1 hle).le, le_rfl, fun _ => rfl, rfl⟩

lemma mediaDebt_of_eligible (h : 0 < p.dataRate) (hr : p.dataRate < 2 ^ 64) (he : p.eligible now = true) :
    ∃ at', p.processedAt = some at' ∧ at' ≤ now ∧ (p.advance now).processedAt = some now ∧
      (p.mediaDebt ≤ p.dataRate * maxDebt → (p.advance now).mediaDebt ≤ p.burstDebt) := by
  obtain ⟨deadline, hnext, hdue⟩ := (any_eq_true _ _).1 he
  rw [nextDeadline, if_neg h.ne'] at hnext
  obtain ⟨at', hat, hd⟩ := bind_eq_some_iff.1 hnext
  have hend := Option.some.inj (ite_none_right_eq_some.1 hd).2
  have hdue' := of_decide_eq_true hdue
  obtain ⟨c, hc, -, -, hnow, hdebt⟩ := mediaDebt_advance hr hat now
  obtain rfl := hnow (by omega)
  refine ⟨at', hat, by omega, hc, fun hlim => ?_⟩
  rw [hdebt]
  split at hend
  next hlt => exact (sub_le _ _).trans (mediaDebt_of_drain_lt h hlt)
  · -- The whole debt has drained, for it is worth half a second at most.
    have hshort : drainTime p.mediaDebt p.dataRate ≤ maxDebt := by
      refine (drainTime_le_div h).trans (Nat.lt_succ_iff.1 ?_)
      rw [Nat.div_lt_iff_lt_mul h, Nat.succ_mul, mul_comm]
      omega
    have hle := le_mul_drainTime h (hshort.trans_lt (by decide))
    have hpaid : p.dataRate * drainTime p.mediaDebt p.dataRate ≤ p.dataRate * min (c - at') maxElapsed :=
      mul_le_mul_left _ (le_min (by omega) (hshort.trans (by decide)))
    omega

lemma mediaDebt_chargeSent (h : 0 < p.dataRate) (hr : p.dataRate < 2 ^ 64) :
    (p.chargeSent bytes).mediaDebt = min (p.mediaDebt + bytes * debtPerByte) (p.dataRate * maxDebt) := by
  have hcap : p.dataRate * maxDebt ≤ Word.max 128 := by
    rw [← saturatingMul_rate hr (by decide)]
    exact min_le_right _ _
  rw [chargeSent, charge, debtLimit_eq h hr, Word.saturatingAdd, Word.saturatingMul]
  dsimp only
  omega

lemma chargeSent_frame : (p.chargeSent bytes).dataRate = p.dataRate ∧
    (p.chargeSent bytes).burstWindow = p.burstWindow ∧ (p.chargeSent bytes).processedAt = p.processedAt := by
  rw [chargeSent, chargePadding]
  exact ⟨rfl, rfl, rfl⟩

lemma commit_frame : (p.commit now bytes).dataRate = p.dataRate ∧ (p.commit now bytes).burstWindow = p.burstWindow := by
  rw [commit, chargeSent_frame.1, chargeSent_frame.2.1, advance_dataRate, advance_burstWindow]
  exact ⟨rfl, rfl⟩

end Pacer

structure Paced where
  pacer : Pacer
  log : List (ℕ × ℕ)

inductive PaceOp
  | commit (now wireBytes : ℕ)
  | processIdle (now : ℕ)

namespace Paced

def step (r : Paced) : PaceOp → Paced
  | .commit now wireBytes => ⟨r.pacer.commit now wireBytes, r.log ++ [(now, wireBytes)]⟩
  | .processIdle now => ⟨r.pacer.processIdle now, r.log⟩

def Conforming (r : Paced) : PaceOp → Prop
  | .commit now wireBytes =>
    r.pacer.eligible now = true ∧ wireBytes * debtPerByte + r.pacer.burstDebt ≤ r.pacer.dataRate * maxDebt
  | .processIdle _ => True

instance (r : Paced) : (op : PaceOp) → Decidable (r.Conforming op)
  | .commit _ _ => inferInstanceAs (Decidable (_ ∧ _))
  | .processIdle _ => inferInstanceAs (Decidable True)

def machine (pacer : Pacer) : Machine Paced PaceOp where
  init r := r = ⟨pacer, []⟩
  guard := Conforming
  step := step

instance (pacer : Pacer) (r : Paced) (op : PaceOp) : Decidable ((machine pacer).guard r op) :=
  inferInstanceAs (Decidable (r.Conforming op))

def total (log : List (ℕ × ℕ)) : ℕ := (log.map Prod.snd).sum

def sentBy (log : List (ℕ × ℕ)) (t : ℕ) : ℕ := total (log.filter fun x => x.1 ≤ t)

def largest (log : List (ℕ × ℕ)) : ℕ := (log.map Prod.snd).foldr max 0

variable {pacer : Pacer} {r : Paced} {log : List (ℕ × ℕ)} {now bytes t t0 : ℕ}

lemma sentBy_le_total (log : List (ℕ × ℕ)) (t : ℕ) : sentBy log t ≤ total log :=
  List.Sublist.sum_le_sum (filter_sublist.map _) fun _ _ => zero_le _

lemma total_concat : total (log ++ [(now, bytes)]) = total log + bytes := by simp [total]

lemma sentBy_concat_of_lt (h : t < now) : sentBy (log ++ [(now, bytes)]) t = sentBy log t := by
  simp [sentBy, h]

lemma largest_concat : largest (log ++ [(now, bytes)]) = max (largest log) bytes := by
  induction log with
  | nil => simp [largest]
  | cons x log ih =>
    simp only [largest, cons_append, map_cons, foldr_cons] at ih ⊢
    rw [ih, max_assoc]

structure Bounded (pacer : Pacer) (t0 : ℕ) (r : Paced) : Prop where
  rate : r.pacer.dataRate = pacer.dataRate
  window : r.pacer.burstWindow = pacer.burstWindow
  cursor : ∃ c, r.pacer.processedAt = some c ∧ t0 ≤ c ∧
    total r.log * debtPerByte ≤ pacer.dataRate * (c - t0) + r.pacer.mediaDebt
  limit : r.pacer.mediaDebt ≤ pacer.dataRate * maxDebt
  bound : ∀ t, sentBy r.log t * debtPerByte ≤ pacer.dataRate * (t - t0) + pacer.burstDebt + largest r.log * debtPerByte

lemma Bounded.processIdle (h : Bounded pacer t0 r) (hr : pacer.dataRate < 2 ^ 64) (now : ℕ) :
    Bounded pacer t0 (r.step (.processIdle now)) := by
  obtain ⟨at', hat, hstart, hpaid⟩ := h.cursor
  obtain ⟨c, hc, hle, -, -, hdebt⟩ := Pacer.mediaDebt_advance (h.rate ▸ hr) hat now
  refine ⟨Pacer.advance_dataRate.trans h.rate, Pacer.advance_burstWindow.trans h.window,
    ⟨c, hc, hstart.trans hle, ?_⟩, ?_, h.bound⟩
  · change total r.log * debtPerByte ≤ _ + (r.pacer.advance now).mediaDebt
    have hspan : c - t0 = (at' - t0) + (c - at') := by omega
    have hmin : pacer.dataRate * min _ maxElapsed ≤ pacer.dataRate * (c - at') := mul_le_mul_left _ (min_le_left _ _)
    rw [hdebt, hspan, mul_add, h.rate]
    omega
  · change (r.pacer.advance now).mediaDebt ≤ _
    rw [hdebt]
    exact (sub_le _ _).trans h.limit

section

variable (h0 : 0 < pacer.dataRate) (hr : pacer.dataRate < 2 ^ 64) (hg : r.Conforming (.commit now bytes))

include h0 hr hg

lemma commit_charges (hrate : r.pacer.dataRate = pacer.dataRate) (hwin : r.pacer.burstWindow = pacer.burstWindow) :
    ∃ p : Pacer, p = ({ r.pacer with paddingRemaining := 0 } : Pacer).advance now ∧ p.processedAt = some now ∧
      (r.pacer.mediaDebt ≤ pacer.dataRate * maxDebt → p.mediaDebt ≤ pacer.burstDebt) ∧
      (r.pacer.commit now bytes).processedAt = some now ∧ (r.pacer.commit now bytes).mediaDebt =
        min (p.mediaDebt + bytes * debtPerByte) (pacer.dataRate * maxDebt) ∧
      bytes * debtPerByte + pacer.burstDebt ≤ pacer.dataRate * maxDebt := by
  obtain ⟨he, hroom⟩ := hg
  have hE : r.pacer.burstDebt = pacer.burstDebt := by rw [Pacer.burstDebt, Pacer.burstDebt, hrate, hwin]
  obtain ⟨at', -, -, hnow, hburst⟩ := Pacer.mediaDebt_of_eligible (p := { r.pacer with paddingRemaining := 0 })
    (hrate ▸ h0) (hrate ▸ hr) he
  have hkeep : (({ r.pacer with paddingRemaining := 0 } : Pacer).advance now).dataRate = pacer.dataRate :=
    Pacer.advance_dataRate.trans hrate
  refine ⟨_, rfl, hnow, fun hlim => hE ▸ hburst (hrate ▸ hlim), ?_, ?_, hE ▸ hrate ▸ hroom⟩
  · rw [Pacer.commit, Pacer.chargeSent_frame.2.2, hnow]
  · rw [Pacer.commit, Pacer.mediaDebt_chargeSent (hkeep ▸ h0) (hkeep ▸ hr), hkeep]

lemma Bounded.commit (h : Bounded pacer t0 r) : Bounded pacer t0 (r.step (.commit now bytes)) := by
  have hidle := Bounded.processIdle (r := ⟨{ r.pacer with paddingRemaining := 0 }, r.log⟩)
    { h with } hr now
  obtain ⟨p, hp, hnow, hburst, hat, hcharge, hroom⟩ := commit_charges h0 hr hg h.rate h.window
  have hdebt := hburst h.limit
  obtain ⟨c, hc, hstart, hpaid⟩ := hidle.cursor
  simp only [step, Pacer.processIdle, ← hp] at hc hpaid
  cases hnow.symm.trans hc
  refine ⟨Pacer.commit_frame.1.trans h.rate, Pacer.commit_frame.2.trans h.window, ⟨now, hat, hstart, ?_⟩, ?_, fun t => ?_⟩
  · simp only [step, total_concat, add_mul]
    omega
  · simp only [step]
    omega
  · simp only [step, largest_concat]
    by_cases ht : t < now
    · rw [sentBy_concat_of_lt ht]
      exact (h.bound t).trans (Nat.add_le_add_left (Nat.mul_le_mul_right _ (le_max_left _ _)) _)
    have hsum := mul_le_mul_right debtPerByte (sentBy_le_total (r.log ++ [(now, bytes)]) t)
    have htime : pacer.dataRate * (now - t0) ≤ pacer.dataRate * (t - t0) := mul_le_mul_left _ (by omega)
    have hpacket : bytes * debtPerByte ≤ max (largest r.log) bytes * debtPerByte :=
      mul_le_mul_right _ (le_max_right _ _)
    rw [total_concat, add_mul] at hsum
    omega

lemma bounded_first (hrate : r.pacer.dataRate = pacer.dataRate) (hwin : r.pacer.burstWindow = pacer.burstWindow)
    (hlog : r.log = []) :
    Bounded pacer now (r.step (.commit now bytes)) := by
  obtain ⟨p, -, -, -, hat, hcharge, hroom⟩ := commit_charges h0 hr hg hrate hwin
  have hsum : total [(now, bytes)] = bytes := by simp [total]
  refine ⟨Pacer.commit_frame.1.trans hrate, Pacer.commit_frame.2.trans hwin, ⟨now, hat, le_rfl, ?_⟩,
    hcharge.le.trans (min_le_right _ _), fun t => ?_⟩
  · simp only [step, hlog, nil_append, hsum]
    omega
  have hle := mul_le_mul_right debtPerByte (sentBy_le_total [(now, bytes)] t)
  have hlarge : largest [(now, bytes)] = bytes := by simp [largest]
  simp only [step, hlog, nil_append, hlarge]
  rw [hsum] at hle
  omega

end

/-- Whatever polling happens in between, the bytes committed since the first commit stay within what the rate has
earned, the burst and one packet. -/
theorem commits_conform (h0 : 0 < pacer.dataRate) (hr : pacer.dataRate < 2 ^ 64) (h : (machine pacer).Reachable r)
    (hfirst : r.log.head?.map Prod.fst = some t0) (t : ℕ) :
    sentBy r.log t * debtPerByte ≤ pacer.dataRate * (t - t0) + pacer.burstDebt + largest r.log * debtPerByte := by
  have hI : (r.pacer.dataRate = pacer.dataRate ∧ r.pacer.burstWindow = pacer.burstWindow) ∧
      ∀ t0, r.log.head?.map Prod.fst = some t0 → Bounded pacer t0 r := by
    refine h.invariant (I := fun r => (r.pacer.dataRate = pacer.dataRate ∧ r.pacer.burstWindow = pacer.burstWindow) ∧
      ∀ t0, r.log.head?.map Prod.fst = some t0 → Bounded pacer t0 r) ?_ ?_
    · rintro _ rfl
      exact ⟨⟨rfl, rfl⟩, nofun⟩
    rintro r (⟨now, bytes⟩ | now) ⟨⟨hrate, hwin⟩, hb⟩ hg
    · refine ⟨⟨Pacer.commit_frame.1.trans hrate, Pacer.commit_frame.2.trans hwin⟩, fun t0 ht0 => ?_⟩
      by_cases hlog : r.log = []
      · have hnow : now = t0 := by simpa [machine, step, hlog] using ht0
        exact hnow ▸ bounded_first h0 hr hg hrate hwin hlog
      · refine (hb t0 ?_).commit h0 hr hg
        simpa only [machine, step, head?_append_of_ne_nil _ hlog] using ht0
    · exact ⟨⟨Pacer.advance_dataRate.trans hrate, Pacer.advance_burstWindow.trans hwin⟩,
        fun t0 ht0 => (hb t0 ht0).processIdle hr now⟩
  exact (hI.2 t0 hfirst).bound t

def burstOps : List PaceOp := List.replicate 5 (.commit 0 1000) ++ [.processIdle 1000000, .commit 5000000 1000]

def burstPacer : Pacer := Pacer.default.configure 0 8000000 0 5000000

theorem commits_conform_burst : ¬ (machine burstPacer).Admits ⟨burstPacer, []⟩ (List.replicate 6 (.commit 0 1000)) ∧
    ∀ t, sentBy (burstOps.foldl step ⟨burstPacer, []⟩).log t * debtPerByte ≤
      8000000 * (t - 0) + 5000 * debtPerByte + 1000 * debtPerByte := by
  have hg : (machine burstPacer).Admits ⟨burstPacer, []⟩ burstOps := by decide +kernel
  exact ⟨by decide +kernel, commits_conform (by decide) (by decide)
    (Machine.Reachable.run (.init rfl) hg) rfl⟩

end Paced

end Pulsebeam.Cc
