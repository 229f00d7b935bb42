import Pulsebeam.Feedback.Receiver

/-! Reports accepted one after the other until nothing is left to report. -/

namespace Pulsebeam.Feedback.Receiver

open Pulsebeam.Lib List Option

section Model

def drainStep (r : Receiver) (now : Duration) (count : ℕ) : Receiver :=
  match r.report now with
  | none => r
  | some window => r.orElse (r.accept window count now)

def drain (r : Receiver) (now : ℕ → Duration) (count : ℕ → ℕ) : ℕ → Receiver
  | 0 => r
  | n + 1 => (r.drain now count n).drainStep (now n) (count n)

end Model

def backlog (r : Receiver) : ℕ :=
  match r.config.order with
  | .continuous _ => r.next.elim 0 fun next => r.highest.elim 0 fun highest => highest + 1 - next
  | .independent => r.receipts.countP (·.pending)

def Covers (r : Receiver) (window : ReportWindow) (count : ℕ) : Prop :=
  match r.config.order with
  | .continuous _ => True
  | .independent => ∃ e ∈ r.receipts, e.pending = true ∧ e.receipt.space = window.space ∧ window.base ≤ e.packet ∧
      e.packet < window.base + count

variable {r r' : Receiver} {window : ReportWindow} {count : ℕ} {now : Duration}

section Step

lemma span_le {space : SpaceId} {base last : ℕ} (h : r.span = some (space, base, last)) : last ≤ Word.max 64 := by
  unfold span at h
  split at h
  · simp only [bind_eq_bind, bind_eq_some_iff] at h
    obtain ⟨_, _, _, _, _, _, _, rfl, rfl⟩ := h
    exact (min_le_left _ _).trans (min_le_right _ _)
  · simp only [bind_eq_bind, bind_eq_some_iff] at h
    obtain ⟨_, _, _, _, _, _, _, rfl, rfl⟩ := h
    exact (min_le_right _ _).trans (min_le_right _ _)

lemma report_spec (h : r.report now = some window) :
    ∃ last, r.span = some (window.space, window.base, last) ∧ window.count = last - window.base ∧ window.base < last := by
  unfold report at h
  simp only [bind_eq_bind, bind_eq_some_iff] at h
  obtain ⟨deadline, -, h⟩ := h
  split at h
  · cases h
  obtain ⟨⟨space, base, last⟩, hspan, h⟩ := bind_eq_some_iff.1 h
  split at h
  · cases h
  next hlt =>
    cases h
    simp only [Bool.or_eq_true, decide_eq_true_eq, not_or] at hlt
    exact ⟨last, hspan, rfl, Nat.lt_of_sub_ne_zero hlt.2⟩

lemma report_next {space : SpaceId} (horder : r.config.order = .continuous space) (h : r.report now = some window) :
    r.next = some window.base ∧ ∃ highest, r.highest = some highest ∧ window.count + window.base ≤ highest + 1 := by
  obtain ⟨last, hspan, hcount, hlt⟩ := report_spec h
  simp only [span, horder, bind_eq_bind, bind_eq_some_iff] at hspan
  obtain ⟨base, hnext, highest, hhighest, top, htop, -, rfl, rfl⟩ := hspan
  refine ⟨hnext, highest, hhighest, ?_⟩
  have htop' : top = highest + 1 := by
    unfold checkedAdd at htop
    split at htop
    · exact (Option.some.inj htop).symm
    · cases htop
  rw [hcount, Nat.sub_add_cancel hlt.le, ← htop']
  exact min_le_right _ _

lemma countP_settle_le (window : ReportWindow) (last : ℕ) (l : List ReceiptEntry) :
    (l.map (settle window last)).countP (·.pending) ≤ l.countP (·.pending) := by
  rw [countP_map]
  refine countP_mono_left fun e _ he => ?_
  simp only [Function.comp_apply, settle] at he
  split at he
  · cases he
  · exact he

lemma countP_settle_lt {last : ℕ} {e : ReceiptEntry} {l : List ReceiptEntry} (he : e ∈ l) (hpending : e.pending = true)
    (hspace : e.receipt.space = window.space) (hbase : window.base ≤ e.packet) (hlast : e.packet < last) :
    (l.map (settle window last)).countP (·.pending) < l.countP (·.pending) := by
  have hsettled : (settle window last e).pending = false := by
    rw [settle, if_pos (by simp [hspace, hbase, hlast])]
  obtain ⟨before, after, rfl⟩ := append_of_mem he
  have hb := countP_settle_le window last before
  have ha := countP_settle_le window last after
  simp only [map_append, map_cons, countP_append, countP_cons, hsettled, hpending]
  simp only [Bool.false_eq_true, if_false, if_true]
  omega

section

variable (hreport : r.report now = some window) (hpos : 1 ≤ count) (hle : count ≤ window.count)
  (hroom : r.version + 1 < 2 ^ 64)

include hreport hpos hle hroom

lemma accept_ok :
    ∃ r', r.accept window count now = .ok r' ∧ r'.version = r.version + 1 ∧ r'.config = r.config ∧
      r'.receipts = r.receipts.map (settle window (window.base + count)) ∧ r'.highest = r.highest ∧
      ∀ space, r.config.order = .continuous space → r'.next = some (window.base + count) := by
  obtain ⟨last, hspan, hcount, hlt⟩ := report_spec hreport
  have hlast := span_le hspan
  have hversion : checkedAdd r.version 1 = some _ := if_pos hroom
  have hend : checkedAdd window.base count = some _ := if_pos (by
    have hmax : Word.max 64 = 2 ^ 64 - 1 := rfl
    omega)
  have hvalid : ¬ (decide (count = 0) || decide (window.count < count)) = true := by
    simp only [Bool.or_eq_true, decide_eq_true_eq]
    omega
  unfold accept
  rw [if_neg (not_not.2 hreport), if_neg hvalid, hversion, hend]
  cases horder : r.config.order with
  | continuous space =>
    simp only [horder]
    exact ⟨_, rfl, rfl, rfl, rfl, rfl, fun _ _ => rfl⟩
  | independent =>
    simp only [horder]
    exact ⟨_, rfl, rfl, rfl, rfl, rfl, nofun⟩

lemma accept_progress (hcovers : r.Covers window count) :
    ∃ r', r.accept window count now = .ok r' ∧ r'.version = r.version + 1 ∧ r'.backlog < r.backlog := by
  obtain ⟨r', haccept, hversion, hconfig, hreceipts, hhighest, hnext⟩ := accept_ok hreport hpos hle hroom
  refine ⟨r', haccept, hversion, ?_⟩
  unfold backlog
  rw [hconfig, hreceipts, hhighest]
  unfold Covers at hcovers
  cases horder : r.config.order with
  | continuous space =>
    obtain ⟨hbase, highest, htop, hspan⟩ := report_next horder hreport
    simp only [hnext space horder, hbase, htop, elim_some]
    omega
  | independent =>
    simp only [horder] at hcovers
    obtain ⟨e, he, hpending, hspace, hbase, hin⟩ := hcovers
    exact countP_settle_lt he hpending hspace hbase hin

lemma accept_backlog (hnot : ¬ r.Covers window count) :
    ∃ r', r.accept window count now = .ok r' ∧ r.backlog ≤ r'.backlog := by
  obtain ⟨r', haccept, -, hconfig, hreceipts, -⟩ := accept_ok hreport hpos hle hroom
  refine ⟨r', haccept, ?_⟩
  unfold backlog
  rw [hconfig, hreceipts]
  unfold Covers at hnot
  cases horder : r.config.order with
  | continuous space => simp [horder] at hnot
  | independent =>
    simp only [horder] at hnot
    rw [countP_map]
    refine countP_mono_left fun e he hpending => ?_
    have hout : ¬ (decide (e.receipt.space = window.space) && decide (window.base ≤ e.packet) &&
        decide (e.packet < window.base + count)) = true := by
      simp only [Bool.and_eq_true, decide_eq_true_eq]
      rintro ⟨⟨hspace, hbase⟩, hlt⟩
      exact hnot ⟨e, he, hpending, hspace, hbase, hlt⟩
    simp only [Function.comp_apply, settle, if_neg hout, hpending]

end

lemma Sound.backlog_pos (hs : Sound r) (h : r.deadline ≠ none) : 0 < r.backlog := by
  have hdue : r.unreported = true := by
    rw [← hs.due]
    exact Option.isSome_iff_ne_none.2 h
  unfold unreported at hdue
  unfold backlog
  cases horder : r.config.order with
  | continuous space =>
    simp only [horder, Option.any_eq_true, decide_eq_true_eq] at hdue
    obtain ⟨next, hnext, highest, hhighest, hle⟩ := hdue
    simp only [hnext, hhighest, Option.elim_some]
    omega
  | independent =>
    simp only [horder] at hdue
    simpa [countP_pos_iff] using hdue

end Step

section Run

variable {now : ℕ → Duration} {count : ℕ → ℕ}

lemma Sound.drainStep {now : Duration} {count : ℕ} (hs : Sound r) (hne : r.deadline ≠ none)
    (hdue : ∀ deadline, r.deadline = some deadline → deadline ≤ now)
    (hcount : ∀ window, r.report now = some window → 1 ≤ count ∧ count ≤ window.count ∧ r.Covers window count)
    (hroom : r.version + 1 < 2 ^ 64) :
    Sound (r.drainStep now count) ∧ (r.drainStep now count).version = r.version + 1 ∧
      (r.drainStep now count).backlog < r.backlog := by
  obtain ⟨deadline, hdeadline⟩ := ne_none_iff_exists'.1 hne
  obtain ⟨window, hreport, -⟩ := hs.report hdeadline (hdue deadline hdeadline)
  obtain ⟨hpos, hle, hcovers⟩ := hcount window hreport
  obtain ⟨r', haccept, hversion, hless⟩ := accept_progress hreport hpos hle hroom hcovers
  have hstep : r.drainStep now count = r' := by
    simp only [Receiver.drainStep, hreport, haccept]
    rfl
  rw [hstep]
  exact ⟨hs.accept haccept, hversion, hless⟩

lemma drain_invariant (hs : Sound r)
    (hdue : ∀ n deadline, (r.drain now count n).deadline = some deadline → deadline ≤ now n)
    (hcount : ∀ n window, (r.drain now count n).report (now n) = some window →
      1 ≤ count n ∧ count n ≤ window.count ∧ (r.drain now count n).Covers window (count n))
    (hroom : r.version + r.backlog < 2 ^ 64) {n : ℕ} :
    (∃ m ≤ n, (r.drain now count m).deadline = none) ∨
      Sound (r.drain now count n) ∧ (r.drain now count n).version = r.version + n ∧
        (r.drain now count n).backlog + n ≤ r.backlog := by
  induction n with
  | zero => exact .inr ⟨hs, rfl, le_rfl⟩
  | succ n ih =>
    rcases ih with ⟨m, hm, hnone⟩ | ⟨hsn, hversion, hless⟩
    · exact .inl ⟨m, by omega, hnone⟩
    by_cases hne : (r.drain now count n).deadline = none
    · exact .inl ⟨n, by omega, hne⟩
    have hpos := hsn.backlog_pos hne
    obtain ⟨hs', hversion', hless'⟩ := hsn.drainStep hne (hdue n) (hcount n) (by omega)
    refine .inr ⟨hs', hversion'.trans (by omega), ?_⟩
    simp only [drain]
    omega

/-- Everything is reported after as many acceptances as there were receipts or sequences left, if each covers something. -/
theorem drain_of_covers {config : ReceiverConfig} {entryBytes : ℕ} (h : (machine config entryBytes).Reachable r) :
    (r.version + r.backlog < 2 ^ 64 → ∀ (now : ℕ → Duration) (count : ℕ → ℕ),
      (∀ n deadline, (r.drain now count n).deadline = some deadline → deadline ≤ now n) →
      (∀ n window, (r.drain now count n).report (now n) = some window →
        1 ≤ count n ∧ count n ≤ window.count ∧ (r.drain now count n).Covers window (count n)) →
      ∃ n ≤ r.backlog, (r.drain now count n).deadline = none) ∧
    ∀ now window count, r.report now = some window → 1 ≤ count → count ≤ window.count → r.version + 1 < 2 ^ 64 →
      ∃ r', r.accept window count now = .ok r' ∧ (r'.backlog < r.backlog ↔ r.Covers window count) := by
  refine ⟨fun hroom now count hdue hcount => ?_, fun now window count hreport hpos hle hroom => ?_⟩
  · rcases drain_invariant (sound h) hdue hcount hroom with hdone | ⟨hs, -, hless⟩
    · exact hdone
    refine ⟨r.backlog, le_rfl, ?_⟩
    by_contra hne
    have hpos := hs.backlog_pos hne
    omega
  · by_cases hcovers : r.Covers window count
    · obtain ⟨r', haccept, -, hless⟩ := accept_progress hreport hpos hle hroom hcovers
      exact ⟨r', haccept, iff_of_true hless hcovers⟩
    · obtain ⟨r', haccept, hmore⟩ := accept_backlog hreport hpos hle hroom hcovers
      exact ⟨r', haccept, iff_of_false (not_lt.2 hmore) hcovers⟩

end Run

section Stall

def stalled (version : ℕ) (deadline : Duration) : Receiver :=
  ⟨⟨8, 3, 7, .independent⟩, 9, [⟨⟨1, 0, 0, none, 0⟩, false⟩, ⟨⟨1, 5, 8, none, 0⟩, true⟩], none, none, some deadline,
    version, true⟩

def stallOps : List Op :=
  [.reserve true, .observe 9 ⟨1, 0, 0, none, 0⟩, .accept ⟨9, 1, 0, 1, 1⟩ 1 7, .observe 9 ⟨1, 5, 8, none, 0⟩]

lemma stallOps_eq : stallOps.foldl apply ⟨⟨8, 3, 7, .independent⟩, 9, [], none, none, none, 0, false⟩ = stalled 3 15 := by
  decide +kernel

lemma reachable_stalled : (machine ⟨8, 3, 7, .independent⟩ 48).Reachable (stalled 3 15) := by
  have hadmits : (machine ⟨8, 3, 7, .independent⟩ 48).Admits ⟨⟨8, 3, 7, .independent⟩, 9, [], none, none, none, 0, false⟩
      stallOps := by decide +kernel
  exact stallOps_eq ▸ Machine.Reachable.run (.init ⟨9, rfl⟩) hadmits

variable {deadline : Duration}

lemma report_stalled (version : ℕ) (h : deadline ≤ now) :
    (stalled version deadline).report now = some ⟨9, 1, 3, 3, version⟩ := by
  have hspan : (stalled version deadline).span = some _ := rfl
  have hdeadline : (stalled version deadline).deadline = some deadline := rfl
  simp only [report, hdeadline, bind_eq_bind, bind_some, if_neg (not_lt.2 h)]
  rfl

lemma drainStep_stalled (version : ℕ) (h : deadline ≤ now) :
    ∃ version' deadline', deadline' ≤ now ∧ (stalled version deadline).drainStep now 1 = stalled version' deadline' := by
  have hreport := report_stalled version h
  rw [drainStep, hreport]
  dsimp only
  unfold accept
  rw [if_neg (not_not.2 hreport)]
  have hsame : (stalled version deadline).version = version := rfl
  cases hversion : checkedAdd version 1 with
  | none =>
    simp only [hsame, hversion]
    exact ⟨version, deadline, h, rfl⟩
  | some version' =>
    simp only [hsame, hversion]
    exact ⟨version', now, le_rfl, rfl⟩

/-- Accepting one status of each report never gets to the packet that is not reported. -/
theorem drain_stalls : ∃ r now count, (machine ⟨8, 3, 7, .independent⟩ 48).Reachable r ∧
    (∀ n deadline, (r.drain now count n).deadline = some deadline → deadline ≤ now n) ∧
    (∀ n window, (r.drain now count n).report (now n) = some window → 1 ≤ count n ∧ count n ≤ window.count) ∧
    ∀ n, (r.drain now count n).deadline ≠ none := by
  have hrun : ∀ n, ∃ version deadline, deadline ≤ 15 ∧
      (stalled 3 15).drain (fun _ => 15) (fun _ => 1) n = stalled version deadline := by
    intro n
    induction n with
    | zero => exact ⟨3, 15, le_rfl, rfl⟩
    | succ n ih =>
      obtain ⟨version, deadline, hle, heq⟩ := ih
      obtain ⟨version', deadline', hle', hstep⟩ := drainStep_stalled version hle
      refine ⟨version', deadline', hle', ?_⟩
      rw [drain, heq]
      exact hstep
  refine ⟨stalled 3 15, fun _ => 15, fun _ => 1, reachable_stalled, fun n deadline hd => ?_, fun n window hw => ?_,
    fun n => ?_⟩
  all_goals obtain ⟨version, deadline', hle, heq⟩ := hrun n
  · rw [heq] at hd
    cases hd
    exact hle
  · rw [heq, report_stalled version hle] at hw
    cases hw
    exact ⟨le_rfl, Nat.le_add_left 1 2⟩
  · rw [heq]
    simp [stalled]

theorem drain_of_covers_stalled : (stalled 3 15).deadline = some 15 ∧
    ∃ n ≤ (stalled 3 15).backlog, ((stalled 3 15).drain (fun _ => 15) (fun _ => 3) n).deadline = none := by
  have hdone : ∀ n, (stalled 3 15).drain (fun _ => 15) (fun _ => 3) (n + 1) = (stalled 3 15).drainStep 15 3 := by
    intro n
    induction n with
    | zero => rfl
    | succ n ih =>
      rw [drain, ih]
      decide +kernel
  have hnone : ((stalled 3 15).drainStep 15 3).deadline = none := by decide +kernel
  refine ⟨rfl, (drain_of_covers reachable_stalled).1 (by decide +kernel) _ _ (fun n deadline hd => ?_)
    fun n window hw => ?_⟩
  all_goals cases n with
    | zero => ?_
    | succ n => ?_
  · cases hd
    exact le_rfl
  · rw [hdone n] at hd
    cases hd
  · have hreport := hw.symm.trans (report_stalled 3 (le_refl 15))
    cases hreport
    exact ⟨by decide, by decide, _, mem_cons_of_mem _ mem_cons_self, rfl, rfl, by decide, by decide⟩
  · rw [hdone n] at hw
    cases hw

end Stall

end Pulsebeam.Feedback.Receiver
