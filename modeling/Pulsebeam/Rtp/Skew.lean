import Pulsebeam.Lib.Run
import Pulsebeam.Rtp.SwitcherSpec

/-! Histories of one timeline: where the first packet after a rebase lands, against the clock of the first one ever. -/

namespace Pulsebeam.Rtp.Timeline

open Pulsebeam.Lib

def peak (floor : ℕ) (l : List ℕ) : ℕ := l.max?.getD floor

section Peak

variable {floor a n : ℕ} {l : List ℕ}

lemma peak_cons : peak floor (a :: l) = if l = [] then a else max (peak floor l) a := by
  cases l with
  | nil => simp [peak]
  | cons b l => simp [peak, max_comm]

lemma peak_lt (hf : floor < n) (h : ∀ x ∈ l, x < n) : peak floor l < n := by
  cases hm : l.max? with
  | none => simpa [peak, hm] using hf
  | some m => simpa [peak, hm] using h m (List.max?_mem hm)

lemma le_peak (h : a ∈ l) : a ≤ peak floor l := by
  cases hm : l.max? with
  | none => simp [List.max?_eq_none_iff.1 hm] at h
  | some m => simpa [peak, hm] using (List.max?_eq_some_iff.1 hm).2 a h

end Peak

structure Written where
  base : ℕ
  timeline : Timeline
  log : List RtpPacket

inductive TimelineOp
  | rebase (pkt : RtpPacket)
  | rewrite (pkt : RtpPacket)
  | rewriteSequential (pkt : RtpPacket)
  | rewriteAudio (pkt : RtpPacket)

namespace Written

def emit (w : Written) (r : Timeline × RtpPacket) : Written := { w with timeline := r.1, log := r.2 :: w.log }

def step (w : Written) : TimelineOp → Written
  | .rebase pkt => { w with timeline := w.timeline.rebase pkt }
  | .rewrite pkt => w.emit (w.timeline.rewrite pkt)
  | .rewriteSequential pkt => w.emit (w.timeline.rewriteSequential pkt)
  | .rewriteAudio pkt => (w.timeline.rewriteAudio pkt).elim w w.emit

def machine (rate : Frequency) : Machine Written TimelineOp where
  init w := ∃ base < 2 ^ 16, w = ⟨base, .newWithBase rate base, []⟩
  guard w op := ∀ out ∈ (w.step op).log, out.seqNo < 2 ^ 62 ∧ out.rtpTs.ticks < 2 ^ 62
  step := step

def highestSeq (w : Written) : ℕ := peak w.base (w.log.map (·.seqNo))

def highestTs (w : Written) : ℕ := peak 0 (w.log.map (·.rtpTs.ticks))

/-- The time of the first packet ever, moved on by the playout time that has passed since. -/
def wallClock (w : Written) (pkt : RtpPacket) : ℕ :=
  match w.log.getLast? with
  | some first => first.rtpTs.ticks + (pkt.playoutTime - first.playoutTime) * w.timeline.clockRate.hz / 10 ^ 9
  | none => 0

structure Tracks (f : Frequency) (w : Written) : Prop where
  rate : w.timeline.clockRate = f
  interval : ∀ i ∈ w.timeline.frameInterval, 0 < i ∧ i ≤ f.hz
  epoch : w.timeline.epoch = w.log.getLast?.map fun first => (first.playoutTime, first.rtpTs.ticks)
  highestSeq : w.timeline.maxOutput = w.highestSeq
  highestTs : w.timeline.maxOutputTs = w.highestTs
  base : w.base < 2 ^ 16
  bounded : ∀ out ∈ w.log, out.seqNo < 2 ^ 62 ∧ out.rtpTs.ticks < 2 ^ 62

end Written

variable {t : Timeline} {pkt : RtpPacket} {a b : ℕ}

lemma translateDdFrame_playout : (translateDdFrame pkt b).playoutTime = pkt.playoutTime := by
  rw [translateDdFrame]
  split
  · rfl
  · split <;> rfl

lemma applyDd_clock : (t.applyDd pkt).1.clockRate = t.clockRate ∧ (t.applyDd pkt).1.frameInterval = t.frameInterval ∧
    (t.applyDd pkt).2.playoutTime = pkt.playoutTime := by
  rw [applyDd]
  split
  · exact ⟨rfl, rfl, rfl⟩
  · exact ⟨rfl, rfl, translateDdFrame_playout⟩

lemma advanceTs_clock : (t.advanceTs b).clockRate = t.clockRate ∧
    ∀ i ∈ (t.advanceTs b).frameInterval, i ∈ t.frameInterval ∨ 0 < i ∧ i ≤ t.clockRate.hz := by
  rw [advanceTs]
  split
  · dsimp only
    split
    · exact ⟨rfl, fun i hi => .inl hi⟩
    · split
      next hp =>
        refine ⟨rfl, fun i hi => .inr ?_⟩
        rw [Option.mem_some_iff] at hi
        simp only [plausibleInterval, Bool.and_eq_true, decide_eq_true_eq] at hp
        omega
      · exact ⟨rfl, fun i hi => .inl hi⟩
  · exact ⟨rfl, fun i hi => .inl hi⟩

lemma advanceOutput_clock (playout : Instant) : (t.advanceOutput playout a b).clockRate = t.clockRate ∧
    (t.advanceOutput playout a b).epoch = some (t.epoch.getD (playout, b)) ∧
    ∀ i ∈ (t.advanceOutput playout a b).frameInterval, i ∈ t.frameInterval ∨ 0 < i ∧ i ≤ t.clockRate.hz := by
  cases he : t.epoch with
  | none =>
    rw [advanceOutput, he]
    exact ⟨rfl, rfl, fun i hi => .inl hi⟩
  | some e =>
    have hadv : t.advanceOutput playout a b = ({ t with maxOutput := max t.maxOutput a } : Timeline).advanceTs b := by
      simp only [advanceOutput, he]
    rw [hadv]
    obtain ⟨hr, hi⟩ := @advanceTs_clock { t with maxOutput := max t.maxOutput a } b
    exact ⟨hr, (advanceTs_fields _ b).1.trans he, hi⟩

lemma apply_clock : (t.apply pkt a b).1.clockRate = t.clockRate ∧ (t.apply pkt a b).2.playoutTime = pkt.playoutTime ∧
    (t.apply pkt a b).1.epoch = some (t.epoch.getD (pkt.playoutTime, b)) ∧
    ∀ i ∈ (t.apply pkt a b).1.frameInterval, i ∈ t.frameInterval ∨ 0 < i ∧ i ≤ t.clockRate.hz := by
  obtain ⟨hrate, hint, hplay⟩ := @applyDd_clock t pkt
  obtain ⟨hr, he, hi⟩ := @advanceOutput_clock (t.applyDd pkt).1 a b (t.applyDd pkt).2.playoutTime
  rw [hint, hrate] at hi
  refine ⟨hr.trans hrate, hplay, he.trans ?_, hi⟩
  rw [(applyDd_fields t pkt).1, hplay]

namespace Written

variable {f : Frequency} {w : Written}

lemma Tracks.emit (h : w.Tracks f) (hb : ∀ out ∈ (w.emit (w.timeline.apply pkt a b)).log,
    out.seqNo < 2 ^ 62 ∧ out.rtpTs.ticks < 2 ^ 62) : (w.emit (w.timeline.apply pkt a b)).Tracks f := by
  obtain ⟨hrate, hplay, hepoch, hint⟩ := @apply_clock w.timeline pkt a b
  have ha := apply_applied w.timeline pkt a b
  have hempty : w.timeline.epoch = none ↔ w.log = [] := by simp [h.epoch]
  refine ⟨hrate.trans h.rate, fun i hi => ?_, ?_, ?_, ?_, h.base, hb⟩
  · rcases hint i hi with hi | hi
    · exact h.interval i hi
    · rwa [h.rate] at hi
  · rw [Written.emit, hepoch, h.epoch, List.getLast?_cons]
    cases w.log.getLast? with
    | none => simp [hplay, ha.ticks]
    | some first => rfl
  · rw [Written.emit, ha.maxOutput, h.highestSeq]
    simp only [hempty, Written.highestSeq, List.map_cons, peak_cons, List.map_eq_nil_iff, ha.seqNo]
  · rw [Written.emit, ha.maxOutputTs, h.highestTs]
    simp only [hempty, Written.highestTs, List.map_cons, peak_cons, List.map_eq_nil_iff, ha.ticks]

lemma Tracks.step (h : w.Tracks f) {op : TimelineOp} (hb : (machine f).guard w op) : (w.step op).Tracks f := by
  cases op with
  | rebase pkt => exact { h with }
  | rewrite pkt => exact h.emit hb
  | rewriteSequential pkt => exact h.emit hb
  | rewriteAudio pkt =>
    simp only [machine, Written.step, rewriteAudio] at hb ⊢
    split at hb
    next hlate =>
      rw [if_pos hlate]
      exact h
    next hlate =>
      rw [if_neg hlate]
      exact h.emit hb

lemma tracks (h : (machine f).Reachable w) : w.Tracks f := by
  refine h.invariant ?_ fun w op hw hg => hw.step hg
  rintro w ⟨base, hbase, rfl⟩
  exact ⟨rfl, nofun, rfl, rfl, rfl, hbase, nofun⟩

end Written

lemma switchTarget_near {raw : ℕ} (hm : t.maxOutputTs < 2 ^ 62) (hrate : t.clockRate.hz < 2 ^ 62)
    (hint : ∀ i ∈ t.frameInterval, 0 < i ∧ i ≤ t.clockRate.hz) (hraw : raw < 2 ^ 62) :
    t.maxOutputTs < t.switchTarget raw ∧ t.switchTarget raw < 2 ^ 64 ∧
      ∀ i ∈ t.frameInterval, 2 * t.maxOutputTs + i ≤ 2 * raw →
        2 * t.switchTarget raw ≤ 2 * raw + i ∧ 2 * raw ≤ 2 * t.switchTarget raw + i := by
  cases hi : t.frameInterval with
  | none =>
    have hadv : 1 ≤ t.minSwitchAdvance ∧ t.minSwitchAdvance < 2 ^ 62 := by
      rw [minSwitchAdvance]
      omega
    rw [switchTarget, hi, Option.filter_none, Word.saturatingAdd, Word.max]
    dsimp only
    exact ⟨by omega, by omega, nofun⟩
  | some i =>
    obtain ⟨hpos, hle⟩ := hint i hi
    have hsum : Word.saturatingAdd 64 (raw - t.maxOutputTs) (i / 2) = raw - t.maxOutputTs + i / 2 := by
      rw [Word.saturatingAdd, Word.max]
      omega
    have hdiv := Nat.div_add_mod (raw - t.maxOutputTs + i / 2) i
    have hmod := Nat.mod_lt (raw - t.maxOutputTs + i / 2) hpos
    have hmul (q : ℕ) : max q 1 * i = max (i * q) i := by rw [← Nat.mul_max_mul_right, Nat.one_mul, Nat.mul_comm]
    have htarget : t.switchTarget raw = t.maxOutputTs + max (i * ((raw - t.maxOutputTs + i / 2) / i)) i := by
      simp only [switchTarget, hi, Option.filter_some, hpos, decide_true, if_true, hsum]
      rw [Word.saturatingMul, hmul, Word.saturatingAdd, Word.max]
      omega
    refine ⟨by omega, by omega, fun j hj hhalf => ?_⟩
    obtain rfl := Option.some.inj hj
    omega

namespace Written

variable {rate : Frequency} {w : Written}

/-- After any history, the packet a rebase is made for gets the next number and a timestamp past all others, and not
more than half a frame off the wall clock if that is half a frame ahead. -/
theorem rebased_packet_on_time (hrate : rate.hz < 2 ^ 62) (h : (machine rate).Reachable w) (pkt : RtpPacket)
    (hclock : w.wallClock pkt < 2 ^ 62) {r : Timeline × RtpPacket}
    (hr : r = (w.timeline.rebase pkt).rewrite pkt ∨ r = (w.timeline.rebase pkt).rewriteSequential pkt ∨
      (w.timeline.rebase pkt).rewriteAudio pkt = some r) :
    r.2.seqNo = w.highestSeq + 1 ∧ (∀ out ∈ w.log, out.rtpTs.ticks < r.2.rtpTs.ticks) ∧
      ∀ interval ∈ w.timeline.frameInterval, w.log ≠ [] → 2 * w.highestTs + interval ≤ 2 * w.wallClock pkt →
        2 * r.2.rtpTs.ticks ≤ 2 * w.wallClock pkt + interval ∧ 2 * w.wallClock pkt ≤ 2 * r.2.rtpTs.ticks + interval := by
  have ht := tracks h
  have hseq : w.highestSeq < 2 ^ 62 := by
    apply peak_lt (ht.base.trans (by decide))
    simpa using fun out hout => (ht.bounded out hout).1
  have hnext : (w.timeline.rebase pkt).outputSeqOf pkt.seqNo = w.highestSeq + 1 := by
    have hstep : Word.wrappingAdd 64 w.timeline.maxOutput 1 = w.highestSeq + 1 := by
      rw [ht.highestSeq, Word.wrappingAdd_of_lt (by omega)]
    change Word.wrappingAdd 64 pkt.seqNo (Word.wrappingSub 64 _ pkt.seqNo) = _
    rw [hstep]
    exact Word.wrappingAdd_wrappingSub 64 (by omega)
  have hout : r.2.seqNo = w.highestSeq + 1 ∧ r.2.rtpTs.ticks = (w.timeline.rebase pkt).outputTsOf pkt.rtpTs.ticks := by
    rcases hr with rfl | rfl | hr
    · exact ⟨hnext, rfl⟩
    · refine ⟨?_, rfl⟩
      change Word.wrappingAdd 64 w.timeline.maxOutput 1 = _
      rw [ht.highestSeq, Word.wrappingAdd_of_lt (by omega)]
    · rw [rewriteAudio] at hr
      split at hr
      · cases hr
      · obtain rfl := Option.some.inj hr
        exact ⟨hnext, rfl⟩
  refine ⟨hout.1, ?_⟩
  rw [hout.2]
  cases hlast : w.log.getLast? with
  | none =>
    have hnil := List.getLast?_eq_none_iff.1 hlast
    exact ⟨by simp [hnil], fun _ _ hne => absurd hnil hne⟩
  | some first =>
    have hm : w.highestTs < 2 ^ 62 := by
      apply peak_lt (by decide)
      simpa using fun out hout => (ht.bounded out hout).2
    have hhz := ht.rate ▸ hrate
    have hwall : w.wallClock pkt = first.rtpTs.ticks + w.timeline.ticks (pkt.playoutTime - first.playoutTime) := by
      simp only [wallClock, hlast] at hclock ⊢
      have hcap : 2 ^ 62 ≤ Word.max 64 := by decide
      exact congrArg _ (min_eq_left ((Nat.le_add_left _ _).trans (hclock.le.trans hcap))).symm
    have hraw : Word.wrappingAdd 64 first.rtpTs.ticks (w.timeline.ticks (pkt.playoutTime - first.playoutTime)) =
        w.wallClock pkt := by
      rw [Word.wrappingAdd_of_lt (by omega), hwall]
    have hepoch := ht.epoch
    rw [hlast, Option.map_some] at hepoch
    obtain ⟨hahead, hlt, hnear⟩ := @switchTarget_near w.timeline _ (ht.highestTs ▸ hm) hhz
      (fun i hi => ht.rate ▸ ht.interval i hi) hclock
    have htarget : (w.timeline.rebase pkt).outputTsOf pkt.rtpTs.ticks = w.timeline.switchTarget (w.wallClock pkt) := by
      rw [rebase, hepoch]
      dsimp only
      rw [hraw]
      exact Word.wrappingAdd_wrappingSub 64 hlt
    rw [htarget]
    rw [ht.highestTs] at hahead hnear
    exact ⟨fun out hout => (le_peak (List.mem_map_of_mem hout)).trans_lt hahead, fun interval hi _ => hnear interval hi⟩

instance (op : TimelineOp) : Decidable ((machine rate).guard w op) :=
  inferInstanceAs (Decidable (∀ out ∈ (w.step op).log, out.seqNo < 2 ^ 62 ∧ out.rtpTs.ticks < 2 ^ 62))

def timed (seqNo ticks playoutTime : ℕ) : RtpPacket :=
  { (default : RtpPacket) with seqNo := seqNo, rtpTs := ⟨ticks, .ninetyKhz⟩, playoutTime := playoutTime }

def switched : Written :=
  [.rewrite (timed 100 9000 0), .rewrite (timed 101 12000 33333333), .rebase (timed 7 500 70000000),
    .rewriteSequential (timed 7 500 70000000), .rewrite (timed 8 3500 100000000)].foldl step
    ⟨5, .newWithBase .ninetyKhz 5, []⟩

theorem rebased_packet_on_time_switched :
    ∃ out, out = ((switched.timeline.rebase (timed 9 77 133333333)).rewrite (timed 9 77 133333333)).2 ∧
      switched.wallClock (timed 9 77 133333333) = 20999 ∧ out.seqNo = switched.highestSeq + 1 ∧
      2 * out.rtpTs.ticks ≤ 2 * 20999 + 3000 ∧ 2 * 20999 ≤ 2 * out.rtpTs.ticks + 3000 := by
  have h : (machine .ninetyKhz).Reachable switched := .run (.init ⟨5, by decide, rfl⟩) (by decide +kernel)
  have hwall : switched.wallClock (timed 9 77 133333333) = 20999 := by decide +kernel
  obtain ⟨hseq, -, hnear⟩ := rebased_packet_on_time (by decide) h (timed 9 77 133333333) (by omega) (.inl rfl)
  refine ⟨_, rfl, hwall, hseq, ?_⟩
  exact hnear 3000 (by decide +kernel) (by decide +kernel) (by decide +kernel)

end Written

end Pulsebeam.Rtp.Timeline
