import Pulsebeam.Rtp.SeqInvariant

namespace Pulsebeam.Rtp

open Pulsebeam.Lib List Option Word OrdSet

namespace Switcher

structure BurstInv (s : Switcher) (E : List RtpPacket) : Prop extends Numbered s E where
  max_lt : s.timeline.maxOutput ≤ 2 ^ 62
  last : ∀ last, s.lastOutput = some last → last ≤ s.timeline.maxOutput

variable {s s' : Switcher} {E : List RtpPacket} {rest : List RtpPacket} {first : RtpPacket} {now : Instant}

lemma emitSequential_burstInv (h : BurstInv s E) (pkt : RtpPacket) (hlt : (s.emitSequential pkt).2.seqNo < 2 ^ 62) :
    BurstInv (s.emitSequential pkt).1 (E ++ [(s.emitSequential pkt).2]) ∧
      (s.emitSequential pkt).1.lastOutput = some (s.emitSequential pkt).1.timeline.maxOutput ∧
      (s.emitSequential pkt).1.timeline.maxOutput < 2 ^ 62 := by
  have hem := emitSequential_emitted s pkt
  have hM := h.max_lt
  have hseq : (s.emitSequential pkt).2.seqNo = s.timeline.maxOutput + 1 := by
    exact wrappingAdd_of_lt (by omega)
  have hmax : (s.emitSequential pkt).1.timeline.maxOutput = (s.emitSequential pkt).2.seqNo := by
    rw [hem.applied.maxOutput, ← hem.applied.seqNo]
    split <;> omega
  have hlast : (s.emitSequential pkt).1.lastOutput = some (s.emitSequential pkt).2.seqNo := by
    rw [hem.lastOutput, ← hem.applied.seqNo, maxNoted]
    congr 1
    cases hl : s.lastOutput with
    | none => simp
    | some last =>
      have := h.last last hl
      simp only [getD_some]
      omega
  have hfresh : ¬ s.Taken E (s.emitSequential pkt).2.seqNo := fun htk => by
    have := h.le _ htk
    omega
  refine ⟨⟨h.snoc hem.tail hfresh (by omega) hmax.ge, by omega, fun last hl => ?_⟩, by rw [hlast, hmax], by omega⟩
  rw [hlast] at hl
  rw [← Option.some.inj hl, hmax]

lemma SameStream.trans {s'' : Switcher} (h : SameStream s s') (h' : SameStream s' s'') : SameStream s s'' :=
  ⟨h'.active.trans h.active, h'.activeCursor.trans h.activeCursor, h'.activeInputHoles.trans h.activeInputHoles,
    h'.nextExpectedInput.trans h.nextExpectedInput, h'.tail.trans h.tail, h'.draining.trans h.draining⟩

lemma SameStream.refl (s : Switcher) : SameStream s s := ⟨rfl, rfl, rfl, rfl, rfl, rfl⟩

lemma emitEach_sameStream (s : Switcher) (l : List RtpPacket) : SameStream s (emitEach emitBurstPacket s l).1 := by
  induction l generalizing s with
  | nil => exact .refl s
  | cons p l ih => exact (emitSequential_emitted s p).toSameStream.trans (ih _)

lemma emitEach_burstInv (h : BurstInv s E) (hbound : Bounded (E ++ (emitEach emitBurstPacket s (first :: rest)).2)) :
    let r := emitEach emitBurstPacket s (first :: rest)
    BurstInv r.1 (E ++ r.2) ∧ r.1.lastOutput = some r.1.timeline.maxOutput ∧ r.1.timeline.maxOutput < 2 ^ 62 ∧
      r.1.timeline.epoch.isSome = true := by
  induction rest generalizing s E first with
  | nil =>
    obtain ⟨h1, h2, h3⟩ := emitSequential_burstInv h first (hbound _ (by simp [emitEach, emitBurstPacket]))
    exact ⟨h1, h2, h3, (emitSequential_emitted s first).applied.epoch⟩
  | cons second rest ih =>
    have hstep : emitEach emitBurstPacket s (first :: second :: rest) =
        ((emitEach emitBurstPacket (s.emitSequential first).1 (second :: rest)).1,
          [(s.emitSequential first).2] ++ (emitEach emitBurstPacket (s.emitSequential first).1 (second :: rest)).2) := rfl
    rw [hstep, ← append_assoc] at hbound
    simp only [hstep, ← append_assoc]
    obtain ⟨h1, _, _⟩ := emitSequential_burstInv h first (hbound _ (by simp))
    exact ih h1 hbound

def burstFloor (s : Switcher) : ℕ :=
  if s.newestFrameLeftOpen then Word.wrappingAdd 64 s.timeline.maxOutput 1 else s.timeline.maxOutput

lemma reserveHole_maxOutput (s : Switcher) : s.reserveHole.1.timeline.maxOutput = s.burstFloor := by
  simp only [reserveHole, burstFloor]
  split
  · split <;> rfl
  next hnone =>
    have hopen : s.newestFrameLeftOpen = false := by simp only [newestFrameLeftOpen, hnone]
    simp [hopen]

def HolesBehind (s : Switcher) : Prop := ∀ h ∈ s.activeInputHoles, s.timeline.outputSeqOf h ≤ s.burstFloor

instance (s : Switcher) : Decidable s.HolesBehind :=
  inferInstanceAs (Decidable (∀ h ∈ s.activeInputHoles.elems, s.timeline.outputSeqOf h ≤ s.burstFloor))

lemma reserveHole_spec (h : SeqInv s E) :
    let r := s.reserveHole
    r.1.timeline.seqBase = s.timeline.seqBase ∧ r.1.timeline.epoch = s.timeline.epoch ∧ r.1.active = s.active ∧
      r.1.activeInputHoles = s.activeInputHoles ∧ r.1.tail = s.tail ∧ r.1.lastOutput = s.lastOutput ∧
      ((r.2 = none ∧ r.1.timeline.maxOutput = s.timeline.maxOutput) ∨
        (r.2 = some (s.timeline.maxOutput + 1) ∧ r.1.timeline.maxOutput = s.timeline.maxOutput + 1)) := by
  have hM := h.max_lt
  have hnext : Word.wrappingAdd 64 s.timeline.maxOutput 1 = s.timeline.maxOutput + 1 := wrappingAdd_of_lt (by omega)
  simp only [reserveHole]
  split
  next last hlast =>
    split
    · obtain rfl : s.timeline.maxOutput = last := by
        have hf := h.frontier
        rw [hlast] at hf
        split at hf
        · exact (Option.some.inj hf).symm
        · cases hf
      exact ⟨rfl, rfl, rfl, rfl, rfl, rfl, .inr ⟨by rw [hnext], hnext⟩⟩
    · exact ⟨rfl, rfl, rfl, rfl, rfl, rfl, .inl ⟨rfl, rfl⟩⟩
  · exact ⟨rfl, rfl, rfl, rfl, rfl, rfl, .inl ⟨rfl, rfl⟩⟩

lemma mem_openTail {reserved : Option ℕ} {t : Tail} (ht : (s.openTail now reserved).tail = some t) {x : ℕ}
    (hx : x ∈ t.holes) : (∃ h ∈ s.activeInputHoles, x = s.timeline.outputSeqOf h) ∨ reserved = some x := by
  obtain rfl := Option.some.inj ht
  have hgap : ∀ y ∈ OrdSet.empty.insertAll (s.activeInputHoles.elems.map s.timeline.outputSeqOf),
      ∃ h ∈ s.activeInputHoles, y = s.timeline.outputSeqOf h := fun y hy => by
    rcases mem_insertAll.1 hy with hy | hy
    · obtain ⟨h, hh, rfl⟩ := mem_map.1 hy
      exact ⟨h, hh, rfl⟩
    · exact absurd hy not_mem_empty
  cases hr : reserved with
  | none =>
    rw [hr] at hx
    exact .inl (hgap x hx)
  | some r =>
    rw [hr] at hx
    rcases mem_insert.1 hx with rfl | hx
    · exact .inr rfl
    · exact .inl (hgap x hx)

lemma prepareBurst_tail (h : SeqInv s E) (hb : s.HolesBehind) (now : Instant) (first : RtpPacket) (newCursor : ℕ) :
    ∀ t, (s.prepareBurst now first newCursor).tail = some t → ∀ x ∈ t.holes,
      x ≤ s.reserveHole.1.timeline.maxOutput ∧ ∀ p ∈ E, p.seqNo ≠ x := by
  intro t ht x hx
  obtain ⟨hsb, hep, ha, hh, htl, hlo, hres⟩ := reserveHole_spec h
  change (if s.reserveHole.1.active.isSome then s.reserveHole.1.openTail now s.reserveHole.2 else s.reserveHole.1).tail
    = some t at ht
  split at ht
  next hact =>
    rcases mem_openTail ht hx with ⟨y, hy, rfl⟩ | hr
    · rw [hh] at hy
      have hout : s.reserveHole.1.timeline.outputSeqOf y = s.timeline.outputSeqOf y := by
        rw [Timeline.outputSeqOf, Timeline.outputSeqOf, hsb]
      rw [hout]
      refine ⟨(hb y hy).trans (reserveHole_maxOutput s).ge, fun p hp he => ?_⟩
      rw [ha] at hact
      obtain ⟨stream, hact⟩ := isSome_iff_exists.1 hact
      obtain ⟨c, hc, b, hl⟩ := h.joined hact
      obtain ⟨hle, h0, hfree⟩ := hl.holes y hy
      have hclt := hl.cursor_lt
      exact hfree (.inl ⟨p, hp, by rw [he, hl.outputSeqOf h.max_lt (by omega) h0]⟩)
    · rcases hres with ⟨hnone, _⟩ | ⟨hsome, hmax⟩
      · rw [hnone] at hr
        cases hr
      rw [hsome] at hr
      obtain rfl := Option.some.inj hr
      refine ⟨hmax.ge, fun p hp he => ?_⟩
      have := h.le p.seqNo (.inl ⟨p, hp, rfl⟩)
      omega
  next hact =>
    rw [ha, Bool.not_eq_true, isSome_eq_false_iff, isNone_iff_eq_none] at hact
    rw [htl, (h.inactive hact).2] at ht
    cases ht

lemma prepareBurst_fields (s : Switcher) (now : Instant) (first : RtpPacket) (newCursor : ℕ) :
    let s' := s.prepareBurst now first newCursor
    s'.timeline.maxOutput = s.reserveHole.1.timeline.maxOutput ∧ s'.timeline.epoch = s.reserveHole.1.timeline.epoch ∧
      s'.lastOutput = s.reserveHole.1.lastOutput ∧ s'.activeCursor = some newCursor ∧
      s'.activeInputHoles = .empty ∧ s'.nextExpectedInput = some (Word.wrappingAdd 64 newCursor 1) ∧
      s'.active = s.reserveHole.1.staging := by
  simp only [prepareBurst]
  split <;> exact ⟨rfl, rfl, rfl, rfl, rfl, rfl, rfl⟩

lemma reserveHole_staging (s : Switcher) : s.reserveHole.1.staging = s.staging := by
  simp only [reserveHole]
  split
  · split <;> rfl
  · rfl

lemma prepareBurst_burstInv (h : SeqInv s E) (hb : s.HolesBehind) (now : Instant) (first : RtpPacket) (newCursor : ℕ) :
    BurstInv (s.prepareBurst now first newCursor) E := by
  obtain ⟨_, _, _, _, _, hlo, hres⟩ := reserveHole_spec h
  obtain ⟨hmax, _, hlast, _⟩ := prepareBurst_fields s now first newCursor
  have htail := prepareBurst_tail h hb now first newCursor
  have hM := h.max_lt
  have hM' : s.timeline.maxOutput ≤ s.reserveHole.1.timeline.maxOutput ∧
      s.reserveHole.1.timeline.maxOutput ≤ s.timeline.maxOutput + 1 := by
    rcases hres with ⟨_, hr⟩ | ⟨_, hr⟩ <;> omega
  refine ⟨⟨h.nodup, fun x hx => ?_, fun t ht x hx => (htail t ht x hx).2⟩, by rw [hmax]; omega, fun last hl => ?_⟩
  · rcases hx with ⟨p, hp, rfl⟩ | ⟨t, ht, y, hy, rfl⟩
    · have := h.le p.seqNo (.inl ⟨p, hp, rfl⟩)
      omega
    · have := (htail t ht y hy).1
      omega
  · rw [hlast, hlo, h.frontier] at hl
    split at hl
    · rw [hmax, ← Option.some.inj hl]
      exact hM'.1
    · cases hl

lemma land_seqInv (h : SeqInv s E) (hb : s.HolesBehind) (hst : s.staging.isSome = true)
    (hcur : ((first :: rest).getLast (cons_ne_nil first rest)).seqNo < 2 ^ 62)
    (hbound : Bounded (E ++ (s.land now first rest).2)) :
    SeqInv (s.land now first rest).1 (E ++ (s.land now first rest).2) := by
  simp only [land] at hbound ⊢
  set newCursor := ((first :: rest).getLast _).seqNo
  set s0 := s.prepareBurst now first newCursor
  obtain ⟨_, _, _, hc0, hh0, he0, ha0⟩ := prepareBurst_fields s now first newCursor
  obtain ⟨hinv, hlast, hmax, hep⟩ := emitEach_burstInv (prepareBurst_burstInv h hb now first newCursor) hbound
  have hsame := emitEach_sameStream s0 (first :: rest)
  set r := emitEach emitBurstPacket s0 _
  have hrc : r.1.activeCursor = some newCursor := hsame.activeCursor.trans hc0
  refine ⟨⟨hinv.nodup, hinv.le, hinv.tail⟩, hmax, ?_, ?_, fun hn => absurd (hrc.symm.trans hn) (by simp), fun c hc => ?_⟩
  · change r.1.lastOutput = if r.1.timeline.epoch.isSome then some r.1.timeline.maxOutput else none
    rw [if_pos hep, hlast]
  · rw [hrc, hsame.active, ha0, reserveHole_staging, hst]
    rfl
  · obtain rfl : newCursor = c := Option.some.inj (hrc.symm.trans hc)
    refine ⟨(r.1.timeline.maxOutput : ℤ) - newCursor, displaces_wrappingSub 64 _ _, hcur, ?_, ?_, ?_, hep,
      fun x hx => ?_⟩
    · rw [hsame.nextExpectedInput, he0, wrappingAdd_of_lt (by omega)]
    · change (r.1.timeline.maxOutput : ℤ) ≤ _
      omega
    · change _ ≤ (r.1.timeline.maxOutput : ℤ)
      omega
    rw [hsame.activeInputHoles] at hx
    exact absurd hx not_mem_empty

def beforeSwitch (s : Switcher) (trackId : TrackId) (cache : TrackStreamCache) (now : Instant) : Switcher :=
  ((s.feedPull trackId cache).1.feedDrain trackId cache now).1

def lands (s : Switcher) (trackId : TrackId) (cache : TrackStreamCache) (now : Instant) : Bool :=
  (roleCache s.staging trackId cache).any fun encoding => s.mayLand now && encoding.replay.any (fun l => !l.isEmpty)

def pulls (ok : Switcher → RtpPacket → Bool) : Switcher → List RtpPacket → Bool
  | _, [] => true
  | s, pkt :: l => ok s pkt && (s.pullPacket pkt).1.pulls ok l

/-- What a feed meets: packets to pull that are `ok`, and a switch that lands only on a `splice`. -/
def Meets (ok : Switcher → RtpPacket → Bool) (splice : Switcher → Prop) (s : Switcher) (trackId : TrackId)
    (cache : TrackStreamCache) (now : Instant) : Prop :=
  (∀ encoding ∈ roleCache s.active trackId cache, s.pulls ok (s.liveRange encoding) = true) ∧
    ((s.beforeSwitch trackId cache now).lands trackId cache now = true → splice (s.beforeSwitch trackId cache now))

def Sound (J : Switcher → List Emission → Prop) (s : Switcher) (log : List Emission) : Prop :=
  SeqInv s (log.map (·.packet)) ∧ J s log

/-- What is to be shown of a property of one slot, with its numbers in order, so that no step of the slot loses it. -/
structure Kept (S : Streams) (B : RtpPacket → Prop) (ok : Switcher → RtpPacket → Bool) (splice : Switcher → Prop)
    (J : Switcher → List Emission → Prop) : Prop where
  seqNo : ∀ stream p, S stream p → p.seqNo < 2 ^ 62
  below : ∀ p, B p → p.seqNo < 2 ^ 62
  rests : ∀ {s s' log}, Rests s s' → J s log → J s' log
  stop : ∀ {s log}, J s log → J s.stop log
  pull : ∀ {stream s log pkt l}, Pulling (S stream) stream s (log.map (·.packet)) (pkt :: l) → J s log →
    ok s pkt = true → Gives B J log (s.pullPacket pkt)
  fill : ∀ {stream cache s log x l}, cache.packets.Holds (S stream) → Filling stream s (log.map (·.packet)) (x :: l) →
    J s log → Gives B J log (backfillHole cache s x)
  drain : ∀ {old cache tail s log x l}, cache.packets.Holds (S old) → Draining old tail s (log.map (·.packet)) (x :: l) →
    J s log → Gives B J log (drainHole cache tail s x)
  blocked : ∀ {s since}, splice s → splice { s with switchBlockedSince := since }
  behind : ∀ {s log}, SeqInv s (log.map (·.packet)) → J s log → splice s → s.HolesBehind
  land : ∀ {stream cache s log now first rest}, StreamCache.Fed (S stream) cache → cache.replay = some (first :: rest) →
    SeqInv s (log.map (·.packet)) → J s log → splice s → Within B (log ++ burstEmissions (s.land now first rest).2) →
      J (s.land now first rest).1 (log ++ burstEmissions (s.land now first rest).2)

namespace Kept

variable {S : Streams} {B : RtpPacket → Prop} {ok : Switcher → RtpPacket → Bool} {splice : Switcher → Prop}
  {J : Switcher → List Emission → Prop} {log : List Emission} (hk : Kept S B ok splice J)

include hk

lemma sound (h : Sound J s log) (hr : Rests s s') : Sound J s' log := ⟨h.1.rests hr, hk.rests hr h.2⟩

lemma bounded {l : List RtpPacket} (hB : Within B (log ++ plain l)) : Bounded l := fun p hp =>
  hk.below p (hB.packets p (mem_append_right _ hp))

section Stream

variable {stream : StreamId} {cache : StreamCache}

lemma pullActive (hw : cache.packets.Holds (S stream)) (h : Sound J s log) (ha : s.active = some stream)
    (hok : s.pulls ok (s.liveRange cache) = true) : Gives B (Sound J) log (s.pullActive cache) := by
  rw [Switcher.pullActive]
  split
  · refine fun hB => (emitEach_rule (I := fun s log l => Filling stream s (log.map (·.packet)) l ∧ J s log)
      ?_ ⟨h.1.filling ha, h.2⟩ hB).imp_left Filling.inv
    rintro s log x l ⟨hf, h⟩ hB
    rw [map_append, map_packet_plain]
    exact ⟨hf.step hw (hk.bounded hB), hk.fill hw hf h hB⟩
  · refine fun hB => (emitEach_rule (I := fun s log l => Pulling (S stream) stream s (log.map (·.packet)) l ∧
      s.pulls ok l = true ∧ J s log) ?_ ⟨h.1.pulling hw ha, hok, h.2⟩ hB).imp Pulling.inv And.right
    rintro s log pkt l ⟨hp, hok, h⟩ hB
    rw [pulls, Bool.and_eq_true] at hok
    rw [map_append, map_packet_plain]
    exact ⟨hp.step (hk.seqNo stream) (hk.bounded hB), hok.2, hk.pull hp h hok.1 hB⟩

lemma drainTail (hw : cache.packets.Holds (S stream)) (h : Sound J s log) (hd : s.draining = some stream) :
    Gives B (Sound J) log (s.drainTail cache now) := by
  rw [Switcher.drainTail]
  split
  next hnone => exact gives_nil (hk.sound h { Rests.refl s with tail := .inl hnone })
  next tail ht =>
    split
    · exact gives_nil (hk.sound h { Rests.refl s with tail := .inl rfl })
    have hloop : Gives B (Sound J) log (emitEach (drainHole cache tail) s tail.holes.elems) := fun hB =>
      (emitEach_rule (I := fun s log l => Draining stream tail s (log.map (·.packet)) l ∧ J s log) (by
        rintro s log x l ⟨hd, h⟩ hB
        rw [map_append, map_packet_plain]
        exact ⟨hd.step cache, hk.drain hw hd h hB⟩) ⟨h.1.draining hd ht, h.2⟩ hB).imp_left Draining.inv
    simp only
    split
    · exact fun hB => hk.sound (hloop hB) { Rests.refl _ with tail := .inl rfl }
    · exact hloop

lemma trySwitch (hfed : StreamCache.Fed (S stream) cache) (h : Sound J s log) (hst : s.staging.isSome = true)
    (hs : s.mayLand now = true → ∀ first rest, cache.replay = some (first :: rest) → splice s)
    (hB : Within B (log ++ burstEmissions (s.trySwitch cache now).2)) :
    Sound J (s.trySwitch cache now).1 (log ++ burstEmissions (s.trySwitch cache now).2) := by
  have hblocked : Sound J { s with switchBlockedSince := s.blockedSince now } log := hk.sound h { Rests.refl s with }
  simp only [Switcher.trySwitch] at hB ⊢
  split
  next hmay =>
    rw [if_pos hmay] at hB
    split
    next first rest hreplay =>
      rw [hreplay] at hB
      have hsp : splice { s with switchBlockedSince := s.blockedSince now } := hk.blocked (hs hmay first rest hreplay)
      obtain ⟨hseq, hJ⟩ := hblocked
      refine ⟨?_, hk.land hfed hreplay hseq hJ hsp hB⟩
      obtain ⟨q, hq, hle⟩ := StreamCache.replay_seqNo_le hfed.holds hreplay (getLast_mem (cons_ne_nil first rest))
      rw [Within, map_append, map_packet_burstEmissions] at hB
      rw [map_append, map_packet_burstEmissions]
      exact land_seqInv hseq (hk.behind hseq hJ hsp) hst (hle.trans_lt (hk.seqNo stream q hq)) fun p hp => hk.below p (hB p hp)
    · simpa [burstEmissions] using hblocked
  · simpa [burstEmissions] using hblocked

end Stream

variable {trackId : TrackId} {cache : TrackStreamCache}

lemma feed (hfed : cache.Fed fun e => S (trackId, e)) (h : Sound J s log) (hmeets : s.Meets ok splice trackId cache now)
    (hB : Within B (log ++ (s.feed trackId cache now).2.emissions)) :
    Sound J (s.feed trackId cache now).1 (log ++ (s.feed trackId cache now).2.emissions) := by
  have hlog : log ++ (s.feed trackId cache now).2.emissions =
      log ++ plain (s.feedPull trackId cache).2 ++ plain ((s.feedPull trackId cache).1.feedDrain trackId cache now).2 ++
        burstEmissions ((s.beforeSwitch trackId cache now).feedSwitch trackId cache now).2 := by
    simp only [Switcher.feed, FeedOutput.emissions, beforeSwitch, map_append, append_assoc, plain]
  rw [hlog] at hB ⊢
  have hpull : Gives B (Sound J) log (s.feedPull trackId cache) := by
    rw [feedPull]
    split
    next encoding hrole =>
      obtain ⟨stream, ha, hf⟩ := roleCache_fed hfed hrole
      exact hk.pullActive hf.holds h ha (hmeets.1 encoding hrole)
    · exact gives_nil h
  have hdrain : Gives B (Sound J) (log ++ plain (s.feedPull trackId cache).2)
      ((s.feedPull trackId cache).1.feedDrain trackId cache now) := by
    rw [feedDrain]
    split
    next encoding hrole =>
      obtain ⟨stream, hd, hf⟩ := roleCache_fed hfed hrole
      exact hk.drainTail hf.holds (hpull hB.left.left) hd
    · exact gives_nil (hpull hB.left.left)
  change Sound J ((s.beforeSwitch trackId cache now).feedSwitch trackId cache now).1 _
  rw [feedSwitch] at hB ⊢
  split
  next encoding hrole =>
    rw [hrole] at hB
    obtain ⟨stream, hst, hf⟩ := roleCache_fed hfed hrole
    refine hk.trySwitch hf (hdrain hB.left) (by rw [hst]; rfl) (fun hmay first rest hreplay => hmeets.2 ?_) hB
    simp [lands, hrole, hmay, hreplay]
  · change Sound J _ (_ ++ [])
    rw [append_nil]
    exact hdrain hB.left

lemma step {slot : Slot} {op : SlotOp} (h : Sound J slot.switcher slot.log) (hfeasible : Slot.Feasible S op)
    (hB : ∀ p ∈ (slot.step op).packets, B p) (hmeets : Slot.OnFeed (Meets ok splice) slot.switcher op) :
    Sound J (slot.step op).switcher (slot.step op).log := by
  cases op with
  | switchTo target => exact hk.sound h (switchTo_rests _ target)
  | stop => exact ⟨seqInv_stop h.1, hk.stop h.2⟩
  | setDecodeTarget target => exact hk.sound h { Rests.refl _ with }
  | feed trackId cache now => exact hk.feed hfeasible h hmeets hB

lemma reachable {rate : Frequency} {cond : Switcher → SlotOp → Prop} {slot : Slot} (hnew : ∀ base, J (new rate base) [])
    (hcond : ∀ s op, cond s op → Slot.OnFeed (Meets ok splice) s op)
    (h : (Slot.machine S rate B cond).Reachable slot) : Sound J slot.switcher slot.log := by
  refine h.invariant (I := fun slot => Sound J slot.switcher slot.log) ?_ ?_
  · rintro slot ⟨base, hbase, rfl⟩
    exact ⟨seqInv_new rate hbase, hnew base⟩
  · rintro slot op hinv ⟨hfeasible, hB, hop⟩
    exact hk.step hinv hfeasible hB (hcond _ op hop)

end Kept

lemma pulls_true (s : Switcher) (l : List RtpPacket) : s.pulls (fun _ _ => true) l = true := by
  induction l generalizing s with
  | nil => rfl
  | cons pkt l ih => simp only [pulls, Bool.true_and, ih]

end Switcher

namespace Slot

/-- A feed that lands a switch finds every gap of the outgoing stream behind the burst. -/
def GapsBehindBurst (s : Switcher) (trackId : TrackId) (cache : TrackStreamCache) (now : Instant) : Prop :=
  (s.beforeSwitch trackId cache now).lands trackId cache now = true → (s.beforeSwitch trackId cache now).HolesBehind

instance (s : Switcher) (trackId : TrackId) (cache : TrackStreamCache) (now : Instant) :
    Decidable (GapsBehindBurst s trackId cache now) :=
  inferInstanceAs (Decidable (_ = true → Switcher.HolesBehind _))

def seqBelow (p : RtpPacket) : Prop := p.seqNo < 2 ^ 62

instance (p : RtpPacket) : Decidable (seqBelow p) := inferInstanceAs (Decidable (p.seqNo < 2 ^ 62))

lemma meets_of_splice {cond splice} (h : ∀ s trackId cache now, cond s trackId cache now →
      (Switcher.beforeSwitch s trackId cache now).lands trackId cache now = true → splice (s.beforeSwitch trackId cache now))
    (s : Switcher) (op : SlotOp) (hop : OnFeed cond s op) : OnFeed (Switcher.Meets (fun _ _ => true) splice) s op := by
  cases op with
  | feed trackId cache now => exact ⟨fun _ _ => Switcher.pulls_true _ _, h s trackId cache now hop⟩
  | _ => trivial

theorem output_numbers_unique (S : Streams) (rate : Frequency) (hS : ∀ stream p, S stream p → p.seqNo < 2 ^ 62)
    (slot : Slot) (h : (machine S rate seqBelow (OnFeed GapsBehindBurst)).Reachable slot) :
    (slot.packets.map (·.seqNo)).Nodup := by
  have hk : Switcher.Kept S seqBelow (fun _ _ => true) Switcher.HolesBehind fun _ _ => True :=
    { seqNo := hS, below _ hp := hp, rests _ _ := trivial, stop _ := trivial, pull _ _ _ _ := trivial,
      fill _ _ _ _ := trivial, drain _ _ _ _ := trivial, blocked h := h, behind _ _ h := h,
      land _ _ _ _ _ _ := trivial }
  exact (hk.reachable (fun _ => trivial) (meets_of_splice fun _ _ _ _ h => h) h).1.nodup

section Collision

def slotTrack : TrackId := ⟨0, .video⟩

def lowEncoding : SourceEncoding := .rid (some 0)

def highEncoding : SourceEncoding := .rid (some 1)

def slotPacket (seq ts : ℕ) (marker kept : Bool) : RtpPacket :=
  { (default : RtpPacket) with
    seqNo := seq
    rtpTs := ⟨ts, .ninetyKhz⟩
    marker := marker
    playoutTime := ts * 11111
    extVals := ⟨none, none, some ⟨true, marker, 0, [if kept then .required else .notPresent]⟩⟩ }

def slotKeyframe (seq ts : ℕ) : RtpPacket := { slotPacket seq ts true true with isKeyframe := true }

def collisionPushes : List (SourceEncoding × RtpPacket) :=
  [(lowEncoding, slotKeyframe 100 3000), (lowEncoding, slotPacket 101 6000 false true),
   (lowEncoding, slotPacket 104 9000 true false), (highEncoding, slotKeyframe 500 12000),
   (lowEncoding, slotPacket 103 6000 true true)]

def feedFirst (pushes : List (SourceEncoding × RtpPacket)) (n ms : ℕ) : SlotOp :=
  .feed slotTrack (TrackStreamCache.pushAll (pushes.take n)) (Duration.fromMillis ms)

def collisionOps : List SlotOp :=
  [.switchTo (slotTrack, lowEncoding), feedFirst collisionPushes 1 0, .setDecodeTarget (.target 0),
   feedFirst collisionPushes 2 1, feedFirst collisionPushes 3 2, .switchTo (slotTrack, highEncoding),
   feedFirst collisionPushes 4 3, feedFirst collisionPushes 4 20, feedFirst collisionPushes 5 21]

@[simp] lemma feasible_feedFirst {pushes : List (SourceEncoding × RtpPacket)} {n ms : ℕ} :
    Feasible (Streams.ofList slotTrack pushes) (feedFirst pushes n ms) :=
  feasible_pushAll fun _ hx => mem_of_mem_take hx

def slotStart : Slot := ⟨Switcher.new .ninetyKhz 0, []⟩

theorem output_numbers_collide : ∃ (S : Streams) (slot : Slot), S.OnePerNumber ∧
    (∀ stream p, S stream p → p.seqNo < 2 ^ 62) ∧
    (machine S .ninetyKhz seqBelow fun _ _ => True).Reachable slot ∧ ¬ (slot.packets.map (·.seqNo)).Nodup := by
  refine ⟨Streams.ofList slotTrack collisionPushes, slotStart.run collisionOps,
    Streams.ofList_onePerNumber (by decide), fun stream p hp => ?_,
    reachable_run (.init ⟨0, by decide, rfl⟩) ?_ (by decide +kernel) (along_true _ _), by decide +kernel⟩
  · have hall : ∀ x ∈ collisionPushes, x.2.seqNo < 2 ^ 62 := by decide
    exact hall _ hp.2
  simp [collisionOps]

end Collision

section Clean

def cleanPushes : List (SourceEncoding × RtpPacket) :=
  [(lowEncoding, slotKeyframe 100 3000), (lowEncoding, slotPacket 101 6000 false true),
   (lowEncoding, slotPacket 103 6000 true true), (lowEncoding, slotPacket 102 6000 false true),
   (highEncoding, slotKeyframe 500 12000)]

def cleanOps : List SlotOp :=
  [.switchTo (slotTrack, lowEncoding), feedFirst cleanPushes 1 0, feedFirst cleanPushes 3 2,
   feedFirst cleanPushes 4 3, .switchTo (slotTrack, highEncoding), feedFirst cleanPushes 5 4]

lemma feasible_cleanOps : ∀ op ∈ cleanOps, Feasible (Streams.ofList slotTrack cleanPushes) op := by
  simp [cleanOps]

theorem output_numbers_unique_clean : (slotStart.run cleanOps).packets.map (·.seqNo) = [1, 2, 4, 3, 5] ∧
    ((slotStart.run cleanOps).packets.map (·.seqNo)).Nodup := by
  refine ⟨by decide +kernel, ?_⟩
  refine output_numbers_unique _ .ninetyKhz (fun stream p hp => ?_) _
    (reachable_run (.init ⟨0, by decide, rfl⟩) feasible_cleanOps (by decide +kernel) (by decide +kernel))
  have hall : ∀ x ∈ cleanPushes, x.2.seqNo < 2 ^ 62 := by decide
  exact hall _ hp.2

end Clean

end Slot

end Pulsebeam.Rtp
