import Pulsebeam.Downstream.Audio
import Pulsebeam.Rtp.SwitcherSpec

/-! Each audio slot sends one continuous stream, whoever occupies it. -/

namespace Pulsebeam.Downstream

open Pulsebeam.Lib Pulsebeam.Rtp

variable {P : Type*} {pkt : RtpPacket}

def Follows (newer older : Emission) : Prop :=
  if newer.spell = older.spell then
    (newer.output : ℤ) - older.output = newer.input - older.input ∧ older.output < newer.output
  else newer.output = older.output + 1

instance : DecidableRel Follows := fun _ _ => inferInstanceAs (Decidable (ite _ _ _))

structure AtFrontier (t : Timeline) (first e : Emission) : Prop where
  output : e.output = t.maxOutput
  spell : e.spell ≤ first.spell
  displaced : t.maxOutput + 1 = 2 ^ 64 ∨ e.spell = first.spell ∧
    Word.Displaces 64 t.seqBase (first.output - first.input) ∧
    (e.output : ℤ) - e.input = first.output - first.input ∧ first.output ≤ e.output

structure Continuous (t : Timeline) (first : Emission) (emitted : List Emission) : Prop where
  chain : emitted.IsChain Follows
  range : t.maxOutput < 2 ^ 64
  fresh : first.spell = 0 → emitted = [] ∧ t.maxOutput < 2 ^ 16
  running : 0 < first.spell → t.epoch.isSome = true ∧ ∃ e rest, emitted = e :: rest ∧ AtFrontier t first e

lemma Continuous.emit {t : Timeline} {first : Emission} {emitted : List Emission} (hc : emitted.IsChain Follows)
    (hpos : 0 < first.spell) (hnew : ∀ e ∈ emitted.head?, Follows ⟨first.spell, pkt.seqNo, t.outputSeqOf pkt.seqNo⟩ e)
    (hfar : ¬(t.epoch.isSome = true ∧ t.outputSeqOf pkt.seqNo ≤ t.maxOutput))
    (hd : Word.Displaces 64 t.seqBase (first.output - first.input))
    (heq : (t.outputSeqOf pkt.seqNo : ℤ) - pkt.seqNo = first.output - first.input)
    (hle : first.output ≤ t.outputSeqOf pkt.seqNo) :
    Continuous (t.rewrite pkt).1 first (⟨first.spell, pkt.seqNo, t.outputSeqOf pkt.seqNo⟩ :: emitted) := by
  have ha := Timeline.rewrite_applied t pkt
  have hmax : (t.rewrite pkt).1.maxOutput = t.outputSeqOf pkt.seqNo := by
    rw [ha.maxOutput]
    split_ifs with he
    · rfl
    · rw [not_and, not_le] at hfar
      exact max_eq_right (hfar (Option.isSome_iff_ne_none.2 he)).le
  refine ⟨hc.cons hnew, ?_, by omega, fun _ => ⟨ha.epoch, _, _, rfl, hmax.symm, le_rfl, .inr ⟨rfl, ?_, heq, hle⟩⟩⟩
  · rw [hmax, Timeline.outputSeqOf, Word.wrappingAdd_eq_mod]
    exact Nat.mod_lt _ (by decide)
  · rwa [ha.seqBase]

namespace Slot

def Steady (slot : Slot P) : Prop := Continuous slot.timeline slot.spell slot.emitted

lemma rewrite_cases {slot : Slot P} :
    (slot.timeline.epoch.isSome = true ∧ slot.timeline.outputSeqOf pkt.seqNo ≤ slot.timeline.maxOutput ∧
      (slot.rewrite pkt).1 = slot) ∨
    ¬(slot.timeline.epoch.isSome = true ∧ slot.timeline.outputSeqOf pkt.seqNo ≤ slot.timeline.maxOutput) ∧
      (slot.rewrite pkt).1 = { slot with
        timeline := (slot.timeline.rewrite pkt).1
        emitted := ⟨slot.spell.spell, pkt.seqNo, slot.timeline.outputSeqOf pkt.seqNo⟩ :: slot.emitted } := by
  rw [rewrite, Timeline.rewriteAudio]
  split_ifs with h
  · exact .inl ⟨h.1, h.2, rfl⟩
  · refine .inr ⟨h, ?_⟩
    rw [← (Timeline.rewrite_applied slot.timeline pkt).seqNo]

variable {slot : Slot P}

lemma Steady.open (h : slot.Steady) (pkt : RtpPacket) : ((slot.rebase pkt).rewrite pkt).1.Steady := by
  have hr := h.range
  have hpos (hlast : 2 ^ 64 ≤ slot.timeline.maxOutput + 1) : 0 < slot.spell.spell := by
    by_contra h0
    have := (h.fresh (by omega)).2
    omega
  have hout : (slot.rebase pkt).timeline.outputSeqOf pkt.seqNo = (slot.timeline.maxOutput + 1) % 2 ^ 64 := by
    rw [← Word.wrappingAdd_eq_mod]
    exact Word.wrappingAdd_wrappingSub 64 (by rw [Word.wrappingAdd_eq_mod]; omega)
  rcases rewrite_cases with ⟨he, hle, hs⟩ | ⟨hn, hs⟩
  · have hlast : slot.timeline.maxOutput + 1 = 2 ^ 64 := by
      rw [hout, show (slot.rebase pkt).timeline.maxOutput = slot.timeline.maxOutput from rfl] at hle
      omega
    rw [hs]
    refine ⟨h.chain, hr, nofun, fun _ => ⟨he, ?_⟩⟩
    obtain ⟨-, e, rest, hem, hf⟩ := h.running (hpos hlast.ge)
    exact ⟨e, rest, hem, hf.output, hf.spell.trans (Nat.le_succ _), .inl hlast⟩
  · have hnext : (slot.rebase pkt).timeline.outputSeqOf pkt.seqNo = slot.timeline.maxOutput + 1 := by
      by_cases hlt : slot.timeline.maxOutput + 1 < 2 ^ 64
      · rw [hout, Nat.mod_eq_of_lt hlt]
      refine absurd ⟨(h.running (hpos (not_lt.1 hlt))).1, ?_⟩ hn
      omega
    rw [hs]
    apply Continuous.emit h.chain (Nat.succ_pos _) _ hn
    · exact (Word.displaces_wrappingSub 64 _ _).trans ((Word.displaces_wrap 64 _).sub_right _)
    · rw [hnext]
      rfl
    · exact hnext.ge
    · intro e he
      obtain ⟨-, e', rest, hem, hf⟩ := h.running (Nat.pos_of_ne_zero fun h0 => by simp [(h.fresh h0).1] at he)
      rw [hem, List.head?_cons, Option.mem_some_iff] at he
      subst he
      have hne : slot.spell.spell + 1 ≠ e'.spell := (Nat.lt_succ_of_le hf.spell).ne'
      exact (if_neg hne).mpr (hnext.trans (congrArg (· + 1) hf.output.symm))

lemma Steady.resume (h : slot.Steady) (hpos : 0 < slot.spell.spell) (hlt : pkt.seqNo < 2 ^ 62)
    (hin : slot.spell.input ≤ pkt.seqNo + slot.spell.output) : (slot.rewrite pkt).1.Steady := by
  rcases rewrite_cases with ⟨-, -, hs⟩ | ⟨hn, hs⟩
  · rw [hs]
    exact h
  obtain ⟨he, e, rest, hem, hf⟩ := h.running hpos
  have hmax := not_le.1 fun hle => hn ⟨he, hle⟩
  have hword : slot.timeline.outputSeqOf pkt.seqNo < 2 ^ 64 := by
    rw [Timeline.outputSeqOf, Word.wrappingAdd_eq_mod]
    exact Nat.mod_lt _ (by decide)
  rcases hf.displaced with hlast | ⟨hspell, hd, hdiff, hfirst⟩
  · omega
  have hmod := hd.wrappingAdd_emod pkt.seqNo
  have hout := hf.output
  -- a number past the last one wraps below the frontier, and the packet was dropped
  have heq : (slot.timeline.outputSeqOf pkt.seqNo : ℤ) - pkt.seqNo = slot.spell.output - slot.spell.input := by
    rw [Timeline.outputSeqOf] at hmax ⊢
    omega
  rw [hs]
  apply Continuous.emit h.chain hpos _ hn hd heq (by omega)
  intro e' he'
  rw [hem, List.head?_cons, Option.mem_some_iff] at he'
  subst he'
  rw [Follows, if_pos hspell.symm]
  exact ⟨by dsimp only; omega, by rw [hout]; exact hmax⟩

structure Sound (slot : Slot P) : Prop where
  steady : slot.Steady
  fresh : slot.spell.spell = 0 → slot.occupant = none ∧ slot.lastArrivalTs = none

lemma sound_new (L : Loudness P) (mediaIndex : Option ℕ) (mid : Mid) (ssrc : Ssrc) (pt : ℕ) (now : Instant) (base : ℕ) :
    (new L mediaIndex mid ssrc pt now base).Sound := by
  have hbase : base % 2 ^ 16 < 2 ^ 16 := Nat.mod_lt _ (by decide)
  exact ⟨⟨.nil, hbase.trans (by decide), fun _ => ⟨rfl, hbase⟩, nofun⟩, fun _ => ⟨rfl, rfl⟩⟩

lemma Sound.vacate (h : slot.Sound) (leaves : Slot P → Bool) : (slot.vacate leaves).Sound := by
  rw [Slot.vacate]
  split_ifs
  · exact ⟨h.steady, fun h0 => ⟨rfl, (h.fresh h0).2⟩⟩
  · exact h

lemma Sound.open (h : slot.Steady) (pkt : RtpPacket) : ((slot.rebase pkt).rewrite pkt).1.Sound :=
  ⟨h.open pkt, by rw [(rewrite_fields _ pkt).2.2]; exact nofun⟩

lemma Sound.resume (h : slot.Steady) (hpos : 0 < slot.spell.spell) (hlt : pkt.seqNo < 2 ^ 62)
    (hin : slot.spell.input ≤ pkt.seqNo + slot.spell.output) : (slot.rewrite pkt).1.Sound :=
  ⟨h.resume hpos hlt hin, by rw [(rewrite_fields slot pkt).2.2]; omega⟩

lemma Sound.enter [LT P] [DecidableLT P] (h : slot.Sound) (occupant : Occupant) (power : P) (hlt : pkt.seqNo < 2 ^ 62)
    (hin : slot.origin = some occupant.origin → slot.spell.input ≤ pkt.seqNo + slot.spell.output) :
    ((slot.enter occupant power pkt).rewrite pkt).1.Sound := by
  by_cases ho : slot.origin = some occupant.origin
  · rw [Slot.enter, if_neg (not_not.2 ho)]
    apply Sound.resume
    · exact h.steady
    · exact Nat.pos_of_ne_zero fun h0 => by simp [origin, (h.fresh h0).1] at ho
    · exact hlt
    · exact hin ho
  · rw [Slot.enter, if_pos ho]
    apply Sound.open
    exact h.steady

end Slot

namespace AudioAllocator

def Holds (a : AudioAllocator P) (slot : Slot P) : Prop := slot ∈ a.slots ∨ ∃ mid, a.ownedSlots.get? mid = some slot

/-- No packet of an occupancy is older than its first one by more than the number that one was sent with. -/
def Recent (a : AudioAllocator P) : AudioOp → Prop
  | .onRtp origin _ pkt => pkt.seqNo < 2 ^ 62 ∧
      ∀ slot ∈ a.slots, slot.origin = some origin → slot.spell.input ≤ pkt.seqNo + slot.spell.output
  | .onOwnedRtp mid pkt => pkt.seqNo < 2 ^ 62 ∧
      ∀ slot ∈ a.ownedSlots.get? mid, slot.lastArrivalTs ≠ none → slot.spell.input ≤ pkt.seqNo + slot.spell.output
  | _ => True

instance [LT P] [DecidableLT P] (L : Loudness P) (a : AudioAllocator P) : ∀ op, Decidable ((machine L Recent).guard a op)
  | .onRtp .. | .onOwnedRtp .. => inferInstanceAs (Decidable (_ ∧ _))
  | .addSlot .. | .setIntent .. | .setPlayoutCompatibility .. | .markFixedReceiver .. | .removeTrack ..
  | .installOwnedSlot .. | .removeOwnedSlot .. => inferInstanceAs (Decidable True)

variable {a : AudioAllocator P}

lemma sound_onRtp [LT P] [DecidableLT P] {L : Loudness P} (h : ∀ slot ∈ a.slots, slot.Sound)
    {origin : AudioOrigin} {level : Option ℤ} (hg : a.Recent (.onRtp origin level pkt)) :
    ∀ slot ∈ (a.onRtp L origin level pkt).1.slots, slot.Sound := by
  rcases onRtp_cases L a origin level pkt with heq | ⟨aged, rfl, hcase⟩
  · rwa [heq]
  have haged : ∀ slot ∈ a.slots.map (Slot.decayed L pkt.arrivalTs), slot.Sound := by
    rw [List.forall_mem_map]
    exact fun slot hslot => ⟨(h slot hslot).steady, (h slot hslot).fresh⟩
  rcases hcase with heq | ⟨i, slot, dbov, changed, marker, -, hi, heq⟩
  · rwa [heq]
  rw [heq]
  intro x hx
  rcases List.mem_or_eq_of_mem_set hx with hx | rfl
  · exact haged x hx
  have hmem := List.mem_of_getElem? hi
  have hs := (haged slot hmem).enter ⟨origin, dbov⟩ (L.ofLevel dbov) hg.1 ?_
  · exact ⟨hs.steady, hs.fresh⟩
  intro ho
  obtain ⟨slot, hslot, rfl⟩ := List.mem_map.1 hmem
  exact hg.2 slot hslot ho

lemma sound_onOwnedRtp (h : ∀ slot, a.Holds slot → slot.Sound) {mid : Mid}
    (hg : a.Recent (.onOwnedRtp mid pkt)) : ∀ slot, (a.onOwnedRtp mid pkt).1.Holds slot → slot.Sound := by
  rw [onOwnedRtp]
  split
  · exact h
  next slot hslot =>
    rintro x (hx | ⟨m, hx⟩)
    · exact h x (.inl hx)
    have hs := h slot (.inr ⟨mid, hslot⟩)
    rw [OrdMap.get?_insert] at hx
    split_ifs at hx with hm hn
    · rw [← Option.some.inj hx]
      have hopen : Slot.Steady { slot with lastArrivalTs := some pkt.arrivalTs } := hs.steady
      exact Slot.Sound.open hopen pkt
    · rw [Option.isNone_iff_eq_none] at hn
      rw [← Option.some.inj hx]
      apply Slot.Sound.resume
      · exact hs.steady
      · exact Nat.pos_of_ne_zero fun h0 => hn (hs.fresh h0).2
      · exact hg.1
      · exact hg.2 slot hslot hn
    · exact h x (.inr ⟨m, hx⟩)

/-- In a run in which every packet is recent, the packets sent on a slot follow each other without a gap but the ones of
their source. -/
theorem slots_send_one_stream [LT P] [DecidableLT P] (L : Loudness P)
    (h : (machine L Recent).Reachable a) : ∀ slot, a.Holds slot → slot.emitted.IsChain Follows := by
  intro slot hslot
  refine (h.invariant (I := fun a => ∀ slot, Holds a slot → Slot.Sound slot) ?_ ?_ slot hslot).steady.chain
  · rintro _ ⟨manualSub, rfl⟩ x (hx | ⟨mid, hx⟩) <;> cases hx
  · intro a op h hg
    have hv (leaves : Slot P → Bool) : ∀ slot ∈ a.slots.map (Slot.vacate leaves), slot.Sound := by
      rw [List.forall_mem_map]
      exact fun slot hslot => (h slot (.inl hslot)).vacate leaves
    cases op with
    | addSlot slot now base =>
      simp only [machine, apply, addSlot]
      split_ifs
      · exact h
      rintro x (hx | hx)
      · rcases List.mem_append.1 hx with hx | hx
        · exact h x (.inl hx)
        · rw [List.mem_singleton.1 hx]
          exact Slot.sound_new ..
      · exact h x (.inr hx)
    | setIntent intent => exact fun x hx => hx.elim (hv _ x) fun hx => h x (.inr hx)
    | setPlayoutCompatibility receivers tracks => exact fun x hx => hx.elim (hv _ x) fun hx => h x (.inr hx)
    | markFixedReceiver mid => exact h
    | removeTrack track => exact fun x hx => hx.elim (hv _ x) fun hx => h x (.inr hx)
    | onRtp origin level pkt =>
      rintro x (hx | hx)
      · exact sound_onRtp (fun slot hslot => h slot (.inl hslot)) hg x hx
      refine h x (.inr ?_)
      rcases onRtp_cases L a origin level pkt with heq | ⟨_, rfl, heq | ⟨_, _, _, _, _, -, -, heq⟩⟩ <;>
        simpa only [machine, apply, heq] using hx
    | installOwnedSlot mid ssrc pt now base =>
      simp only [machine, apply, installOwnedSlot]
      split_ifs
      · exact h
      rintro x (hx | ⟨m, hx⟩)
      · exact h x (.inl hx)
      rw [OrdMap.get?_insert] at hx
      split_ifs at hx
      · rw [← Option.some.inj hx]
        exact Slot.sound_new ..
      · exact h x (.inr ⟨m, hx⟩)
    | removeOwnedSlot mid =>
      rintro x (hx | ⟨m, hx⟩)
      · exact h x (.inl hx)
      simp only [machine, apply, removeOwnedSlot, OrdMap.get?_erase] at hx
      split_ifs at hx
      exact h x (.inr ⟨m, hx⟩)
    | onOwnedRtp mid pkt => exact sound_onOwnedRtp h hg

def contested : List AudioOp :=
  [.addSlot ⟨0, 0, 1, 111⟩ 0 7, heardFrom 1 (-30) 0 100, heardFrom 1 (-30) 0 103, heardFrom 1 (-30) 0 101,
    heardFrom 2 (-10) 0 40]

theorem slots_send_one_stream_contested :
    ∃ slot, (contested.foldl (apply dbovScale) (new false)).Holds slot ∧
      slot.emitted = [⟨2, 40, 12⟩, ⟨1, 103, 11⟩, ⟨1, 100, 8⟩] ∧ slot.emitted.IsChain Follows := by
  have hg : (machine dbovScale Recent).Admits (new false) contested := by decide +kernel
  have h := Machine.Reachable.run (.init ⟨false, rfl⟩ : (machine dbovScale Recent).Reachable _) hg
  have hslot : (contested.foldl (apply dbovScale) (new false)).slots.map (·.emitted) =
      [[⟨2, 40, 12⟩, ⟨1, 103, 11⟩, ⟨1, 100, 8⟩]] := by decide +kernel
  obtain ⟨slot, hmem, heq⟩ := List.mem_map.1 (hslot ▸ List.mem_singleton_self _)
  exact ⟨slot, .inl hmem, heq, slots_send_one_stream dbovScale h slot (.inl hmem)⟩

def latecomer : List AudioOp := [.addSlot ⟨0, 0, 1, 111⟩ 0 0, heardFrom 1 (-30) 0 100, heardFrom 1 (-30) 0 50]

/-- A packet sent 50 before the first one of its occupancy is numbered below zero, which wraps past every number to come. -/
theorem late_packet_leaps :
    ∃ slot, (latecomer.foldl (apply dbovScale) (new false)).Holds slot ∧
      slot.emitted = [⟨1, 50, 2 ^ 64 - 49⟩, ⟨1, 100, 1⟩] ∧ ¬ slot.emitted.IsChain Follows := by
  have hslot : (latecomer.foldl (apply dbovScale) (new false)).slots.map (·.emitted) =
      [[⟨1, 50, 2 ^ 64 - 49⟩, ⟨1, 100, 1⟩]] := by decide +kernel
  obtain ⟨slot, hmem, heq⟩ := List.mem_map.1 (hslot ▸ List.mem_singleton_self _)
  refine ⟨slot, .inl hmem, heq, ?_⟩
  rw [heq]
  decide

end AudioAllocator

end Pulsebeam.Downstream
