import Pulsebeam.Downstream.Audio

/-! Who may occupy an audio slot. -/

namespace Pulsebeam.Downstream

open Pulsebeam.Lib Pulsebeam.Rtp List Option

variable {P : Type*}

namespace AudioAllocator

def Occupied (a : AudioAllocator P) (i : ℕ) (mid : Mid) (o : AudioOrigin) : Prop :=
  ∃ slot, a.slots[i]? = some slot ∧ slot.mid = mid ∧ slot.origin = some o

instance (a : AudioAllocator P) (i : ℕ) (mid : Mid) (o : AudioOrigin) : Decidable (a.Occupied i mid o) :=
  decidable_of_iff (a.slots[i]?.any fun slot => slot.mid == mid && slot.origin == some o)
    (by simp [Occupied, Option.any_eq_true])

variable {a : AudioAllocator P} {o : AudioOrigin} {i : ℕ} {m : Mid}

lemma Occupied.unique {m' : Mid} {o' : AudioOrigin} (h : a.Occupied i m o) (h' : a.Occupied i m' o') : o' = o := by
  obtain ⟨slot, hi, -, ho⟩ := h
  obtain ⟨slot', hi', -, ho'⟩ := h'
  rw [hi] at hi'
  cases hi'
  exact Option.some.inj (ho'.symm.trans ho)

structure Fair (a : AudioAllocator P) : Prop where
  fit : ∀ i m o, a.Occupied i m o → o.track ∈ a.fixedTracks ∨ m ∉ a.fixedReceivers
  pinned : a.intent.auto = false → ∀ i m o, a.Occupied i m o → o.track ∈ a.intent.pinned
  single : ∀ i j m m' o, a.Occupied i m o → a.Occupied j m' o → i = j

lemma occupied_vacated {b : AudioAllocator P} {leaves : Slot P → Bool} (hb : b.slots = a.slots.map (Slot.vacate leaves))
    (h : b.Occupied i m o) :
    ∃ slot, a.slots[i]? = some slot ∧ slot.mid = m ∧ slot.origin = some o ∧ leaves slot = false := by
  obtain ⟨slot, hi, hm, ho⟩ := h
  rw [hb, getElem?_map, map_eq_some_iff] at hi
  obtain ⟨x, hi, rfl⟩ := hi
  rw [Slot.vacate] at hm ho
  split_ifs at hm ho with hl
  · cases ho
  · exact ⟨x, hi, hm, ho, by simpa using hl⟩

variable [LT P] [DecidableLT P] {op : AudioOp}

lemma mem_of_quietest {l : List (Slot P × ℕ)} {x : Slot P × ℕ} (h : quietest l = some x) : x ∈ l := by
  cases l with
  | nil => cases h
  | cons y l =>
    obtain rfl := Option.some.inj h
    clear h
    induction l generalizing y with
    | nil => simp
    | cons z l ih =>
      rw [foldl_cons]
      split_ifs with hlt
      · exact mem_cons_of_mem _ (ih z)
      have := ih y
      simp only [mem_cons] at this ⊢
      tauto

lemma slotFor_cases {origin : AudioOrigin} {power : P} {now : Instant} (h : a.slotFor origin power now = some i) :
    (a.intent.auto = false → origin.track ∈ a.intent.pinned) ∧
      ∃ slot, a.slots[i]? = some slot ∧ a.compatible origin.track slot = true ∧ (slot.origin = some origin ∨
        (∀ x ∈ a.slots, a.compatible origin.track x = true → x.origin ≠ some origin) ∧
          (slot.isDead now = true ∧ slot.isImmune now = false ∨ a.holdsPin slot = false)) := by
  rw [slotFor] at h
  split_ifs at h with hbar
  refine ⟨fun hauto => by simpa [isPinned, hauto] using hbar, ?_⟩
  rcases or_eq_some_iff.1 h with h | ⟨hnone, h⟩
  · obtain ⟨hlt, hp, -⟩ := findIdx?_eq_some_iff_getElem.1 h
    rw [Bool.and_eq_true, beq_iff_eq] at hp
    exact ⟨_, getElem?_eq_getElem hlt, hp.1, .inl hp.2⟩
  have hown : ∀ x ∈ a.slots, a.compatible origin.track x = true → x.origin ≠ some origin := by
    simpa using findIdx?_eq_none_iff.1 hnone
  rcases or_eq_some_iff.1 h with h | ⟨-, h⟩
  · obtain ⟨hlt, hp, -⟩ := findIdx?_eq_some_iff_getElem.1 h
    simp only [Bool.and_eq_true, Bool.not_eq_true'] at hp
    exact ⟨_, getElem?_eq_getElem hlt, hp.1.1, .inr ⟨hown, .inl ⟨hp.1.2, hp.2⟩⟩⟩
  obtain ⟨⟨slot, j⟩, hq, hj⟩ := bind_eq_some_iff.1 h
  dsimp only at hj
  split_ifs at hj
  cases hj
  have hmem := mem_of_quietest hq
  simp only [mem_filter, Bool.and_eq_true, Bool.not_eq_true', mem_zipIdx_iff_getElem?] at hmem
  exact ⟨slot, hmem.1, hmem.2.1.1, .inr ⟨hown, .inr hmem.2.2⟩⟩

lemma enter_fields (slot : Slot P) (occupant : Occupant) (power : P) (pkt : RtpPacket) :
    (slot.enter occupant power pkt).mid = slot.mid ∧ (slot.enter occupant power pkt).occupant = some occupant := by
  rw [Slot.enter]
  split
  · exact ⟨rfl, rfl⟩
  · exact ⟨rfl, rfl⟩

lemma occupied_onRtp (L : Loudness P) (a : AudioAllocator P) (origin : AudioOrigin) (level : Option ℤ) (pkt : RtpPacket) :
    (∀ i m o, (a.onRtp L origin level pkt).1.Occupied i m o → a.Occupied i m o) ∨
    (a.intent.auto = false → origin.track ∈ a.intent.pinned) ∧
      ∃ k slot, a.slots[k]? = some slot ∧ a.compatible origin.track slot = true ∧ (slot.origin = some origin ∨
        (∀ x ∈ a.slots, a.compatible origin.track x = true → x.origin ≠ some origin) ∧
          (slot.isDead pkt.arrivalTs = true ∧ slot.isImmune pkt.arrivalTs = false ∨ a.holdsPin slot = false)) ∧
      ∀ i m o, (a.onRtp L origin level pkt).1.Occupied i m o → i ≠ k ∧ a.Occupied i m o ∨ i = k ∧ m = slot.mid ∧ o = origin := by
  have hdec {i m o} (h : ({ a with slots := a.slots.map (Slot.decayed L pkt.arrivalTs) } : AudioAllocator P).Occupied i m o) :
      a.Occupied i m o := by
    obtain ⟨x, hi, hx⟩ := h
    rw [getElem?_map, map_eq_some_iff] at hi
    obtain ⟨y, hi, rfl⟩ := hi
    exact ⟨y, hi, hx⟩
  rcases onRtp_cases L a origin level pkt with heq | ⟨_, rfl, heq | ⟨k, slot, dbov, changed, marker, hk, hi, heq⟩⟩
  · exact .inl fun i m o h => by rwa [heq] at h
  · exact .inl fun i m o h => hdec (heq ▸ h)
  obtain ⟨hpin, slot', hi', hfit, hown⟩ := slotFor_cases hk
  cases hi.symm.trans hi'
  rw [getElem?_map, map_eq_some_iff] at hi
  obtain ⟨slot, hi, rfl⟩ := hi
  refine .inr ⟨hpin, k, slot, hi, hfit, ?_, ?_⟩
  · refine hown.imp_right (And.imp_left fun hown x hx => ?_)
    exact hown (x.decayed L pkt.arrivalTs) (mem_map_of_mem hx)
  · rintro i m o ⟨x, hx, hm, ho⟩
    by_cases hik : i = k
    · subst hik
      rw [heq, List.getElem?_set_self (List.getElem?_eq_some_iff.1 hi').1] at hx
      obtain rfl := Option.some.inj hx
      obtain ⟨hmid, hocc, -⟩ := Slot.rewrite_fields _
        pkt
      obtain ⟨henter, hentered⟩ := enter_fields _ ⟨origin, dbov⟩ (L.ofLevel dbov) pkt
      rw [Slot.origin, hocc, hentered] at ho
      exact .inr ⟨rfl, hm.symm.trans (hmid.trans henter), (Option.some.inj ho).symm⟩
    · rw [heq, getElem?_set_ne (Ne.symm hik)] at hx
      exact .inl ⟨hik, hdec ⟨x, hx, hm, ho⟩⟩

/-- An origin that may be heard and has no slot of its own: its packets come to the rule on dead slots. -/
def seeks (a : AudioAllocator P) (origin : AudioOrigin) : Bool :=
  (a.isPinned origin.track || a.intent.auto) &&
    a.slots.all fun slot => !(a.compatible origin.track slot && slot.origin == some origin)

/-- No packet that seeks a slot finds that of a pinned origin dead, and no slot in use is marked that its track does not
fit. -/
def Spares (a : AudioAllocator P) : AudioOp → Prop
  | .onRtp origin (some _) pkt => a.seeks origin = true → ∀ slot ∈ a.slots, a.compatible origin.track slot = true →
      a.holdsPin slot = true → slot.isDead pkt.arrivalTs = true → slot.isImmune pkt.arrivalTs = true
  | .markFixedReceiver mid => ∀ slot ∈ a.slots, slot.mid = mid → ∀ o ∈ slot.origin, o.track ∈ a.fixedTracks
  | _ => True

lemma Fair.shrinks (h : a.Fair) (L : Loudness P) (hg : a.Spares op)
    (hop : ∀ origin level pkt, op ≠ .onRtp origin level pkt) (hb : (a.apply L op).Occupied i m o) :
    a.Occupied i m o ∧
      (o.track ∈ (a.apply L op).fixedTracks ∨ m ∉ (a.apply L op).fixedReceivers) ∧
      ((a.apply L op).intent.auto = false → o.track ∈ (a.apply L op).intent.pinned) := by
  have hsame (ha : a.Occupied i m o) : a.Occupied i m o ∧ (o.track ∈ a.fixedTracks ∨ m ∉ a.fixedReceivers) ∧
      (a.intent.auto = false → o.track ∈ a.intent.pinned) :=
    ⟨ha, h.fit i m o ha, fun hauto => h.pinned hauto i m o ha⟩
  cases op with
  | addSlot slot now base =>
    rw [AudioAllocator.apply, addSlot] at hb ⊢
    split_ifs at hb ⊢
    · exact hsame hb
    obtain ⟨x, hi, hm, ho⟩ := hb
    rw [getElem?_append] at hi
    split_ifs at hi
    · exact hsame ⟨x, hi, hm, ho⟩
    · rw [mem_singleton.1 (mem_of_getElem? hi)] at ho
      cases ho
  | setIntent intent =>
    obtain ⟨x, hi, hm, ho, hl⟩ := occupied_vacated rfl hb
    refine ⟨⟨x, hi, hm, ho⟩, h.fit i m o ⟨x, hi, hm, ho⟩, fun hauto => ?_⟩
    obtain ⟨occupant, hx, rfl⟩ := map_eq_some_iff.1 ho
    simp only [show intent.auto = false from hauto, hx, any_some, Bool.not_false, Bool.true_and,
      decide_eq_false_iff_not, not_not] at hl
    exact hl
  | setPlayoutCompatibility receivers tracks =>
    obtain ⟨x, hi, rfl, ho, hl⟩ := occupied_vacated rfl hb
    refine ⟨⟨x, hi, rfl, ho⟩, ?_, fun hauto => h.pinned hauto i _ o ⟨x, hi, rfl, ho⟩⟩
    obtain ⟨occupant, hx, rfl⟩ := map_eq_some_iff.1 ho
    by_cases hm : x.mid ∈ receivers
    · simp only [hm, hx, any_some, decide_true, Bool.true_and, decide_eq_false_iff_not, not_not] at hl
      exact .inl hl
    · exact .inr hm
  | markFixedReceiver mid =>
    refine ⟨hb, ?_, fun hauto => h.pinned hauto i m o hb⟩
    obtain ⟨x, hi, hm, ho⟩ := id hb
    by_cases hmid : m = mid
    · exact .inl (hg x (mem_of_getElem? hi) (hm.trans hmid) o ho)
    · exact (h.fit i m o hb).imp_right fun hnot hin => ((mem_insert_iff).1 hin).elim hmid hnot
  | removeTrack track =>
    obtain ⟨x, hi, hm, ho, -⟩ := occupied_vacated rfl hb
    exact hsame ⟨x, hi, hm, ho⟩
  | onRtp origin level pkt => exact absurd rfl (hop origin level pkt)
  | installOwnedSlot mid ssrc pt now base =>
    rw [AudioAllocator.apply, installOwnedSlot] at hb ⊢
    split_ifs at hb ⊢ <;> exact hsame hb
  | removeOwnedSlot mid => exact hsame hb
  | onOwnedRtp mid pkt =>
    rw [AudioAllocator.apply, onOwnedRtp] at hb ⊢
    split at hb <;> exact hsame hb

lemma onRtp_frame (L : Loudness P) (a : AudioAllocator P) (origin : AudioOrigin) (level : Option ℤ) (pkt : RtpPacket) :
    (a.onRtp L origin level pkt).1.intent = a.intent ∧ (a.onRtp L origin level pkt).1.fixedTracks = a.fixedTracks ∧
      (a.onRtp L origin level pkt).1.fixedReceivers = a.fixedReceivers := by
  rcases onRtp_cases L a origin level pkt with heq | ⟨_, rfl, heq | ⟨_, _, _, _, _, -, -, heq⟩⟩ <;> simp only [heq, and_self]

lemma Fair.onRtp (h : a.Fair) (L : Loudness P) (origin : AudioOrigin) (level : Option ℤ) (pkt : RtpPacket) :
    (a.onRtp L origin level pkt).1.Fair := by
  obtain ⟨hintent, htracks, hreceivers⟩ := onRtp_frame L a origin level pkt
  rcases occupied_onRtp L a origin level pkt with hsub | ⟨hpin, k, slot, hk, hfit, hown, hsub⟩
  · refine ⟨fun i m o hb => ?_, fun hauto i m o hb => ?_, fun i j m m' o hb hb' => ?_⟩
    · rw [htracks, hreceivers]
      exact h.fit i m o (hsub i m o hb)
    · rw [hintent] at hauto ⊢
      exact h.pinned hauto i m o (hsub i m o hb)
    · exact h.single i j m m' o (hsub i m o hb) (hsub j m' o hb')
  · have hnew {i m} (hik : i ≠ k) (hi : a.Occupied i m origin) : False := by
      rcases hown with hown | ⟨hown, -⟩
      · exact hik (h.single i k m slot.mid origin hi ⟨slot, hk, rfl, hown⟩)
      · obtain ⟨x, hx, rfl, ho⟩ := id hi
        exact hown x (mem_of_getElem? hx) (by simpa [compatible] using h.fit i _ _ hi) ho
    refine ⟨fun i m o hb => ?_, fun hauto i m o hb => ?_, fun i j m m' o hb hb' => ?_⟩
    · rw [htracks, hreceivers]
      rcases hsub i m o hb with ⟨-, ha⟩ | ⟨-, rfl, rfl⟩
      · exact h.fit i m o ha
      · simpa [compatible] using hfit
    · rw [hintent] at hauto ⊢
      rcases hsub i m o hb with ⟨-, ha⟩ | ⟨-, -, rfl⟩
      · exact h.pinned hauto i m o ha
      · exact hpin hauto
    · rcases hsub i m o hb with ⟨hi, ha⟩ | ⟨rfl, -, rfl⟩ <;> rcases hsub j m' _ hb' with ⟨hj, ha'⟩ | ⟨rfl, -, ho⟩
      · exact h.single i j m m' o ha ha'
      · exact (hnew hi (ho ▸ ha)).elim
      · exact (hnew hj ha').elim
      · rfl

lemma Fair.apply (h : a.Fair) (L : Loudness P) (hg : a.Spares op) : (a.apply L op).Fair := by
  by_cases hop : ∃ origin level pkt, op = .onRtp origin level pkt
  · obtain ⟨origin, level, pkt, rfl⟩ := hop
    exact h.onRtp L origin level pkt
  push Not at hop
  have hs {i m o} (hb : (a.apply L op).Occupied i m o) := h.shrinks L hg hop hb
  exact ⟨fun i m o hb => (hs hb).2.1, fun hauto i m o hb => (hs hb).2.2 hauto,
    fun i j m m' o hb hb' => h.single i j m m' o (hs hb).1 (hs hb').1⟩

/-- In a run that spares the pinned tracks, one step never gives the slot of a pinned track to another origin; with `auto`
off only pinned tracks hold slots; and no origin holds two. -/
theorem pins_hold (L : Loudness P) {a : AudioAllocator P} (h : (machine L Spares).Reachable a) :
    (∀ op, a.Spares op → ∀ i m m' o o', a.Occupied i m o → o.track ∈ a.intent.pinned →
      (a.apply L op).Occupied i m' o' → o' = o) ∧
    (a.intent.auto = false → ∀ i m o, a.Occupied i m o → o.track ∈ a.intent.pinned) ∧
    ∀ i j m m' o, a.Occupied i m o → a.Occupied j m' o → i = j := by
  have hf : a.Fair := by
    refine h.invariant ?_ fun a op h hg => h.apply L hg
    rintro _ ⟨manualSub, rfl⟩
    have hnone i m o : ¬ (new manualSub : AudioAllocator P).Occupied i m o := by simp [Occupied, new]
    exact ⟨fun i m o h => (hnone i m o h).elim, fun _ i m o h => (hnone i m o h).elim,
      fun i _ m _ o h => (hnone i m o h).elim⟩
  refine ⟨fun op hg i m m' o o' ho hpin hb => ?_, hf.pinned, hf.single⟩
  by_cases hop : ∃ origin level pkt, op = .onRtp origin level pkt
  · obtain ⟨origin, _ | level, pkt, rfl⟩ := hop
    · exact ho.unique hb
    rcases occupied_onRtp L a origin _ pkt with hsub | ⟨hheard, k, slot, hk, hfit, hown, hsub⟩
    · exact ho.unique (hsub i m' o' hb)
    rcases hsub i m' o' hb with ⟨-, ha⟩ | ⟨rfl, rfl, rfl⟩
    · exact ho.unique ha
    obtain ⟨x, hi, -, hx⟩ := ho
    cases hk.symm.trans hi
    obtain ⟨occupant, hocc, rfl⟩ := map_eq_some_iff.1 hx
    have hholds : a.holdsPin slot = true := by simpa [holdsPin, isPinned, hocc] using hpin
    by_contra hne
    have hother : slot.origin ≠ some o' := fun heq => hne (Option.some.inj (heq.symm.trans hx))
    rcases hown with hown | ⟨hnone, ⟨hdead, himm⟩ | hfree⟩
    · exact hother hown
    · have hseeks : a.seeks o' = true := by
        cases hauto : a.intent.auto with
        | false => simpa [seeks, isPinned, hheard hauto, or_iff_not_imp_left] using hnone
        | true => simpa [seeks, hauto, or_iff_not_imp_left] using hnone
      have := hg hseeks slot (mem_of_getElem? hk) hfit hholds hdead
      rw [himm] at this
      cases this
    · rw [hholds] at hfree
      cases hfree
  · push Not at hop
    exact ho.unique (hf.shrinks L hg hop hb).1

instance (L : Loudness P) (a : AudioAllocator P) : ∀ op, Decidable ((machine L Spares).guard a op)
  | .onRtp _ (some _) _ => inferInstanceAs (Decidable (_ → ∀ slot ∈ a.slots, _ → _))
  | .markFixedReceiver .. => List.decidableBAll _ _
  | .onRtp _ none _ | .addSlot .. | .setIntent .. | .setPlayoutCompatibility .. | .removeTrack .. | .installOwnedSlot ..
  | .removeOwnedSlot .. | .onOwnedRtp .. => inferInstanceAs (Decidable True)

def pinnedTalk : List AudioOp :=
  [.addSlot ⟨0, 0, 1, 111⟩ 0 0, .addSlot ⟨1, 1, 2, 111⟩ 0 0, .setIntent ⟨[(speaker 1).track], true⟩, heardFrom 1 (-30) 0 1]

def pinnedTalker : AudioAllocator ℕ := pinnedTalk.foldl (apply dbovScale) (new false)

theorem pins_hold_contested : pinnedTalker.Occupied 0 0 (speaker 1) ∧
    ∀ m o, (pinnedTalker.apply dbovScale (heardFrom 2 (-10) 1 1)).Occupied 0 m o → o = speaker 1 := by
  have hg : (machine dbovScale Spares).Admits (new false) pinnedTalk := by decide +kernel
  have h : (machine dbovScale Spares).Reachable pinnedTalker := Machine.Reachable.run (.init ⟨false, rfl⟩) hg
  have hocc : pinnedTalker.Occupied 0 0 (speaker 1) := by decide +kernel
  have hspares : (machine dbovScale Spares).guard pinnedTalker (heardFrom 2 (-10) 1 1) := by decide +kernel
  have hpin : (speaker 1).track ∈ pinnedTalker.intent.pinned := by decide +kernel
  exact ⟨hocc, fun m o => (pins_hold dbovScale h).1 (heardFrom 2 _ 1 1) hspares 0 0 m _ o hocc hpin⟩

theorem pins_displaced :
    (pinnedTalker.Occupied 0 0 (speaker 1) ∧ (speaker 1).track ∈ pinnedTalker.intent.pinned ∧
      pinnedTalker.fixedReceivers = [] ∧
      (pinnedTalker.apply dbovScale (heardFrom 2 (-10) (Duration.fromMillis 3000) 1)).Occupied 0 0 (speaker 2)) ∧
    ([.markFixedReceiver 0, heardFrom 1 (-30) 1 2].foldl (apply dbovScale) pinnedTalker).Occupied 0 0 (speaker 1) ∧
    ([.markFixedReceiver 0, heardFrom 1 (-30) 1 2].foldl (apply dbovScale) pinnedTalker).Occupied 1 1 (speaker 1) := by
  decide +kernel

end AudioAllocator

end Pulsebeam.Downstream
