import Pulsebeam.Agent.Delivery
import Pulsebeam.Lib.Cursor

/-! Ordered deliveries read their track through a cursor. -/

namespace Pulsebeam.Agent

open Pulsebeam.Lib Cursor

variable {id : String}

structure Buffered (id : String) (next : ℕ) (pending : OrdMap ℕ WireMessage) : Prop where
  track : ∀ {k m}, pending.get? k = some m → m.dataTrackId = id
  number : ∀ {k m}, pending.get? k = some m → m.sequence = k
  fits : ∀ {k m}, pending.get? k = some m → k < Word.max 64
  above : ∀ {k m}, pending.get? k = some m → next ≤ k

namespace Buffered

variable {next : ℕ} {pending : OrdMap ℕ WireMessage}

lemma of_empty : Buffered id next ∅ := by
  constructor
  all_goals
    intro k m h
    cases h

lemma mono {next' : ℕ} {pending' : OrdMap ℕ WireMessage} (h : Buffered id next pending)
    (hsub : ∀ {k m}, pending'.get? k = some m → pending.get? k = some m ∧ next' ≤ k) : Buffered id next' pending' where
  track hk := h.track (hsub hk).1
  number hk := h.number (hsub hk).1
  fits hk := h.fits (hsub hk).1
  above hk := (hsub hk).2

lemma insert (h : Buffered id next pending) {m : WireMessage} (hid : m.dataTrackId = id)
    (hfits : m.sequence < Word.max 64) (hnext : next ≤ m.sequence) :
    Buffered id next (pending.insert m.sequence m) := by
  have hcase : ∀ {k m'}, (pending.insert m.sequence m).get? k = some m' →
      (k = m.sequence ∧ m' = m) ∨ pending.get? k = some m' := by
    intro k m' hk
    rw [OrdMap.get?_insert] at hk
    split at hk
    next heq => exact .inl ⟨heq, (Option.some.inj hk).symm⟩
    · exact .inr hk
  constructor
  all_goals
    intro k m' hk
    rcases hcase hk with ⟨rfl, rfl⟩ | hk
  · exact hid
  · exact h.track hk
  · rfl
  · exact h.number hk
  · exact hfits
  · exact h.fits hk
  · exact hnext
  · exact h.above hk

lemma erase (h : Buffered id next pending) : Buffered id (next + 1) (pending.erase next) := by
  apply h.mono
  intro k m hk
  rw [OrdMap.get?_erase] at hk
  split at hk
  · cases hk
  next hne => exact ⟨hk, Nat.lt_of_le_of_ne (h.above hk) (Ne.symm hne)⟩

end Buffered

def deliveries (messages : List WireMessage) : List Item := messages.map fun m => .deliver m.sequence

structure OrderedDelivery.Sound (id : String) (d : OrderedDelivery) : Prop where
  unplaced : d.nextSequence = none → d.pending = ∅
  buffered : ∀ {next}, d.nextSequence = some next → Buffered id (next + 1) d.pending
  fits : ∀ {next}, d.nextSequence = some next → next ≤ Word.max 64
  size : d.pending.size ≤ topicReorderCapacity

structure Advances (id : String) (cursor : Option ℕ) (d : OrderedDelivery) (gap : Option (ℕ × ℕ))
    (messages : List WireMessage) : Prop where
  sound : d.Sound id
  track : ∀ m ∈ messages, m.dataTrackId = id
  follows : ∀ {l}, Follows l cursor →
    Follows (l ++ (gap.toList.map fun g => .gap g.1 g.2) ++ deliveries messages) d.nextSequence

namespace OrderedDelivery

variable {d : OrderedDelivery} {next : ℕ} {pending : OrdMap ℕ WireMessage} {message : WireMessage}

lemma sound_default : ({} : OrderedDelivery).Sound id where
  unplaced _ := rfl
  buffered h := nomatch h
  fits h := nomatch h
  size := Nat.zero_le _

lemma Sound.clearPending (h : d.Sound id) : d.clearPending.Sound id where
  unplaced _ := rfl
  buffered _ := .of_empty
  fits hn := h.fits hn
  size := Nat.zero_le _

lemma drainLoop_spec {fuel next : ℕ} (h : Buffered id next pending)
    (hnext : next ≤ Word.max 64) (hfuel : pending.size ≤ fuel) {messages : List WireMessage} {next' : ℕ}
    {pending' : OrdMap ℕ WireMessage} (hr : drainLoop fuel next pending = (messages, next', pending')) :
    Buffered id (next' + 1) pending' ∧ next' ≤ Word.max 64 ∧ pending'.size ≤ pending.size ∧
      (∀ m ∈ messages, m.dataTrackId = id) ∧
      ∀ {l}, Follows l (some next) → Follows (l ++ deliveries messages) (some next') := by
  induction fuel generalizing next pending messages next' pending' with
  | zero =>
    cases hr
    have hempty : pending.entries = [] := List.length_eq_zero_iff.1 (Nat.le_zero.1 hfuel)
    refine ⟨h.mono fun hk => ?_, hnext, le_rfl, by simp, fun hl => by simpa [deliveries] using hl⟩
    rw [← OrdMap.mem_entries, hempty] at hk
    cases hk
  | succ fuel ih =>
    rw [drainLoop] at hr
    split at hr
    next hnone =>
      cases hr
      refine ⟨h.mono fun {k m} hk => ⟨hk, ?_⟩, hnext, le_rfl, by simp, fun hl => by simpa [deliveries] using hl⟩
      refine Nat.lt_of_le_of_ne (h.above hk) ?_
      rintro rfl
      cases hnone.symm.trans hk
    next message hsome =>
      have hlt := h.fits hsome
      have hsat : Word.saturatingAdd 64 next 1 = next + 1 := Nat.min_eq_left hlt
      have hsize := OrdMap.size_erase_lt hsome
      rw [hsat] at hr
      generalize hrest : drainLoop fuel _ _ = r at hr
      cases hr
      obtain ⟨hbuf, hle, hsz, htrack, hfollows⟩ := ih h.erase hlt (by omega) hrest
      refine ⟨hbuf, hle, by omega, ?_, ?_⟩
      · intro m hm
        rcases List.mem_cons.1 hm with rfl | hm
        · exact h.track hsome
        · exact htrack m hm
      · intro l hl
        have hone := hfollows hl.deliver
        rwa [List.append_assoc, ← h.number hsome] at hone

lemma drain_advances (h : Buffered id next pending)
    (hnext : next ≤ Word.max 64) (hsize : pending.size ≤ topicReorderCapacity) :
    Advances id (some next) (drain ⟨some next, pending⟩).1 none (drain ⟨some next, pending⟩).2.messages := by
  obtain ⟨hbuf, hle, hsz, htrack, hfollows⟩ := drainLoop_spec h hnext le_rfl rfl
  refine ⟨⟨nofun, ?_, ?_, hsz.trans hsize⟩, htrack, fun hl => ?_⟩
  · intro n hn
    cases hn
    exact hbuf
  · intro n hn
    cases hn
    exact hle
  · rw [Option.toList_none, List.map_nil, List.append_nil]
    exact hfollows hl

lemma Sound.drain_advances (h : d.Sound id) : Advances id d.nextSequence d.drain.1 none d.drain.2.messages := by
  obtain ⟨cursor, pending⟩ := d
  cases cursor with
  | none => exact ⟨h, by simp [drain], fun hl => by simpa [drain, deliveries] using hl⟩
  | some next => exact OrderedDelivery.drain_advances ((h.buffered rfl).mono fun hk => ⟨hk, Nat.le_of_succ_le
      ((h.buffered rfl).above hk)⟩) (h.fits rfl) h.size

lemma Sound.seek (h : d.Sound id) (hnext : next ≤ Word.max 64) : (d.seek next).Sound id := by
  obtain ⟨cursor, pending⟩ := d
  cases cursor with
  | none =>
    obtain rfl : pending = ∅ := h.unplaced rfl
    refine ⟨fun _ => rfl, fun _ => .of_empty, fun hn => ?_, Nat.zero_le _⟩
    cases hn
    exact hnext
  | some _ => exact h

lemma follows_seek {l : List Item} (h : Follows l d.nextSequence) : Follows l (d.seek next).nextSequence := by
  obtain ⟨cursor, pending⟩ := d
  cases cursor with
  | none =>
    rw [h.eq_nil]
    exact .place next
  | some _ => exact h

lemma Sound.park (h : d.Sound id) (hcursor : d.nextSequence = some next)
    (hid : message.dataTrackId = id) (hfits : message.sequence < Word.max 64) (hnext : next < message.sequence) :
    (d.park message).Sound id ∧ (d.park message).nextSequence = d.nextSequence := by
  unfold OrderedDelivery.park
  split
  · exact ⟨h, rfl⟩
  split
  next hroom =>
    refine ⟨⟨fun hn => ?_, fun hn => ?_, h.fits, ?_⟩, rfl⟩
    · cases hcursor.symm.trans hn
    · cases hcursor.symm.trans hn
      exact (h.buffered hcursor).insert hid hfits hnext
    · exact (OrdMap.size_insert_le ..).trans hroom
  · exact ⟨h, rfl⟩

lemma Sound.accept_advances (h : d.Sound id) (hid : message.dataTrackId = id)
    (hfits : message.sequence < Word.max 64) :
    Advances id d.nextSequence (d.accept message).1 none (d.accept message).2.messages := by
  unfold accept
  split
  next hnone => exact ⟨h, by simp, fun hl => by simpa [deliveries] using hl⟩
  next next hsome =>
    split
    next heq =>
      -- The message stands at the cursor, and those behind it may follow at once.
      have hlt : next + 1 ≤ Word.max 64 := heq ▸ hfits
      have hsat : Word.saturatingAdd 64 next 1 = next + 1 := Nat.min_eq_left hlt
      obtain ⟨hsound, htrack, hfollows⟩ := OrderedDelivery.drain_advances (h.buffered hsome) hlt h.size
      rw [hsat, hsome]
      refine ⟨hsound, ?_, fun {l} hl => ?_⟩
      · intro m hm
        rcases List.mem_cons.1 hm with rfl | hm
        · exact hid
        · exact htrack m hm
      · have hone := hfollows hl.deliver
        simpa [deliveries, heq] using hone
    next hne =>
      dsimp only
      have hparked : (if next < message.sequence then d.park message else d).Sound id ∧
          (if next < message.sequence then d.park message else d).nextSequence = d.nextSequence := by
        split
        next hlt => exact h.park hsome hid hfits hlt
        · exact ⟨h, rfl⟩
      generalize (if next < message.sequence then d.park message else d) = d1 at hparked ⊢
      obtain ⟨hsound, hcursor⟩ := hparked
      have hdrained := hcursor ▸ hsound.drain_advances
      split
      · exact hdrained
      · exact hdrained

theorem Sound.receive_advances (h : d.Sound id) {body : Body} (hid : body.dataTrackId = id) (hfits : body.Fits)
    (hlast : ∀ m, body = .message m → m.sequence ≠ Word.max 64) {d' : OrderedDelivery} {result : DeliveryResult}
    {gap : Option (ℕ × ℕ)} (hr : d.receive body = some (d', result, gap)) :
    Advances id d.nextSequence d' gap result.messages := by
  cases body with
  | message m =>
    cases hr
    exact h.accept_advances hid (Nat.lt_of_le_of_ne hfits (hlast m rfl))
  | frontier _ next =>
    cases hr
    obtain ⟨hsound, htrack, hfollows⟩ := (h.seek hfits).drain_advances
    exact ⟨hsound, htrack, fun hl => hfollows (follows_seek hl)⟩
  | floor _ available =>
    rw [receive] at hr
    split at hr
    next expected hsome =>
      split at hr
      next hlt =>
        cases hr
        have hbuf := h.buffered hsome
        have hahead : Buffered id available (d.pending.retain fun sequence _ => available ≤ sequence) := by
          apply hbuf.mono
          intro k m hk
          obtain ⟨hk, hle⟩ := OrdMap.get?_retain.1 hk
          exact ⟨hk, of_decide_eq_true hle⟩
        obtain ⟨hsound, htrack, hfollows⟩ := OrderedDelivery.drain_advances hahead hfits
          ((OrdMap.size_retain_le ..).trans h.size)
        refine ⟨hsound, htrack, fun hl => ?_⟩
        have hjump := hfollows (.gap (Nat.le_of_lt hlt) (hsome ▸ hl))
        rw [Option.toList_none, List.map_nil, List.append_nil] at hjump
        exact hjump
      · cases hr
        exact h.drain_advances
    · cases hr
      exact h.drain_advances
  | nack => cases hr
  | probe => cases hr

end OrderedDelivery

end Pulsebeam.Agent
