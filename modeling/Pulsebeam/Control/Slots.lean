import Pulsebeam.Lib.Run

/-! The slots that routes are given, and the quarantine between two uses of one. -/

namespace Pulsebeam.Control

open Pulsebeam.Lib List

structure Slot where
  epoch : UInt16
  quarantined : Bool

/-- One list holds what the code has in two vectors of one length. -/
structure SlotAllocator where
  slots : List Slot
  quarantine : List (ℕ × ℕ)
  maxSlots : ℕ

namespace SlotAllocator

def routeQuarantine : ℕ := 2 * 10 ^ 9

def maxSlot : ℕ := 0xFFFFF

def withMaxSlots (maxSlots : ℕ) : SlotAllocator := ⟨[], [], maxSlots⟩

/-- Nothing where the code panics. -/
def allocate (a : SlotAllocator) (now : ℕ) : Option (SlotAllocator × ℕ × UInt16) :=
  match a.quarantine.head?.filter fun q => decide (routeQuarantine ≤ now - q.2) with
  | some (slot, _) =>
    a.slots[slot]?.map fun s =>
      (⟨a.slots.set slot ⟨s.epoch + 1, false⟩, a.quarantine.tail, a.maxSlots⟩, slot, s.epoch + 1)
  | none =>
    if a.slots.length < a.maxSlots ∧ a.slots.length ≤ maxSlot then
      some (⟨a.slots ++ [⟨0, false⟩], a.quarantine, a.maxSlots⟩, a.slots.length, 0)
    else none

def retire (a : SlotAllocator) (slot now : ℕ) : SlotAllocator :=
  match a.slots[slot]? with
  | some ⟨epoch, false⟩ => ⟨a.slots.set slot ⟨epoch, true⟩, a.quarantine ++ [(slot, now)], a.maxSlots⟩
  | _ => a

end SlotAllocator

open SlotAllocator

structure Grant where
  slot : ℕ
  epoch : UInt16
  time : ℕ

/-- An allocator with its grants, the latest first, and the slots that were not retired since. -/
structure Leases where
  allocator : SlotAllocator
  grants : List Grant
  held : List ℕ
  clock : ℕ

namespace Leases

inductive Op
  | allocate
  | retire (slot : ℕ)

def step (r : Leases) : Op × ℕ → Leases
  | (.allocate, now) =>
    match r.allocator.allocate now with
    | none => r
    | some (a, slot, epoch) => ⟨a, ⟨slot, epoch, now⟩ :: r.grants, slot :: r.held, now⟩
  | (.retire slot, now) => ⟨r.allocator.retire slot now, r.grants, r.held.filter (· ≠ slot), now⟩

def machine : Machine Leases (Op × ℕ) where
  init r := ∃ maxSlots, r = ⟨withMaxSlots maxSlots, [], [], 0⟩
  guard r op := r.clock ≤ op.2
  step := step

/-- Since the earlier grant of the slot its epoch has moved on, by one for each quarantine at most. -/
def Apart (g g' : Grant) : Prop := g.slot = g'.slot →
  ∃ k, g.epoch = g'.epoch + .ofNat (k + 1) ∧ g'.time + (k + 1) * routeQuarantine ≤ g.time

structure Sound (r : Leases) : Prop where
  queue : ∀ q ∈ r.allocator.quarantine, ∃ e, r.allocator.slots[q.1]? = some ⟨e, true⟩
  once : (r.allocator.quarantine.map (·.1)).Nodup
  used : ∀ s ∈ r.held, ∃ e, r.allocator.slots[s]? = some ⟨e, false⟩
  held : r.held.Nodup
  spent : ∀ g ∈ r.grants, ∃ k b, r.allocator.slots[g.slot]? = some ⟨g.epoch + .ofNat k, b⟩ ∧
    g.time + k * routeQuarantine ≤ r.clock ∧ ∀ t, (g.slot, t) ∈ r.allocator.quarantine → g.time + k * routeQuarantine ≤ t
  apart : r.grants.Pairwise Apart

variable {r : Leases} {now : ℕ}

lemma Sound.retire (h : Sound r) (hnow : r.clock ≤ now) (slot : ℕ) : Sound (r.step (.retire slot, now)) := by
  obtain ⟨hqueue, honce, hused, hheld, hspent, hapart⟩ := h
  rw [step, SlotAllocator.retire]
  split
  next epoch _ =>
    refine ⟨forall_mem_append.2 ⟨?_, forall_mem_singleton.2 ⟨epoch, ?_⟩⟩, ?_, ?_, hheld.filter _, ?_, hapart⟩ <;> grind
  · refine ⟨hqueue, honce, ?_, hheld.filter _, ?_, hapart⟩ <;> grind

lemma Sound.allocate (h : Sound r) (hnow : r.clock ≤ now) : Sound (r.step (.allocate, now)) := by
  have hsound := h
  obtain ⟨hqueue, honce, hused, hheld, hspent, hapart⟩ := h
  rw [step]
  split
  · exact hsound
  next ha =>
    rw [SlotAllocator.allocate] at ha
    split at ha
    next s t hdue =>
      obtain ⟨hhead, hdue⟩ := Option.filter_eq_some_iff.1 hdue
      obtain ⟨rest, hrest⟩ := head?_eq_some_iff.1 hhead
      obtain ⟨e, he⟩ := hqueue (s, t) (hrest ▸ mem_cons_self)
      dsimp only at he
      have hlate : ∀ g ∈ r.grants, Apart ⟨s, e + 1, now⟩ g := by
        rintro g hg rfl
        obtain ⟨k, b, hk, -, hret⟩ := hspent g hg
        have ht := hret t (hrest ▸ mem_cons_self)
        cases he.symm.trans hk
        refine ⟨k, by rw [UInt16.ofNat_add, ← UInt16.add_assoc]; rfl, ?_⟩
        have hdue := of_decide_eq_true hdue
        grind [routeQuarantine]
      rw [he, hrest] at ha
      cases ha
      refine ⟨?_, ?_, forall_mem_cons.2 ⟨⟨e + 1, ?_⟩, ?_⟩, ?_, forall_mem_cons.2 ⟨⟨0, false, ?_⟩, ?_⟩,
        pairwise_cons.2 ⟨hlate, hapart⟩⟩ <;> grind [Apart, UInt16.add_zero]
    · split at ha
      · cases ha
        refine ⟨?_, honce, forall_mem_cons.2 ⟨⟨0, ?_⟩, ?_⟩, ?_, forall_mem_cons.2 ⟨⟨0, false, ?_⟩, ?_⟩,
          pairwise_cons.2 ⟨fun g hg hs => ?_, hapart⟩⟩ <;> grind
      · cases ha

/-- No slot is given to two routes at a time, and a route given again under the same epoch only after all other epochs. -/
theorem routes_reissued_late (h : machine.Reachable r) : r.held.Nodup ∧ r.grants.Pairwise fun g g' =>
    g.slot = g'.slot → g'.time + routeQuarantine ≤ g.time ∧
      (g.epoch = g'.epoch → g'.time + 2 ^ 16 * routeQuarantine ≤ g.time) := by
  have hs : Sound r := by
    refine h.invariant ?_ fun r op hr hg => ?_
    · rintro r ⟨n, rfl⟩
      exact ⟨nofun, .nil, nofun, .nil, nofun, .nil⟩
    · rcases op with ⟨_ | slot, now⟩
      · exact hr.allocate hg
      · exact hr.retire hg slot
  refine ⟨hs.held, hs.apart.imp fun {g g'} ha hslot => ?_⟩
  obtain ⟨k, hk, htime⟩ := ha hslot
  refine ⟨by grind, fun he => ?_⟩
  have hzero : UInt16.ofNat (k + 1) = 0 := by
    rw [hk] at he
    grind
  have hdvd : 2 ^ 16 ∣ k + 1 := Nat.dvd_of_mod_eq_zero (by simpa using congrArg UInt16.toNat hzero)
  exact Nat.le_trans (Nat.add_le_add_left (Nat.mul_le_mul_right _ (Nat.le_of_dvd k.succ_pos hdvd)) _) htime

theorem routes_reissued_late_once : (step (step (step ⟨withMaxSlots 1, [], [], 0⟩ (.allocate, 0)) (.retire 0, 1))
    (.allocate, 2000000001)).held.Nodup :=
  (routes_reissued_late (.step (M := machine) (Op.allocate, 2000000001) (.step (Op.retire 0, 1) (.step (Op.allocate, 0)
    (.init ⟨1, rfl⟩) (Nat.zero_le 0)) (Nat.zero_le 1)) (Nat.le_add_left 1 2000000000))).1

end Leases

end Pulsebeam.Control
