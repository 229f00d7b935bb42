import Pulsebeam.Entity
import Pulsebeam.Lib.OrdMap
import Pulsebeam.Lib.Run
import Pulsebeam.Rtp.Timeline

/-! The audio slots of a subscriber and the contest for them. Loudness is any type that can be compared. -/

namespace Pulsebeam.Downstream

open Pulsebeam.Lib Pulsebeam.Rtp

abbrev Mid := ℕ

def selectorSlots : ℕ := 32

def deadTimeout : Duration := .fromMillis 2000

def newbornImmunity : Duration := .fromMillis 300

def audioFrequency : Frequency := ⟨48000, by decide⟩

structure Loudness (P : Type*) where
  silent : P
  ofLevel : ℤ → P
  decay : P → Duration → P

structure AudioOrigin where
  participant : ParticipantId
  track : TrackId
  deriving DecidableEq

structure Occupant where
  origin : AudioOrigin
  levelDbov : ℤ
  deriving DecidableEq

structure AudioIntent where
  pinned : List TrackId
  auto : Bool

/-- A packet sent on a slot: the occupancy it belongs to, and its sequence number before and after. -/
structure Emission where
  spell : ℕ
  input : ℕ
  output : ℕ
  deriving DecidableEq

/-- `spell` counts the occupancies and keeps the first packet of the last one, `emitted` what was sent, the latest first:
the code has neither. -/
structure Slot (P : Type*) where
  mediaIndex : Option ℕ
  pt : ℕ
  mid : Mid
  ssrc : Ssrc
  pendingMarker : Bool
  occupant : Option Occupant
  lastArrivalTs : Option Instant
  immunityExpiry : Instant
  lastPower : P
  timeline : Timeline
  spell : Emission
  emitted : List Emission

structure SlotConfig where
  mediaIndex : ℕ
  mid : Mid
  ssrc : Ssrc
  pt : ℕ

structure AudioAllocator (P : Type*) where
  slots : List (Slot P)
  ownedSlots : OrdMap Mid (Slot P)
  speakersChanged : Bool
  intent : AudioIntent
  fixedReceivers : List Mid
  fixedTracks : List TrackId

variable {P : Type*}

namespace Slot

def new (L : Loudness P) (mediaIndex : Option ℕ) (mid : Mid) (ssrc : Ssrc) (pt : ℕ) (now : Instant) (base : ℕ) : Slot P :=
  ⟨mediaIndex, pt, mid, ssrc, mediaIndex.isSome, none, none, now, L.silent, .newWithBase audioFrequency (base % 2 ^ 16),
    ⟨0, 0, 0⟩, []⟩

def origin (slot : Slot P) : Option AudioOrigin := slot.occupant.map (·.origin)

def isDead (slot : Slot P) (now : Instant) : Bool :=
  match slot.occupant, slot.lastArrivalTs with
  | some _, some ts => decide (deadTimeout < now - ts)
  | _, _ => true

def isImmune (slot : Slot P) (now : Instant) : Bool := decide (now < slot.immunityExpiry)

def decayed (L : Loudness P) (now : Instant) (slot : Slot P) : Slot P :=
  { slot with lastPower := slot.lastArrivalTs.elim L.silent fun last =>
      if now - last = 0 then slot.lastPower else L.decay slot.lastPower (now - last) }

def vacate (leaves : Slot P → Bool) (slot : Slot P) : Slot P :=
  if leaves slot then { slot with occupant := none, pendingMarker := true } else slot

def rebase (slot : Slot P) (pkt : RtpPacket) : Slot P :=
  { slot with
    timeline := slot.timeline.rebase pkt
    spell := ⟨slot.spell.spell + 1, pkt.seqNo, slot.timeline.maxOutput + 1⟩ }

def rewrite (slot : Slot P) (pkt : RtpPacket) : Slot P × Option RtpPacket :=
  match slot.timeline.rewriteAudio pkt with
  | none => (slot, none)
  | some (timeline, out) =>
    ({ slot with timeline := timeline, emitted := ⟨slot.spell.spell, pkt.seqNo, out.seqNo⟩ :: slot.emitted }, some out)

lemma rewrite_fields (slot : Slot P) (pkt : RtpPacket) : (slot.rewrite pkt).1.mid = slot.mid ∧
    (slot.rewrite pkt).1.occupant = slot.occupant ∧ (slot.rewrite pkt).1.spell = slot.spell := by
  rw [rewrite]
  split
  · exact ⟨rfl, rfl, rfl⟩
  · exact ⟨rfl, rfl, rfl⟩

def enter [LT P] [DecidableLT P] (slot : Slot P) (occupant : Occupant) (power : P) (pkt : RtpPacket) : Slot P :=
  if slot.origin ≠ some occupant.origin then
    { slot with
      occupant := some occupant
      lastArrivalTs := some pkt.arrivalTs
      lastPower := power
      immunityExpiry := if slot.occupant.isSome then pkt.arrivalTs + newbornImmunity else slot.immunityExpiry
      pendingMarker := true }.rebase pkt
  else
    { slot with
      occupant := some occupant
      lastArrivalTs := some pkt.arrivalTs
      lastPower := if slot.lastPower < power then power else slot.lastPower }

end Slot

namespace AudioAllocator

def new (manualSub : Bool) : AudioAllocator P := ⟨[], ∅, false, ⟨[], !manualSub⟩, [], []⟩

variable (a : AudioAllocator P)

def setIntent (intent : AudioIntent) : AudioAllocator P :=
  let leaves (slot : Slot P) := !intent.auto && slot.occupant.any fun o => o.origin.track ∉ intent.pinned
  { a with
    slots := a.slots.map (Slot.vacate leaves)
    speakersChanged := a.speakersChanged || a.slots.any leaves
    intent := intent }

def setPlayoutCompatibility (fixedReceivers : List Mid) (fixedTracks : List TrackId) : AudioAllocator P :=
  let leaves (slot : Slot P) :=
    decide (slot.mid ∈ fixedReceivers) && slot.occupant.any fun o => o.origin.track ∉ fixedTracks
  { a with
    slots := a.slots.map (Slot.vacate leaves)
    speakersChanged := a.speakersChanged || a.slots.any leaves
    fixedReceivers := fixedReceivers
    fixedTracks := fixedTracks }

def markFixedReceiver (mid : Mid) : AudioAllocator P := { a with fixedReceivers := a.fixedReceivers.insert mid }

def isPinned (track : TrackId) : Bool := decide (track ∈ a.intent.pinned)

def holdsPin (slot : Slot P) : Bool := slot.occupant.any fun o => a.isPinned o.origin.track

def hasSlot (mid : Mid) : Bool := (a.ownedSlots.get? mid).isSome || a.slots.any (·.mid == mid)

def addSlot (L : Loudness P) (a : AudioAllocator P) (slot : SlotConfig) (now : Instant) (base : ℕ) : AudioAllocator P :=
  if a.hasSlot slot.mid ∨ selectorSlots ≤ a.slots.length then a
  else { a with slots := a.slots ++ [.new L (some slot.mediaIndex) slot.mid slot.ssrc slot.pt now base] }

def removeTrack (track : TrackId) : AudioAllocator P :=
  { a with slots := a.slots.map (Slot.vacate fun slot => slot.occupant.any (·.origin.track == track)) }

def installOwnedSlot (L : Loudness P) (a : AudioAllocator P) (mid : Mid) (ssrc : Ssrc) (pt : ℕ) (now : Instant) (base : ℕ) :
    AudioAllocator P :=
  if a.hasSlot mid then a else { a with ownedSlots := a.ownedSlots.insert mid (.new L none mid ssrc pt now base) }

def removeOwnedSlot (mid : Mid) : AudioAllocator P := { a with ownedSlots := a.ownedSlots.erase mid }

def onOwnedRtp (mid : Mid) (pkt : RtpPacket) : AudioAllocator P × Option RtpPacket :=
  match a.ownedSlots.get? mid with
  | none => (a, none)
  | some slot =>
    let slot := if slot.lastArrivalTs.isNone then slot.rebase pkt else slot
    let (slot, out) := { slot with lastArrivalTs := some pkt.arrivalTs }.rewrite pkt
    ({ a with ownedSlots := a.ownedSlots.insert mid slot }, out)

def compatible (track : TrackId) (slot : Slot P) : Bool :=
  decide (track ∈ a.fixedTracks) || decide (slot.mid ∉ a.fixedReceivers)

variable [LT P] [DecidableLT P]

def quietest : List (Slot P × ℕ) → Option (Slot P × ℕ)
  | [] => none
  | x :: l => some (l.foldl (fun x y => if y.1.lastPower < x.1.lastPower then y else x) x)

def slotFor (origin : AudioOrigin) (power : P) (now : Instant) : Option ℕ :=
  if !a.isPinned origin.track && !a.intent.auto then none
  else
    (a.slots.findIdx? fun slot => a.compatible origin.track slot && slot.origin == some origin).or
    ((a.slots.findIdx? fun slot => a.compatible origin.track slot && slot.isDead now && !slot.isImmune now).or
    ((quietest (a.slots.zipIdx.filter fun x =>
        a.compatible origin.track x.1 && !x.1.isImmune now && !a.holdsPin x.1)).bind fun (slot, i) =>
      if a.isPinned origin.track ∨ slot.lastPower < power then some i else none))

def onRtp (L : Loudness P) (a : AudioAllocator P) (origin : AudioOrigin) (level : Option ℤ) (pkt : RtpPacket) :
    AudioAllocator P × Option RtpPacket :=
  match level with
  | none => (a, none)
  | some level =>
    let a := { a with slots := a.slots.map (Slot.decayed L pkt.arrivalTs) }
    match a.slotFor origin (L.ofLevel level) pkt.arrivalTs with
    | none => (a, none)
    | some i =>
      match a.slots[i]? with
      | none => (a, none)
      | some slot =>
        let (entered, out) := (slot.enter ⟨origin, level⟩ (L.ofLevel level) pkt).rewrite pkt
        let a := { a with speakersChanged := a.speakersChanged || slot.origin != some origin }
        match out with
        | none => ({ a with slots := a.slots.set i entered }, none)
        | some out => ({ a with slots := a.slots.set i { entered with pendingMarker := false } },
            some { out with marker := out.marker || entered.pendingMarker })

lemma onRtp_cases (L : Loudness P) (a : AudioAllocator P) (origin : AudioOrigin) (level : Option ℤ) (pkt : RtpPacket) :
    (a.onRtp L origin level pkt).1 = a ∨
      ∃ aged : AudioAllocator P, aged = { a with slots := a.slots.map (Slot.decayed L pkt.arrivalTs) } ∧
        ((a.onRtp L origin level pkt).1 = aged ∨ ∃ i slot dbov changed marker,
          aged.slotFor origin (L.ofLevel dbov) pkt.arrivalTs = some i ∧ aged.slots[i]? = some slot ∧
          (a.onRtp L origin level pkt).1 = { aged with
            slots := aged.slots.set i { ((slot.enter ⟨origin, dbov⟩ (L.ofLevel dbov) pkt).rewrite pkt).1 with
              pendingMarker := marker }
            speakersChanged := changed }) := by
  cases level with
  | none => exact .inl rfl
  | some level =>
    refine .inr ⟨_, rfl, ?_⟩
    rw [onRtp]
    dsimp only
    split
    · exact .inl rfl
    next i hi =>
      split
      · exact .inl rfl
      next slot hslot =>
        cases ((slot.enter ⟨origin, level⟩ _ pkt).rewrite pkt).2 with
        | none => exact .inr ⟨i, slot, level, _, _, hi, hslot, rfl⟩
        | some out => exact .inr ⟨i, slot, level, _, _, hi, hslot, rfl⟩

end AudioAllocator

inductive AudioOp
  | addSlot (slot : SlotConfig) (now : Instant) (base : ℕ)
  | setIntent (intent : AudioIntent)
  | setPlayoutCompatibility (fixedReceivers : List Mid) (fixedTracks : List TrackId)
  | markFixedReceiver (mid : Mid)
  | removeTrack (track : TrackId)
  | onRtp (origin : AudioOrigin) (level : Option ℤ) (pkt : RtpPacket)
  | installOwnedSlot (mid : Mid) (ssrc : Ssrc) (pt : ℕ) (now : Instant) (base : ℕ)
  | removeOwnedSlot (mid : Mid)
  | onOwnedRtp (mid : Mid) (pkt : RtpPacket)

namespace AudioAllocator

variable [LT P] [DecidableLT P]

def apply (L : Loudness P) (a : AudioAllocator P) : AudioOp → AudioAllocator P
  | .addSlot slot now base => a.addSlot L slot now base
  | .setIntent intent => a.setIntent intent
  | .setPlayoutCompatibility fixedReceivers fixedTracks => a.setPlayoutCompatibility fixedReceivers fixedTracks
  | .markFixedReceiver mid => a.markFixedReceiver mid
  | .removeTrack track => a.removeTrack track
  | .onRtp origin level pkt => (a.onRtp L origin level pkt).1
  | .installOwnedSlot mid ssrc pt now base => a.installOwnedSlot L mid ssrc pt now base
  | .removeOwnedSlot mid => a.removeOwnedSlot mid
  | .onOwnedRtp mid pkt => (a.onOwnedRtp mid pkt).1

def machine (L : Loudness P) (guard : AudioAllocator P → AudioOp → Prop) : Machine (AudioAllocator P) AudioOp where
  init a := ∃ manualSub, a = new manualSub
  guard := guard
  step := apply L

def dbovScale : Loudness ℕ := ⟨0, fun level => (level + 128).toNat, fun power _ => power⟩

def speaker (n : ℕ) : AudioOrigin := ⟨0, ⟨n, .audio⟩⟩

def heardFrom (n : ℕ) (level : ℤ) (arrivalTs : Instant) (seqNo : ℕ) : AudioOp :=
  .onRtp (speaker n) (some level) { (default : RtpPacket) with arrivalTs := arrivalTs, seqNo := seqNo }

end AudioAllocator

end Pulsebeam.Downstream
