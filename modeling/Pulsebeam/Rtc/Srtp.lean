import Pulsebeam.Lib.OrdMap
import Pulsebeam.Lib.OrdSet
import Pulsebeam.Lib.ReplayWindow
import Pulsebeam.Lib.Run
import Pulsebeam.Lib.Word

/-! The receiving side of the SRTP layer: which protected packets it returns, and the replay windows that decide it. -/

namespace Pulsebeam.Rtc

open Pulsebeam.Lib

def maxRtpExtensionBytes : ℕ := 16 * 1024

def maxSrtpIndex : ℕ := 2 ^ 48

inductive SrtpError
  | unsupportedProfile
  | invalidPacket
  | replay
  | crypto
  | outputFull
  | outputTooLarge
  deriving DecidableEq, Repr

inductive SrtpProfile
  | aes128CmSha1_80
  | aeadAes128Gcm
  | aeadAes256Gcm
  deriving DecidableEq

structure RtpMetadata where
  sequence : ℕ
  timestamp : ℕ
  ssrc : ℕ
  payloadType : ℕ
  marker : Bool
  headerLen : ℕ
  deriving DecidableEq

abbrev Bytes := List UInt8

def beNat (bytes : Bytes) : ℕ := bytes.foldl (fun n b => 256 * n + b.toNat) 0

def field (packet : Bytes) (start len : ℕ) : ℕ := beNat ((packet.drop start).take len)

/-- Header facts are all that the layer reads of a protected packet; the list of contributing sources only moves the end. -/
def RtpMetadata.parse (packet : Bytes) : Except SrtpError RtpMetadata :=
  if packet.length < 12 then .error .invalidPacket
  else
    let first := field packet 0 1
    if first / 64 ≠ 2 then .error .invalidPacket
    else
      let fixed := 12 + 4 * (first % 16)
      if packet.length < fixed then .error .invalidPacket
      else
        let facts := fun headerLen => {
          sequence := field packet 2 2
          timestamp := field packet 4 4
          ssrc := field packet 8 4
          payloadType := field packet 1 1 % 128
          marker := 128 ≤ field packet 1 1
          headerLen := headerLen : RtpMetadata }
        if first / 16 % 2 = 0 then .ok (facts fixed)
        else if packet.length < fixed + 4 then .error .invalidPacket
        else
          let bytes := 4 * field packet (fixed + 2) 2
          if maxRtpExtensionBytes < bytes then .error .invalidPacket
          else if packet.length < fixed + 4 + bytes then .error .invalidPacket
          else .ok (facts (fixed + 4 + bytes))

def rtcpIndexStart (profile : SrtpProfile) (len : ℕ) : Option ℕ :=
  match profile with
  | .aes128CmSha1_80 => if len < 14 then none else some (len - 14)
  | _ => if len < 4 then none else some (len - 4)

def rtcpIdentity (profile : SrtpProfile) (packet : Bytes) : Except SrtpError (ℕ × ℕ) :=
  if packet.length < 12 then .error .invalidPacket
  else
    match rtcpIndexStart profile packet.length with
    | none => .error .invalidPacket
    | some start => .ok (field packet 4 4, field packet start 4 % 2 ^ 31)

/-- What the layer takes from its SRTP library. A packet is authentic at one index only, that of its sender, which is the
one its bytes are about; and a sequence number is extended to the index nearest to the highest one. -/
structure SrtpContext (profile : SrtpProfile) where
  unprotectRtp : Bytes → ℕ → Option Bytes
  unprotectRtcp : Bytes → Option Bytes
  extend : Option ℕ → ℕ → ℕ
  rtpIndex : Bytes → Option ℕ
  unprotectRtp_isSome : ∀ packet index, (unprotectRtp packet index).isSome ↔ rtpIndex packet = some index
  rtpIndex_fits : ∀ packet index, rtpIndex packet = some index → index < maxSrtpIndex ∧
    ∃ facts, RtpMetadata.parse packet = .ok facts ∧ facts.sequence = index % 2 ^ 16
  extend_near : ∀ highest index, index < highest + 2 ^ 15 → highest < index + 2 ^ 15 →
    extend (some highest) (index % 2 ^ 16) = index

structure RtpReplayState where
  window : ReplayWindow 64
  reserved : Bool

-- The sizes of an entry of either map.
def rtpReplayStateBytes : ℕ := 32

def rtcpReplayStateBytes : ℕ := 24

structure ReplayLimits where
  rtpBytes : ℕ
  rtcpBytes : ℕ

def ReplayLimits.fitsRtp (l : ReplayLimits) (states : ℕ) : Bool := states * rtpReplayStateBytes ≤ l.rtpBytes

def ReplayLimits.fitsRtcp (l : ReplayLimits) (states : ℕ) : Bool := states * rtcpReplayStateBytes ≤ l.rtcpBytes

structure SrtpLayer where
  rxLast : OrdMap ℕ RtpReplayState := ∅
  unreservedRx : ℕ := 0
  reservedRx : ℕ
  limits : ReplayLimits
  rtcpRxLast : OrdMap ℕ (ReplayWindow 64) := ∅

variable {state : RtpReplayState} {ssrc : ℕ}

namespace SrtpLayer

def new (limits : ReplayLimits) (reservedRx : ℕ) : Except SrtpError SrtpLayer :=
  if limits.fitsRtp reservedRx then .ok { reservedRx := reservedRx, limits := limits } else .error .outputFull

def reserve (l : SrtpLayer) (ssrc : ℕ) : SrtpLayer :=
  match l.rxLast.get? ssrc with
  | none => l
  | some state =>
    if state.reserved then l
    else { l with
      rxLast := l.rxLast.insert ssrc { state with reserved := true }
      unreservedRx := l.unreservedRx - 1 }

def reserveSsrcs (l : SrtpLayer) (reserved : ℕ) (identities : OrdSet ℕ) : SrtpLayer :=
  identities.elems.foldl reserve { l with reservedRx := reserved }

def retireSsrc (l : SrtpLayer) (ssrc : ℕ) : SrtpLayer :=
  { l with
    rxLast := l.rxLast.erase ssrc
    unreservedRx := if (l.rxLast.get? ssrc).any (!·.reserved) then l.unreservedRx - 1 else l.unreservedRx }

variable {profile : SrtpProfile} (c : SrtpContext profile)

def decryptRtp (packet : Bytes) (parsed : RtpMetadata) (index : ℕ) : Except SrtpError (Bytes × RtpMetadata) :=
  match c.unprotectRtp packet index with
  | none => .error .crypto
  | some plaintext => .ok (packet.take parsed.headerLen ++ plaintext, parsed)

def setWindow (l : SrtpLayer) (ssrc : ℕ) (state : RtpReplayState) (window : ReplayWindow 64) : SrtpLayer :=
  { l with rxLast := l.rxLast.insert ssrc { state with window := window } }

def unprotectFirst (l : SrtpLayer) (packet : Bytes) (parsed : RtpMetadata) (index : ℕ) (reserved : Bool) :
    SrtpLayer × Except SrtpError (Bytes × RtpMetadata) :=
  let states := max (Word.saturatingAdd 64 (Word.saturatingAdd 64 l.reservedRx l.unreservedRx) (!reserved).toNat)
    (l.rxLast.size + 1)
  if !l.limits.fitsRtp states then (l, .error .outputFull)
  else
    match decryptRtp c packet parsed index with
    | .error e => (l, .error e)
    | .ok out =>
      ({ l with
          rxLast := l.rxLast.insert parsed.ssrc ⟨⟨index, 1⟩, reserved⟩
          unreservedRx := if reserved then l.unreservedRx else l.unreservedRx + 1 }, .ok out)

def unprotectRtp (l : SrtpLayer) (packet : Bytes) (reserved : Bool) :
    SrtpLayer × Except SrtpError (Bytes × RtpMetadata) :=
  match RtpMetadata.parse packet with
  | .error e => (l, .error e)
  | .ok parsed =>
    let index := c.extend ((l.rxLast.get? parsed.ssrc).map (·.window.highest)) parsed.sequence
    if maxSrtpIndex ≤ index then (l, .error .invalidPacket)
    else
      match l.rxLast.get? parsed.ssrc with
      | none => unprotectFirst c l packet parsed index reserved
      | some state =>
        let previous := (state.window.highest, state.window.bitmap)
        let (window, fresh) := state.window.accept index
        let l := l.setWindow parsed.ssrc state window
        if !fresh then (l, .error .replay)
        else
          match decryptRtp c packet parsed index with
          | .error e => (l.setWindow parsed.ssrc state ⟨previous.1, previous.2⟩, .error e)
          | .ok out =>
            if reserved && !state.reserved then
              ({ l with
                  rxLast := l.rxLast.insert parsed.ssrc ⟨window, true⟩
                  unreservedRx := l.unreservedRx - 1 }, .ok out)
            else (l, .ok out)

def unprotectRtcp (l : SrtpLayer) (packet : Bytes) : SrtpLayer × Except SrtpError Bytes :=
  match rtcpIdentity profile packet with
  | .error e => (l, .error e)
  | .ok (ssrc, index) =>
    match l.rtcpRxLast.get? ssrc with
    | none =>
      if !l.limits.fitsRtcp (l.rtcpRxLast.size + 1) then (l, .error .outputFull)
      else
        match c.unprotectRtcp packet with
        | none => (l, .error .crypto)
        | some plaintext => ({ l with rtcpRxLast := l.rtcpRxLast.insert ssrc ⟨index, 1⟩ }, .ok plaintext)
    | some state =>
      let previous := (state.highest, state.bitmap)
      let (window, fresh) := state.accept index
      let l := { l with rtcpRxLast := l.rtcpRxLast.insert ssrc window }
      if !fresh then (l, .error .replay)
      else
        match c.unprotectRtcp packet with
        | none => ({ l with rtcpRxLast := l.rtcpRxLast.insert ssrc ⟨previous.1, previous.2⟩ }, .error .crypto)
        | some plaintext => (l, .ok plaintext)

variable {c} {l l' : SrtpLayer} {packet : Bytes} {reserved : Bool} {parsed : RtpMetadata} {index : ℕ}

lemma setWindow_setWindow (l : SrtpLayer) (ssrc : ℕ) (state : RtpReplayState) (w w' : ReplayWindow 64) :
    (l.setWindow ssrc state w).setWindow ssrc state w' = l.setWindow ssrc state w' := by
  simp [setWindow, OrdMap.insert_insert]

lemma setWindow_eq_self (h : l.rxLast.get? ssrc = some state) : l.setWindow ssrc state state.window = l := by
  rw [setWindow, OrdMap.insert_eq_self h]

lemma rtpIndex_of_decryptRtp {out : Bytes × RtpMetadata} (h : decryptRtp c packet parsed index = .ok out) :
    c.rtpIndex packet = some index := by
  rw [← c.unprotectRtp_isSome]
  unfold decryptRtp at h
  split at h
  · cases h
  next heq => rw [heq, Option.isSome_some]

lemma decryptRtp_eq_ok (h : c.rtpIndex packet = some index) (parsed : RtpMetadata) :
    ∃ out, decryptRtp c packet parsed index = .ok out := by
  obtain ⟨plaintext, hplain⟩ := Option.isSome_iff_exists.1 ((c.unprotectRtp_isSome packet index).2 h)
  rw [decryptRtp, hplain]
  exact ⟨_, rfl⟩

inductive Returned (c : SrtpContext profile) (l : SrtpLayer) (packet : Bytes) (reserved : Bool) : SrtpLayer → Prop
  | first {parsed : RtpMetadata} {index : ℕ} : RtpMetadata.parse packet = .ok parsed → c.rtpIndex packet = some index →
      l.rxLast.get? parsed.ssrc = none →
      Returned c l packet reserved { l with
        rxLast := l.rxLast.insert parsed.ssrc ⟨⟨index, 1⟩, reserved⟩
        unreservedRx := if reserved then l.unreservedRx else l.unreservedRx + 1 }
  | later {parsed : RtpMetadata} {index : ℕ} {state : RtpReplayState} : RtpMetadata.parse packet = .ok parsed →
      c.rtpIndex packet = some index → l.rxLast.get? parsed.ssrc = some state → (state.window.accept index).2 = true →
      Returned c l packet reserved { l with
        rxLast := l.rxLast.insert parsed.ssrc ⟨(state.window.accept index).1, state.reserved || reserved⟩
        unreservedRx := if reserved && !state.reserved then l.unreservedRx - 1 else l.unreservedRx }

lemma unprotectFirst_cases (hparse : RtpMetadata.parse packet = .ok parsed) (hnone : l.rxLast.get? parsed.ssrc = none) :
    (∃ e, unprotectFirst c l packet parsed index reserved = (l, .error e)) ∨
      ∃ l' out, unprotectFirst c l packet parsed index reserved = (l', .ok out) ∧ Returned c l packet reserved l' := by
  unfold unprotectFirst
  dsimp only
  split
  · exact .inl ⟨_, rfl⟩
  cases hdec : decryptRtp c packet parsed index with
  | error e => exact .inl ⟨e, rfl⟩
  | ok out =>
    exact .inr ⟨_, out, rfl, .first hparse (rtpIndex_of_decryptRtp hdec) hnone⟩

lemma unprotectRtp_cases (c : SrtpContext profile) (l : SrtpLayer) (packet : Bytes) (reserved : Bool) :
    (∃ e, unprotectRtp c l packet reserved = (l, .error e)) ∨
      ∃ l' out, unprotectRtp c l packet reserved = (l', .ok out) ∧ Returned c l packet reserved l' := by
  unfold unprotectRtp
  cases hparse : RtpMetadata.parse packet with
  | error e => exact .inl ⟨e, rfl⟩
  | ok parsed =>
    dsimp only
    split
    · exact .inl ⟨_, rfl⟩
    cases hget : l.rxLast.get? parsed.ssrc with
    | none => exact unprotectFirst_cases hparse hget
    | some state =>
      dsimp only
      generalize hindex : c.extend _ parsed.sequence = index
      cases hfresh : (state.window.accept index).2 with
      | false =>
        rw [ReplayWindow.accept_of_false hfresh, setWindow_eq_self hget]
        exact .inl ⟨_, rfl⟩
      | true =>
        cases hdec : decryptRtp c packet parsed index with
        | error e =>
          rw [setWindow_setWindow, setWindow_eq_self hget]
          exact .inl ⟨e, rfl⟩
        | ok out =>
          refine .inr ⟨_, out, ?_, .later hparse (rtpIndex_of_decryptRtp hdec) hget hfresh⟩
          dsimp only
          by_cases hclaim : (reserved && !state.reserved) = true
          · obtain ⟨rfl, hres⟩ := Bool.and_eq_true_iff.1 hclaim
            rw [if_pos hclaim, if_pos hclaim]
            simp [setWindow, OrdMap.insert_insert]
          have hsame : (state.reserved || reserved) = state.reserved := by
            cases reserved <;> cases hs : state.reserved <;> simp_all
          rw [if_neg hclaim, if_neg hclaim, hsame]
          rfl

inductive ReturnedRtcp (c : SrtpContext profile) (l : SrtpLayer) (packet : Bytes) : SrtpLayer → Prop
  | first {ssrc index : ℕ} : rtcpIdentity profile packet = .ok (ssrc, index) → (c.unprotectRtcp packet).isSome →
      l.rtcpRxLast.get? ssrc = none →
      ReturnedRtcp c l packet { l with rtcpRxLast := l.rtcpRxLast.insert ssrc ⟨index, 1⟩ }
  | later {ssrc index : ℕ} {window : ReplayWindow 64} : rtcpIdentity profile packet = .ok (ssrc, index) →
      (c.unprotectRtcp packet).isSome → l.rtcpRxLast.get? ssrc = some window → (window.accept index).2 = true →
      ReturnedRtcp c l packet { l with rtcpRxLast := l.rtcpRxLast.insert ssrc (window.accept index).1 }

lemma unprotectRtcp_cases (c : SrtpContext profile) (l : SrtpLayer) (packet : Bytes) :
    (∃ e, unprotectRtcp c l packet = (l, .error e)) ∨
      ∃ l' out, unprotectRtcp c l packet = (l', .ok out) ∧ ReturnedRtcp c l packet l' := by
  unfold unprotectRtcp
  cases hid : rtcpIdentity profile packet with
  | error e => exact .inl ⟨e, rfl⟩
  | ok identity =>
    obtain ⟨ssrc, index⟩ := identity
    dsimp only
    cases hget : l.rtcpRxLast.get? ssrc with
    | none =>
      dsimp only
      split
      · exact .inl ⟨_, rfl⟩
      cases hplain : c.unprotectRtcp packet with
      | none => exact .inl ⟨_, rfl⟩
      | some plaintext => exact .inr ⟨_, plaintext, rfl, .first hid (by rw [hplain]; rfl) hget⟩
    | some window =>
      dsimp only
      cases hfresh : (window.accept index).2 with
      | false =>
        rw [ReplayWindow.accept_of_false hfresh, OrdMap.insert_eq_self hget]
        exact .inl ⟨_, rfl⟩
      | true =>
        cases hplain : c.unprotectRtcp packet with
        | none =>
          rw [OrdMap.insert_insert, OrdMap.insert_eq_self hget]
          exact .inl ⟨_, rfl⟩
        | some plaintext => exact .inr ⟨_, plaintext, rfl, .later hid (by rw [hplain]; rfl) hget hfresh⟩

lemma unprotectRtp_isOk (hauth : c.rtpIndex packet = some index) (hparse : RtpMetadata.parse packet = .ok parsed)
    (hget : l.rxLast.get? parsed.ssrc = some state) (hlow : state.window.highest < index + 2 ^ 15)
    (hhigh : index < state.window.highest + 2 ^ 15) (hfresh : (state.window.accept index).2 = true) :
    ∃ out, (unprotectRtp c l packet reserved).2 = .ok out := by
  obtain ⟨hfits, facts, hfacts, hsequence⟩ := c.rtpIndex_fits packet index hauth
  cases hparse.symm.trans hfacts
  have hextend := c.extend_near _ _ hhigh hlow
  obtain ⟨out, hdec⟩ := decryptRtp_eq_ok hauth parsed
  unfold unprotectRtp
  rw [hparse]
  dsimp only
  rw [hget, Option.map_some, hsequence, hextend, if_neg (by omega)]
  dsimp only
  rw [hfresh, hdec]
  simp only [Bool.not_true, Bool.false_eq_true, if_false]
  split
  · exact ⟨out, rfl⟩
  · exact ⟨out, rfl⟩

lemma unprotectRtcp_isOk {window : ReplayWindow 64} (hauth : (c.unprotectRtcp packet).isSome)
    (hid : rtcpIdentity profile packet = .ok (ssrc, index)) (hget : l.rtcpRxLast.get? ssrc = some window)
    (hfresh : (window.accept index).2 = true) : ∃ out, (unprotectRtcp c l packet).2 = .ok out := by
  obtain ⟨plaintext, hplain⟩ := Option.isSome_iff_exists.1 hauth
  unfold unprotectRtcp
  rw [hid]
  dsimp only
  rw [hget]
  dsimp only
  rw [hfresh, hplain]
  exact ⟨plaintext, rfl⟩

end SrtpLayer

/-- The layer with the packets it returned, of RTP those since their source was last retired. -/
structure SrtpRun where
  layer : SrtpLayer
  rtp : List (ℕ × ℕ) := []
  rtcp : List (ℕ × ℕ) := []

namespace SrtpRun

inductive Op
  | rtp (packet : Bytes) (reserved : Bool)
  | rtcp (packet : Bytes)
  | reserveSsrcs (reserved : ℕ) (identities : OrdSet ℕ)
  | retireSsrc (ssrc : ℕ)

variable {profile : SrtpProfile} (c : SrtpContext profile)

def rtpIdentity (packet : Bytes) : Option (ℕ × ℕ) :=
  match RtpMetadata.parse packet, c.rtpIndex packet with
  | .ok parsed, some index => some (parsed.ssrc, index)
  | _, _ => none

def step (r : SrtpRun) : Op → SrtpRun
  | .rtp packet reserved =>
    match r.layer.unprotectRtp c packet reserved with
    | (layer, .ok _) => { r with layer := layer, rtp := r.rtp ++ (rtpIdentity c packet).toList }
    | (layer, .error _) => { r with layer := layer }
  | .rtcp packet =>
    match r.layer.unprotectRtcp c packet with
    | (layer, .ok _) => { r with layer := layer, rtcp := r.rtcp ++ (rtcpIdentity profile packet).toOption.toList }
    | (layer, .error _) => { r with layer := layer }
  | .reserveSsrcs reserved identities => { r with layer := r.layer.reserveSsrcs reserved identities }
  | .retireSsrc ssrc => { r with layer := r.layer.retireSsrc ssrc, rtp := r.rtp.filter (·.1 ≠ ssrc) }

def machine : Machine SrtpRun Op where
  init r := ∃ limits reserved layer, SrtpLayer.new limits reserved = .ok layer ∧ r = { layer := layer }
  guard _ _ := True
  step := step c

variable {c} {r : SrtpRun} {packet : Bytes} {l : SrtpLayer}

def windows (r : SrtpRun) (ssrc : ℕ) : Option (ReplayWindow 64) := (r.layer.rxLast.get? ssrc).map (·.window)

structure Guarded (r : SrtpRun) : Prop where
  rtp : ReplayWindow.Watches r.windows r.rtp
  rtcp : ReplayWindow.Watches r.layer.rtcpRxLast.get? r.rtcp
  counted : r.layer.unreservedRx = r.layer.rxLast.countIf (!·.reserved)

lemma windows_insert (h : l.rxLast = r.layer.rxLast.insert ssrc state) (rtp rtcp : List (ℕ × ℕ)) :
    windows ⟨l, rtp, rtcp⟩ = Function.update r.windows ssrc (some state.window) := by
  funext s
  rw [windows, h, OrdMap.get?_insert_eq_update]
  exact Function.apply_update (fun _ => Option.map RtpReplayState.window) _ ssrc _ s

section

variable (h : Guarded r)

include h

lemma Guarded.returned {reserved : Bool} (hr : SrtpLayer.Returned c r.layer packet reserved l) :
    Guarded { r with layer := l, rtp := r.rtp ++ (rtpIdentity c packet).toList } := by
  cases hr with
  | @first parsed index hparse hauth hnone =>
    have hid : rtpIdentity c packet = some (parsed.ssrc, index) := by rw [rtpIdentity, hparse, hauth]
    rw [hid]
    refine ⟨?_, h.rtcp, ?_⟩
    · rw [windows_insert rfl]
      exact h.rtp.first (by decide) (by rw [windows, hnone]; rfl)
    · have hcount := r.layer.rxLast.countIf_insert parsed.ssrc ⟨⟨index, 1⟩, reserved⟩ (!·.reserved)
      rw [OrdMap.erase_eq_self hnone, ← h.counted] at hcount
      rw [hcount]
      cases reserved <;> rfl
  | @later parsed index state hparse hauth hget hfresh =>
    have hid : rtpIdentity c packet = some (parsed.ssrc, index) := by rw [rtpIdentity, hparse, hauth]
    rw [hid]
    refine ⟨?_, h.rtcp, ?_⟩
    · rw [windows_insert rfl]
      exact h.rtp.later (by decide) (by rw [windows, hget]; rfl) hfresh
    · have hcount := r.layer.rxLast.countIf_insert parsed.ssrc ⟨(state.window.accept index).1, state.reserved || reserved⟩
      have hbefore := h.counted.trans (OrdMap.countIf_erase hget _)
      rw [hcount, hbefore]
      cases hres : state.reserved <;> cases reserved <;> simp

lemma Guarded.returnedRtcp (hr : SrtpLayer.ReturnedRtcp c r.layer packet l) :
    Guarded { r with layer := l, rtcp := r.rtcp ++ (rtcpIdentity profile packet).toOption.toList } := by
  cases hr with
  | first hid _ hnone =>
    rw [hid]
    refine ⟨h.rtp, ?_, h.counted⟩
    rw [OrdMap.get?_insert_eq_update]
    exact h.rtcp.first (by decide) hnone
  | later hid _ hget hfresh =>
    rw [hid]
    refine ⟨h.rtp, ?_, h.counted⟩
    rw [OrdMap.get?_insert_eq_update]
    exact h.rtcp.later (by decide) hget hfresh

lemma Guarded.reserve (ssrc : ℕ) : Guarded { r with layer := r.layer.reserve ssrc } := by
  unfold SrtpLayer.reserve
  split
  · exact h
  next state hget =>
    split
    · exact h
    next hres =>
      refine ⟨?_, h.rtcp, ?_⟩
      · rw [windows_insert rfl]
        have hsame : r.windows ssrc = some state.window := by rw [windows, hget]; rfl
        rw [← hsame, Function.update_eq_self]
        exact h.rtp
      · have hcount := r.layer.rxLast.countIf_insert ssrc ⟨state.window, true⟩ (!·.reserved)
        have hbefore := h.counted.trans (OrdMap.countIf_erase hget _)
        rw [hcount, hbefore]
        simp [hres]

lemma Guarded.reserveSsrcs (reserved : ℕ) (identities : OrdSet ℕ) :
    Guarded { r with layer := r.layer.reserveSsrcs reserved identities } := by
  unfold SrtpLayer.reserveSsrcs
  have hstart : Guarded { r with layer := { r.layer with reservedRx := reserved } } := ⟨h.rtp, h.rtcp, h.counted⟩
  generalize ({ r.layer with reservedRx := reserved } : SrtpLayer) = l at hstart
  induction identities.elems generalizing l with
  | nil => exact hstart
  | cons ssrc ids ih => exact ih _ (hstart.reserve ssrc)

lemma Guarded.retireSsrc (ssrc : ℕ) :
    Guarded { r with layer := r.layer.retireSsrc ssrc, rtp := r.rtp.filter (·.1 ≠ ssrc) } := by
  refine ⟨?_, h.rtcp, ?_⟩
  · have hw : windows { r with layer := r.layer.retireSsrc ssrc, rtp := r.rtp.filter (·.1 ≠ ssrc) } =
        Function.update r.windows ssrc none := by
      funext s
      change ((r.layer.rxLast.erase ssrc).get? s).map _ = _
      rw [OrdMap.get?_erase_eq_update]
      exact Function.apply_update (fun _ => Option.map _) _ ssrc none s
    rw [hw]
    exact h.rtp.retire
  · change (if (r.layer.rxLast.get? ssrc).any _ then r.layer.unreservedRx - 1 else r.layer.unreservedRx) =
      (r.layer.rxLast.erase ssrc).countIf _
    cases hget : r.layer.rxLast.get? ssrc with
    | none => rw [OrdMap.erase_eq_self hget, ← h.counted]; rfl
    | some state =>
      have hbefore := h.counted.trans (OrdMap.countIf_erase hget _)
      rw [hbefore]
      cases hres : state.reserved <;> simp [hres]

end

lemma guarded (h : (machine c).Reachable r) : Guarded r := by
  refine h.invariant ?_ fun r op hr _ => ?_
  · rintro _ ⟨limits, reserved, layer, hnew, rfl⟩
    unfold SrtpLayer.new at hnew
    split at hnew
    · cases hnew
      exact ⟨ReplayWindow.watches_nil, ReplayWindow.watches_nil, rfl⟩
    · cases hnew
  · cases op with
    | rtp packet reserved =>
      change Guarded (match r.layer.unprotectRtp c packet reserved with
        | (layer, .ok _) => _
        | (layer, .error _) => _)
      rcases SrtpLayer.unprotectRtp_cases c r.layer packet reserved with ⟨e, he⟩ | ⟨l, out, ho, hret⟩
      · rw [he]
        exact hr
      · rw [ho]
        exact hr.returned hret
    | rtcp packet =>
      change Guarded (match r.layer.unprotectRtcp c packet with
        | (layer, .ok _) => _
        | (layer, .error _) => _)
      rcases SrtpLayer.unprotectRtcp_cases c r.layer packet with ⟨e, he⟩ | ⟨l, out, ho, hret⟩
      · rw [he]
        exact hr
      · rw [ho]
        exact hr.returnedRtcp hret
    | reserveSsrcs reserved identities => exact hr.reserveSsrcs reserved identities
    | retireSsrc ssrc => exact hr.retireSsrc ssrc

lemma exists_window {κ : Type} {windows : κ → Option (ReplayWindow 64)} {returned : List (κ × ℕ)} {k : κ}
    (h : ReplayWindow.Watches windows returned) {highest : ℕ} (hmem : (k, highest) ∈ returned)
    (hmax : ∀ i, (k, i) ∈ returned → i ≤ highest) : ∃ w, windows k = some w ∧ w.highest = highest := by
  cases hk : windows k with
  | none => exact absurd hmem (h.silent hk)
  | some w => exact ⟨w, rfl, le_antisymm (hmax _ (h.covers hk).top) ((h.covers hk).le hmem)⟩

lemma rtpIdentity_eq_some {index : ℕ} (h : rtpIdentity c packet = some (ssrc, index)) :
    ∃ parsed, RtpMetadata.parse packet = .ok parsed ∧ parsed.ssrc = ssrc ∧ c.rtpIndex packet = some index := by
  unfold rtpIdentity at h
  split at h
  next parsed i hparse hauth =>
    cases h
    exact ⟨parsed, hparse, rfl, hauth⟩
  · cases h

/-- Whatever packets come, genuine or forged: nothing is returned twice, what is not returned changes nothing, and what is
authentic, new and in the window is returned. -/
theorem replay_protection (h : (machine c).Reachable r) :
    r.rtp.Nodup ∧ r.rtcp.Nodup ∧
    (∀ packet reserved, (∃ e, r.layer.unprotectRtp c packet reserved = (r.layer, .error e)) ∨
      ∃ out, (r.layer.unprotectRtp c packet reserved).2 = .ok out ∧ (rtpIdentity c packet).isSome) ∧
    (∀ packet, (∃ e, r.layer.unprotectRtcp c packet = (r.layer, .error e)) ∨
      ∃ out, (r.layer.unprotectRtcp c packet).2 = .ok out ∧ (c.unprotectRtcp packet).isSome) ∧
    (∀ packet reserved ssrc index highest, rtpIdentity c packet = some (ssrc, index) → (ssrc, index) ∉ r.rtp →
      (ssrc, highest) ∈ r.rtp → (∀ i, (ssrc, i) ∈ r.rtp → i ≤ highest) → highest < index + 64 → index < highest + 2 ^ 15 →
      ∃ out, (r.layer.unprotectRtp c packet reserved).2 = .ok out) ∧
    (∀ packet ssrc index highest, (c.unprotectRtcp packet).isSome → rtcpIdentity profile packet = .ok (ssrc, index) →
      (ssrc, index) ∉ r.rtcp → (ssrc, highest) ∈ r.rtcp → (∀ i, (ssrc, i) ∈ r.rtcp → i ≤ highest) → highest < index + 64 →
      ∃ out, (r.layer.unprotectRtcp c packet).2 = .ok out) ∧
    r.layer.unreservedRx = r.layer.rxLast.countIf (!·.reserved) := by
  have hg := guarded h
  refine ⟨hg.rtp.nodup, hg.rtcp.nodup, ?_, ?_, ?_, ?_, hg.counted⟩
  · intro packet reserved
    rcases SrtpLayer.unprotectRtp_cases c r.layer packet reserved with he | ⟨l, out, ho, hret⟩
    · exact .inl he
    refine .inr ⟨out, by rw [ho], ?_⟩
    cases hret with
    | first hparse hauth _ => rw [rtpIdentity, hparse, hauth]; rfl
    | later hparse hauth _ _ => rw [rtpIdentity, hparse, hauth]; rfl
  · intro packet
    rcases SrtpLayer.unprotectRtcp_cases c r.layer packet with he | ⟨l, out, ho, hret⟩
    · exact .inl he
    refine .inr ⟨out, by rw [ho], ?_⟩
    cases hret with
    | first _ hauth _ => exact hauth
    | later _ hauth _ _ => exact hauth
  · intro packet reserved ssrc index highest hid hnew hmem hmax hlow hhigh
    obtain ⟨parsed, hparse, rfl, hauth⟩ := rtpIdentity_eq_some hid
    obtain ⟨w, hw, rfl⟩ := exists_window hg.rtp hmem hmax
    obtain ⟨state, hget, rfl⟩ := Option.map_eq_some_iff.1 hw
    have hfresh := (hg.rtp.covers hw).accept_iff.2 (.inl ⟨hnew, hlow⟩)
    exact SrtpLayer.unprotectRtp_isOk hauth hparse hget (by omega) hhigh hfresh
  · intro packet ssrc index highest hauth hid hnew hmem hmax hlow
    obtain ⟨w, hw, rfl⟩ := exists_window hg.rtcp hmem hmax
    exact SrtpLayer.unprotectRtcp_isOk hauth hid hw ((hg.rtcp.covers hw).accept_iff.2 (.inl ⟨hnew, hlow⟩))

section Plain

def nearest (highest : Option ℕ) (sequence : ℕ) : ℕ :=
  match highest with
  | none => sequence
  | some h => ((h : ℤ) + Word.signedSub 16 sequence (h % 2 ^ 16)).toNat

lemma nearest_eq (highest index : ℕ) (hhigh : index < highest + 2 ^ 15) (hlow : highest < index + 2 ^ 15) :
    nearest (some highest) (index % 2 ^ 16) = index := by
  have hsub : Word.signedSub 16 (index % 2 ^ 16) (highest % 2 ^ 16) = (index : ℤ) - highest := by
    apply Word.signedSub_eq
    · push_cast
      exact Int.mod_modEq _ _
    · push_cast
      exact Int.mod_modEq _ _
    · omega
    · omega
  rw [nearest]
  omega

def plainIndex (packet : Bytes) : Option ℕ :=
  match RtpMetadata.parse packet with
  | .ok facts => if packet.getLast? = some 1 ∧ facts.sequence < 2 ^ 16 then some facts.sequence else none
  | .error _ => none

def plain : SrtpContext .aeadAes128Gcm where
  unprotectRtp packet index := if plainIndex packet = some index then some [] else none
  unprotectRtcp _ := none
  extend := nearest
  rtpIndex := plainIndex
  unprotectRtp_isSome packet index := by
    by_cases h : plainIndex packet = some index
    · simp [h]
    · simp [h]
  rtpIndex_fits packet index h := by
    unfold plainIndex at h
    split at h
    next facts hfacts =>
      split at h
      next hlast =>
        cases h
        refine ⟨hlast.2.trans (by decide), facts, hfacts, ?_⟩
        rw [Nat.mod_eq_of_lt hlast.2]
      · cases h
    · cases h
  extend_near := nearest_eq

def packetOf (sequence tag : UInt8) : Bytes := [0x80, 96, 0, sequence, 0, 0, 0, 0, 0, 0, 0, 9, tag]

def received : SrtpRun :=
  [.rtp (packetOf 5 1) false, .rtp (packetOf 200 0) false, .rtp (packetOf 7 1) false].foldl (step plain)
    { layer := { reservedRx := 0, limits := ⟨64, 64⟩ } }

theorem replay_protection_received : (machine plain).Reachable received ∧ received.rtp = [(9, 5), (9, 7)] ∧
    ∃ out, (received.layer.unprotectRtp plain (packetOf 6 1) false).2 = .ok out := by
  have hreach : (machine plain).Reachable received :=
    Machine.Reachable.run (.init ⟨⟨64, 64⟩, 0, _, rfl, rfl⟩) (Machine.admits_of_forall (fun _ _ => trivial) _ _)
  have hrtp : received.rtp = [(9, 5), (9, 7)] := by decide +kernel
  have hid : rtpIdentity plain (packetOf 6 1) = some (9, 6) := by decide +kernel
  refine ⟨hreach, hrtp, (replay_protection hreach).2.2.2.2.1 _ false 9 6 7 hid ?_ ?_ ?_ (by decide) (by decide)⟩
  · decide
  · decide
  · rw [hrtp]
    simp

end Plain

end SrtpRun

end Pulsebeam.Rtc
