import Mathlib

/-! H.264 access units as RTP payloads: cutting them up and putting them together again. -/

namespace Pulsebeam.H264

abbrev Bytes := List UInt8

def naluTypeMask : UInt8 := 0x1f

def stapaNaluType : UInt8 := 24

def fuaNaluType : UInt8 := 28

def fubNaluType : UInt8 := 29

def fuaHeaderSize : ℕ := 2

def fuStartMask : UInt8 := 0x80

def fuEndMask : UInt8 := 0x40

def fuReservedMask : UInt8 := 0x20

def annexBStartCode : Bytes := [0, 0, 0, 1]

def maxAccessUnitSize : ℕ := 16 * 1024 * 1024

section Annex

def startCodes : ℕ → Bytes → List (ℕ × ℕ)
  | i, a :: b :: c :: d :: rest =>
    if a = 0 ∧ b = 0 ∧ c = 1 then (i, i + 3) :: startCodes (i + 3) (d :: rest)
    else if a = 0 ∧ b = 0 ∧ c = 0 ∧ d = 1 then (i, i + 4) :: startCodes (i + 4) rest
    else startCodes (i + 1) (b :: c :: d :: rest)
  | _, _ => []

def between (accessUnit : Bytes) : List (ℕ × ℕ) → List Bytes
  | [] => []
  | [(_, start)] => [accessUnit.drop start]
  | (_, start) :: (next, start') :: rest =>
    (accessUnit.drop start).take (next - start) :: between accessUnit ((next, start') :: rest)

def annexBNalus (accessUnit : Bytes) : List Bytes := (between accessUnit (startCodes 0 accessUnit)).filter (!·.isEmpty)

end Annex

structure PacketizedChunk where
  payload : Bytes
  startOfFrame : Bool
  endOfFrame : Bool
  deriving DecidableEq

structure Packetizer where
  mtu : ℕ

namespace Packetizer

def new (mtu : ℕ) : Packetizer := ⟨max mtu (fuaHeaderSize + 1)⟩

def fragment (header : UInt8) (body : Bytes) (size count index : ℕ) : Bytes :=
  ((header &&& 0xe0) ||| fuaNaluType) ::
  ((header &&& naluTypeMask) ||| (if index = 0 then fuStartMask else 0) |||
    (if index + 1 = count then fuEndMask else 0)) ::
  (body.drop (index * size)).take (min ((index + 1) * size) body.length - index * size)

def payloads (p : Packetizer) (nalu : Bytes) : List Bytes :=
  if nalu.length ≤ p.mtu then [nalu]
  else
    match nalu with
    | [] => []
    | header :: body =>
      let size := max (p.mtu - fuaHeaderSize) 1
      let count := (body.length + size - 1) / size
      (List.range count).map (fragment header body size count)

def markFirst : List PacketizedChunk → List PacketizedChunk
  | [] => []
  | c :: rest => { c with startOfFrame := true } :: rest

def markLast : List PacketizedChunk → List PacketizedChunk
  | [] => []
  | [c] => [{ c with endOfFrame := true }]
  | c :: c' :: rest => c :: markLast (c' :: rest)

def packetize (p : Packetizer) (accessUnit : Bytes) : List PacketizedChunk :=
  markLast (markFirst (((annexBNalus accessUnit).flatMap p.payloads).map fun payload => ⟨payload, false, false⟩))

end Packetizer

inductive DepacketizationError
  | emptyPayload
  | invalidNalType (naluType : UInt8)
  | invalidStapA
  | invalidFuA
  | unexpectedFuA
  | incompleteFuA
  | unexpectedFrameBoundary
  | accessUnitTooLarge
  deriving DecidableEq

structure Depacketizer where
  frame : Bytes := []
  fua : Option (UInt8 × Bytes) := none
  started : Bool := false
  maxAccessUnitSize : ℕ := H264.maxAccessUnitSize
  deriving DecidableEq

namespace Depacketizer

variable (d : Depacketizer)

def reset : Depacketizer := { d with frame := [], fua := none, started := false }

def fits (additional : ℕ) : Bool := d.frame.length + additional ≤ d.maxAccessUnitSize

def singleType (naluType : UInt8) : Bool := 1 ≤ naluType ∧ naluType ≤ 23

def stapaUnits : ℕ → Bytes → Option (List Bytes)
  | _, [] => some []
  | 0, _ => none
  | fuel + 1, hi :: lo :: rest =>
    let length := hi.toNat * 256 + lo.toNat
    if rest.length < length then none
    else
      match rest.take length with
      | [] => none
      | header :: _ =>
        if header &&& 0x80 ≠ 0 ∨ !singleType (header &&& naluTypeMask) then none
        else (stapaUnits fuel (rest.drop length)).map (rest.take length :: ·)
  | _ + 1, [_] => none

def pushStapa (payload : Bytes) : Except DepacketizationError Depacketizer :=
  match payload with
  | [] => .error .invalidStapA
  | indicator :: rest =>
    if d.fua.isSome ∨ indicator &&& 0x80 ≠ 0 then .error .invalidStapA
    else
      match stapaUnits rest.length rest with
      | none => .error .invalidStapA
      | some [] => .error .invalidStapA
      | some units =>
        if !d.fits ((units.map fun u => annexBStartCode.length + u.length).sum) then .error .accessUnitTooLarge
        else .ok { d with frame := d.frame ++ units.flatMap (annexBStartCode ++ ·) }

def closeFua (isEnd : Bool) : Except DepacketizationError Depacketizer :=
  if !isEnd then .ok d
  else
    match d.fua with
    | none => .error .invalidFuA
    | some (_, data) => .ok { d with frame := d.frame ++ annexBStartCode ++ data, fua := none }

def pushFua (indicator : UInt8) (rest : Bytes) : Except DepacketizationError Depacketizer :=
  match rest with
  | [] => .error .invalidFuA
  | fuHeader :: body =>
    let naluType := fuHeader &&& naluTypeMask
    let isStart := fuHeader &&& fuStartMask ≠ 0
    let isEnd := fuHeader &&& fuEndMask ≠ 0
    if !singleType naluType ∨ body.isEmpty then .error .invalidFuA
    else if indicator &&& 0x80 ≠ 0 ∨ fuHeader &&& fuReservedMask ≠ 0 ∨ isStart ∧ isEnd then .error .invalidFuA
    else if isStart then
      if d.fua.isSome then .error .invalidFuA
      else
        let header := (indicator &&& 0xe0) ||| naluType
        if !d.fits (annexBStartCode.length + 1 + body.length) then .error .accessUnitTooLarge
        else closeFua { d with fua := some (header, header :: body) } isEnd
    else
      match d.fua with
      | none => .error .invalidFuA
      | some (header, data) =>
        if header &&& 0x1f ≠ naluType ∨ header &&& 0xe0 ≠ indicator &&& 0xe0 then .error .invalidFuA
        else if !d.fits (annexBStartCode.length + data.length + body.length) then .error .accessUnitTooLarge
        else closeFua { d with fua := some (header, data ++ body) } isEnd

def pushPayload (payload : Bytes) : Except DepacketizationError Depacketizer :=
  match payload with
  | [] => .error .emptyPayload
  | indicator :: rest =>
    let naluType := indicator &&& naluTypeMask
    if singleType naluType then
      if d.fua.isSome ∨ indicator &&& 0x80 ≠ 0 then .error .unexpectedFuA
      else if !d.fits (annexBStartCode.length + payload.length) then .error .accessUnitTooLarge
      else .ok { d with frame := d.frame ++ annexBStartCode ++ payload }
    else if naluType = stapaNaluType then d.pushStapa payload
    else if naluType = fuaNaluType then d.pushFua indicator rest
    else if naluType = fubNaluType then .error .invalidFuA
    else .error (.invalidNalType naluType)

def takeIn (payload : Bytes) (endOfFrame : Bool) : Depacketizer × Except DepacketizationError (Option Bytes) :=
  match d.pushPayload payload with
  | .error e => (d.reset, .error e)
  | .ok d =>
    if !endOfFrame then (d, .ok none)
    else if d.fua.isSome then (d.reset, .error .incompleteFuA)
    else if d.frame.isEmpty then (d.reset, .error .emptyPayload)
    else ({ d with frame := [], started := false }, .ok (some d.frame))

def push (payload : Bytes) (startOfFrame endOfFrame : Bool) :
    Depacketizer × Except DepacketizationError (Option Bytes) :=
  if startOfFrame then takeIn { d.reset with started := true } payload endOfFrame
  else if !d.started then (d.reset, .error .unexpectedFrameBoundary)
  else d.takeIn payload endOfFrame

def pushAll (d : Depacketizer) : List PacketizedChunk → List (Except DepacketizationError (Option Bytes))
  | [] => []
  | c :: rest =>
    let pushed := d.push c.payload c.startOfFrame c.endOfFrame
    pushed.2 :: pushed.1.pushAll rest

end Depacketizer

end Pulsebeam.H264
