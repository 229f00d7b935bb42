import Pulsebeam.Dd.Bits
import Pulsebeam.Dd.Model

/-! Reading a dependency descriptor against the structure that was received last. -/

namespace Pulsebeam.Dd

open Pulsebeam.Lib Pulsebeam.Lib.BitCodec BitReader

def readMandatory : List UInt8 → Except DdReadError MandatoryFields
  | flags :: frameHi :: frameLo :: _ =>
    .ok {
      startOfFrame := flags &&& 0b10000000 != 0
      endOfFrame := flags &&& 0b01000000 != 0
      templateId := (flags &&& 0b00111111).toNat
      frameNumber := frameHi.toNat * 2 ^ 8 + frameLo.toNat
    }
  | _ => .error .truncated

def readDti : Reading DecodeTargetIndication := DecodeTargetIndication.fromBits <$> readBits 2

def readDiffs (head : Reading ℕ) (value : ℕ → Reading ℕ) : ℕ → Reading (List ℕ)
  | 0 => do
    let size ← head
    if size = 0 then pure []
    else do
      let _ ← value size
      throw .tooManyFrameDiffs
  | room + 1 => do
    let size ← head
    if size = 0 then pure []
    else do
      let fdiff ← value size
      let fdiffs ← readDiffs head value room
      pure (fdiff :: fdiffs)

def readLayers : ℕ → ℕ → ℕ → Reading (List FrameDependencyTemplate)
  | 0, _, _ => throw .tooManyTemplates
  | room + 1, spatialId, temporalId => do
    let nextLayerIdc ← readBits 2
    let rest ←
      match nextLayerIdc with
      | 0 => readLayers room spatialId temporalId
      | 1 =>
        if maxTemporalIds ≤ temporalId + 1 then throw .tooManyTemporalLayers
        else readLayers room spatialId (temporalId + 1)
      | 2 =>
        if maxSpatialIds ≤ spatialId + 1 then throw .tooManySpatialLayers
        else readLayers room (spatialId + 1) 0
      | _ => pure []
    pure ({ spatialId := spatialId, temporalId := temporalId } :: rest)

section Structure

variable (s : TemplateDependencyStructure)

def readTemplateLayers : Reading TemplateDependencyStructure := do
  let templates ← readLayers maxTemplates 0 0
  pure { s with templates := templates }

-- In the next three passes the vectors that are filled are still empty.
def readTemplateDtis : Reading TemplateDependencyStructure := do
  let templates ← s.templates.mapM fun t => do
    let dtis ← times readDti s.decodeTargetCount
    pure { t with dtis := dtis }
  pure { s with templates := templates }

def readFdiff : Reading ℕ := (Word.saturatingAdd 16 · 1) <$> readBitsU16 4

def readTemplateFdiffs : Reading TemplateDependencyStructure := do
  let templates ← s.templates.mapM fun t => do
    let frameDiffs ← readDiffs readBit (fun _ => readFdiff) maxFrameDiffs
    pure { t with frameDiffs := frameDiffs }
  pure { s with templates := templates }

def readTemplateChains : Reading TemplateDependencyStructure := do
  let chainCount ← readNsU8 (s.decodeTargetCount + 1)
  if chainCount = 0 then pure { s with chainCount := chainCount }
  else do
    let protectedBy ← times (readNsU8 chainCount) s.decodeTargetCount
    let templates ← s.templates.mapM fun t => do
      let chainDiffs ← times (readBitsU8 4) chainCount
      pure { t with chainDiffs := chainDiffs }
    pure { s with chainCount := chainCount, decodeTargetProtectedBy := protectedBy, templates := templates }

def readDimension : Reading ℕ := (fun coded => min (coded + 1) (Word.max 16)) <$> readBits 16

def readResolution : Reading RenderResolution := do
  let width ← readDimension
  let height ← readDimension
  pure ⟨width, height⟩

def readResolutions : Reading TemplateDependencyStructure :=
  if maxSpatialIds < s.spatialLayerCount then throw .tooManySpatialLayers
  else do
    let resolutions ← times readResolution s.spatialLayerCount
    pure { s with resolutions := resolutions }

end Structure

def readStructure : Reading TemplateDependencyStructure := do
  let templateIdOffset ← readBitsU8 6
  let decodeTargetCount ← (Word.saturatingAdd 8 · 1) <$> readBitsU8 5
  let s ← readTemplateLayers { templateIdOffset := templateIdOffset, decodeTargetCount := decodeTargetCount }
  let s ← readTemplateDtis s
  let s ← readTemplateFdiffs s
  let s ← readTemplateChains s
  let present ← readBit
  if present ≠ 0 then readResolutions s else pure s

def readCustomFdiff (size : ℕ) : Reading ℕ := (Word.saturatingAdd 16 · 1) <$> readBitsU16 (4 * size)

def readIf {α : Type} (present : Bool) (p : Reading α) (default : α) : Reading α := if present then p else pure default

def readFrameDependencies (active : TemplateDependencyStructure) (mandatory : MandatoryFields) (fields : DdFields) :
    Reading FrameDependencyTemplate :=
  match active.template mandatory.templateId with
  | none => throw (.unknownTemplateId mandatory.templateId)
  | some deps => do
    let dtis ← readIf fields.customDtis (times readDti deps.dtis.length) deps.dtis
    let frameDiffs ←
      readIf fields.customFdiffs (readDiffs (readBits 2) readCustomFdiff maxFrameDiffs) deps.frameDiffs
    let chainDiffs ← readIf fields.customChains (times (readBitsU8 8) deps.chainDiffs.length) deps.chainDiffs
    pure { deps with dtis := dtis, frameDiffs := frameDiffs, chainDiffs := chainDiffs }

structure Extension where
  structurePresent : Bool := false
  targetsPresent : Bool := false
  fields : DdFields := {}

def readExtension : Reading Extension := do
  let structurePresent ← readBit
  let targetsPresent ← readBit
  let customDtis ← readBit
  let customFdiffs ← readBit
  let customChains ← readBit
  pure ⟨structurePresent != 0, targetsPresent != 0, ⟨customDtis != 0, customFdiffs != 0, customChains != 0⟩⟩

structure DependencyDescriptorReader where
  structure? : Option TemplateDependencyStructure := none
  activeDecodeTargets : ℕ := 0
  deriving DecidableEq, Repr

def readContents (context : Option TemplateDependencyStructure) (mandatory : MandatoryFields) (ext : Extension) :
    Reading DependencyDescriptor := do
  let attached ← readIf ext.structurePresent (some <$> readStructure) none
  match attached.or context with
  | none => throw .noStructure
  | some active => do
    let targets ← readIf ext.targetsPresent (some <$> readBits active.decodeTargetCount) none
    let deps ← readFrameDependencies active mandatory ext.fields
    pure {
      startOfFrame := mandatory.startOfFrame
      endOfFrame := mandatory.endOfFrame
      templateId := mandatory.templateId
      frameNumber := mandatory.frameNumber
      attachedStructure := attached
      activeDecodeTargets := targets
      fields := ext.fields
      frameDependencies := deps
      resolution := active.resolutions[deps.spatialId]?
    }

def readDescriptor (context : Option TemplateDependencyStructure) (extended : Bool) (mandatory : MandatoryFields) :
    Reading DependencyDescriptor := do
  let ext ← readIf extended readExtension {}
  readContents context mandatory ext

namespace DependencyDescriptorReader

variable (r : DependencyDescriptorReader)

def parse (buf : List UInt8) : Except DdReadError DependencyDescriptor :=
  if maxDdLen < buf.length then .error (.tooLong buf.length)
  else do
    let mandatory ← readMandatory buf
    let (dd, rest) ← (readDescriptor r.structure? (mandatoryLen < buf.length) mandatory).run
      (withOffset buf (8 * mandatoryLen))
    if 0 < rest.remaining / 8 then .error (.trailingBytes (rest.remaining / 8)) else .ok dd

def commit (dd : DependencyDescriptor) : DependencyDescriptorReader :=
  let r :=
    match dd.attachedStructure with
    | some s => { structure? := some s, activeDecodeTargets := s.allDecodeTargetsBitmask }
    | none => r
  match dd.activeDecodeTargets with
  | some mask => { r with activeDecodeTargets := mask }
  | none => r

def reset : DependencyDescriptorReader := {}

end DependencyDescriptorReader

end Pulsebeam.Dd
