import Pulsebeam.Dd.Bits
import Pulsebeam.Dd.Model

/-! Writing a dependency descriptor, as far as it is consistent with the structure it is written against. -/

namespace Pulsebeam.Dd

open Pulsebeam.Lib BitWriter

def nextLayerIdc (prev next : ℕ × ℕ) : Option ℕ :=
  if next.1 = prev.1 ∧ next.2 = prev.2 then some 0
  else if next.1 = prev.1 ∧ next.2 = Word.saturatingAdd 8 prev.2 1 then some 1
  else if next.1 = Word.saturatingAdd 8 prev.1 1 ∧ next.2 = 0 then some 2
  else none

def writeTemplateLayers : List FrameDependencyTemplate → Writing Unit
  | prev :: next :: rest =>
    match nextLayerIdc prev.layer next.layer with
    | none => throw .inconsistent
    | some idc => do
      writeBits idc 2
      writeTemplateLayers (next :: rest)
  | _ => writeBits 3 2

def writeDtis (dtis : List DecodeTargetIndication) : Writing Unit := dtis.forM fun dti => writeBits dti.bits 2

section Structure

variable (s : TemplateDependencyStructure)

def writeTemplateDtis : Writing Unit :=
  s.templates.forM fun t =>
    if t.dtis.length ≠ s.decodeTargetCount then throw .inconsistent else writeDtis t.dtis

def writeFdiff (fdiff : ℕ) : Writing Unit :=
  if fdiff = 0 ∨ 2 ^ 4 < fdiff then throw .outOfRange
  else do
    writeBit true
    writeBits (fdiff - 1) 4

def writeTemplateFdiffs : Writing Unit :=
  s.templates.forM fun t => do
    t.frameDiffs.forM writeFdiff
    writeBit false

def writeTemplateChains : Writing Unit := do
  writeNs s.chainCount (s.decodeTargetCount + 1)
  if s.chainCount = 0 then pure ()
  else if s.decodeTargetProtectedBy.length ≠ s.decodeTargetCount then throw .inconsistent
  else do
    s.decodeTargetProtectedBy.forM fun protectedBy =>
      if s.chainCount ≤ protectedBy then throw .outOfRange else writeNs protectedBy s.chainCount
    s.templates.forM fun t =>
      if t.chainDiffs.length ≠ s.chainCount then throw .inconsistent
      else t.chainDiffs.forM fun diff => if 2 ^ 4 ≤ diff then throw .outOfRange else writeBits diff 4

def writeResolution (r : RenderResolution) : Writing Unit :=
  if r.width = 0 ∨ r.height = 0 then throw .outOfRange
  else do
    writeBits (r.width - 1) 16
    writeBits (r.height - 1) 16

def writeResolutions : Writing Unit :=
  if s.resolutions.length ≠ s.spatialLayerCount then throw .inconsistent else s.resolutions.forM writeResolution

def writeStructure : Writing Unit :=
  if s.templates = [] ∨ s.decodeTargetCount = 0 ∨ maxDecodeTargets < s.decodeTargetCount ∨
      s.decodeTargetCount < s.chainCount then throw .inconsistent
  else
    match s.templates with
    | [] => throw .inconsistent
    | first :: _ =>
      if first.spatialId ≠ 0 ∨ first.temporalId ≠ 0 then throw .inconsistent
      else do
        writeBits s.templateIdOffset 6
        writeBits (s.decodeTargetCount - 1) 5
        writeTemplateLayers s.templates
        writeTemplateDtis s
        writeTemplateFdiffs s
        writeTemplateChains s
        writeBit (s.resolutions != [])
        if s.resolutions ≠ [] then writeResolutions s else pure ()

end Structure

def fdiffSize (fdiff : ℕ) : ℕ := if fdiff ≤ 2 ^ 4 then 1 else if fdiff ≤ 2 ^ 8 then 2 else 3

def writeCustomFdiff (fdiff : ℕ) : Writing Unit :=
  if fdiff = 0 ∨ 2 ^ 12 < fdiff then throw .outOfRange
  else do
    writeBits (fdiffSize fdiff) 2
    writeBits (fdiff - 1) (4 * fdiffSize fdiff)

def writeIf (present : Bool) (w : Writing Unit) : Writing Unit := if present then w else pure ()

def writeFrameDependencies (fields : DdFields) (deps : FrameDependencyTemplate) : Writing Unit := do
  writeIf fields.customDtis (writeDtis deps.dtis)
  writeIf fields.customFdiffs do
    deps.frameDiffs.forM writeCustomFdiff
    writeBits 0 2
  writeIf fields.customChains (deps.chainDiffs.forM fun diff => writeBits diff 8)

def validate (dd : DependencyDescriptor) (active : TemplateDependencyStructure) : Except DdWriteError Unit :=
  if (active.template dd.templateId).isNone then .error (.unknownTemplateId dd.templateId)
  else if dd.frameDependencies.dtis.length ≠ active.decodeTargetCount then .error .inconsistent
  else if dd.frameDependencies.chainDiffs.length ≠ active.chainCount then .error .inconsistent
  else
    match dd.activeDecodeTargets with
    | none => .ok ()
    | some mask =>
      -- Some bit of the mask is outside of the targets.
      if mask &&& (Word.max 32 ^^^ active.allDecodeTargetsBitmask) ≠ 0 then .error .outOfRange else .ok ()

def hasExtended (dd : DependencyDescriptor) : Bool :=
  dd.attachedStructure.isSome || dd.activeDecodeTargets.isSome || !dd.fields.isEmpty

def writeMandatory (dd : DependencyDescriptor) : Writing Unit := do
  writeBit dd.startOfFrame
  writeBit dd.endOfFrame
  writeBits dd.templateId 6
  writeBits dd.frameNumber 16

def writeExtension (dd : DependencyDescriptor) (active : TemplateDependencyStructure) : Writing Unit := do
  writeBit dd.attachedStructure.isSome
  writeBit dd.activeDecodeTargets.isSome
  writeBit dd.fields.customDtis
  writeBit dd.fields.customFdiffs
  writeBit dd.fields.customChains
  dd.attachedStructure.forM writeStructure
  dd.activeDecodeTargets.forM fun mask => writeBits mask active.decodeTargetCount
  writeFrameDependencies dd.fields dd.frameDependencies

def writeDescriptor (dd : DependencyDescriptor) (active : TemplateDependencyStructure) : Writing Unit := do
  writeMandatory dd
  writeIf (hasExtended dd) (writeExtension dd active)

structure DependencyDescriptorWriter where
  structure? : Option TemplateDependencyStructure := none
  deriving DecidableEq, Repr

namespace DependencyDescriptorWriter

variable (w : DependencyDescriptorWriter)

def write (dd : DependencyDescriptor) (size : ℕ) : Except DdWriteError (List UInt8 × ℕ × DependencyDescriptorWriter) :=
  match dd.attachedStructure.or w.structure? with
  | none => .error .noStructure
  | some active => do
    validate dd active
    let (_, out) ← (writeDescriptor dd active).run (.new size)
    .ok (out.buf, out.finish, { structure? := dd.attachedStructure.or w.structure? })

def reset : DependencyDescriptorWriter := {}

end DependencyDescriptorWriter

end Pulsebeam.Dd
