import Pulsebeam.Lib.Word

/-! The dependency descriptor: templates, the structure that declares them, and the descriptor of one frame. -/

namespace Pulsebeam.Dd

open Pulsebeam.Lib

def maxTemplates : ℕ := 64

def maxDecodeTargets : ℕ := 32

def maxSpatialIds : ℕ := 4

def maxTemporalIds : ℕ := 8

def maxFrameDiffs : ℕ := 8

def maxDdLen : ℕ := 255

def mandatoryLen : ℕ := 3

def templateIdModulus : ℕ := 64

inductive DecodeTargetIndication
  | notPresent
  | discardable
  | switch
  | required
  deriving DecidableEq, Repr

namespace DecodeTargetIndication

def fromBits (v : ℕ) : DecodeTargetIndication :=
  match v % 4 with
  | 0 => notPresent
  | 1 => discardable
  | 2 => switch
  | _ => required

def bits : DecodeTargetIndication → ℕ
  | notPresent => 0
  | discardable => 1
  | switch => 2
  | required => 3

@[simp] lemma fromBits_bits (d : DecodeTargetIndication) : fromBits d.bits = d := by
  cases d <;> rfl

lemma bits_lt (d : DecodeTargetIndication) : d.bits < 2 ^ 2 := by
  cases d <;> decide

end DecodeTargetIndication

structure FrameDependencyTemplate where
  spatialId : ℕ := 0
  temporalId : ℕ := 0
  dtis : List DecodeTargetIndication := []
  frameDiffs : List ℕ := []
  chainDiffs : List ℕ := []
  deriving DecidableEq, Repr

def FrameDependencyTemplate.layer (t : FrameDependencyTemplate) : ℕ × ℕ := (t.spatialId, t.temporalId)

structure RenderResolution where
  width : ℕ
  height : ℕ
  deriving DecidableEq, Repr

structure TemplateDependencyStructure where
  templateIdOffset : ℕ := 0
  decodeTargetCount : ℕ := 0
  chainCount : ℕ := 0
  decodeTargetProtectedBy : List ℕ := []
  templates : List FrameDependencyTemplate := []
  resolutions : List RenderResolution := []
  deriving DecidableEq, Repr

namespace TemplateDependencyStructure

variable (s : TemplateDependencyStructure)

def templateIndex (wireId : ℕ) : ℕ :=
  Word.wrappingSub 16 (Word.wrappingAdd 16 wireId templateIdModulus) s.templateIdOffset % templateIdModulus

def template (wireId : ℕ) : Option FrameDependencyTemplate := s.templates[s.templateIndex wireId]?

def allDecodeTargetsBitmask : ℕ :=
  if s.decodeTargetCount = 0 then 0
  else if maxDecodeTargets ≤ s.decodeTargetCount then Word.max 32
  else 2 ^ s.decodeTargetCount - 1

def spatialLayerCount : ℕ := ((s.templates.map fun t => t.spatialId + 1).max?).getD 0

end TemplateDependencyStructure

structure DdFields where
  customDtis : Bool := false
  customFdiffs : Bool := false
  customChains : Bool := false
  deriving DecidableEq, Repr

def DdFields.isEmpty (f : DdFields) : Bool := !(f.customDtis || f.customFdiffs || f.customChains)

structure MandatoryFields where
  startOfFrame : Bool
  endOfFrame : Bool
  templateId : ℕ
  frameNumber : ℕ
  deriving DecidableEq, Repr

structure DependencyDescriptor where
  startOfFrame : Bool
  endOfFrame : Bool
  templateId : ℕ
  frameNumber : ℕ
  attachedStructure : Option TemplateDependencyStructure
  activeDecodeTargets : Option ℕ
  fields : DdFields
  frameDependencies : FrameDependencyTemplate
  resolution : Option RenderResolution
  deriving DecidableEq, Repr

def DependencyDescriptor.mandatory (dd : DependencyDescriptor) : MandatoryFields where
  startOfFrame := dd.startOfFrame
  endOfFrame := dd.endOfFrame
  templateId := dd.templateId
  frameNumber := dd.frameNumber

end Pulsebeam.Dd
