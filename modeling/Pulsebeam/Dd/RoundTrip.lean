import Pulsebeam.Dd.Layout
import Pulsebeam.Lib.Run

/-! Descriptors that are read and written again against the same structure. -/

namespace Pulsebeam.Dd

open Pulsebeam.Lib Pulsebeam.Lib.BitString Pulsebeam.Lib.BitCodec BitReader BitWriter List Option Nat

section Optional

variable {α : Type} {b : Bool} {c : α → List Bool} {p : Reading α} {V : α → Prop} {o : Option α}

lemma codes_readIf (hp : Codes p V c) (b : Bool) (d : α) :
    Codes (readIf b p d) (fun a => if b then V a else a = d) fun a => if b then c a else [] := by
  cases b with
  | false => exact .pure (fun _ => Iff.rfl) rfl
  | true => exact hp

lemma codes_readSome (hp : Codes p V c) (b : Bool) :
    Codes (readIf b (some <$> p) none) (fun o => o.isSome = b ∧ ∀ a ∈ o, V a) (·.elim [] c) := by
  cases b with
  | false => exact .pure (fun o => by cases o <;> simp) rfl
  | true => exact hp.map some (fun o => by cases o <;> simp) fun _ _ => rfl

lemma encodes_writeIf {w : Writing Unit} {bits : List Bool} (hw : b = true → Encodes w bits) :
    Encodes (writeIf b w) (if b then bits else []) := by
  cases b with
  | false => exact .pure
  | true => exact hw rfl

lemma encodes_forM {f : α → Writing Unit} (hf : ∀ a, o = some a → Encodes (f a) (c a)) :
    Encodes (o.forM f) (o.elim [] c) := by
  cases o with
  | none => exact .pure
  | some a => exact hf a rfl

end Optional

section Frame

variable {fields : DdFields} {t deps : FrameDependencyTemplate} {active : TemplateDependencyStructure}
  {mandatory : MandatoryFields}

structure Overrides (fields : DdFields) (t deps : FrameDependencyTemplate) : Prop where
  layer : deps.layer = t.layer
  dtis : if fields.customDtis then deps.dtis.length = t.dtis.length else deps.dtis = t.dtis
  fdiffs : if fields.customFdiffs then Fdiffs (2 ^ 12) deps.frameDiffs else deps.frameDiffs = t.frameDiffs
  chains : if fields.customChains then deps.chainDiffs.length = t.chainDiffs.length ∧ ∀ d ∈ deps.chainDiffs, d < 2 ^ 8
    else deps.chainDiffs = t.chainDiffs

def frameBits (fields : DdFields) (deps : FrameDependencyTemplate) : List Bool :=
  (if fields.customDtis then dtisBits deps.dtis else []) ++
    ((if fields.customFdiffs then customFdiffsBits deps.frameDiffs else []) ++
      if fields.customChains then chainDiffsBits 8 deps.chainDiffs else [])

lemma codes_readFrameDependencies : Codes (readFrameDependencies active mandatory fields)
    (fun deps => ∃ t, active.template mandatory.templateId = some t ∧ Overrides fields t deps) (frameBits fields) := by
  unfold readFrameDependencies
  split
  next ht => exact .throw _ (by simp [ht])
  next t ht =>
    refine (codes_readIf (codes_readDtis _) _ _).bind (W := fun l deps => deps.dtis = l ∧ Overrides fields t deps)
      (d := fun _ deps => (if fields.customFdiffs then customFdiffsBits deps.frameDiffs else []) ++
        if fields.customChains then chainDiffsBits 8 deps.chainDiffs else []) (fun l hl => ?_)
      (fun deps => ⟨?_, fun ⟨_, _, _, h⟩ => ⟨t, ht, h⟩⟩) (by rintro _ _ - ⟨rfl, -⟩; rfl)
    · refine (codes_readIf codes_customFdiffs _ _).bind
        (W := fun l' deps => deps.dtis = l ∧ deps.frameDiffs = l' ∧ Overrides fields t deps)
        (d := fun _ deps => if fields.customChains then chainDiffsBits 8 deps.chainDiffs else []) (fun l' hl' => ?_)
        (fun deps => ⟨fun ⟨hd, h⟩ => ⟨_, h.fdiffs, hd, rfl, h⟩, fun ⟨_, _, hd, _, h⟩ => ⟨hd, h⟩⟩)
          (by rintro _ _ - ⟨-, rfl, -⟩; rfl)
      refine (codes_readIf (codes_readChainDiffs (by decide) _) _ _).ret _ (fun deps => ⟨?_, ?_⟩) fun _ _ => rfl
      · rintro ⟨rfl, rfl, h⟩
        refine ⟨_, h.chains, ?_⟩
        obtain ⟨hs, hte⟩ := Prod.ext_iff.1 h.layer
        change deps.spatialId = t.spatialId at hs
        change deps.temporalId = t.temporalId at hte
        rw [← hs, ← hte]
      · rintro ⟨l'', hl'', rfl⟩
        exact ⟨rfl, rfl, rfl, hl, hl', hl''⟩
    · rintro ⟨t', ht', h⟩
      cases ht.symm.trans ht'
      exact ⟨_, h.dtis, rfl, h⟩

lemma encodes_writeFrameDependencies (h : Overrides fields t deps) :
    Encodes (writeFrameDependencies fields deps) (frameBits fields deps) := by
  refine Encodes.bind (encodes_writeIf fun _ => encodes_writeDtis) (Encodes.bind (encodes_writeIf fun hb => ?_)
    (encodes_writeIf fun _ => .forM fun d _ => encodes_writeBits d 8))
  have hf := h.fdiffs
  rw [if_pos hb] at hf
  exact encodes_customFdiffs hf

end Frame

section Descriptor

variable {context : Option TemplateDependencyStructure} {active : TemplateDependencyStructure} {dd : DependencyDescriptor}
  {mandatory : MandatoryFields}

structure Describes (active : TemplateDependencyStructure) (dd : DependencyDescriptor) : Prop where
  valid : Valid active
  mask : ∀ m, dd.activeDecodeTargets = some m → m < 2 ^ active.decodeTargetCount
  deps : ∃ t, active.template dd.templateId = some t ∧ Overrides dd.fields t dd.frameDependencies
  resolution : dd.resolution = active.resolutions[dd.frameDependencies.spatialId]?

lemma toNat_bne_zero (b : Bool) : (b.toNat != 0) = b := by
  cases b <;> rfl

def Extension.bits (e : Extension) : List Bool :=
  [e.structurePresent, e.targetsPresent, e.fields.customDtis, e.fields.customFdiffs, e.fields.customChains]

def DependencyDescriptor.extension (dd : DependencyDescriptor) : Extension :=
  ⟨dd.attachedStructure.isSome, dd.activeDecodeTargets.isSome, dd.fields⟩

def contentsBits (context : Option TemplateDependencyStructure) (dd : DependencyDescriptor) : List Bool :=
  dd.attachedStructure.elim [] structureBits ++
    (dd.activeDecodeTargets.elim [] (toBits ((dd.attachedStructure.or context).elim 0 (·.decodeTargetCount))) ++
      frameBits dd.fields dd.frameDependencies)

lemma codes_flag {α : Type} {f : ℕ → Reading α} {W : Bool → α → Prop} {U : α → Prop} {d : Bool → α → List Bool}
    {u : α → List Bool} (hf : ∀ b : Bool, Codes (f b.toNat) (W b) (d b)) (hU : ∀ a, U a ↔ ∃ b, W b a)
    (hu : ∀ b a, W b a → u a = b :: d b a) : Codes (readBit >>= f) U u := by
  have hbit : ∀ n < 2, (n != 0).toNat = n ∧ toBits 1 n = [n != 0] := by decide
  refine (codes_readBits (by decide)).bind (W := fun n => W (n != 0)) (d := fun n => d (n != 0)) (fun n hn => ?_)
    (fun a => ?_) fun n a hn ha => ?_
  · have hcodes := hf (n != 0)
    rwa [(hbit n hn).1] at hcodes
  · rw [hU]
    exact ⟨fun ⟨b, hb⟩ => ⟨b.toNat, b.toNat_lt, by rwa [toNat_bne_zero]⟩, fun ⟨_, _, h⟩ => ⟨_, h⟩⟩
  · rw [hu _ a ha, (hbit n hn).2]
    rfl

lemma codes_readExtension : Codes readExtension (fun _ => True) Extension.bits := by
  refine codes_flag (d := fun _ e => e.bits.drop 1) (fun _ => codes_flag (d := fun _ e => e.bits.drop 2)
    (fun _ => codes_flag (d := fun _ e => e.bits.drop 3) (fun _ => codes_flag (d := fun _ e => e.bits.drop 4)
      (fun _ => codes_flag (d := fun _ _ => []) (fun _ => .pure (fun _ => Iff.rfl) rfl) (fun _ => Iff.rfl) ?_)
      (fun _ => Iff.rfl) ?_) (fun _ => Iff.rfl) ?_) (fun _ => Iff.rfl) ?_) (fun e => ?_) ?_
  · simp [Extension.bits]
  · simp [Extension.bits]
  · rintro b _ ⟨_, _, rfl⟩
    simp [Extension.bits]
  · rintro b _ ⟨_, _, _, rfl⟩
    simp [Extension.bits]
  · exact iff_of_true trivial ⟨e.structurePresent, e.targetsPresent, e.fields.customDtis, e.fields.customFdiffs,
      e.fields.customChains, by simp only [toNat_bne_zero]⟩
  · rintro b _ ⟨_, _, _, _, rfl⟩
    simp [Extension.bits]

lemma codes_readContents (hcontext : ∀ s, context = some s → Valid s) (mandatory : MandatoryFields) (ext : Extension) :
    Codes (readContents context mandatory ext) (fun dd => dd.extension = ext ∧ dd.mandatory = mandatory ∧
      ∃ active, dd.attachedStructure.or context = some active ∧ Describes active dd) (contentsBits context) := by
  refine (codes_readSome codes_readStructure ext.structurePresent).bind (W := fun attached dd =>
      dd.attachedStructure = attached ∧ dd.extension = ext ∧ dd.mandatory = mandatory ∧
        ∃ active, attached.or context = some active ∧ Describes active dd)
    (d := fun attached dd => dd.activeDecodeTargets.elim [] (toBits ((attached.or context).elim 0 (·.decodeTargetCount))) ++
      frameBits dd.fields dd.frameDependencies) (fun attached ha => ?_) (fun dd => ⟨?_, ?_⟩) (by rintro _ _ - ⟨rfl, -⟩; rfl)
  · split
    next hnone => exact .throw _ (by simp [hnone])
    next active hactive =>
      have hvalid : Valid active := by
        rcases or_eq_some_iff.1 hactive with h | ⟨-, h⟩
        · exact ha.2 active h
        · exact hcontext active h
      refine (codes_readSome (codes_readBits hvalid.targets.2) ext.targetsPresent).bind (W := fun targets dd =>
          dd.activeDecodeTargets = targets ∧ dd.attachedStructure = attached ∧ dd.extension = ext ∧ dd.mandatory = mandatory ∧
            Describes active dd)
        (d := fun _ dd => frameBits ext.fields dd.frameDependencies) (fun targets ht => ?_) (fun dd => ⟨?_, ?_⟩) ?_
      · refine codes_readFrameDependencies.ret _ (fun dd => ⟨?_, ?_⟩) fun _ _ => rfl
        · rintro ⟨rfl, rfl, rfl, rfl, h⟩
          refine ⟨_, h.deps, ?_⟩
          rw [← h.resolution]
          rfl
        · rintro ⟨deps, hdeps, rfl⟩
          exact ⟨rfl, rfl, by rw [DependencyDescriptor.extension, ha.1, ht.1], rfl, hvalid, ht.2, hdeps, rfl⟩
      · rintro ⟨hatt, rfl, hm, _, heq, h⟩
        cases hactive.symm.trans heq
        exact ⟨_, ⟨rfl, h.mask⟩, rfl, hatt, rfl, hm, h⟩
      · exact fun ⟨_, _, _, hatt, hext, hm, h⟩ => ⟨hatt, hext, hm, active, hactive, h⟩
      · rintro _ dd - ⟨rfl, -, rfl, -⟩
        rw [hactive]
        rfl
  · rintro ⟨rfl, hm, active, hactive, h⟩
    refine ⟨_, ⟨rfl, fun s hs => ?_⟩, rfl, rfl, hm, active, hactive, h⟩
    rw [hs, some_or, Option.some.injEq] at hactive
    exact hactive ▸ h.valid
  · rintro ⟨_, -, rfl, hext, hm, h⟩
    exact ⟨hext, hm, h⟩

lemma contents_of_not_extended (h : hasExtended dd = false) : dd.extension = {} ∧ contentsBits context dd = [] := by
  obtain ⟨_, _, _, _, attached, targets, ⟨b1, b2, b3⟩, _, _⟩ := dd
  cases attached <;> cases targets <;> cases b1 <;> cases b2 <;> cases b3 <;>
    first
    | exact ⟨rfl, rfl⟩
    | cases h

def descriptorBits (context : Option TemplateDependencyStructure) (extended : Bool) (dd : DependencyDescriptor) : List Bool :=
  (if extended then dd.extension.bits else []) ++ contentsBits context dd

lemma codes_readDescriptor (hcontext : ∀ s, context = some s → Valid s) (extended : Bool) (mandatory : MandatoryFields) :
    Codes (readDescriptor context extended mandatory) (fun dd => (if extended then True else dd.extension = {}) ∧
      dd.mandatory = mandatory ∧ ∃ active, dd.attachedStructure.or context = some active ∧ Describes active dd)
      (descriptorBits context extended) :=
  (codes_readIf codes_readExtension extended {}).bind (fun ext _ => codes_readContents hcontext mandatory ext)
    (fun dd => ⟨fun h => ⟨_, h.1, rfl, h.2⟩, by rintro ⟨_, hext, rfl, h⟩; exact ⟨hext, h⟩⟩) (by rintro _ dd - ⟨rfl, -⟩; rfl)

lemma encodes_writeExtension (hactive : dd.attachedStructure.or context = some active) (h : Describes active dd) :
    Encodes (writeExtension dd active) (dd.extension.bits ++ contentsBits context dd) := by
  obtain ⟨t, _, hdeps⟩ := h.deps
  have hattached : ∀ s, dd.attachedStructure = some s → Encodes (writeStructure s) (structureBits s) := by
    intro s hs
    rw [hs, some_or, Option.some.injEq] at hactive
    subst hactive
    exact encodes_writeStructure h.valid
  rw [contentsBits, hactive]
  exact (encodes_writeBit _).bind ((encodes_writeBit _).bind ((encodes_writeBit _).bind ((encodes_writeBit _).bind
    ((encodes_writeBit _).bind ((encodes_forM hattached).bind ((encodes_forM fun m _ => encodes_writeBits m _).bind
      (encodes_writeFrameDependencies hdeps)))))))

end Descriptor

section Mandatory

def MandatoryFields.bits (m : MandatoryFields) : List Bool :=
  [m.startOfFrame] ++ ([m.endOfFrame] ++ (toBits 6 m.templateId ++ toBits 16 m.frameNumber))

@[simp] lemma MandatoryFields.length_bits (m : MandatoryFields) : m.bits.length = 24 := by simp [MandatoryFields.bits]

def MandatoryFields.Fits (m : MandatoryFields) : Prop := m.templateId < 2 ^ 6 ∧ m.frameNumber < 2 ^ 16

lemma MandatoryFields.bits_inj {m m' : MandatoryFields} (hm : m.Fits) (hm' : m'.Fits) (h : m.bits = m'.bits) : m = m' := by
  obtain ⟨hs, h⟩ := append_inj h rfl
  obtain ⟨he, h⟩ := append_inj h rfl
  obtain ⟨hid, hnumber⟩ := append_inj h (by simp)
  obtain ⟨_, _, _, _⟩ := m
  congr
  · exact singleton_inj.1 hs
  · exact singleton_inj.1 he
  · exact toBits_inj hm.1 hm'.1 hid
  · exact toBits_inj hm.2 hm'.2 hnumber

lemma flags_bits : ∀ f : Fin 256, [UInt8.ofNat f &&& 0b10000000 != 0] ++ ([UInt8.ofNat f &&& 0b01000000 != 0] ++
    toBits 6 (UInt8.ofNat f &&& 0b00111111).toNat) = toBits 8 f ∧ (UInt8.ofNat f &&& 0b00111111).toNat < 2 ^ 6 := by
  decide +kernel

variable {buf : List UInt8}

lemma slice_byte {byte : UInt8} {i : ℕ} (h : buf[i]? = some byte) : slice buf (8 * i) 8 = toBits 8 byte.toNat := by
  refine (toBits_eq_slice fun j hj => ?_).symm
  have hdiv : (8 * i + j) / 8 = i := by omega
  have hmod : (8 * i + j) % 8 = j := by omega
  rw [bitAt, hdiv, hmod, h, any_some]

lemma toBits_bytes {hi lo : ℕ} (hlo : lo < 2 ^ 8) : toBits 16 (hi * 2 ^ 8 + lo) = toBits 8 hi ++ toBits 8 lo := by
  rw [toBits_append 8 8]
  congr 1
  · congr 1
    omega
  apply toBits_congr
  intro i hi
  rw [mul_comm, testBit_two_pow_mul_add _ hlo, if_pos hi]

lemma readMandatory_bits {m : MandatoryFields} (h : readMandatory buf = .ok m) :
    m.Fits ∧ 3 ≤ buf.length ∧ m.bits = slice buf 0 24 := by
  match buf, h with
  | flags :: hi :: lo :: rest, h =>
    cases h
    have hflags := flags_bits ⟨flags.toNat, flags.toNat_lt⟩
    rw [UInt8.ofNat_toNat] at hflags
    have hhi := hi.toNat_lt
    have hlo := lo.toNat_lt
    refine ⟨⟨hflags.2, by dsimp only; omega⟩, by simp, ?_⟩
    have hslice : slice (flags :: hi :: lo :: rest) 0 24 = toBits 8 flags.toNat ++ (toBits 8 hi.toNat ++ toBits 8 lo.toNat) := by
      rw [slice_append _ 0 8 16, slice_append _ 8 8 8]
      exact congrArg₂ _ (slice_byte (i := 0) rfl) (congrArg₂ _ (slice_byte (i := 1) rfl) (slice_byte (i := 2) rfl))
    rw [hslice, ← hflags.1, ← toBits_bytes hlo]
    simp [MandatoryFields.bits]

lemma readMandatory_of_length (h : 3 ≤ buf.length) : ∃ m, readMandatory buf = .ok m := by
  match buf, h with
  | _ :: _ :: _ :: _, _ => exact ⟨_, rfl⟩

end Mandatory

section Relay

lemma bind_ok {ε α β : Type} (a : α) (f : α → Except ε β) : (Except.ok a >>= f) = f a := rfl

lemma bind_eq_ok {ε α β : Type} {x : Except ε α} {f : α → Except ε β} {b : β} (h : (x >>= f) = .ok b) :
    ∃ a, x = .ok a ∧ f a = .ok b := by
  cases x with
  | error e => cases h
  | ok a => exact ⟨a, rfl, h⟩

variable {r : DependencyDescriptorReader} {buf : List UInt8} {dd : DependencyDescriptor}
  {active : TemplateDependencyStructure} {size : ℕ}

lemma parse_eq_ok : r.parse buf = .ok dd ↔ buf.length ≤ maxDdLen ∧ ∃ m rest, readMandatory buf = .ok m ∧
    (readDescriptor r.structure? (mandatoryLen < buf.length) m).run (withOffset buf (8 * mandatoryLen)) = .ok (dd, rest) ∧
    rest.remaining < 8 := by
  unfold DependencyDescriptorReader.parse
  split
  next hlen =>
    constructor
    · intro h
      cases h
    · rintro ⟨hle, _⟩
      exact absurd hlen (not_lt.2 hle)
  next hlen =>
    rw [and_iff_right (not_lt.1 hlen)]
    constructor
    · intro h
      obtain ⟨m, hm, h⟩ := bind_eq_ok h
      obtain ⟨⟨dd', rest⟩, hrun, h⟩ := bind_eq_ok h
      dsimp only at h
      split at h
      · cases h
      · cases h
        exact ⟨m, rest, hm, hrun, by omega⟩
    · rintro ⟨m, rest, hm, hrun, hrest⟩
      rw [hm, bind_ok, hrun]
      exact if_neg (by omega)

lemma allDecodeTargetsBitmask_eq {s : TemplateDependencyStructure} (h : s.decodeTargetCount ≤ maxDecodeTargets) :
    s.allDecodeTargetsBitmask = 2 ^ s.decodeTargetCount - 1 := by
  unfold TemplateDependencyStructure.allDecodeTargetsBitmask
  split
  next h0 => rw [h0]; rfl
  · split
    next hle => rw [le_antisymm h hle]; rfl
    · rfl

lemma and_outside_eq_zero {mask n : ℕ} (hn : n ≤ 32) (hmask : mask < 2 ^ n) : mask &&& (Word.max 32 ^^^ (2 ^ n - 1)) = 0 := by
  apply eq_of_testBit_eq
  intro i
  rw [testBit_and, testBit_xor, Word.max, testBit_two_pow_sub_one, testBit_two_pow_sub_one, zero_testBit]
  by_cases hi : i < n
  · rw [decide_eq_true hi, decide_eq_true (by omega)]
    simp
  · have hle : 2 ^ n ≤ 2 ^ i := Nat.pow_le_pow_right (by decide) (not_lt.1 hi)
    rw [testBit_eq_false_of_lt (hmask.trans_le hle), Bool.false_and]

lemma Describes.validate (h : Describes active dd) : validate dd active = .ok () := by
  obtain ⟨t, ht, hdeps⟩ := h.deps
  have hmem : t ∈ active.templates := mem_of_getElem? ht
  have hdtis : dd.frameDependencies.dtis.length = active.decodeTargetCount := by
    rw [← h.valid.dtis t hmem]
    have := hdeps.dtis
    split at this
    · exact this
    · rw [this]
  have hchains : dd.frameDependencies.chainDiffs.length = active.chainCount := by
    rw [← (h.valid.chained.diffs t hmem).1]
    have := hdeps.chains
    split at this
    · exact this.1
    · rw [this]
  rw [Dd.validate, ht, if_neg (not_not.2 hdtis), if_neg (not_not.2 hchains)]
  cases hmask : dd.activeDecodeTargets with
  | none => rfl
  | some mask =>
    dsimp only
    rw [allDecodeTargetsBitmask_eq h.valid.targets.2, and_outside_eq_zero h.valid.targets.2 (h.mask mask hmask)]
    rfl

lemma commit_structure : (r.commit dd).structure? = dd.attachedStructure.or r.structure? := by
  unfold DependencyDescriptorReader.commit
  cases dd.attachedStructure <;> cases dd.activeDecodeTargets <;> rfl

lemma encodes_writeDescriptor {context : Option TemplateDependencyStructure}
    (hactive : dd.attachedStructure.or context = some active) (h : Describes active dd) :
    Encodes (writeDescriptor dd active) (dd.mandatory.bits ++ descriptorBits context (hasExtended dd) dd) := by
  have hmandatory : Encodes (writeMandatory dd) dd.mandatory.bits :=
    (encodes_writeBit _).bind ((encodes_writeBit _).bind ((encodes_writeBits _ 6).bind (encodes_writeBits _ 16)))
  refine hmandatory.bind ?_
  rw [descriptorBits]
  cases hhas : hasExtended dd with
  | false =>
    rw [(contents_of_not_extended hhas).2]
    exact .pure
  | true => exact encodes_writeExtension hactive h

lemma length_descriptorBits (context : Option TemplateDependencyStructure) (dd : DependencyDescriptor) :
    if hasExtended dd then 5 ≤ (descriptorBits context (hasExtended dd) dd).length
    else (descriptorBits context (hasExtended dd) dd).length = 0 := by
  unfold descriptorBits
  cases hhas : hasExtended dd with
  | false =>
    rw [(contents_of_not_extended hhas).2]
    rfl
  | true =>
    rw [length_append]
    exact le_add_right 5 _

lemma parse_of_bits (hr : ∀ s, r.structure? = some s → Valid s) (hactive : dd.attachedStructure.or r.structure? = some active)
    (h : Describes active dd) (hfits : dd.mandatory.Fits) {d : ℕ}
    (hd : (descriptorBits r.structure? (hasExtended dd) dd).length = d) (hlen : buf.length ≤ maxDdLen)
    (hend : buf.length = (24 + d + 7) / 8)
    (hbits : slice buf 0 (24 + d) = dd.mandatory.bits ++ descriptorBits r.structure? (hasExtended dd) dd) :
    r.parse buf = .ok dd := by
  rw [slice_append] at hbits
  obtain ⟨hfront, hback⟩ := append_inj hbits (by simp)
  obtain ⟨m, hm⟩ := readMandatory_of_length (by omega : 3 ≤ buf.length)
  obtain ⟨hmfits, _, hmbits⟩ := readMandatory_bits hm
  obtain rfl := MandatoryFields.bits_inj hmfits hfits (hmbits.trans hfront)
  have hextended : decide (mandatoryLen < buf.length) = hasExtended dd := by
    have hcount := length_descriptorBits r.structure? dd
    cases hhas : hasExtended dd with
    | false =>
      rw [hhas, if_neg (by decide)] at hcount
      exact decide_eq_false (by unfold mandatoryLen; rw [hhas] at hd; omega)
    | true =>
      rw [hhas, if_pos rfl] at hcount
      exact decide_eq_true (by unfold mandatoryLen; rw [hhas] at hd; omega)
  have hstart : withOffset buf (8 * mandatoryLen) = ⟨buf, 24⟩ := by
    unfold withOffset mandatoryLen
    congr 1
    omega
  have hnext : descriptorBits r.structure? (hasExtended dd) dd <+: Source.remaining (⟨buf, 24⟩ : BitReader) := by
    refine ⟨slice buf (24 + d) (8 * buf.length - 24 - d), ?_⟩
    rw [← hback, ← slice_append]
    change _ = slice buf 24 (8 * buf.length - 24)
    congr 1
    omega
  have hext : if hasExtended dd then True else dd.extension = {} := by
    split
    · trivial
    next hhas => exact (@contents_of_not_extended none dd (by simpa using hhas)).1
  have hrun := (codes_readDescriptor hr _ dd.mandatory).decodes ⟨hext, rfl, active, hactive, h⟩ hnext
  rw [hd, ← hextended, ← hstart] at hrun
  refine parse_eq_ok.2 ⟨hlen, _, _, hm, hrun, ?_⟩
  change 8 * buf.length - (min _ _ + d) < 8
  unfold mandatoryLen
  omega

lemma describes_of_parse (hr : ∀ s, r.structure? = some s → Valid s) (hparse : r.parse buf = .ok dd) :
    ∃ active, dd.attachedStructure.or r.structure? = some active ∧ Describes active dd ∧ dd.mandatory.Fits ∧
      24 + (descriptorBits r.structure? (hasExtended dd) dd).length ≤ 8 * buf.length := by
  obtain ⟨_, m, rest, hm, hrun, _⟩ := parse_eq_ok.1 hparse
  obtain ⟨hfits, h3, _⟩ := readMandatory_bits hm
  obtain ⟨n, hn, rfl, ⟨hext, rfl, active, hactive, hdesc⟩, hspent⟩ := (codes_readDescriptor hr _ m).spends hrun
  refine ⟨active, hactive, hdesc, hfits, ?_⟩
  change n ≤ (slice _ _ (8 * buf.length - min _ _)).length at hn
  rw [length_slice] at hn
  unfold mandatoryLen at hn
  -- A descriptor without the extension announces nothing.
  have hle : (descriptorBits r.structure? (hasExtended dd) dd).length ≤ n := by
    refine le_trans ?_ hspent
    rw [descriptorBits, descriptorBits, length_append, length_append, Nat.add_le_add_iff_right]
    split
    next hhas =>
      rw [if_pos]
      by_contra hnot
      rw [if_neg hnot] at hext
      obtain ⟨hatt, hmask, hfields⟩ := Extension.mk.inj hext
      rw [hasExtended, hatt, hmask, hfields] at hhas
      cases hhas
    · exact zero_le _
  omega

lemma reencode {w : DependencyDescriptorWriter} (hw : w.structure? = r.structure?)
    (hr : ∀ s, r.structure? = some s → Valid s) (hparse : r.parse buf = .ok dd) :
    ∃ out len, w.write dd maxDdLen = .ok (out, len, ⟨(r.commit dd).structure?⟩) ∧ len ≤ buf.length ∧
      r.parse (out.take len) = .ok dd := by
  have hlen : buf.length ≤ 255 := (parse_eq_ok.1 hparse).1
  obtain ⟨active, hactive, hdesc, hfits, hspent⟩ := describes_of_parse hr hparse
  have hroom : (dd.mandatory.bits ++ descriptorBits r.structure? (hasExtended dd) dd).length ≤ 8 * maxDdLen := by
    rw [length_append]
    exact hspent.trans (mul_le_mul_left 8 hlen)
  obtain ⟨out, hwrite, hsize, hpos, hout⟩ := encodes_run_new (encodes_writeDescriptor hactive hdesc) hroom
  rw [length_append, MandatoryFields.length_bits] at hpos hout
  have hsize : out.buf.length = 255 := hsize
  have hfinish : out.finish = (24 + (descriptorBits r.structure? (hasExtended dd) dd).length + 7) / 8 := by rw [finish, hpos]
  have htake : (out.buf.take out.finish).length = out.finish := by
    rw [length_take]
    omega
  refine ⟨out.buf, out.finish, ?_, by omega, parse_of_bits hr hactive hdesc hfits rfl ?_ ?_ ?_⟩
  · rw [DependencyDescriptorWriter.write, hw, commit_structure, hactive]
    dsimp only
    rw [hdesc.validate, hwrite]
    rfl
  · omega
  · rw [htake, hfinish]
  · rw [slice_take (by omega), hout]

lemma exists_parse (hr : ∀ s, r.structure? = some s → Valid s) (hactive : dd.attachedStructure.or r.structure? = some active)
    (h : Describes active dd) (hfits : dd.mandatory.Fits)
    (hroom : 24 + (descriptorBits r.structure? (hasExtended dd) dd).length ≤ 8 * maxDdLen) : ∃ buf, r.parse buf = .ok dd := by
  obtain ⟨out, -, hsize, -, hout⟩ := encodes_run_new (encodes_writeDescriptor hactive h)
    (by rwa [length_append, MandatoryFields.length_bits])
  rw [length_append, MandatoryFields.length_bits] at hout
  generalize hd : (descriptorBits r.structure? (hasExtended dd) dd).length = d at hroom hout
  have htake : (out.buf.take ((24 + d + 7) / 8)).length = (24 + d + 7) / 8 := by
    rw [length_take, hsize]
    omega
  refine ⟨_, parse_of_bits hr hactive h hfits hd ?_ htake ?_⟩
  · omega
  · rw [slice_take (by omega), hout]

/-- A reader of descriptors and a writer that passes on what it reads. -/
structure Relay where
  reader : DependencyDescriptorReader := {}
  writer : DependencyDescriptorWriter := {}
  deriving DecidableEq

namespace Relay

inductive Op
  | forward (buf : List UInt8)
  | reset

def step (relay : Relay) : Op → Relay
  | .forward buf =>
    match relay.reader.parse buf with
    | .error _ => relay
    | .ok dd =>
      match relay.writer.write dd maxDdLen with
      | .error _ => { relay with reader := relay.reader.commit dd }
      | .ok (_, _, writer) => ⟨relay.reader.commit dd, writer⟩
  | .reset => ⟨.reset, .reset⟩

def machine : Machine Relay Op where
  init relay := relay = {}
  guard _ _ := True
  step := step

def Agrees (relay : Relay) : Prop :=
  relay.writer.structure? = relay.reader.structure? ∧ ∀ s, relay.reader.structure? = some s → Valid s

variable {relay : Relay}

lemma Agrees.step (h : Agrees relay) (op : Op) : Agrees (relay.step op) := by
  obtain ⟨heq, hvalid⟩ := h
  cases op with
  | reset => exact ⟨rfl, by simp [Relay.step, DependencyDescriptorReader.reset]⟩
  | forward buf =>
    rw [Relay.step]
    cases hparse : relay.reader.parse buf with
    | error e => exact ⟨heq, hvalid⟩
    | ok dd =>
      obtain ⟨out, len, hwrite, _⟩ := reencode heq hvalid hparse
      obtain ⟨active, hactive, hdesc, _⟩ := describes_of_parse hvalid hparse
      dsimp only
      rw [hwrite]
      refine ⟨rfl, ?_⟩
      intro s hs
      rw [commit_structure, hactive, Option.some.injEq] at hs
      exact hs ▸ hdesc.valid

lemma agrees (h : machine.Reachable relay) : Agrees relay := by
  refine h.invariant ?_ fun s op hs _ => hs.step op
  rintro _ rfl
  exact ⟨rfl, by simp⟩

/-- Along any sequence of descriptors, whatever is accepted is written again in no more bytes and reads the same, and both
sides go on to hold the same structure. -/
theorem reencoding_preserves (h : machine.Reachable relay) :
    relay.writer.structure? = relay.reader.structure? ∧
    ∀ (w : DependencyDescriptorWriter) (buf : List UInt8) (dd : DependencyDescriptor),
      w.structure? = relay.reader.structure? → relay.reader.parse buf = .ok dd →
      ∃ out len w', w.write dd maxDdLen = .ok (out, len, w') ∧ len ≤ buf.length ∧
        relay.reader.parse (out.take len) = .ok dd ∧ w'.structure? = (relay.reader.commit dd).structure? := by
  obtain ⟨heq, hvalid⟩ := agrees h
  refine ⟨heq, ?_⟩
  intro w buf dd hw hparse
  obtain ⟨out, len, hwrite, hlen, hagain⟩ := reencode hw hvalid hparse
  exact ⟨out, len, _, hwrite, hlen, hagain, rfl⟩

def attached : Relay := machine.step {} (.forward [0xC0, 0, 1, 0x80, 0, 0xE0])

def next : DependencyDescriptor where
  startOfFrame := true
  endOfFrame := true
  templateId := 0
  frameNumber := 2
  attachedStructure := none
  activeDecodeTargets := none
  fields := {}
  frameDependencies := { dtis := [.switch] }
  resolution := none

theorem reencoding_preserves_bare : machine.Reachable attached ∧ attached.reader.parse [0xC0, 0, 2, 0] = .ok next ∧
    ∃ out len w', attached.writer.write next maxDdLen = .ok (out, len, w') ∧ len ≤ 4 ∧
      attached.reader.parse (out.take len) = .ok next ∧ w'.structure? = (attached.reader.commit next).structure? := by
  have hreach : machine.Reachable attached := by
    exact .step _ (.init rfl) trivial
  have hparse : attached.reader.parse [0xC0, 0, 2, 0] = .ok next := by decide +kernel
  obtain ⟨heq, hall⟩ := reencoding_preserves hreach
  exact ⟨hreach, hparse, hall attached.writer _ next heq hparse⟩

/-- The reader accepts encodings of the well-formed descriptors that fit, and of nothing else. -/
theorem accepts_iff_describes (h : machine.Reachable relay) (dd : DependencyDescriptor) :
    (∃ buf, relay.reader.parse buf = .ok dd) ↔
      ∃ active, dd.attachedStructure.or relay.reader.structure? = some active ∧ Describes active dd ∧ dd.mandatory.Fits ∧
        24 + (descriptorBits relay.reader.structure? (hasExtended dd) dd).length ≤ 8 * maxDdLen := by
  obtain ⟨-, hvalid⟩ := agrees h
  constructor
  · rintro ⟨buf, hparse⟩
    obtain ⟨active, hactive, hdesc, hfits, hspent⟩ := describes_of_parse hvalid hparse
    exact ⟨active, hactive, hdesc, hfits, hspent.trans (mul_le_mul_left 8 (parse_eq_ok.1 hparse).1)⟩
  · rintro ⟨active, hactive, hdesc, hfits, hroom⟩
    exact exists_parse hvalid hactive hdesc hfits hroom

theorem accepts_iff_describes_next : machine.Reachable attached ∧
    ∃ active, next.attachedStructure.or attached.reader.structure? = some active ∧ Describes active next := by
  have hreach : machine.Reachable attached := .step _ (.init rfl) trivial
  obtain ⟨active, hactive, hdesc, -⟩ := (accepts_iff_describes hreach next).1 ⟨[0xC0, 0, 2, 0], by decide +kernel⟩
  exact ⟨hreach, active, hactive, hdesc⟩

end Relay

end Relay

end Pulsebeam.Dd
