import Pulsebeam.Dd.Read
import Pulsebeam.Dd.Write

/-! The bits a structure is coded as. The reader takes at least these for any structure it returns, decodes them to it,
and they are what the writer emits for it. -/

namespace Pulsebeam.Dd

open Pulsebeam.Lib Pulsebeam.Lib.BitString Pulsebeam.Lib.BitCodec BitReader BitWriter List Nat

section Dtis

def dtisBits (dtis : List DecodeTargetIndication) : List Bool := dtis.flatMap fun dti => toBits 2 dti.bits

lemma codes_readDti : Codes readDti (fun _ => True) fun d => toBits 2 d.bits := by
  refine (codes_readBits (by decide)).map _ (fun d => ?_) (by decide)
  exact iff_of_true trivial ⟨d.bits, d.bits_lt, d.fromBits_bits.symm⟩

lemma codes_readDtis (k : ℕ) : Codes (times readDti k) (·.length = k) dtisBits :=
  (codes_readDti.times k).congr (by simp) fun _ _ => rfl

lemma encodes_writeDtis {dtis : List DecodeTargetIndication} : Encodes (writeDtis dtis) (dtisBits dtis) :=
  .forM fun dti _ => encodes_writeBits dti.bits 2

end Dtis

section Diffs

variable {head : Reading ℕ} {value : ℕ → Reading ℕ} {fdiffs : List ℕ}

lemma codes_readDiffs {S : ℕ → Prop} {D : ℕ → ℕ → Prop} {c : ℕ → List Bool} {v : ℕ → ℕ → List Bool} {k : ℕ → ℕ}
    (hhead : Codes head S c) (h0 : S 0) (hvalue : ∀ n, S n → n ≠ 0 → Codes (value n) (D n) (v n))
    (hk : ∀ n x, S n → n ≠ 0 → D n x → (S (k x) ∧ k x ≠ 0 ∧ D (k x) x) ∧
      (c (k x) ++ v (k x) x).length ≤ (c n ++ v n x).length) (room : ℕ) :
    Codes (readDiffs head value room) (fun l => l.length ≤ room ∧ ∀ x ∈ l, S (k x) ∧ k x ≠ 0 ∧ D (k x) x)
      fun l => (l.flatMap fun x => c (k x) ++ v (k x) x) ++ c 0 := by
  induction room with
  | zero =>
    refine hhead.bind_le (W := fun n l => n = 0 ∧ l = []) (d := fun _ _ => []) (fun n hn => ?_) ?_ ?_
    · by_cases hz : n = 0
      · rw [if_pos hz]
        exact .pure (by simp [hz]) rfl
      · rw [if_neg hz]
        exact (hvalue n hn hz).bind (W := fun _ _ => False) (d := fun _ _ => []) (fun _ _ => .throw _ nofun) (by simp [hz]) nofun
    · rintro _ _ - ⟨rfl, rfl⟩
      simp
    · rintro l ⟨hl, -⟩
      rw [eq_nil_of_length_eq_zero (le_zero.1 hl)]
      exact ⟨0, h0, ⟨rfl, rfl⟩, by simp⟩
  | succ room ih =>
    refine hhead.bind_le (W := fun n l => if n = 0 then l = [] else ∃ x, D n x ∧ ∃ l', (l'.length ≤ room ∧
        ∀ x ∈ l', S (k x) ∧ k x ≠ 0 ∧ D (k x) x) ∧ l = x :: l')
      (d := fun n l => match l with
        | [] => []
        | x :: l => v n x ++ ((l.flatMap fun x => c (k x) ++ v (k x) x) ++ c 0)) (fun n hn => ?_) (fun n l hn hl => ?_) ?_
    · by_cases hz : n = 0
      · rw [if_pos hz]
        exact .pure (by simp [hz]) rfl
      · rw [if_neg hz]
        refine (hvalue n hn hz).bind (d := fun _ l => (l.tail.flatMap fun x => c (k x) ++ v (k x) x) ++ c 0)
          (fun x _ => ih.ret _ (fun _ => Iff.rfl) fun _ _ => rfl) (by simp [hz]) ?_
        rintro x _ - ⟨l, -, rfl⟩
        rfl
    · split at hl
      next hz =>
        subst hz hl
        simp
      next hz =>
        obtain ⟨x, hx, l, ⟨hlen, hall⟩, rfl⟩ := hl
        obtain ⟨hown, hle⟩ := hk n x hn hz hx
        refine ⟨⟨succ_le_succ hlen, forall_mem_cons.2 ⟨hown, hall⟩⟩, ?_⟩
        simp only [flatMap_cons, length_append] at hle ⊢
        omega
    · rintro (_ | ⟨x, l⟩) ⟨hlen, hall⟩
      · exact ⟨0, h0, rfl, by simp⟩
      · obtain ⟨⟨hS, hz, hD⟩, hall⟩ := forall_mem_cons.1 hall
        refine ⟨k x, hS, ?_, by simp⟩
        rw [if_neg hz]
        exact ⟨x, hD, l, ⟨le_of_succ_le_succ hlen, hall⟩, rfl⟩

def fdiffBits (fdiff : ℕ) : List Bool := toBits 1 1 ++ toBits 4 (fdiff - 1)

def fdiffsBits (fdiffs : List ℕ) : List Bool := fdiffs.flatMap fdiffBits ++ toBits 1 0

def customFdiffBits (fdiff : ℕ) : List Bool := toBits 2 (fdiffSize fdiff) ++ toBits (4 * fdiffSize fdiff) (fdiff - 1)

def customFdiffsBits (fdiffs : List ℕ) : List Bool := fdiffs.flatMap customFdiffBits ++ toBits 2 0

def Fdiffs (bound : ℕ) (fdiffs : List ℕ) : Prop := fdiffs.length ≤ maxFrameDiffs ∧ ∀ d ∈ fdiffs, 0 < d ∧ d ≤ bound

lemma codes_readStep {p : Reading ℕ} {n w : ℕ} (hp : Codes p (· < 2 ^ n) (toBits n)) (hn : 2 ^ n < 2 ^ w) :
    Codes ((Word.saturatingAdd w · 1) <$> p) (fun d => 0 < d ∧ d ≤ 2 ^ n) fun d => toBits n (d - 1) := by
  have hsum : ∀ v < 2 ^ n, Word.saturatingAdd w v 1 = v + 1 := fun v hv => by
    unfold Word.saturatingAdd Word.max
    omega
  refine hp.map _ (fun d => ⟨fun ⟨h0, hd⟩ => ⟨d - 1, by omega, ?_⟩, ?_⟩) fun v hv => ?_
  · rw [hsum _ (by omega), Nat.sub_add_cancel h0]
  · rintro ⟨v, hv, rfl⟩
    rw [hsum v hv]
    exact ⟨succ_pos v, hv⟩
  · rw [hsum v hv, Nat.add_sub_cancel]

lemma codes_fdiffs : Codes (readDiffs readBit (fun _ => readFdiff) maxFrameDiffs) (Fdiffs (2 ^ 4)) fdiffsBits := by
  refine (codes_readDiffs (codes_readBits (by decide)) (by decide)
    (fun _ _ _ => codes_readStep (codes_readBitsU16 (by decide)) (by decide))
    (fun n x hn hz hx => ⟨⟨by decide, by decide, hx⟩, ?_⟩) maxFrameDiffs).congr ?_ fun _ _ => rfl
  · simp
  · simp [Fdiffs]

lemma encodes_fdiffs (h : Fdiffs (2 ^ 4) fdiffs) :
    Encodes (do fdiffs.forM writeFdiff; writeBit false) (fdiffsBits fdiffs) := by
  refine Encodes.bind (.forM ?_) (encodes_writeBit false)
  intro d hd
  obtain ⟨h0, h16⟩ := h.2 d hd
  rw [writeFdiff, if_neg (by omega)]
  exact (encodes_writeBit true).bind (encodes_writeBits _ 4)

lemma fdiffSize_spec {d : ℕ} (h0 : 0 < d) (hd : d ≤ 2 ^ 12) :
    0 < fdiffSize d ∧ fdiffSize d < 4 ∧ d - 1 < 2 ^ (4 * fdiffSize d) := by
  unfold fdiffSize
  split
  · omega
  · split <;> omega

lemma fdiffSize_le {size v : ℕ} (h0 : 0 < size) (hv : v < 2 ^ (4 * size)) (h4 : size < 4) : fdiffSize (v + 1) ≤ size := by
  unfold fdiffSize
  obtain rfl | rfl | rfl : size = 1 ∨ size = 2 ∨ size = 3 := by omega
  · rw [if_pos (by omega)]
  · split
    · omega
    · rw [if_pos (by omega)]
  split
  · omega
  · split <;> omega

lemma codes_customFdiffs :
    Codes (readDiffs (readBits 2) readCustomFdiff maxFrameDiffs) (Fdiffs (2 ^ 12)) customFdiffsBits := by
  refine (codes_readDiffs (codes_readBits (by decide)) (by decide)
    (fun n hn _ => codes_readStep (codes_readBitsU16 (by omega)) (Nat.pow_lt_pow_right (by decide) (by omega)))
    (fun n x hn hz hx => ?_) maxFrameDiffs).congr (fun l => ?_) fun _ _ => rfl
  · have hbound : 2 ^ (4 * n) ≤ 2 ^ 12 := Nat.pow_le_pow_right (by decide) (by omega)
    obtain ⟨hpos, h4, hlt⟩ := fdiffSize_spec hx.1 (hx.2.trans hbound)
    have hle := fdiffSize_le (Nat.pos_of_ne_zero hz) (by omega : x - 1 < 2 ^ (4 * n)) hn
    rw [Nat.sub_add_cancel hx.1] at hle
    simp only [length_append, length_toBits]
    omega
  · refine and_congr_right fun _ => forall₂_congr fun x _ => ⟨fun hx => ?_, fun hx => ?_⟩
    · obtain ⟨hpos, h4, hlt⟩ := fdiffSize_spec hx.1 hx.2
      exact ⟨h4, by omega, hx.1, by omega⟩
    · have hbound : 2 ^ (4 * fdiffSize x) ≤ 2 ^ 12 := Nat.pow_le_pow_right (by decide) (by omega)
      exact ⟨hx.2.2.1, hx.2.2.2.trans hbound⟩

lemma encodes_customFdiffs (h : Fdiffs (2 ^ 12) fdiffs) :
    Encodes (do fdiffs.forM writeCustomFdiff; writeBits 0 2) (customFdiffsBits fdiffs) := by
  refine Encodes.bind (.forM ?_) (encodes_writeBits 0 2)
  intro d hd
  obtain ⟨h0, hle⟩ := h.2 d hd
  rw [writeCustomFdiff, if_neg (by omega)]
  exact (encodes_writeBits _ 2).bind (encodes_writeBits _ _)

end Diffs

section Layers

inductive Layered : ℕ → ℕ → List (ℕ × ℕ) → Prop
  | last (sp te : ℕ) : Layered sp te [(sp, te)]
  | same {sp te : ℕ} {l : List (ℕ × ℕ)} : Layered sp te l → Layered sp te ((sp, te) :: l)
  | temporal {sp te : ℕ} {l : List (ℕ × ℕ)} :
      te + 1 < maxTemporalIds → Layered sp (te + 1) l → Layered sp te ((sp, te) :: l)
  | spatial {sp te : ℕ} {l : List (ℕ × ℕ)} :
      sp + 1 < maxSpatialIds → Layered (sp + 1) 0 l → Layered sp te ((sp, te) :: l)

def layersBits : List (ℕ × ℕ) → List Bool
  | prev :: next :: rest => toBits 2 ((nextLayerIdc prev next).getD 3) ++ layersBits (next :: rest)
  | _ => toBits 2 3

variable {sp te : ℕ} {l : List (ℕ × ℕ)} {T : List FrameDependencyTemplate} {idc : ℕ}

lemma Layered.eq_cons (h : Layered sp te l) : ∃ rest, l = (sp, te) :: rest := by
  cases h <;> exact ⟨_, rfl⟩

lemma Layered.spatial_lt (h : Layered sp te l) (hsp : sp < maxSpatialIds) : ∀ p ∈ l, p.1 < maxSpatialIds := by
  induction h with
  | last => simpa using hsp
  | same _ ih => simpa [hsp] using ih hsp
  | temporal _ _ ih => simpa [hsp] using ih hsp
  | spatial hlt _ ih => simpa [hsp] using ih hlt

lemma nextLayerIdc_same (sp te : ℕ) : nextLayerIdc (sp, te) (sp, te) = some 0 := by simp [nextLayerIdc]

lemma nextLayerIdc_temporal (h : te + 1 < maxTemporalIds) : nextLayerIdc (sp, te) (sp, te + 1) = some 1 := by
  have hsat : Word.saturatingAdd 8 te 1 = te + 1 := min_eq_left (h.le.trans (by decide))
  simp [nextLayerIdc, hsat]

lemma nextLayerIdc_spatial (h : sp + 1 < maxSpatialIds) : nextLayerIdc (sp, te) (sp + 1, 0) = some 2 := by
  have hsat : Word.saturatingAdd 8 sp 1 = sp + 1 := min_eq_left (h.le.trans (by decide))
  simp [nextLayerIdc, hsat]

lemma Layered.bits_cons {prev : ℕ × ℕ} (h : Layered sp te l) (hidc : nextLayerIdc prev (sp, te) = some idc) :
    layersBits (prev :: l) = toBits 2 idc ++ layersBits l := by
  obtain ⟨rest, rfl⟩ := h.eq_cons
  rw [layersBits, hidc]
  rfl

def onLayer (p : ℕ × ℕ) : FrameDependencyTemplate := { spatialId := p.1, temporalId := p.2 }

lemma map_layer_onLayer (l : List (ℕ × ℕ)) : (l.map onLayer).map (·.layer) = l := by
  rw [map_map]
  exact map_id l

lemma codes_readLayers (room sp te : ℕ) : Codes (readLayers room sp te)
    (fun T => ∃ l, Layered sp te l ∧ l.length ≤ room ∧ T = l.map onLayer) fun T => layersBits (T.map (·.layer)) := by
  induction room generalizing sp te with
  | zero =>
    refine .throw _ ?_
    rintro _ ⟨_, h, hlen, -⟩
    obtain ⟨_, rfl⟩ := h.eq_cons
    cases hlen
  | succ room ih =>
    -- The layer that is read next, given the code before it.
    let next : ℕ → List _ → Prop
      | 0, l => Layered sp te l
      | 1, l => te + 1 < maxTemporalIds ∧ Layered sp (te + 1) l
      | 2, l => sp + 1 < maxSpatialIds ∧ Layered (sp + 1) 0 l
      | _, l => l = []
    refine (codes_readBits (by decide)).bind
      (W := fun idc T => ∃ l, (next idc l ∧ l.length ≤ room) ∧ T = onLayer (sp, te) :: l.map onLayer)
      (d := fun idc T => if idc < 3 then layersBits (T.tail.map (·.layer)) else []) (fun idc hidc => ?_) (fun T => ⟨?_, ?_⟩) ?_
    · have hnext : ∀ sp' te', Codes _
          (fun T => ∃ l, (Layered sp' te' l ∧ l.length ≤ room) ∧ T = onLayer (sp, te) :: l.map onLayer)
          fun T => layersBits (T.tail.map (·.layer)) := fun sp' te' =>
        (ih sp' te').ret _ (fun T => ⟨fun ⟨l, hl, hT⟩ => ⟨_, ⟨l, hl.1, hl.2, rfl⟩, hT⟩,
          fun ⟨_, ⟨l, hl, hlen, hT'⟩, hT⟩ => ⟨l, ⟨hl, hlen⟩, hT' ▸ hT⟩⟩) fun _ _ => rfl
      split
      · exact hnext sp te
      · split
        next hlt => exact Codes.throw _ (by simp [next, hlt])
        next hlt => exact (hnext sp _).congr (by simp [next, not_le.1 hlt]) fun _ _ => rfl
      · split
        next hlt => exact Codes.throw _ (by simp [next, hlt])
        next hlt => exact (hnext _ 0).congr (by simp [next, not_le.1 hlt]) fun _ _ => rfl
      next h0 h1 h2 => exact .pure (a := [onLayer (sp, te)]) (by simp [next]) (if_neg (by grind))
    · rintro ⟨_, hl, hlen, rfl⟩
      cases hl with
      | last => exact ⟨3, by decide, [], ⟨rfl, zero_le _⟩, rfl⟩
      | same h => exact ⟨0, by decide, _, ⟨h, le_of_succ_le_succ hlen⟩, rfl⟩
      | temporal hlt h => exact ⟨1, by decide, _, ⟨⟨hlt, h⟩, le_of_succ_le_succ hlen⟩, rfl⟩
      | spatial hlt h => exact ⟨2, by decide, _, ⟨⟨hlt, h⟩, le_of_succ_le_succ hlen⟩, rfl⟩
    · rintro ⟨idc, hidc, l, ⟨hl, hlen⟩, rfl⟩
      match idc, hl with
      | 0, h => exact ⟨_, .same h, succ_le_succ hlen, rfl⟩
      | 1, ⟨hlt, h⟩ => exact ⟨_, .temporal hlt h, succ_le_succ hlen, rfl⟩
      | 2, ⟨hlt, h⟩ => exact ⟨_, .spatial hlt h, succ_le_succ hlen, rfl⟩
      | n + 3, h =>
        subst h
        exact ⟨_, .last sp te, succ_le_succ hlen, rfl⟩
    · rintro idc _ hidc ⟨l, ⟨hl, -⟩, rfl⟩
      rw [tail_cons, map_cons, map_layer_onLayer]
      match idc, hl with
      | 0, h => exact h.bits_cons (nextLayerIdc_same sp te)
      | 1, ⟨hlt, h⟩ => exact h.bits_cons (nextLayerIdc_temporal hlt)
      | 2, ⟨hlt, h⟩ => exact h.bits_cons (nextLayerIdc_spatial hlt)
      | n + 3, h =>
        obtain rfl : n = 0 := by omega
        subst h
        rfl

lemma encodes_layer_cons {prev : FrameDependencyTemplate} (hT : Layered sp te (T.map (·.layer)))
    (hidc : nextLayerIdc prev.layer (sp, te) = some idc)
    (hw : Encodes (writeTemplateLayers T) (layersBits (T.map (·.layer)))) :
    Encodes (writeTemplateLayers (prev :: T)) (layersBits (prev.layer :: T.map (·.layer))) := by
  cases T with
  | nil => cases hT
  | cons next rest =>
    obtain ⟨_, hcons⟩ := hT.eq_cons
    have hnext : next.layer = (sp, te) := (List.cons.inj hcons).1
    rw [hT.bits_cons hidc, writeTemplateLayers, hnext, hidc]
    exact (encodes_writeBits idc 2).bind hw

lemma encodes_writeTemplateLayers (h : Layered sp te (T.map (·.layer))) :
    Encodes (writeTemplateLayers T) (layersBits (T.map (·.layer))) := by
  generalize hl : T.map (·.layer) = l at h
  induction h generalizing T with
  | last sp te =>
    obtain ⟨t, T, rfl, _, hT⟩ := map_eq_cons_iff.1 hl
    rw [map_eq_nil_iff.1 hT]
    exact encodes_writeBits 3 2
  | @same sp te l h ih =>
    obtain ⟨t, T, rfl, ht, rfl⟩ := map_eq_cons_iff.1 hl
    rw [← ht]
    exact encodes_layer_cons h (by rw [ht, nextLayerIdc_same]) (ih rfl)
  | @temporal sp te l hlt h ih =>
    obtain ⟨t, T, rfl, ht, rfl⟩ := map_eq_cons_iff.1 hl
    rw [← ht]
    exact encodes_layer_cons h (ht ▸ nextLayerIdc_temporal hlt) (ih rfl)
  | @spatial sp te l hlt h ih =>
    obtain ⟨t, T, rfl, ht, rfl⟩ := map_eq_cons_iff.1 hl
    rw [← ht]
    exact encodes_layer_cons h (ht ▸ nextLayerIdc_spatial hlt) (ih rfl)

end Layers

section Passes

variable {s : TemplateDependencyStructure} {T : List FrameDependencyTemplate}

lemma codes_pass {α : Type} {p : Reading (List α)} {V : List α → Prop} {c : List α → List Bool}
    {get : FrameDependencyTemplate → List α} (set : FrameDependencyTemplate → List α → FrameDependencyTemplate)
    (hget : ∀ t l, get (set t l) = l) (hset : ∀ t l l', set (set t l) l' = set t l') (hself : ∀ t, set t (get t) = t)
    (hp : Codes p V c) (hT : ∀ t ∈ T, get t = []) : Codes (T.mapM fun t => do let l ← p; pure (set t l))
      (fun T' => T'.map (set · []) = T ∧ ∀ t ∈ T', V (get t)) fun T' => (T'.map get).flatMap c := by
  simp only [flatMap_map]
  refine (Codes.mapM fun t ht => hp.ret _ (U := fun t' => set t' [] = t ∧ V (get t')) (fun t' => ⟨?_, ?_⟩) ?_).congr
    (fun T' => ?_) fun _ _ => rfl
  · rintro ⟨rfl, hV⟩
    exact ⟨_, hV, by rw [hset, hself]⟩
  · rintro ⟨l, hV, rfl⟩
    rw [hset, hget, ← hT t ht, hself]
    exact ⟨rfl, hV⟩
  · intro l _
    rw [hget]
  · clear hT
    induction T' generalizing T with
    | nil => simp [eq_comm]
    | cons t T' ih =>
      cases T with
      | nil => simp
      | cons => simp [← ih]; tauto

def undti (s : TemplateDependencyStructure) : TemplateDependencyStructure :=
  { s with templates := s.templates.map fun t => { t with dtis := [] } }

def unfdiff (s : TemplateDependencyStructure) : TemplateDependencyStructure :=
  { s with templates := s.templates.map fun t => { t with frameDiffs := [] } }

lemma codes_readTemplateDtis (hs : ∀ t ∈ s.templates, t.dtis = []) : Codes (readTemplateDtis s)
    (fun s' => undti s' = s ∧ ∀ t ∈ s'.templates, t.dtis.length = s'.decodeTargetCount)
    fun s' => (s'.templates.map (·.dtis)).flatMap dtisBits := by
  refine (codes_pass (fun t l => { t with dtis := l }) (fun _ _ => rfl) (fun _ _ _ => rfl) (fun _ => rfl)
    (codes_readDtis _) hs).ret _ (fun s' => ⟨?_, ?_⟩) fun _ _ => rfl
  · rintro ⟨rfl, hlen⟩
    exact ⟨_, ⟨rfl, hlen⟩, rfl⟩
  · rintro ⟨T, ⟨hT, hlen⟩, rfl⟩
    exact ⟨by rw [undti, hT], hlen⟩

lemma codes_readTemplateFdiffs (hs : ∀ t ∈ s.templates, t.frameDiffs = []) : Codes (readTemplateFdiffs s)
    (fun s' => unfdiff s' = s ∧ ∀ t ∈ s'.templates, Fdiffs (2 ^ 4) t.frameDiffs)
    fun s' => (s'.templates.map (·.frameDiffs)).flatMap fdiffsBits := by
  refine (codes_pass (fun t l => { t with frameDiffs := l }) (fun _ _ => rfl) (fun _ _ _ => rfl) (fun _ => rfl)
    codes_fdiffs hs).ret _ (fun s' => ⟨?_, ?_⟩) fun _ _ => rfl
  · rintro ⟨rfl, hdiffs⟩
    exact ⟨_, ⟨rfl, hdiffs⟩, rfl⟩
  · rintro ⟨T, ⟨hT, hdiffs⟩, rfl⟩
    exact ⟨by rw [unfdiff, hT], hdiffs⟩

lemma encodes_writeTemplateDtis (h : ∀ t ∈ s.templates, t.dtis.length = s.decodeTargetCount) :
    Encodes (writeTemplateDtis s) ((s.templates.map (·.dtis)).flatMap dtisBits) := by
  rw [flatMap_map]
  refine .forM ?_
  intro t ht
  rw [if_neg (not_not.2 (h t ht))]
  exact encodes_writeDtis

lemma encodes_writeTemplateFdiffs (h : ∀ t ∈ s.templates, Fdiffs (2 ^ 4) t.frameDiffs) :
    Encodes (writeTemplateFdiffs s) ((s.templates.map (·.frameDiffs)).flatMap fdiffsBits) := by
  rw [flatMap_map]
  exact .forM fun t ht => encodes_fdiffs (h t ht)

end Passes

section Chains

variable {s : TemplateDependencyStructure} {T : List FrameDependencyTemplate}

def chainDiffsBits (width : ℕ) (diffs : List ℕ) : List Bool := diffs.flatMap (toBits width)

def chainsBits (s : TemplateDependencyStructure) : List Bool :=
  nsBits (s.decodeTargetCount + 1) s.chainCount ++
    if s.chainCount = 0 then []
    else s.decodeTargetProtectedBy.flatMap (nsBits s.chainCount) ++
      (s.templates.map (·.chainDiffs)).flatMap (chainDiffsBits 4)

structure Chained (s : TemplateDependencyStructure) : Prop where
  count : s.chainCount ≤ s.decodeTargetCount
  protects : s.decodeTargetProtectedBy.length = if s.chainCount = 0 then 0 else s.decodeTargetCount
  named : ∀ p ∈ s.decodeTargetProtectedBy, p < s.chainCount
  diffs : ∀ t ∈ s.templates, t.chainDiffs.length = s.chainCount ∧ ∀ d ∈ t.chainDiffs, d < 2 ^ 4

def unchained (s : TemplateDependencyStructure) : TemplateDependencyStructure :=
  { s with chainCount := 0, decodeTargetProtectedBy := [], templates := s.templates.map fun t => { t with chainDiffs := [] } }

lemma Chained.unchained_of_zero (h : Chained s) (h0 : s.chainCount = 0) : unchained s = s := by
  have hprotected : s.decodeTargetProtectedBy = [] := by
    have hlen := h.protects
    rw [if_pos h0] at hlen
    exact eq_nil_of_length_eq_zero hlen
  have hblank : (s.templates.map fun t => { t with chainDiffs := [] }) = s.templates := by
    conv_rhs => rw [← map_id s.templates]
    apply map_congr_left
    intro t ht
    rw [← eq_nil_of_length_eq_zero ((h.diffs t ht).1.trans h0)]
    rfl
  rw [unchained, hblank, ← hprotected, ← h0]

lemma codes_readChainDiffs {w : ℕ} (hw : w ≤ 8) (k : ℕ) :
    Codes (times (readBitsU8 w) k) (fun l => l.length = k ∧ ∀ d ∈ l, d < 2 ^ w) (chainDiffsBits w) :=
  (codes_readBitsU8 hw).times k

lemma codes_readTemplateChains (hcount : s.decodeTargetCount ≤ maxDecodeTargets) (hzero : s.chainCount = 0)
    (hnone : s.decodeTargetProtectedBy = []) (hblank : ∀ t ∈ s.templates, t.chainDiffs = []) :
    Codes (readTemplateChains s) (fun s' => unchained s' = s ∧ Chained s') chainsBits := by
  have hle : s.decodeTargetCount ≤ 32 := hcount
  refine (codes_readNsU8 (succ_pos _) (by omega)).bind (W := fun c s' => s'.chainCount = c ∧ unchained s' = s ∧ Chained s')
    (d := fun c s' => if c = 0 then [] else s'.decodeTargetProtectedBy.flatMap (nsBits c) ++
      (s'.templates.map (·.chainDiffs)).flatMap (chainDiffsBits 4)) (fun c hc => ?_) (fun s' => ?_) ?_
  · by_cases h0 : c = 0
    · have hnot : Chained s := ⟨by omega, by simp [hnone, hzero], by simp [hnone], fun t ht => by simp [hblank t ht, hzero]⟩
      subst h0
      rw [if_pos rfl, ← hzero]
      refine .pure (fun s' => ⟨fun ⟨h0, hun, h⟩ => (h.unchained_of_zero (h0.trans hzero)).symm.trans hun, ?_⟩) (if_pos rfl)
      rintro rfl
      exact ⟨rfl, hnot.unchained_of_zero hzero, hnot⟩
    rw [if_neg h0]
    refine ((codes_readNsU8 (Nat.pos_of_ne_zero h0) (by omega)).times _).bind
      (W := fun p s' => s'.decodeTargetProtectedBy = p ∧ s'.chainCount = c ∧ unchained s' = s ∧ Chained s')
      (d := fun _ s' => (s'.templates.map (·.chainDiffs)).flatMap (chainDiffsBits 4)) (fun p hp => ?_) (fun s' => ?_) ?_
    · refine (codes_pass (fun t l => { t with chainDiffs := l }) (fun _ _ => rfl) (fun _ _ _ => rfl) (fun _ => rfl)
        (codes_readChainDiffs (by decide) c) hblank).ret _ (fun s' => ⟨?_, ?_⟩) fun _ _ => rfl
      · rintro ⟨rfl, rfl, rfl, h⟩
        exact ⟨_, ⟨rfl, h.diffs⟩, rfl⟩
      · rintro ⟨T, ⟨hT, hd⟩, rfl⟩
        refine ⟨rfl, rfl, by rw [unchained, hT, ← hzero, ← hnone], by dsimp only; omega, ?_, hp.2, hd⟩
        rw [if_neg h0]
        exact hp.1
    · constructor
      · rintro ⟨rfl, rfl, h⟩
        exact ⟨_, ⟨h.protects.trans (if_neg h0), h.named⟩, rfl, rfl, rfl, h⟩
      · exact fun ⟨_, _, _, h⟩ => h
    · rintro _ s' - ⟨rfl, -⟩
      exact if_neg h0
  · constructor
    · rintro ⟨rfl, h⟩
      exact ⟨_, Nat.lt_succ_of_le h.count, rfl, rfl, h⟩
    · exact fun ⟨_, _, _, h⟩ => h
  · rintro _ s' - ⟨rfl, rfl, -⟩
    rfl

lemma encodes_writeTemplateChains (h : Chained s) : Encodes (writeTemplateChains s) (chainsBits s) := by
  refine (encodes_writeNs).bind ?_
  by_cases h0 : s.chainCount = 0
  · rw [if_pos h0, if_pos h0]
    exact .pure
  have hlen := h.protects
  rw [if_neg h0] at hlen
  rw [if_neg h0, if_neg h0, if_neg (not_not.2 hlen), flatMap_map]
  refine Encodes.bind (.forM ?_) (.forM ?_)
  · intro p hp
    rw [if_neg (not_le.2 (h.named p hp))]
    exact encodes_writeNs
  · intro t ht
    obtain ⟨hcount, hlt⟩ := h.diffs t ht
    rw [if_neg (not_not.2 hcount)]
    refine .forM ?_
    intro d hd
    rw [if_neg (not_le.2 (hlt d hd))]
    exact encodes_writeBits d 4

end Chains

section Resolutions

variable {s : TemplateDependencyStructure}

def resolutionBits (r : RenderResolution) : List Bool := toBits 16 (r.width - 1) ++ toBits 16 (r.height - 1)

def resolutionsBits (s : TemplateDependencyStructure) : List Bool :=
  if s.resolutions = [] then toBits 1 0 else toBits 1 1 ++ s.resolutions.flatMap resolutionBits

def Dimension (d : ℕ) : Prop := 0 < d ∧ d < 2 ^ 16

structure Sized (s : TemplateDependencyStructure) : Prop where
  each : s.resolutions ≠ [] → s.resolutions.length = s.spatialLayerCount
  dimensions : ∀ r ∈ s.resolutions, Dimension r.width ∧ Dimension r.height

lemma codes_readDimension : Codes readDimension Dimension fun d => toBits 16 (d - 1) := by
  -- The two largest codes are read as one dimension.
  have hread := (codes_readBits (n := 16) (by decide)).ret_le (U := Dimension)
    (fun coded => min (coded + 1) (Word.max 16)) (fun v hv => ⟨?_, by simp⟩) fun d ⟨h0, hd⟩ => ⟨d - 1, by omega, ?_, rfl⟩
  · exact hread
  · unfold Dimension Word.max
    omega
  · unfold Word.max
    omega

lemma codes_readResolution : Codes readResolution (fun r => Dimension r.width ∧ Dimension r.height) resolutionBits := by
  refine codes_readDimension.bind (d := fun _ r => toBits 16 (r.height - 1))
    (fun w _ => codes_readDimension.ret _ (fun _ => Iff.rfl) fun _ _ => by dsimp only) (fun r => ⟨?_, ?_⟩) ?_
  · exact fun h => ⟨_, h.1, _, h.2, rfl⟩
  · rintro ⟨w, hw, h, hh, rfl⟩
    exact ⟨hw, hh⟩
  · rintro w _ - ⟨h, -, rfl⟩
    rfl

def readSizes (s : TemplateDependencyStructure) : Reading TemplateDependencyStructure := do
  let present ← readBit
  if present ≠ 0 then readResolutions s else pure s

lemma codes_readSizes (hs : s.resolutions = []) (h0 : s.spatialLayerCount ≠ 0) (hle : s.spatialLayerCount ≤ maxSpatialIds) :
    Codes (readSizes s) (fun s' => { s' with resolutions := [] } = s ∧ Sized s') resolutionsBits := by
  refine (codes_readBits (by decide)).bind
    (W := fun b s' => (b = 0 ↔ s'.resolutions = []) ∧ { s' with resolutions := [] } = s ∧ Sized s')
    (d := fun _ s' => s'.resolutions.flatMap resolutionBits) (fun b hb => ?_) (fun s' => ⟨fun h => ?_, ?_⟩) ?_
  · by_cases hb0 : b = 0
    · rw [if_neg (not_not.2 hb0)]
      refine .pure (fun s' => ⟨?_, ?_⟩) (by rw [hs, flatMap_nil])
      · rintro ⟨hb, rfl, -⟩
        rw [← hb.1 hb0]
      · rintro rfl
        exact ⟨iff_of_true hb0 hs, by rw [← hs], fun h => absurd hs h, by simp [hs]⟩
    · rw [if_pos hb0, readResolutions, if_neg (not_lt.2 hle)]
      refine (codes_readResolution.times _).ret _ (fun s' => ⟨?_, ?_⟩) fun _ _ => rfl
      · rintro ⟨hb, rfl, h⟩
        exact ⟨_, ⟨h.each fun hnil => hb0 (hb.2 hnil), h.dimensions⟩, rfl⟩
      · rintro ⟨r, ⟨hlen, hr⟩, rfl⟩
        refine ⟨iff_of_false hb0 ?_, by rw [← hs], fun _ => hlen, hr⟩
        rintro rfl
        exact h0 hlen.symm
  · by_cases hnil : s'.resolutions = []
    · exact ⟨0, by decide, iff_of_true rfl hnil, h⟩
    · exact ⟨1, by decide, iff_of_false (by decide) hnil, h⟩
  · exact fun ⟨_, _, _, h⟩ => h
  · rintro b s' hb ⟨hb0, -⟩
    rw [resolutionsBits]
    split
    next hnil => rw [hb0.2 hnil, hnil, flatMap_nil, append_nil]
    next hnil =>
      have hne : b ≠ 0 := fun h => hnil (hb0.1 h)
      rw [(by omega : b = 1)]

lemma encodes_writeSizes (h : Sized s) : Encodes (do
    writeBit (s.resolutions != [])
    if s.resolutions ≠ [] then writeResolutions s else pure ()) (resolutionsBits s) := by
  by_cases h0 : s.resolutions = []
  · rw [resolutionsBits, h0]
    exact (encodes_writeBit false).bind .pure
  rw [resolutionsBits, if_neg h0, (bne_iff_ne ..).2 h0]
  refine (encodes_writeBit true).bind ?_
  rw [if_pos h0, writeResolutions, if_neg (not_not.2 (h.each h0))]
  refine .forM ?_
  intro r hr
  obtain ⟨⟨hw, _⟩, hh, _⟩ := h.dimensions r hr
  rw [writeResolution, if_neg (by omega)]
  exact (encodes_writeBits _ 16).bind (encodes_writeBits _ 16)

end Resolutions

section Structures

variable {s : TemplateDependencyStructure}

structure Valid (s : TemplateDependencyStructure) : Prop where
  offset : s.templateIdOffset < 2 ^ 6
  targets : 0 < s.decodeTargetCount ∧ s.decodeTargetCount ≤ maxDecodeTargets
  layered : Layered 0 0 (s.templates.map (·.layer))
  room : s.templates.length ≤ maxTemplates
  dtis : ∀ t ∈ s.templates, t.dtis.length = s.decodeTargetCount
  fdiffs : ∀ t ∈ s.templates, Fdiffs (2 ^ 4) t.frameDiffs
  chained : Chained s
  sized : Sized s

def passesBits (s : TemplateDependencyStructure) : List Bool :=
  layersBits (s.templates.map (·.layer)) ++ ((s.templates.map (·.dtis)).flatMap dtisBits ++
    ((s.templates.map (·.frameDiffs)).flatMap fdiffsBits ++ (chainsBits s ++ resolutionsBits s)))

def structureBits (s : TemplateDependencyStructure) : List Bool :=
  toBits 6 s.templateIdOffset ++ (toBits 5 (s.decodeTargetCount - 1) ++ passesBits s)

lemma spatialLayerCount_le (h : Layered 0 0 (s.templates.map (·.layer))) : s.spatialLayerCount ≤ maxSpatialIds := by
  unfold TemplateDependencyStructure.spatialLayerCount
  cases hmax : (s.templates.map fun t => t.spatialId + 1).max? with
  | none => exact zero_le _
  | some m =>
    obtain ⟨t, ht, rfl⟩ := mem_map.1 (max?_mem hmax)
    exact h.spatial_lt (by decide) _ (mem_map_of_mem ht)

lemma spatialLayerCount_ne_zero (h : Layered 0 0 (s.templates.map (·.layer))) : s.spatialLayerCount ≠ 0 := by
  unfold TemplateDependencyStructure.spatialLayerCount
  cases hmax : (s.templates.map fun t => t.spatialId + 1).max? with
  | none =>
    rw [max?_eq_none_iff, map_eq_nil_iff] at hmax
    rw [hmax] at h
    cases h
  | some m =>
    obtain ⟨t, _, rfl⟩ := mem_map.1 (max?_mem hmax)
    exact succ_ne_zero _

lemma codes_readTemplateLayers (hs : s.templates = []) : Codes (readTemplateLayers s)
    (fun s' => { s' with templates := [] } = s ∧ ∃ l, Layered 0 0 l ∧ l.length ≤ maxTemplates ∧ s'.templates = l.map onLayer)
    fun s' => layersBits (s'.templates.map (·.layer)) := by
  refine (codes_readLayers _ 0 0).ret _ (fun s' => ⟨?_, ?_⟩) fun _ _ => rfl
  · rintro ⟨rfl, hl⟩
    exact ⟨_, hl, rfl⟩
  · rintro ⟨T, hl, rfl⟩
    exact ⟨by rw [← hs], hl⟩

lemma blank_of_map {α : Type} {T : List FrameDependencyTemplate} {l : List (ℕ × ℕ)} {get : FrameDependencyTemplate → List α}
    {g : FrameDependencyTemplate → FrameDependencyTemplate} (hT : T.map g = l.map onLayer) (hg : ∀ t, get (g t) = get t)
    (hl : ∀ p, get (onLayer p) = []) : ∀ t ∈ T, get t = [] := by
  intro t ht
  have hmem := mem_map_of_mem (f := g) ht
  rw [hT] at hmem
  obtain ⟨p, -, hp⟩ := mem_map.1 hmem
  rw [← hg, ← hp, hl]

lemma codes_readPasses {offset count : ℕ} (hcount : 0 < count ∧ count ≤ maxDecodeTargets) (hoffset : offset < 2 ^ 6) :
    Codes (do
      let s ← readTemplateLayers { templateIdOffset := offset, decodeTargetCount := count }
      let s ← readTemplateDtis s
      let s ← readTemplateFdiffs s
      let s ← readTemplateChains s
      readSizes s) (fun s => s.templateIdOffset = offset ∧ s.decodeTargetCount = count ∧ Valid s) passesBits := by
  apply Codes.congr
  · apply (codes_readTemplateLayers rfl).seq
    rintro s1 h1 ⟨l, hl, -, hT⟩
    apply (codes_readTemplateDtis (hT ▸ forall_mem_map.2 fun _ _ => rfl)).seq
    rintro s2 rfl -
    apply (codes_readTemplateFdiffs (blank_of_map hT (fun _ => rfl) fun _ => rfl)).seq
    rintro s3 rfl -
    have hT : map _ (map _ _) = _ := hT
    rw [map_map] at hT
    apply (codes_readTemplateChains ((congrArg (·.decodeTargetCount) h1).trans_le hcount.2) (congrArg (·.chainCount) h1)
      (congrArg (·.decodeTargetProtectedBy) h1) (blank_of_map hT (fun _ => rfl) fun _ => rfl)).seq
    rintro s4 rfl -
    have hT : map _ (map _ _) = _ := hT
    rw [map_map] at hT
    have hlayers : Layered 0 0 (s4.templates.map (·.layer)) := by
      have hmap := congrArg (map (·.layer)) hT
      rw [map_layer_onLayer, map_map] at hmap
      exact hmap ▸ hl
    exact codes_readSizes (congrArg (·.resolutions) h1) (spatialLayerCount_ne_zero hlayers) (spatialLayerCount_le hlayers)
  · intro s
    constructor
    · rintro ⟨rfl, rfl, h⟩
      refine ⟨rfl, ⟨s.templates.map (·.layer), h.layered, by rw [length_map]; exact h.room, ?_⟩, ?_, ?_, ?_, h.sized⟩
      · simp only [undti, unfdiff, unchained, map_map]
        rfl
      · simpa [unfdiff, unchained] using h.dtis
      · simpa [unchained] using h.fdiffs
      · exact ⟨h.chained.count, h.chained.protects, h.chained.named, h.chained.diffs⟩
    · rintro ⟨h1, ⟨l, hl, hlen, hT⟩, hdtis, hfdiffs, hc, hsized⟩
      have hmap := congrArg (map (·.layer)) hT
      rw [map_layer_onLayer] at hmap
      simp only [undti, unfdiff, unchained, map_map] at hmap
      have hoff := congrArg (·.templateIdOffset) h1
      have hnum := congrArg (·.decodeTargetCount) h1
      refine ⟨hoff, hnum, hoff.trans_lt hoffset, hnum.symm ▸ hcount, (hmap ▸ hl :), ?_, ?_, ?_, ?_, hsized⟩
      · rw [← hmap, length_map] at hlen
        exact hlen
      · simpa [unfdiff, unchained] using hdtis
      · simpa [unchained] using hfdiffs
      · exact ⟨hc.count, hc.protects, hc.named, hc.diffs⟩
  · intro s _
    simp only [undti, unfdiff, unchained, map_map]
    rfl

lemma codes_readStructure : Codes readStructure Valid structureBits := by
  refine (codes_readBitsU8 (by decide)).bind (W := fun offset s => s.templateIdOffset = offset ∧ Valid s)
    (d := fun _ s => toBits 5 (s.decodeTargetCount - 1) ++ passesBits s) (fun offset hoffset => ?_)
    (fun s => ⟨fun h => ⟨_, h.offset, rfl, h⟩, fun ⟨_, _, _, h⟩ => h⟩) (by rintro _ s - ⟨rfl, -⟩; rfl)
  exact (codes_readStep (codes_readBitsU8 (by decide)) (by decide)).bind
    (fun count hcount => codes_readPasses hcount hoffset)
    (fun s => ⟨fun h => ⟨_, h.2.targets, h.1, rfl, h.2⟩, fun ⟨_, _, hoff, _, h⟩ => ⟨hoff, h⟩⟩) (by rintro _ s - ⟨-, rfl, -⟩; rfl)

lemma encodes_writeStructure (h : Valid s) : Encodes (writeStructure s) (structureBits s) := by
  obtain ⟨h0, hle⟩ := h.targets
  obtain ⟨rest, hrest⟩ := h.layered.eq_cons
  obtain ⟨first, T, hT, hfirst, _⟩ := map_eq_cons_iff.1 hrest
  have hc := h.chained.count
  have hfirst' : first.spatialId = 0 ∧ first.temporalId = 0 := Prod.ext_iff.1 hfirst
  rw [writeStructure, if_neg (by simp [hT]; omega)]
  rw [hT]
  dsimp only
  rw [if_neg (by omega), ← hT]
  exact (encodes_writeBits _ 6).bind ((encodes_writeBits _ 5).bind ((encodes_writeTemplateLayers h.layered).bind
    ((encodes_writeTemplateDtis h.dtis).bind ((encodes_writeTemplateFdiffs h.fdiffs).bind
      ((encodes_writeTemplateChains h.chained).bind (encodes_writeSizes h.sized))))))

end Structures

end Pulsebeam.Dd
