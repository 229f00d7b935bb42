import Mathlib

/-! Readers and writers of bit streams, and what it takes for them to be inverse to each other: which values a
reader returns, which bits it decodes to one and how many it spends, and which bits a writer encodes a value as. -/

namespace Pulsebeam.Lib.BitCodec

variable {σ ε α β : Type} {enc : α → List Bool} {l : List α}

class Source (σ : Type) where
  remaining : σ → List Bool
  skip : σ → ℕ → σ
  remaining_skip (s : σ) (n : ℕ) : remaining (skip s n) = (remaining s).drop n
  skip_zero (s : σ) : skip s 0 = s
  skip_skip (s : σ) (m n : ℕ) : skip (skip s m) n = skip s (m + n)

class Sink (σ : Type) where
  written : σ → List Bool
  room : σ → ℕ
  Clean : σ → Prop

def times (p : StateT σ (Except ε) α) : ℕ → StateT σ (Except ε) (List α)
  | 0 => pure []
  | n + 1 => do
    let a ← p
    let l ← times p n
    pure (a :: l)

section Codes

variable [Source σ]

open Source

/-- The reader returns values with `V` only and takes at least the code of what it returns, and it returns each such value
where the code of it stands next. -/
structure Codes (p : StateT σ (Except ε) α) (V : α → Prop) (c : α → List Bool) : Prop where
  spends {s : σ} {a : α} {s' : σ} : p.run s = .ok (a, s') →
    ∃ n, n ≤ (remaining s).length ∧ s' = skip s n ∧ V a ∧ (c a).length ≤ n
  decodes {s : σ} {a : α} : V a → c a <+: remaining s → p.run s = .ok (a, skip s (c a).length)

variable {p : StateT σ (Except ε) α} {f : α → StateT σ (Except ε) β} {V V' : α → Prop} {W : α → β → Prop} {U : β → Prop}
  {c c' : α → List Bool} {d : α → β → List Bool} {u : β → List Bool} {a : α}

lemma Codes.congr (hp : Codes p V c) (hV : ∀ a, V' a ↔ V a) (hc : ∀ a, V a → c' a = c a) : Codes p V' c' where
  spends h := by
    obtain ⟨n, hn, hs, ha, hlen⟩ := hp.spends h
    exact ⟨n, hn, hs, (hV _).2 ha, by rwa [hc _ ha]⟩
  decodes ha hs := by
    rw [hc _ ((hV _).1 ha)] at hs ⊢
    exact hp.decodes ((hV _).1 ha) hs

lemma Codes.pure (hV : ∀ b, V b ↔ b = a) (hc : c a = []) : Codes (pure a : StateT σ (Except ε) α) V c where
  spends h := by
    cases h
    exact ⟨0, Nat.zero_le _, (skip_zero _).symm, (hV a).2 rfl, by simp [hc]⟩
  decodes ha _ := by
    rw [(hV _).1 ha, hc, List.length_nil, skip_zero]
    rfl

lemma Codes.throw (e : ε) (hV : ∀ a, ¬ V a) : Codes (throw e : StateT σ (Except ε) α) V c :=
  ⟨nofun, fun ha => absurd ha (hV _)⟩

section

variable (hp : Codes p V c)

include hp

lemma Codes.bind_le (hf : ∀ a, V a → Codes (f a) (W a) (d a))
    (hU : ∀ a b, V a → W a b → U b ∧ (u b).length ≤ (c a).length + (d a b).length)
    (hu : ∀ b, U b → ∃ a, V a ∧ W a b ∧ u b = c a ++ d a b) : Codes (p >>= f) U u where
  spends {s b s'} h := by
    rw [StateT.run_bind] at h
    cases hpr : p.run s with
    | error e =>
      rw [hpr] at h
      cases h
    | ok r =>
      obtain ⟨a, s1⟩ := r
      rw [hpr] at h
      obtain ⟨m, hm, rfl, ha, hc⟩ := hp.spends hpr
      obtain ⟨n, hn, rfl, hb, hd⟩ := (hf a ha).spends h
      obtain ⟨hUb, hlen⟩ := hU a b ha hb
      rw [remaining_skip, List.length_drop] at hn
      exact ⟨m + n, by omega, skip_skip s m n, hUb, by omega⟩
  decodes {s b} hb hs := by
    obtain ⟨a, ha, hab, hub⟩ := hu b hb
    rw [hub] at hs ⊢
    obtain ⟨rest, hrest⟩ := hs
    rw [List.append_assoc] at hrest
    rw [StateT.run_bind, hp.decodes ha ⟨_, hrest⟩, List.length_append, ← skip_skip]
    refine (hf a ha).decodes hab ⟨rest, ?_⟩
    rw [remaining_skip, ← hrest, List.drop_left]

lemma Codes.bind (hf : ∀ a, V a → Codes (f a) (W a) (d a)) (hU : ∀ b, U b ↔ ∃ a, V a ∧ W a b)
    (hu : ∀ a b, V a → W a b → u b = c a ++ d a b) : Codes (p >>= f) U u := by
  refine hp.bind_le hf (fun a b ha hb => ⟨(hU b).2 ⟨a, ha, hb⟩, ?_⟩) fun b hb => ?_
  · simp [hu a b ha hb]
  · obtain ⟨a, ha, hab⟩ := (hU b).1 hb
    exact ⟨a, ha, hab, hu a b ha hab⟩

lemma Codes.ret_le (g : α → β) (hU : ∀ a, V a → U (g a) ∧ (u (g a)).length ≤ (c a).length)
    (hu : ∀ b, U b → ∃ a, V a ∧ b = g a ∧ u b = c a) : Codes (p >>= fun a => Pure.pure (g a)) U u := by
  refine hp.bind_le (d := fun _ _ => []) (fun a _ => .pure (fun _ => Iff.rfl) rfl) ?_ fun b hb => ?_
  · rintro a _ ha rfl
    exact hU a ha
  · obtain ⟨a, ha, hb, hc⟩ := hu b hb
    exact ⟨a, ha, hb, hc.trans (List.append_nil _).symm⟩

lemma Codes.ret (g : α → β) (hU : ∀ b, U b ↔ ∃ a, V a ∧ b = g a) (hu : ∀ a, V a → u (g a) = c a) :
    Codes (p >>= fun a => Pure.pure (g a)) U u := by
  refine hp.ret_le g (fun a ha => ⟨(hU _).2 ⟨a, ha, rfl⟩, hu a ha ▸ Nat.le_refl _⟩) fun b hb => ?_
  obtain ⟨a, ha, rfl⟩ := (hU b).1 hb
  exact ⟨a, ha, rfl, hu a ha⟩

lemma Codes.map (g : α → β) (hU : ∀ b, U b ↔ ∃ a, V a ∧ b = g a) (hu : ∀ a, V a → u (g a) = c a) :
    Codes (g <$> p) U u := by
  exact hp.ret g hU hu

end

lemma Codes.seq {f : α → StateT σ (Except ε) α} {g h : α → α} {W : α → Prop} {d : α → List Bool}
    (hp : Codes p (fun b => g b = a ∧ V b) c)
    (hf : ∀ b, g b = a → V b → Codes (f b) (fun b' => h b' = b ∧ W b') d) :
    Codes (p >>= f) (fun b => g (h b) = a ∧ V (h b) ∧ W b) fun b => c (h b) ++ d b := by
  refine hp.bind (fun b hb => hf b hb.1 hb.2) (fun b => ?_) ?_
  · exact ⟨fun hb => ⟨h b, ⟨hb.1, hb.2.1⟩, rfl, hb.2.2⟩, by rintro ⟨_, ⟨hg, hV⟩, rfl, hW⟩; exact ⟨hg, hV, hW⟩⟩
  · rintro _ b - ⟨rfl, -⟩
    rfl

lemma Codes.times (hp : Codes p V c) (k : ℕ) :
    Codes (times p k) (fun l => l.length = k ∧ ∀ a ∈ l, V a) (·.flatMap c) := by
  induction k with
  | zero => exact .pure (fun l => by cases l <;> simp) rfl
  | succ k ih =>
    refine hp.bind (d := fun _ l => l.tail.flatMap c) (fun a _ => ih.ret _ (fun _ => Iff.rfl) fun _ _ => rfl) (fun l => ?_) ?_
    · cases l with
      | nil => simp
      | cons a l => simp [and_left_comm]
    · rintro a _ - ⟨l, -, rfl⟩
      rfl

lemma Codes.mapM {R : α → β → Prop} (hf : ∀ a ∈ l, Codes (f a) (R a) u) :
    Codes (l.mapM f) (List.Forall₂ R l) (·.flatMap u) := by
  induction l with
  | nil => exact .pure (fun _ => List.forall₂_nil_left_iff) rfl
  | cons a l ih =>
    rw [List.mapM_cons]
    refine (hf a List.mem_cons_self).bind (d := fun _ l => l.tail.flatMap u)
      (fun b _ => (ih fun a ha => hf a (List.mem_cons_of_mem _ ha)).ret _ (fun _ => Iff.rfl) fun _ _ => rfl) (fun l' => ?_) ?_
    · rw [List.forall₂_cons_left_iff]
      simp
    · rintro b _ - ⟨l', -, rfl⟩
      rfl

end Codes

section Encodes

variable [Sink σ]

open Sink

def Encodes (w : StateT σ (Except ε) Unit) (bits : List Bool) : Prop :=
  ∀ s, Clean s → bits.length ≤ room s → ∃ s', w.run s = .ok ((), s') ∧ Clean s' ∧ written s' = written s ++ bits ∧
    room s' + bits.length = room s

variable {w w' : StateT σ (Except ε) Unit} {bits bits' : List Bool}

lemma Encodes.pure : Encodes (pure () : StateT σ (Except ε) Unit) [] :=
  fun s hs _ => ⟨s, rfl, hs, (List.append_nil _).symm, rfl⟩

lemma Encodes.bind {f : Unit → StateT σ (Except ε) Unit} (hw : Encodes w bits) (hf : Encodes (f ()) bits') :
    Encodes (w >>= f) (bits ++ bits') := by
  intro s hs hroom
  rw [List.length_append] at hroom
  obtain ⟨s1, hrun, hs1, hw1, hr1⟩ := hw s hs (by omega)
  obtain ⟨s2, hrun2, hs2, hw2, hr2⟩ := hf s1 hs1 (by omega)
  refine ⟨s2, ?_, hs2, by rw [hw2, hw1, List.append_assoc], by rw [List.length_append]; omega⟩
  rw [StateT.run_bind, hrun]
  exact hrun2

lemma Encodes.forM {f : α → StateT σ (Except ε) Unit} (h : ∀ a ∈ l, Encodes (f a) (enc a)) :
    Encodes (l.forM f) (l.flatMap enc) := by
  induction l with
  | nil => exact .pure
  | cons a l ih => exact (h a List.mem_cons_self).bind (ih fun a ha => h a (List.mem_cons_of_mem _ ha))

end Encodes

end Pulsebeam.Lib.BitCodec
