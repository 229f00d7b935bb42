import Mathlib

/-! Doubly linked lists whose links are kept with the members, in a store, and only the ends with the list. -/

namespace Pulsebeam.Lib

open List Option Function

variable {κ : Type*} {j : κ}

structure Links (κ : Type*) where
  prev : Option κ := none
  next : Option κ := none
  deriving DecidableEq

structure Ends (κ : Type*) where
  head : Option κ := none
  tail : Option κ := none
  len : ℕ := 0
  deriving DecidableEq

abbrev Store (κ : Type*) := κ → Option (Links κ)

namespace Store

variable {s s' : Store κ} {p q : Option κ} {k : κ} {l l' pre post : List κ}

def Seg (s : Store κ) : Option κ → List κ → Option κ → Prop
  | _, [], _ => True
  | p, k :: rest, q => s k = some ⟨p, rest.head?.or q⟩ ∧ Seg s (some k) rest q

lemma seg_congr (h : ∀ j ∈ l, s j = s' j) : Seg s p l q ↔ Seg s' p l q := by
  induction l generalizing p with
  | nil => exact Iff.rfl
  | cons k l ih =>
    rw [Seg, Seg, h k mem_cons_self, ih fun j hj => h j (mem_cons_of_mem _ hj)]

lemma seg_append : Seg s p (l ++ l') q ↔ Seg s p l (l'.head?.or q) ∧ Seg s (l.getLast?.or p) l' q := by
  induction l generalizing p with
  | nil => simp [Seg]
  | cons k l ih =>
    have hhead : (l ++ l').head?.or q = l.head?.or (l'.head?.or q) := by
      cases l <;> simp
    have hlast : ((k :: l).getLast?).or p = l.getLast?.or (some k) := by
      cases l with
      | nil => simp
      | cons k' l => simp [getLast?_eq_some_getLast _]
    rw [cons_append, Seg, ih, hhead, hlast, Seg, and_assoc]

variable [DecidableEq κ] {f : Links κ → Links κ}

def modify (s : Store κ) (k : Option κ) (f : Links κ → Links κ) : Store κ :=
  fun j => if k = some j then (s j).map f else s j

lemma modify_of_ne (h : p ≠ some j) : s.modify p f j = s j := if_neg h

lemma modify_self : s.modify (some k) f k = (s k).map f := if_pos rfl

def unlink (s : Store κ) (k : κ) (n : Links κ) : Store κ :=
  ((s.modify n.prev ({ · with next := n.next })).modify n.next ({ · with prev := n.prev })).modify (some k) fun _ => {}

def linkFront (s : Store κ) (k : κ) (head : Option κ) : Store κ :=
  (s.modify (some k) fun _ => ⟨none, head⟩).modify head ({ · with prev := some k })

lemma Seg.modify_last (h : Seg s p l q) (hl : l.Nodup) (q' : Option κ) :
    Seg (s.modify l.getLast? ({ · with next := q' })) p l q' := by
  induction l generalizing p with
  | nil => trivial
  | cons k l ih =>
    obtain ⟨hk, hrest⟩ := h
    cases l with
    | nil =>
      refine ⟨?_, trivial⟩
      rw [getLast?_singleton, modify_self, hk]
      rfl
    | cons k' l =>
      refine ⟨?_, ih hrest hl.of_cons⟩
      rw [modify_of_ne, hk]
      · rfl
      · intro hlast
        exact (nodup_cons.1 hl).1 (mem_of_getLast? hlast)

lemma Seg.modify_head (h : Seg s p l q) (hl : l.Nodup) (p' : Option κ) :
    Seg (s.modify l.head? ({ · with prev := p' })) p' l q := by
  cases l with
  | nil => trivial
  | cons k l =>
    obtain ⟨hk, hrest⟩ := h
    refine ⟨?_, (seg_congr ?_).1 hrest⟩
    · rw [head?_cons, modify_self, hk]
      rfl
    · intro j hj
      refine (modify_of_ne ?_).symm
      rintro ⟨⟩
      exact (nodup_cons.1 hl).1 hj

lemma unlink_of_notin {n : Links κ} (hprev : n.prev ≠ some j) (hnext : n.next ≠ some j) (hj : j ≠ k) :
    s.unlink k n j = s j := by
  rw [unlink, modify_of_ne (by simpa using hj.symm), modify_of_ne hnext, modify_of_ne hprev]

lemma linkFront_of_notin {head : Option κ} (hhead : head ≠ some j) (hj : j ≠ k) : s.linkFront k head j = s j := by
  rw [linkFront, modify_of_ne hhead, modify_of_ne (by simpa using hj.symm)]

end Store

def Ends.without [DecidableEq κ] (e : Ends κ) (k : κ) (n : Links κ) : Ends κ where
  head := if e.head = some k then n.next else e.head
  tail := if e.tail = some k then n.prev else e.tail
  len := e.len - 1

def Ends.cons (e : Ends κ) (k : κ) : Ends κ where
  head := some k
  tail := if e.tail.isNone then some k else e.tail
  len := e.len + 1

open Store

structure Chain (s : Store κ) (e : Ends κ) (l : List κ) : Prop where
  nodup : l.Nodup
  head : e.head = l.head?
  tail : e.tail = l.getLast?
  len : e.len = l.length
  seg : Seg s none l none

namespace Chain

variable {s s' : Store κ} {e : Ends κ} {l : List κ} {k : κ} {n : Links κ}

lemma nil (s : Store κ) : Chain s {} [] := ⟨nodup_nil, rfl, rfl, rfl, trivial⟩

section

variable (h : Chain s e l)

include h

lemma congr (hs : ∀ j ∈ l, s j = s' j) : Chain s' e l := { h with seg := (seg_congr hs).1 h.seg }

lemma links (hk : k ∈ l) : ∃ pre post, l = pre ++ k :: post ∧ s k = some ⟨pre.getLast?, post.head?⟩ := by
  obtain ⟨pre, post, rfl⟩ := append_of_mem hk
  obtain ⟨_, hlink, _⟩ := seg_append.1 h.seg
  exact ⟨pre, post, rfl, by simpa using hlink⟩

lemma mem_of_links (hk : k ∈ l) (hn : s k = some n) (hj : n.prev = some j ∨ n.next = some j) : j ∈ l := by
  obtain ⟨pre, post, rfl, hlink⟩ := h.links hk
  rw [hlink] at hn
  cases hn
  rcases hj with hj | hj
  · exact mem_append_left _ (mem_of_getLast? hj)
  · exact mem_append_right _ (mem_cons_of_mem _ (mem_of_head? hj))

lemma eq_nil (hlen : e.len = 0) : l = [] := length_eq_zero_iff.1 (h.len ▸ hlen)

lemma eq_empty (hlen : e.len = 0) : e = {} := by
  obtain rfl := h.eq_nil hlen
  obtain ⟨head, tail, len⟩ := e
  obtain rfl : head = none := h.head
  obtain rfl : tail = none := h.tail
  obtain rfl : len = 0 := hlen
  rfl

end

variable [DecidableEq κ]

lemma unlink (h : Chain s e l) (hk : k ∈ l) (hn : s k = some n) : Chain (s.unlink k n) (e.without k n) (l.erase k) := by
  obtain ⟨pre, post, rfl, hlink⟩ := h.links hk
  rw [hlink] at hn
  cases hn
  have hnodup := h.nodup
  rw [nodup_append] at hnodup
  obtain ⟨hpre, hpost, hdisj⟩ := hnodup
  obtain ⟨hknotin, hpost⟩ := nodup_cons.1 hpost
  have hkpre : k ∉ pre := fun hin => hdisj k hin k mem_cons_self rfl
  have herase : (pre ++ k :: post).erase k = pre ++ post := by
    rw [erase_append_right _ hkpre, erase_cons_head]
  rw [herase]
  obtain ⟨hsegpre, _, hsegpost⟩ := seg_append.1 h.seg
  refine ⟨?_, ?_, ?_, ?_, seg_append.2 ⟨?_, ?_⟩⟩
  · rw [← herase]
    exact h.nodup.erase k
  · rw [Ends.without, h.head]
    cases pre with
    | nil => simp
    | cons j pre =>
      have hj : j ≠ k := fun heq => hkpre (heq ▸ mem_cons_self)
      simp [hj]
  · rw [Ends.without, h.tail]
    cases post with
    | nil => simp
    | cons j post =>
      have hlast : (pre ++ k :: j :: post).getLast? = (j :: post).getLast? := by
        rw [getLast?_append_cons, getLast?_cons_cons]
      have hne : (j :: post).getLast? ≠ some k := fun heq => hknotin (mem_of_getLast? heq)
      rw [hlast, getLast?_append_cons, if_neg hne]
  · rw [Ends.without, h.len]
    simp
  · rw [or_none]
    refine (seg_congr ?_).1 (hsegpre.modify_last hpre post.head?)
    intro j hj
    have hself : some k ≠ some j := by
      rintro ⟨⟩
      exact hkpre hj
    have hnext : post.head? ≠ some j := fun hhead =>
      hdisj j hj j (mem_cons_of_mem _ (mem_of_head? hhead)) rfl
    rw [Store.unlink, modify_of_ne hself, modify_of_ne hnext]
  · rw [or_none]
    refine (seg_congr ?_).1 (hsegpost.modify_head hpost pre.getLast?)
    intro j hj
    have hprev : s.modify pre.getLast? ({ · with next := post.head? }) j = s j := by
      refine modify_of_ne fun hlast => ?_
      exact hdisj j (mem_of_getLast? hlast) j (mem_cons_of_mem _ hj) rfl
    have hself : some k ≠ some j := by
      rintro ⟨⟩
      exact hknotin hj
    rw [Store.unlink, modify_of_ne hself, Store.modify, Store.modify, hprev]

lemma linkFront (h : Chain s e l) (hk : k ∉ l) (hs : (s k).isSome) : Chain (s.linkFront k e.head) (e.cons k) (k :: l) := by
  have hhead : e.head ≠ some k := by
    rw [h.head]
    exact fun heq => hk (mem_of_head? heq)
  refine ⟨nodup_cons.2 ⟨hk, h.nodup⟩, rfl, ?_, ?_, ?_, ?_⟩
  · rw [Ends.cons, h.tail]
    cases l with
    | nil => rfl
    | cons j l => simp [getLast?_cons_cons]
  · rw [Ends.cons, h.len, length_cons]
  · obtain ⟨n, hn⟩ := isSome_iff_exists.1 hs
    rw [Store.linkFront, modify_of_ne hhead, modify_self, hn, h.head, or_none]
    rfl
  · rw [h.head]
    refine (seg_congr ?_).1 (h.seg.modify_head h.nodup (some k))
    intro j hj
    have hjk : (s.modify (some k) fun _ => ⟨none, l.head?⟩) j = s j := by
      refine modify_of_ne ?_
      rintro ⟨⟩
      exact hk hj
    rw [Store.linkFront, Store.modify, Store.modify, hjk]

end Chain

structure Chains {ι : Type*} (s : Store κ) (ends : ι → Ends κ) (lists : ι → List κ) : Prop where
  chain : ∀ i, Chain s (ends i) (lists i)
  disjoint : ∀ {i j k}, k ∈ lists i → k ∈ lists j → i = j

namespace Chains

variable {ι : Type*} {s s' : Store κ} {ends : ι → Ends κ} {lists : ι → List κ} {k : κ} {n : Links κ} {i : ι}

lemma congr (h : Chains s ends lists) (hs : ∀ i, ∀ j ∈ lists i, s j = s' j) : Chains s' ends lists :=
  ⟨fun i => (h.chain i).congr (hs i), h.disjoint⟩

variable [DecidableEq κ] [DecidableEq ι]

lemma unlink (h : Chains s ends lists) (hk : k ∈ lists i) (hn : s k = some n) :
    Chains (s.unlink k n) (Function.update ends i ((ends i).without k n)) fun j => (lists j).erase k := by
  refine ⟨fun j => ?_, fun hj hj' => h.disjoint (mem_of_mem_erase hj) (mem_of_mem_erase hj')⟩
  by_cases hji : j = i
  · subst hji
    rw [update_self]
    exact (h.chain j).unlink hk hn
  have hother : ∀ m ∈ lists j, m ∉ lists i := fun m hm hm' => hji (h.disjoint hm hm')
  rw [update_of_ne hji, erase_of_not_mem fun hm => hother k hm hk]
  refine (h.chain j).congr fun m hm => (unlink_of_notin ?_ ?_ ?_).symm
  · exact fun hprev => hother m hm ((h.chain i).mem_of_links hk hn (.inl hprev))
  · exact fun hnext => hother m hm ((h.chain i).mem_of_links hk hn (.inr hnext))
  · rintro rfl
    exact hother m hm hk

lemma linkFront (h : Chains s ends lists) (hk : ∀ j, k ∉ lists j) (hs : (s k).isSome) :
    Chains (s.linkFront k (ends i).head) (Function.update ends i ((ends i).cons k))
      (Function.update lists i (k :: lists i)) := by
  have hmem : ∀ {j m}, m ∈ Function.update lists i (k :: lists i) j → m ∈ lists j ∨ m = k ∧ j = i := by
    intro j m hm
    by_cases hji : j = i
    · subst hji
      rw [update_self, mem_cons] at hm
      exact hm.symm.imp id fun hmk => ⟨hmk, rfl⟩
    · rw [update_of_ne hji] at hm
      exact .inl hm
  refine ⟨fun j => ?_, fun {j j' m} hj hj' => ?_⟩
  · by_cases hji : j = i
    · subst hji
      rw [update_self, update_self]
      exact (h.chain j).linkFront (hk j) hs
    rw [update_of_ne hji, update_of_ne hji]
    refine (h.chain j).congr fun m hm => (linkFront_of_notin ?_ ?_).symm
    · rw [(h.chain i).head]
      exact fun hhead => hji (h.disjoint hm (mem_of_head? hhead))
    · rintro rfl
      exact hk j hm
  · rcases hmem hj with hj | ⟨rfl, rfl⟩ <;> rcases hmem hj' with hj' | ⟨hk', hi'⟩
    · exact h.disjoint hj hj'
    · exact absurd (hk' ▸ hj) (hk j)
    · exact absurd hj' (hk j')
    · exact hi'.symm

end Chains

end Pulsebeam.Lib
