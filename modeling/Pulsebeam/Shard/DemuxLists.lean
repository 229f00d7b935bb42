import Pulsebeam.Shard.Demux

/-! The lists of the cache: which addresses stand on them, and that every operation keeps them in order. -/

namespace Pulsebeam.Shard

open Lib Demux

variable {Addr : Type}

namespace Demux

structure Listing (Addr : Type) where
  global : Bool → List Addr
  route : ℕ × Bool → List Addr

def Listing.push (L : Listing Addr) (a : Addr) (r : ℕ) (b : Bool) : Listing Addr :=
  ⟨Function.update L.global b (a :: L.global b), Function.update L.route (r, b) (a :: L.route (r, b))⟩

namespace Listing

variable {L : Listing Addr} {a j : Addr} {r : ℕ} {b b' : Bool} {i : ℕ × Bool}

lemma mem_push_global : j ∈ (L.push a r b).global b' ↔ j = a ∧ b' = b ∨ j ∈ L.global b' := by
  by_cases hb : b' = b
  · subst hb
    simp [push]
  · simp [push, hb]

lemma mem_push_route : j ∈ (L.push a r b).route i ↔ j = a ∧ i = (r, b) ∨ j ∈ L.route i := by
  by_cases hi : i = (r, b)
  · subst hi
    simp [push]
  · simp [push, hi]

structure Shrinks (L' L : Listing Addr) : Prop where
  global : ∀ b, (L'.global b).length ≤ (L.global b).length
  route : ∀ i, (L'.route i).length ≤ (L.route i).length

lemma Shrinks.refl (L : Listing Addr) : Shrinks L L := ⟨fun _ => le_rfl, fun _ => le_rfl⟩

end Listing

variable [LinearOrder Addr]

section View

variable {β : Type} {sel : CachedRoute Addr → β} {links : CachedRoute Addr → Links Addr}
  {m : AddrMap Addr} {a b : Addr} {n : Links Addr} {p : Option Addr} {on : Field Addr}

def view (sel : CachedRoute Addr → β) (m : AddrMap Addr) (a : Addr) : Option β := (m.get? a).map sel

lemma view_modify (hon : ∀ f e, links (on f e) = f (links e)) (a : Addr) (f : Links Addr → Links Addr) :
    view links (m.modify a (on f)) = Store.modify (view links m) (some a) f := by
  funext j
  rw [view, OrdMap.get?_modify, Store.modify]
  by_cases hj : j = a
  · subst hj
    cases hm : m.get? j <;> simp [view, hm, hon]
  · rw [if_neg hj, if_neg (by simpa using Ne.symm hj)]
    rfl

lemma view_modify_of_keeps {g : CachedRoute Addr → CachedRoute Addr} (hg : ∀ e, sel (g e) = sel e) (a : Addr) :
    view sel (m.modify a g) = view sel m := by
  funext j
  rw [view, OrdMap.get?_modify]
  by_cases hj : j = a
  · subst hj
    cases hm : m.get? j <;> simp [view, hm, hg]
  · rw [if_neg hj]
    rfl

lemma modify_none (s : Store Addr) (f : Links Addr → Links Addr) : s.modify none f = s := by
  funext j
  exact Store.modify_of_ne (by simp)

lemma view_splice (on : Field Addr) (hon : ∀ f e, links (on f e) = f (links e)) :
    view links (splice on m a n) = Store.unlink (view links m) a n := by
  obtain ⟨prev, next⟩ := n
  cases prev <;> cases next <;> simp only [splice, Store.unlink, view_modify hon, modify_none]

lemma view_splice_of_keeps (hon : ∀ f e, sel (on f e) = sel e) : view sel (splice on m a n) = view sel m := by
  obtain ⟨prev, next⟩ := n
  cases prev <;> cases next <;> simp only [splice, view_modify_of_keeps (hon _)]

lemma view_spliceFront (on : Field Addr) (hon : ∀ f e, links (on f e) = f (links e)) :
    view links (spliceFront on m a p) = Store.linkFront (view links m) a p := by
  cases p <;> simp only [spliceFront, Store.linkFront, view_modify hon, modify_none]

lemma view_spliceFront_of_keeps (hon : ∀ f e, sel (on f e) = sel e) : view sel (spliceFront on m a p) = view sel m := by
  cases p <;> simp only [spliceFront, view_modify_of_keeps (hon _)]

end View

def Listing.remove (L : Listing Addr) (a : Addr) : Listing Addr := ⟨fun b => (L.global b).erase a, fun i => (L.route i).erase a⟩

namespace Listing

lemma shrinks_remove (L : Listing Addr) (a : Addr) : Shrinks (L.remove a) L :=
  ⟨fun _ => List.length_erase_le .., fun _ => List.length_erase_le ..⟩

end Listing

end Demux

namespace Demuxer

variable [LinearOrder Addr] {d d' : Demuxer Addr} {L : Listing Addr} {out : Option Addr} {a : Addr}
  {c : NodeTransportAddress} {b : Bool}

def core (d : Demuxer Addr) (a : Addr) : Option (NodeTransportAddress × Bool) := view CachedRoute.core d.addrMap a

def routeEnds (d : Demuxer Addr) (i : ℕ × Bool) : Ends Addr := (d.routeLists i.1).list i.2

structure Tracks (d : Demuxer Addr) (L : Listing Addr) (out : Option Addr) : Prop where
  global : Chains (view CachedRoute.global d.addrMap) d.list L.global
  route : Chains (view CachedRoute.route d.addrMap) d.routeEnds L.route
  mem_global : ∀ a b, a ∈ L.global b ↔ out ≠ some a ∧ ∃ c, d.core a = some (c, b)
  mem_route : ∀ a i, a ∈ L.route i ↔ out ≠ some a ∧ ∃ c, d.core a = some (c, i.2) ∧ c.route = i.1

lemma core_eq_some : d.core a = some (c, b) ↔ ∃ e, d.addrMap.get? a = some e ∧ e.address = c ∧ e.authenticated = b := by
  simp [core, view, CachedRoute.core]

lemma core_congr (h : d.addrMap = d'.addrMap) : d.core = d'.core := by
  funext a
  rw [core, core, h]

lemma list_setList (d : Demuxer Addr) (b : Bool) (e : Ends Addr) :
    (d.setList b e).list = Function.update d.list b e := by
  funext b'
  cases b <;> cases b' <;> rfl

lemma routeEnds_setRouteLists (d : Demuxer Addr) (r : ℕ) (b : Bool) (e : Ends Addr) :
    (d.setRouteLists r ((d.routeLists r).setList b e)).routeEnds = Function.update d.routeEnds (r, b) e := by
  funext ⟨r', b'⟩
  by_cases hr : r' = r
  · subst hr
    have hget : (d.setRouteLists r' ((d.routeLists r').setList b e)).routeLists r' = (d.routeLists r').setList b e := by
      rw [routeLists, setRouteLists, OrdMap.get?_insert_self]
      rfl
    rw [routeEnds, hget]
    cases b <;> cases b' <;> simp [RouteLists.list, RouteLists.setList, routeEnds]
  · have hget : (d.setRouteLists r ((d.routeLists r).setList b e)).routeLists r' = d.routeLists r' := by
      rw [routeLists, setRouteLists, OrdMap.get?_insert_of_ne hr]
      rfl
    rw [routeEnds, hget, Function.update_of_ne (by simp [hr])]
    rfl

section Links

variable {G : Bool → List Addr} {R : ℕ × Bool → List Addr} {r : ℕ}

lemma unlinkGlobal_spec (h : Chains (view CachedRoute.global d.addrMap) d.list G) (hmem : a ∈ G b)
    (hcore : d.core a = some (c, b)) :
    Chains (view CachedRoute.global (d.unlinkGlobal a).addrMap) (d.unlinkGlobal a).list (fun b => (G b).erase a) ∧
      (d.unlinkGlobal a).core = d.core ∧
      view CachedRoute.route (d.unlinkGlobal a).addrMap = view CachedRoute.route d.addrMap ∧
      (d.unlinkGlobal a).routeEnds = d.routeEnds := by
  obtain ⟨e, he, _, rfl⟩ := core_eq_some.1 hcore
  have hn : view CachedRoute.global d.addrMap a = some e.global := by rw [view, he]; rfl
  have heq : d.unlinkGlobal a =
      { d.setList e.authenticated ((d.list e.authenticated).without a e.global) with
        addrMap := splice .onGlobal d.addrMap a e.global } := by
    rw [unlinkGlobal, he]
  rw [heq]
  refine ⟨?_, view_splice_of_keeps fun _ _ => rfl, view_splice_of_keeps fun _ _ => rfl, ?_⟩
  · have hchains := h.unlink hmem hn
    rw [← view_splice .onGlobal fun _ _ => rfl, ← list_setList] at hchains
    exact hchains
  · cases e.authenticated <;> rfl

lemma linkGlobalFront_spec (h : Chains (view CachedRoute.global d.addrMap) d.list G) (hmem : ∀ b, a ∉ G b)
    (hcore : (d.core a).isSome) :
    Chains (view CachedRoute.global (d.linkGlobalFront a b).addrMap) (d.linkGlobalFront a b).list
        (Function.update G b (a :: G b)) ∧
      (d.linkGlobalFront a b).core = d.core ∧
      view CachedRoute.route (d.linkGlobalFront a b).addrMap = view CachedRoute.route d.addrMap ∧
      (d.linkGlobalFront a b).routeEnds = d.routeEnds := by
  obtain ⟨e, he⟩ : ∃ e, d.addrMap.get? a = some e := by
    rw [core, view, Option.isSome_map] at hcore
    exact Option.isSome_iff_exists.1 hcore
  have hn : (view CachedRoute.global d.addrMap a).isSome := by rw [view, he]; rfl
  have heq : d.linkGlobalFront a b =
      { d.setList b ((d.list b).cons a) with addrMap := spliceFront .onGlobal d.addrMap a (d.list b).head } := by
    rw [linkGlobalFront, he]
  rw [heq]
  refine ⟨?_, view_spliceFront_of_keeps fun _ _ => rfl, view_spliceFront_of_keeps fun _ _ => rfl, ?_⟩
  · have hchains := h.linkFront (i := b) hmem hn
    rw [← view_spliceFront .onGlobal fun _ _ => rfl, ← list_setList] at hchains
    exact hchains
  · cases b <;> rfl

lemma dropEmpty_routeEnds {s : Store Addr} (h : Chains s d.routeEnds R) : (d.dropEmpty r).routeEnds = d.routeEnds := by
  unfold dropEmpty
  split
  · rfl
  next lists hlists =>
    split
    next hempty =>
      have hget : d.routeLists r = lists := by rw [routeLists, hlists]; rfl
      have hfalse : lists.unauthenticated = {} := by
        have := h.chain (r, false)
        rw [routeEnds, hget] at this
        exact this.eq_empty hempty.1
      have htrue : lists.authenticated = {} := by
        have := h.chain (r, true)
        rw [routeEnds, hget] at this
        exact this.eq_empty hempty.2
      funext ⟨r', b'⟩
      by_cases hr : r' = r
      · subst hr
        have hnone : Demuxer.routeLists { d with routeAddrs := d.routeAddrs.erase r' } r' = {} := by
          rw [routeLists, OrdMap.get?_erase_self]
          rfl
        rw [routeEnds, routeEnds, hnone, hget]
        cases b' <;> simp [RouteLists.list, hfalse, htrue]
      · have hsame : Demuxer.routeLists { d with routeAddrs := d.routeAddrs.erase r } r' = d.routeLists r' := by
          rw [routeLists, OrdMap.get?_erase_of_ne hr]
          rfl
        rw [routeEnds, hsame]
        rfl
    · rfl

lemma dropEmpty_rest (d : Demuxer Addr) (r : ℕ) : (d.dropEmpty r).addrMap = d.addrMap ∧ (d.dropEmpty r).list = d.list := by
  unfold dropEmpty
  split
  · exact ⟨rfl, rfl⟩
  · split <;> exact ⟨rfl, rfl⟩

lemma unlinkRoute_spec (h : Chains (view CachedRoute.route d.addrMap) d.routeEnds R) (hmem : a ∈ R (r, b))
    (hcore : d.core a = some (c, b)) :
    Chains (view CachedRoute.route (d.unlinkRoute a r).addrMap) (d.unlinkRoute a r).routeEnds (fun i => (R i).erase a) ∧
      (d.unlinkRoute a r).core = d.core ∧
      view CachedRoute.global (d.unlinkRoute a r).addrMap = view CachedRoute.global d.addrMap ∧
      (d.unlinkRoute a r).list = d.list := by
  obtain ⟨e, he, _, rfl⟩ := core_eq_some.1 hcore
  have hn : view CachedRoute.route d.addrMap a = some e.route := by rw [view, he]; rfl
  obtain ⟨d1, heq, hmap, hlist, hends⟩ : ∃ d1 : Demuxer Addr, d.unlinkRoute a r = d1.dropEmpty r ∧
      d1.addrMap = splice .onRoute d.addrMap a e.route ∧ d1.list = d.list ∧
      d1.routeEnds = Function.update d.routeEnds _
        ((d.routeEnds (r, e.authenticated)).without a e.route) := by
    refine ⟨{ d.setRouteLists r ((d.routeLists r).setList e.authenticated
        (((d.routeLists r).list e.authenticated).without a e.route)) with
      addrMap := splice .onRoute d.addrMap a e.route }, ?_, rfl, rfl, routeEnds_setRouteLists d r e.authenticated _⟩
    rw [unlinkRoute, he]
  have hkeeps : ∀ {β : Type} {sel : CachedRoute Addr → β}, (∀ f e, sel (CachedRoute.onRoute f e) = sel e) →
      view sel d1.addrMap = view sel d.addrMap := by
    intro β sel hsel
    rw [hmap, view_splice_of_keeps hsel]
  have hchains := h.unlink hmem hn
  rw [← view_splice .onRoute fun _ _ => rfl, ← hmap, ← hends] at hchains
  rw [heq, core_congr (dropEmpty_rest d1 r).1, (dropEmpty_rest d1 r).1, (dropEmpty_rest d1 r).2,
    dropEmpty_routeEnds hchains]
  exact ⟨hchains, hkeeps fun _ _ => rfl, hkeeps fun _ _ => rfl, hlist⟩

lemma linkRouteFront_spec (h : Chains (view CachedRoute.route d.addrMap) d.routeEnds R) (hmem : ∀ i, a ∉ R i)
    (hcore : (d.core a).isSome) :
    Chains (view CachedRoute.route (d.linkRouteFront a r b).addrMap) (d.linkRouteFront a r b).routeEnds
        (Function.update R (r, b) (a :: R (r, b))) ∧
      (d.linkRouteFront a r b).core = d.core ∧
      view CachedRoute.global (d.linkRouteFront a r b).addrMap = view CachedRoute.global d.addrMap ∧
      (d.linkRouteFront a r b).list = d.list := by
  obtain ⟨e, he⟩ : ∃ e, d.addrMap.get? a = some e := by
    rw [core, view, Option.isSome_map] at hcore
    exact Option.isSome_iff_exists.1 hcore
  have hn : (view CachedRoute.route d.addrMap a).isSome := by rw [view, he]; rfl
  have heq : d.linkRouteFront a r b =
      { d.setRouteLists r ((d.routeLists r).setList b (((d.routeLists r).list b).cons a)) with
        addrMap := spliceFront .onRoute d.addrMap a ((d.routeLists r).list b).head } := by
    rw [linkRouteFront, he]
  have hchains := h.linkFront (i := (r, b)) hmem hn
  rw [← view_spliceFront .onRoute fun _ _ => rfl, ← routeEnds_setRouteLists] at hchains
  rw [heq]
  exact ⟨hchains, view_spliceFront_of_keeps fun _ _ => rfl, view_spliceFront_of_keeps fun _ _ => rfl, rfl⟩

end Links

namespace Tracks

lemma mem_remove_global (h : Tracks d L none) (a j : Addr) (b : Bool) :
    j ∈ (L.remove a).global b ↔ j ≠ a ∧ j ∈ L.global b := (h.global.chain b).nodup.mem_erase_iff

lemma mem_remove_route (h : Tracks d L none) (a j : Addr) (i : ℕ × Bool) :
    j ∈ (L.remove a).route i ↔ j ≠ a ∧ j ∈ L.route i := (h.route.chain i).nodup.mem_erase_iff

lemma detach (h : Tracks d L none) (hcore : d.core a = some (c, b)) :
    Tracks ((d.unlinkGlobal a).unlinkRoute a c.route) (L.remove a) (some a) ∧
      ((d.unlinkGlobal a).unlinkRoute a c.route).core = d.core := by
  have hglobal : a ∈ L.global b := (h.mem_global a b).2 ⟨by simp, c, hcore⟩
  have hroute : a ∈ L.route (c.route, b) := (h.mem_route a _).2 ⟨by simp, c, hcore, rfl⟩
  obtain ⟨hchains, hcore1, hview, hends⟩ := unlinkGlobal_spec h.global hglobal hcore
  have hroutes := h.route
  rw [← hview, ← hends] at hroutes
  obtain ⟨hroutes, hcore2, hview, hlist⟩ := unlinkRoute_spec hroutes hroute (hcore1 ▸ hcore)
  rw [← hview, ← hlist] at hchains
  have hsame := hcore2.trans hcore1
  refine ⟨⟨hchains, hroutes, ?_, ?_⟩, hsame⟩
  · intro j b'
    rw [h.mem_remove_global, h.mem_global, hsame]
    simp [eq_comm]
  · intro j i
    rw [h.mem_remove_route, h.mem_route, hsame]
    simp [eq_comm]

lemma attach (h : Tracks d L (some a)) (hcore : d.core a = some (c, b)) :
    Tracks ((d.linkGlobalFront a b).linkRouteFront a c.route b) (L.push a c.route b) none ∧
      ((d.linkGlobalFront a b).linkRouteFront a c.route b).core = d.core := by
  have hsome : (d.core a).isSome := by rw [hcore]; rfl
  have hglobal : ∀ b, a ∉ L.global b := fun b hin => ((h.mem_global a b).1 hin).1 rfl
  have hroute : ∀ i, a ∉ L.route i := fun i hin => ((h.mem_route a i).1 hin).1 rfl
  obtain ⟨hchains, hcore1, hview, hends⟩ := linkGlobalFront_spec h.global hglobal hsome
  have hroutes := h.route
  rw [← hview, ← hends] at hroutes
  obtain ⟨hroutes, hcore2, hview, hlist⟩ := linkRouteFront_spec hroutes hroute (hcore1 ▸ hsome)
  rw [← hview, ← hlist] at hchains
  have hsame := hcore2.trans hcore1
  refine ⟨⟨hchains, hroutes, ?_, ?_⟩, hsame⟩
  · intro j b'
    rw [hsame, Listing.mem_push_global, h.mem_global]
    constructor
    · rintro (⟨rfl, rfl⟩ | ⟨_, hc⟩)
      · exact ⟨by simp, c, hcore⟩
      · exact ⟨by simp, hc⟩
    · rintro ⟨_, c', hc⟩
      by_cases hj : j = a
      · subst hj
        rw [hcore] at hc
        cases hc
        exact .inl ⟨rfl, rfl⟩
      · exact .inr ⟨by simpa using Ne.symm hj, c', hc⟩
  · intro j i
    rw [hsame, Listing.mem_push_route, h.mem_route]
    constructor
    · rintro (⟨rfl, rfl⟩ | ⟨_, hc⟩)
      · exact ⟨by simp, c, hcore, rfl⟩
      · exact ⟨by simp, hc⟩
    · rintro ⟨_, c', hc, hr⟩
      by_cases hj : j = a
      · subst hj
        rw [hcore] at hc
        cases hc
        exact .inl ⟨rfl, Prod.ext hr.symm rfl⟩
      · exact .inr ⟨by simpa using Ne.symm hj, c', hc, hr⟩

lemma of_agree (h : Tracks d L out) (hlist : d'.list = d.list) (hends : d'.routeEnds = d.routeEnds)
    (hmap : ∀ j ≠ a, d'.addrMap.get? j = d.addrMap.get? j) (hout : out = none ∧ d.core a = none ∨ out = some a) :
    Tracks d' L (some a) := by
  have hcore : ∀ j ≠ a, d'.core j = d.core j := by
    intro j hj
    rw [core, core, view, view, hmap j hj]
  have hmem : ∀ j, (out ≠ some j ∧ ∃ x, d.core j = some x) → j ≠ a := by
    rintro j ⟨hne, x, hx⟩ rfl
    rcases hout with ⟨_, hnone⟩ | hsome
    · rw [hnone] at hx
      cases hx
    · exact hne hsome
  have hglobal : ∀ j b, j ∈ L.global b → j ≠ a := by
    intro j b hin
    obtain ⟨hne, c, hc⟩ := (h.mem_global j b).1 hin
    exact hmem j ⟨hne, _, hc⟩
  have hroute : ∀ j i, j ∈ L.route i → j ≠ a := by
    intro j i hin
    obtain ⟨hne, c, hc, _⟩ := (h.mem_route j i).1 hin
    exact hmem j ⟨hne, _, hc⟩
  have hne : ∀ j, j ≠ a → (out ≠ some j ↔ some a ≠ some j) := by
    intro j hj
    rcases hout with ⟨rfl, _⟩ | rfl <;> simp [Ne.symm hj]
  refine ⟨?_, ?_, ?_, ?_⟩
  · rw [hlist]
    refine h.global.congr fun b j hj => ?_
    rw [view, view, hmap j (hglobal j b hj)]
  · rw [hends]
    refine h.route.congr fun i j hj => ?_
    rw [view, view, hmap j (hroute j i hj)]
  · intro j b
    by_cases hj : j = a
    · subst hj
      exact ⟨fun hin => absurd rfl (hglobal j b hin), fun hin => absurd rfl hin.1⟩
    · rw [h.mem_global, hcore j hj, hne j hj]
  · intro j i
    by_cases hj : j = a
    · subst hj
      exact ⟨fun hin => absurd rfl (hroute j i hin), fun hin => absurd rfl hin.1⟩
    · rw [h.mem_route, hcore j hj, hne j hj]

lemma close (h : Tracks d L (some a)) (hcore : d.core a = none) : Tracks d L none := by
  refine ⟨h.global, h.route, ?_, ?_⟩
  · intro j b
    rw [h.mem_global]
    refine and_congr_left fun hc => ⟨fun _ => by simp, fun _ => ?_⟩
    rintro ⟨⟩
    obtain ⟨c, hc⟩ := hc
    rw [hcore] at hc
    cases hc
  · intro j i
    rw [h.mem_route]
    refine and_congr_left fun hc => ⟨fun _ => by simp, fun _ => ?_⟩
    rintro ⟨⟩
    obtain ⟨c, hc, _⟩ := hc
    rw [hcore] at hc
    cases hc

end Tracks

end Demuxer

end Pulsebeam.Shard
