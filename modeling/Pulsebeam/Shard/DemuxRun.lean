import Pulsebeam.Shard.DemuxLists

/-! Authenticated flows stay in the cache whatever comes from other addresses. -/

namespace Pulsebeam.Shard

open Function Option List Lib Demux

variable {Addr : Type} [LinearOrder Addr]

namespace Demuxer

variable {d d' : Demuxer Addr} {L L' : Listing Addr} {a src : Addr} {c c' : NodeTransportAddress} {b b' : Bool} {r : ℕ}

section Counts

def authenticatedCount (d : Demuxer Addr) : ℕ := d.addrMap.countIf (·.authenticated)

def authenticatedOf (d : Demuxer Addr) (route : ℕ) : ℕ :=
  d.addrMap.countIf fun e => e.authenticated && e.address.route = route

variable (h : Tracks d L none)

include h

lemma Tracks.authenticatedCount_eq : d.authenticatedCount = (L.global true).length := by
  refine OrdMap.countIf_eq_length _ (h.global.chain true).nodup fun k => ?_
  rw [h.mem_global]
  simp [core_eq_some]

lemma Tracks.authenticatedOf_eq (r : ℕ) : d.authenticatedOf r = (L.route (r, true)).length := by
  refine OrdMap.countIf_eq_length _ (h.route.chain _).nodup fun k => ?_
  rw [h.mem_route]
  constructor
  · rintro ⟨_, c, hc, hr⟩
    obtain ⟨e, he, rfl, hb⟩ := core_eq_some.1 hc
    exact ⟨e, he, by simpa [hr] using hb⟩
  · rintro ⟨e, he, hp⟩
    obtain ⟨hb, hr⟩ := Bool.and_eq_true_iff.1 hp
    exact ⟨by simp, e.address, core_eq_some.2 ⟨e, he, rfl, hb⟩, of_decide_eq_true hr⟩

lemma Tracks.size_eq : d.addrMap.size = (L.global false).length + (L.global true).length := by
  rw [OrdMap.size_eq_countIf, ← length_append]
  refine OrdMap.countIf_eq_length _ ?_ fun k => ?_
  · refine nodup_append.2 ⟨(h.global.chain false).nodup, (h.global.chain true).nodup, ?_⟩
    rintro j hj _ hj' rfl
    cases h.global.disjoint hj hj'
  · rw [mem_append, h.mem_global, h.mem_global]
    constructor
    · rintro (⟨_, c, hc⟩ | ⟨_, c, hc⟩) <;> obtain ⟨e, he, _⟩ := core_eq_some.1 hc <;> exact ⟨e, he, rfl⟩
    · rintro ⟨e, he, _⟩
      cases hb : e.authenticated with
      | false => exact .inl ⟨by simp, e.address, core_eq_some.2 ⟨e, he, rfl, hb⟩⟩
      | true => exact .inr ⟨by simp, e.address, core_eq_some.2 ⟨e, he, rfl, hb⟩⟩

lemma Tracks.routeLen_eq (r : ℕ) : d.routeLen r = (L.route (r, false)).length + (L.route (r, true)).length := by
  rw [← (h.route.chain _).len, ← (h.route.chain _).len, routeLen, routeEnds, routeEnds, routeLists]
  cases d.routeAddrs.get? r <;> rfl

lemma Tracks.mem_members : a ∈ L.route (r, false) ++ L.route (r, true) ↔ ∃ x, d.core a = some x ∧ x.1.route = r := by
  rw [mem_append, h.mem_route, h.mem_route]
  constructor
  · rintro (⟨-, c, hc, hr⟩ | ⟨-, c, hc, hr⟩) <;> exact ⟨_, hc, hr⟩
  · rintro ⟨⟨c, b⟩, hc, hr⟩
    cases b with
    | false => exact .inl ⟨by simp, c, hc, hr⟩
    | true => exact .inr ⟨by simp, c, hc, hr⟩

lemma Tracks.routeLen_le {l : List Addr} (hl : ∀ a x, d.core a = some x → x.1.route = r → a ∈ l) :
    d.routeLen r ≤ l.length := by
  rw [h.routeLen_eq, ← length_append]
  refine (Nodup.subperm (nodup_append.2 ⟨(h.route.chain _).nodup, (h.route.chain _).nodup, ?_⟩) ?_).length_le
  · rintro j hj _ hj' rfl
    cases h.route.disjoint hj hj'
  · intro a ha
    obtain ⟨x, hx, hr⟩ := h.mem_members.1 ha
    exact hl a x hx hr

def Fits (d : Demuxer Addr) : Prop := ∀ r, d.routeLen r ≤ maxAddrsPerRoute

lemma Tracks.fits (h' : Tracks d' L' none)
    (hsub : ∀ j x, d'.core j = some x → ∃ y, d.core j = some y ∧ y.1.route = x.1.route) (hf : d.Fits) : d'.Fits := by
  intro r
  refine le_trans ?_ (hf r)
  rw [h.routeLen_eq, ← length_append]
  refine h'.routeLen_le fun a x hx hr => h.mem_members.2 ?_
  obtain ⟨y, hy, heq⟩ := hsub a x hx
  exact ⟨y, hy, heq.trans hr⟩

end Counts

lemma removeEntry_spec (h : Tracks d L none) (a : Addr) :
    ∃ L', Tracks (d.removeEntry a) L' none ∧ L'.Shrinks L ∧ (d.removeEntry a).core = Function.update d.core a none := by
  cases hget : d.addrMap.get? a with
  | none =>
    have hcore : d.core a = none := by rw [core, view, hget]; rfl
    refine ⟨L, ?_, .refl L, ?_⟩ <;> rw [removeEntry, hget]
    · exact h
    · rw [← hcore, update_eq_self]
  | some e =>
    have hcore : d.core a = some _ := core_eq_some.2 ⟨e, hget, rfl, rfl⟩
    obtain ⟨htracks, hsame⟩ := h.detach hcore
    have hcore' : (d.removeEntry a).core = Function.update d.core a none := by
      funext j
      rw [removeEntry, hget, ← hsame, core, view, OrdMap.get?_erase_eq_update]
      exact apply_update (fun _ => Option.map _) _ a none j
    refine ⟨L.remove a, Tracks.close ?_ (by rw [hcore', update_self]), L.shrinks_remove a, hcore'⟩
    rw [removeEntry, hget]
    exact htracks.of_agree rfl rfl (fun j hj => OrdMap.get?_erase_of_ne hj) (.inr rfl)

lemma touch_spec (h : Tracks d L none) : ∃ L', Tracks (d.touch a) L' none ∧ (d.touch a).core = d.core := by
  cases hget : d.addrMap.get? a with
  | none =>
    refine ⟨L, ?_, ?_⟩ <;> rw [touch, hget]
    exact h
  | some e =>
    have hcore : d.core a = some _ := core_eq_some.2 ⟨e, hget, rfl, rfl⟩
    obtain ⟨htracks, hsame⟩ := h.detach hcore
    obtain ⟨htracks, hsame'⟩ := htracks.attach (hsame ▸ hcore)
    refine ⟨(L.remove a).push a e.address.route e.authenticated, ?_, ?_⟩ <;> rw [touch, hget]
    · exact htracks
    · exact hsame'.trans hsame

lemma relink_spec (h : Tracks d L none) (hcore : d.core a = some (c, b)) (hr : c'.route = c.route) :
    ∃ L', Tracks (d.relink a c' b') L' none ∧ (d.relink a c' b').core = Function.update d.core a (some (c', b')) := by
  obtain ⟨htracks, hsame⟩ := h.detach hcore
  rw [← hr] at htracks hsame
  generalize hd1 : (d.unlinkGlobal a).unlinkRoute a c'.route = d1 at htracks hsame
  have hmap : ∀ j ≠ a, (d1.addrMap.modify a ({ · with address := c', authenticated := b' })).get? j = d1.addrMap.get? j := by
    intro j hj
    rw [OrdMap.get?_modify, if_neg hj]
  have hcore2 : core { d1 with addrMap := d1.addrMap.modify a ({ · with address := c', authenticated := b' }) } =
      Function.update d.core a (some (c', b')) := by
    funext j
    by_cases hj : j = a
    · subst hj
      obtain ⟨e, he, _, _⟩ := core_eq_some.1 (hsame ▸ hcore)
      rw [core, view, OrdMap.get?_modify, if_pos rfl, he, update_self]
      rfl
    · rw [core, view, hmap j hj, update_of_ne hj, ← hsame]
      rfl
  have htracks2 : Tracks { d1 with addrMap := d1.addrMap.modify a ({ · with address := c', authenticated := b' }) }
      (L.remove a) (some a) := htracks.of_agree rfl rfl hmap (.inr rfl)
  obtain ⟨htracks3, hsame3⟩ := htracks2.attach (c := c') (b := b') (by rw [hcore2, update_self])
  refine ⟨(L.remove a).push a c'.route b', ?_, ?_⟩
  · rw [relink, hd1]
    exact htracks3
  · rw [relink, hd1]
    exact hsame3.trans hcore2

section Evict

lemma evictGlobal_eq (h : Tracks d L none) :
    d.evictGlobal = d ∨ ∃ v, d.evictGlobal = d.removeEntry v ∧ (v ∈ L.global false ∨ L.global false = []) := by
  have hfalse : d.unauthenticated.tail = (L.global false).getLast? := (h.global.chain false).tail
  rw [evictGlobal, hfalse]
  cases hlast : (L.global false).getLast? with
  | some v => exact .inr ⟨v, rfl, .inl (mem_of_getLast? hlast)⟩
  | none =>
    have hnil := getLast?_eq_none_iff.1 hlast
    cases d.authenticated.tail with
    | none => exact .inl rfl
    | some v => exact .inr ⟨v, rfl, .inr hnil⟩

lemma evictRoute_eq (h : Tracks d L none) :
    d.evictRoute r = d ∨ ∃ v, d.evictRoute r = d.removeEntry v ∧
      (v ∈ L.route (r, false) ∨ L.route (r, false) = [] ∧ v ∈ L.route (r, true)) := by
  unfold evictRoute
  cases hget : d.routeAddrs.get? r with
  | none => exact .inl rfl
  | some lists =>
    have hlists : d.routeLists r = lists := by rw [routeLists, hget]; rfl
    have hfalse : lists.unauthenticated.tail = (L.route (r, false)).getLast? := by
      rw [← (h.route.chain _).tail, routeEnds, hlists]
      rfl
    have htrue : lists.authenticated.tail = (L.route (r, true)).getLast? := by
      rw [← (h.route.chain _).tail, routeEnds, hlists]
      rfl
    rw [bind_some, hfalse, htrue]
    cases hlast : (L.route _).getLast? with
    | some v => exact .inr ⟨v, rfl, .inl (mem_of_getLast? hlast)⟩
    | none =>
      have hnil := getLast?_eq_none_iff.1 hlast
      cases hlast' : (L.route _).getLast? with
      | none => exact .inl rfl
      | some v => exact .inr ⟨v, rfl, .inr ⟨hnil, mem_of_getLast? hlast'⟩⟩

structure Kept (L : Listing Addr) (d : Demuxer Addr) (a : Addr) (c : NodeTransportAddress) : Prop where
  core : d.core a = some (c, true)
  global : (L.global true).length < maxAddrEntries
  route : (L.route (c.route, true)).length < maxAddrsPerRoute

lemma Kept.of_shrinks (h : Kept L d a c) (hL : L'.Shrinks L) (hcore : d'.core a = d.core a) : Kept L' d' a c :=
  ⟨hcore.trans h.core, (hL.global true).trans_lt h.global, (hL.route _).trans_lt h.route⟩

lemma Kept.removeEntry (h : Kept L d a c) (hL : L'.Shrinks L) {v : Addr} (hv : v ≠ a)
    (hcore : d'.core = Function.update d.core v none) : Kept L' d' a c :=
  h.of_shrinks hL (by rw [hcore, update_of_ne hv.symm])

lemma of_update_none (hcore : d'.core = Function.update d.core a none) :
    ∀ j x, d'.core j = some x → d.core j = some x := by
  intro j x hj
  rw [hcore, update_apply] at hj
  split at hj
  · cases hj
  · exact hj

structure Evicts (d : Demuxer Addr) (L : Listing Addr) (d' : Demuxer Addr) (L' : Listing Addr) : Prop where
  tracks : Tracks d' L' none
  sub : ∀ j x, d'.core j = some x → d.core j = some x
  kept : ∀ a c, Kept L d a c → Kept L' d' a c

lemma Evicts.refl (h : Tracks d L none) : Evicts d L d L := ⟨h, fun _ _ hj => hj, fun _ _ hk => hk⟩

lemma Tracks.evicts {Q : Addr → Prop} (h : Tracks d L none) (hd : d' = d ∨ ∃ v, d' = d.removeEntry v ∧ Q v)
    (hQ : ∀ v c, Q v → ¬ Kept L d v c) : ∃ L', Evicts d L d' L' := by
  rcases hd with rfl | ⟨v, rfl, hv⟩
  · exact ⟨L, .refl h⟩
  obtain ⟨L', htracks, hL, hcore⟩ := removeEntry_spec h v
  refine ⟨L', htracks, of_update_none hcore, fun a c hk => hk.removeEntry hL ?_ hcore⟩
  rintro rfl
  exact hQ _ c hv hk

lemma Tracks.evictGlobal (h : Tracks d L none) (hfull : maxAddrEntries ≤ d.addrMap.size) :
    ∃ L', Evicts d L d.evictGlobal L' := by
  refine h.evicts (evictGlobal_eq h) fun v c hv hk => ?_
  rcases hv with hv | hnil
  · obtain ⟨_, c', hc'⟩ := (h.mem_global v false).1 hv
    rw [hk.core] at hc'
    cases hc'
  have hsize := h.size_eq
  have hlt := hk.global
  rw [hnil, length_nil] at hsize
  omega

lemma Tracks.evictRoute (h : Tracks d L none) (hfull : maxAddrsPerRoute ≤ d.routeLen r) :
    ∃ L', Evicts d L (d.evictRoute r) L' := by
  refine h.evicts (evictRoute_eq h) fun v c hv hk => ?_
  rcases hv with hv | ⟨hnil, hv⟩
  · obtain ⟨_, c', hc', _⟩ := (h.mem_route v _).1 hv
    rw [hk.core] at hc'
    cases hc'
  obtain ⟨_, c', hc', hr⟩ := (h.mem_route v (r, true)).1 hv
  rw [hk.core] at hc'
  cases hc'
  obtain hr : c.route = r := hr
  have hlen := h.routeLen_eq r
  have hlt := hk.route
  rw [hnil, length_nil] at hlen
  rw [hr] at hlt
  omega

lemma admission_spec (h : Tracks d L none) (hsrc : d.core src = none) :
    ∃ L', Tracks (d.admission src c b) L' none ∧
      (∀ a c', Kept L d a c' → a ≠ src → (d.admission src c b).core a = some (c', true)) ∧
      (d.Fits → (d.admission src c b).Fits) := by
  unfold admission
  obtain ⟨d1, hd1, L1, h1⟩ : ∃ d1, d1 = (if maxAddrEntries ≤ d.addrMap.size then d.evictGlobal else d) ∧
      ∃ L1, Evicts d L d1 L1 := by
    refine ⟨_, rfl, ?_⟩
    split
    next hfull => exact h.evictGlobal hfull
    · exact ⟨L, .refl h⟩
  obtain ⟨d2, hd2, L2, h2, hsub2, hkept2⟩ : ∃ d2,
      d2 = (if maxAddrsPerRoute ≤ d1.routeLen c.route then d1.evictRoute c.route else d1) ∧ ∃ L2, Evicts d L d2 L2 := by
    refine ⟨_, rfl, ?_⟩
    split
    next hfull =>
      obtain ⟨L2, h2⟩ := h1.tracks.evictRoute hfull
      exact ⟨L2, h2.tracks, fun j x hj => h1.sub j x (h2.sub j x hj), fun a c hk => h2.kept a c (h1.kept a c hk)⟩
    · exact ⟨L1, h1⟩
  have hsrc2 : d2.core src = none := by
    by_contra hne
    obtain ⟨x, hx⟩ := ne_none_iff_exists'.1 hne
    rw [hsub2 src x hx] at hsrc
    cases hsrc
  have hfits2 := h.fits h2 fun j x hj => ⟨x, hsub2 j x hj, rfl⟩
  dsimp only
  rw [← hd1, ← hd2]
  split
  · exact ⟨L2, h2, fun a c' hk _ => (hkept2 a c' hk).core, hfits2⟩
  next hroom =>
    have hmap : ∀ j ≠ src, (d2.addrMap.insert src { address := c, authenticated := b }).get? j = d2.addrMap.get? j :=
      fun j hj => OrdMap.get?_insert_of_ne hj
    have hcore3 : core { d2 with addrMap := d2.addrMap.insert src { address := c, authenticated := b } } =
        Function.update d2.core src (some (c, b)) := by
      funext j
      rw [core, view, OrdMap.get?_insert_eq_update]
      exact apply_update (fun _ => Option.map _) _ src _ j
    have h3 : Tracks { d2 with addrMap := d2.addrMap.insert src { address := c, authenticated := b } } L2 _ :=
      h2.of_agree rfl rfl hmap (.inl ⟨rfl, hsrc2⟩)
    obtain ⟨h4, hcore4⟩ := h3.attach (by rw [hcore3, update_self])
    have hcore : _ = Function.update d2.core src (some (c, b)) := hcore4.trans hcore3
    refine ⟨_, h4, fun a c' hk hne => ?_, fun hf r => ?_⟩
    · rw [hcore, update_of_ne hne]
      exact (hkept2 a c' hk).core
    · have hnew : ∀ a x, Function.update d2.core src (some (c, b)) a = some x →
          a = src ∧ x.1 = c ∨ d2.core a = some x := by
        intro a x hx
        by_cases ha : a = src
        · subst ha
          rw [update_self] at hx
          cases hx
          exact .inl ⟨rfl, rfl⟩
        · exact .inr (update_of_ne ha _ d2.core ▸ hx)
      have hlen := h2.routeLen_eq r
      rw [← length_append] at hlen
      by_cases hr : r = c.route
      · refine (h4.routeLen_le (l := src :: (L2.route (r, false) ++ L2.route (r, true))) fun a x hx hxr => ?_).trans ?_
        · rcases hnew a x (hcore ▸ hx) with ⟨rfl, -⟩ | hx
          · exact mem_cons_self
          · exact mem_cons_of_mem _ (h2.mem_members.2 ⟨x, hx, hxr⟩)
        · rw [length_cons, ← hlen, hr]
          omega
      · refine (h4.routeLen_le (l := L2.route (r, false) ++ L2.route (r, true)) fun a x hx hxr => ?_).trans ?_
        · rcases hnew a x (hcore ▸ hx) with ⟨-, rfl⟩ | hx
          · exact absurd hxr.symm hr
          · exact h2.mem_members.2 ⟨x, hx, hxr⟩
        · rw [← hlen]
          exact hfits2 hf r

end Evict

structure Spares (L : Listing Addr) (d d' : Demuxer Addr) (src : Addr) : Prop where
  tracks : ∃ L', Tracks d' L' none
  kept : ∀ a c, Kept L d a c → a ≠ src → d'.core a = some (c, true)
  fits : d.Fits → d'.Fits

section

variable (h : Tracks d L none)

include h

lemma Spares.refl : Spares L d d src := ⟨⟨L, h⟩, fun _ _ hk _ => hk.core, fun hf => hf⟩

lemma touch_spares : Spares L d (d.touch src) src := by
  obtain ⟨L', htracks, hcore⟩ := touch_spec h
  exact ⟨⟨L', htracks⟩, fun a c hk _ => hcore ▸ hk.core, h.fits htracks fun j x hj => ⟨x, hcore ▸ hj, rfl⟩⟩

lemma relink_spares (hcore : d.core src = some (c, b)) (hr : c'.route = c.route) :
    Spares L d (d.relink src c' b') src := by
  obtain ⟨L', htracks, hcore'⟩ := relink_spec h hcore hr
  refine ⟨⟨L', htracks⟩, fun a c hk hne => ?_, h.fits htracks fun j x hj => ?_⟩
  · rw [hcore', update_of_ne hne]
    exact hk.core
  · rw [hcore', update_apply] at hj
    split at hj
    next heq =>
      cases hj
      exact ⟨_, heq ▸ hcore, hr.symm⟩
    · exact ⟨x, hj, rfl⟩

lemma readmission_spares : Spares L d ((d.removeEntry src).admission src c false) src := by
  obtain ⟨L1, h1, hL, hcore⟩ := removeEntry_spec h src
  obtain ⟨L2, h2, hkept, hfits⟩ := admission_spec h1 (by rw [hcore, update_self])
  exact ⟨⟨L2, h2⟩, fun a c' hk hne => hkept a c' (hk.removeEntry hL hne.symm hcore) hne,
    fun hf => hfits (h.fits h1 (fun j x hj => ⟨x, of_update_none hcore j x hj, rfl⟩) hf)⟩

lemma cached_spares : Spares L d (d.cached src).1 src := by
  unfold cached
  split
  · exact .refl h
  · exact touch_spares h

lemma demux_spares {data : Steer.Bytes} : Spares L d (d.demux src data).1 src := by
  unfold demux
  split
  · exact cached_spares h
  split
  · dsimp only
    split
    · exact touch_spares h
    · exact readmission_spares h
  · exact cached_spares h

lemma learn_spares : Spares L d (d.learn src c) src := by
  unfold learn
  split
  next hget =>
    obtain ⟨L', htracks, hkept, hfits⟩ := admission_spec h (by rw [core, view, hget]; rfl)
    exact ⟨⟨L', htracks⟩, hkept, hfits⟩
  next entry hget =>
    split
    next hr => exact relink_spares h (core_eq_some.2 ⟨entry, hget, rfl, rfl⟩) hr.symm
    · exact readmission_spares h

lemma authenticate_spares : Spares L d (d.authenticate src c) src := by
  unfold authenticate
  split
  · exact .refl h
  next entry hget =>
    split
    next heq =>
      split
      · exact touch_spares h
      · exact relink_spares h (core_eq_some.2 ⟨entry, hget, heq, rfl⟩) rfl
    · exact .refl h

lemma mem_of_routeHead {v : Addr}
    (hv : ((d.routeAddrs.get? r).bind fun lists => lists.unauthenticated.head.or lists.authenticated.head) = some v) :
    ∃ b, v ∈ L.route (r, b) := by
  obtain ⟨lists, hget, hhead⟩ := bind_eq_some_iff.1 hv
  have hlists : d.routeLists r = lists := by rw [routeLists, hget]; rfl
  have hends : ∀ b, (lists.list b).head = (L.route (r, b)).head? := by
    intro b
    rw [← (h.route.chain _).head, routeEnds, hlists]
  rcases or_eq_some_iff.1 hhead with hhead | ⟨_, hhead⟩
  · exact ⟨false, mem_of_head? ((hends false).symm.trans hhead)⟩
  · exact ⟨true, mem_of_head? ((hends true).symm.trans hhead)⟩

end

lemma unregisterLoop_spec (r room : ℕ) (freed : List Addr) (h : Tracks d L none) {x : Demuxer Addr × List Addr}
    (hx : unregisterLoop r room d freed = some x) : (∃ L', Tracks x.1 L' none) ∧ (d.Fits → x.1.Fits) ∧
      ∀ a c, d.core a = some (c, true) → c.route ≠ r → x.1.core a = some (c, true) := by
  induction room generalizing d L freed with
  | zero =>
    rw [unregisterLoop] at hx
    split at hx
    · cases hx
      exact ⟨⟨L, h⟩, fun hf => hf, fun _ _ hcore _ => hcore⟩
    · cases hx
  | succ room ih =>
    rw [unregisterLoop] at hx
    split at hx
    · cases hx
      exact ⟨⟨L, h⟩, fun hf => hf, fun _ _ hcore _ => hcore⟩
    next v hv =>
      obtain ⟨L1, h1, _, hcore1⟩ := removeEntry_spec h v
      obtain ⟨htracks, hfits, hkept⟩ := ih _ h1 hx
      refine ⟨htracks, fun hf => hfits (h.fits h1 (fun j x hj => ⟨x, of_update_none hcore1 j x hj, rfl⟩) hf),
        fun a c hcore hr => hkept a c ?_ hr⟩
      rw [hcore1, update_of_ne ?_, hcore]
      rintro rfl
      obtain ⟨b, hb⟩ := mem_of_routeHead h hv
      obtain ⟨_, c', hc', hr'⟩ := (h.mem_route a _).1 hb
      rw [hcore] at hc'
      cases hc'
      exact hr hr'

inductive Op (Addr : Type)
  | demux (src : Addr) (data : Steer.Bytes)
  | learn (src : Addr) (address : NodeTransportAddress)
  | authenticate (src : Addr) (address : NodeTransportAddress)
  | unregister (route : ℕ)

def step (d : Demuxer Addr) : Op Addr → Demuxer Addr
  | .demux src data => (d.demux src data).1
  | .learn src address => d.learn src address
  | .authenticate src address => d.authenticate src address
  | .unregister route => (d.unregister route).elim d (·.1)

def machine (Addr : Type) [LinearOrder Addr] : Machine (Demuxer Addr) (Op Addr) where
  init d := ∃ clusterId nodeId shardCount, d = forNode clusterId nodeId shardCount
  guard _ _ := True
  step := step

def Op.Elsewhere (a : Addr) (route : ℕ) : Op Addr → Prop
  | .demux src _ => src ≠ a
  | .learn src _ => src ≠ a
  | .authenticate src _ => src ≠ a
  | .unregister route' => route' ≠ route

instance (a : Addr) (route : ℕ) : (op : Op Addr) → Decidable (op.Elsewhere a route)
  | .demux src _ => inferInstanceAs (Decidable (src ≠ a))
  | .learn src _ => inferInstanceAs (Decidable (src ≠ a))
  | .authenticate src _ => inferInstanceAs (Decidable (src ≠ a))
  | .unregister route' => inferInstanceAs (Decidable (route' ≠ route))

def elsewhere (a : Addr) (route : ℕ) : Machine (Demuxer Addr) (Op Addr) where
  init _ := True
  guard d op := op.Elsewhere a route ∧ d.authenticatedOf route < maxAddrsPerRoute ∧ d.authenticatedCount < maxAddrEntries
  step := step

instance (a : Addr) (route : ℕ) (d : Demuxer Addr) (op : Op Addr) : Decidable ((elsewhere a route).guard d op) :=
  inferInstanceAs (Decidable (op.Elsewhere a route ∧ _ ∧ _))

lemma tracks_forNode {clusterId nodeId shardCount : UInt16} :
    Tracks (forNode clusterId nodeId shardCount : Demuxer Addr) ⟨fun _ => [], fun _ => []⟩ none := by
  refine ⟨⟨?_, ?_⟩, ⟨?_, ?_⟩, ?_, ?_⟩
  · rintro (_ | _) <;> exact .nil _
  · intro _ _ _ hk
    cases hk
  · rintro ⟨r, _ | _⟩ <;> exact .nil _
  · intro _ _ _ hk
    cases hk
  · intro a b
    exact ⟨nofun, fun ⟨_, _, hc⟩ => (nomatch hc)⟩
  · intro a i
    exact ⟨nofun, fun ⟨_, _, hc, _⟩ => (nomatch hc)⟩

lemma step_tracks (h : Tracks d L none) {op : Op Addr} : (∃ L', Tracks (d.step op) L' none) ∧ (d.Fits → (d.step op).Fits) := by
  cases op with
  | demux src data => exact ⟨(demux_spares h).tracks, (demux_spares h).fits⟩
  | learn src address => exact ⟨(learn_spares h).tracks, (learn_spares h).fits⟩
  | authenticate src address => exact ⟨(authenticate_spares h).tracks, (authenticate_spares h).fits⟩
  | unregister route =>
    simp only [step]
    cases hx : d.unregister route with
    | none => exact ⟨⟨L, h⟩, fun hf => hf⟩
    | some x => exact ⟨(unregisterLoop_spec route _ [] h hx).1, (unregisterLoop_spec route _ [] h hx).2.1⟩

lemma tracks_of_reachable (h : (machine Addr).Reachable d) : (∃ L, Tracks d L none) ∧ d.Fits := by
  refine h.invariant (I := fun d => (∃ L, Tracks d L none) ∧ d.Fits) ?_ ?_
  · rintro s ⟨clusterId, nodeId, shardCount, rfl⟩
    exact ⟨⟨_, tracks_forNode⟩, fun _ => Nat.zero_le _⟩
  · rintro s op ⟨⟨L, hL⟩, hf⟩ _
    exact (step_tracks hL).imp_right fun hfits => hfits hf

lemma step_kept (h : Tracks d L none) (hcore : d.core a = some (c, true)) {op : Op Addr}
    (hop : (elsewhere a c.route).guard d op) : (d.step op).core a = some (c, true) := by
  obtain ⟨hop, hroute, hglobal⟩ := hop
  have hkept : Kept L d a c := ⟨hcore, h.authenticatedCount_eq ▸ hglobal, h.authenticatedOf_eq c.route ▸ hroute⟩
  cases op with
  | demux src data => exact (demux_spares h).kept a c hkept (Ne.symm hop)
  | learn src address => exact (learn_spares h).kept a c hkept (Ne.symm hop)
  | authenticate src address => exact (authenticate_spares h).kept a c hkept (Ne.symm hop)
  | unregister route =>
    simp only [step]
    cases hx : d.unregister route with
    | none => exact hcore
    | some x => exact (unregisterLoop_spec route _ [] h hx).2.2 a c hcore (Ne.symm hop)

lemma run_kept (h : Tracks d L none) (hcore : d.core a = some (c, true)) {ops : List (Op Addr)}
    (hops : (elsewhere a c.route).Admits d ops) : (ops.foldl step d).core a = some (c, true) := by
  induction ops generalizing d L with
  | nil => exact hcore
  | cons op ops ih =>
    obtain ⟨hop, hops⟩ := hops
    obtain ⟨⟨L', h'⟩, -⟩ := step_tracks h
    exact ih h' (step_kept h hcore hop) hops

theorem authenticated_flow_stays (d : Demuxer Addr) (h : (machine Addr).Reachable d) (a : Addr) (e : CachedRoute Addr)
    (he : d.addrMap.get? a = some e) (hauth : e.authenticated = true) (ops : List (Op Addr))
    (hops : (elsewhere a e.address.route).Admits d ops) :
    ∃ e', (ops.foldl step d).addrMap.get? a = some e' ∧ e'.address = e.address ∧ e'.authenticated = true := by
  obtain ⟨⟨L, hL⟩, -⟩ := tracks_of_reachable h
  exact core_eq_some.1 (run_kept hL (core_eq_some.2 ⟨e, he, rfl, hauth⟩) hops)

def flood : List (Op ℕ) :=
  (List.range 20).map (fun i => .learn (i + 1) ⟨7, 3⟩) ++
    [.demux 30 Steer.bindingRequest, .demux 31 [0], .authenticate 5 ⟨7, 3⟩, .authenticate 20 ⟨7, 3⟩, .unregister 8]

theorem authenticated_flow_stays_in_flood :
    ∃ e, (flood.foldl step (((forNode 0xABC 0x1234 8).learn 0 ⟨7, 3⟩).authenticate 0 ⟨7, 3⟩)).addrMap.get? 0 = some e ∧
      e.address = ⟨7, 3⟩ ∧ e.authenticated = true := by
  have hreach : (machine ℕ).Reachable (((forNode 0xABC 0x1234 8).learn 0 ⟨7, 3⟩).authenticate 0 ⟨7, 3⟩) :=
    .step (M := machine ℕ) (.authenticate 0 ⟨7, 3⟩)
      (.step (M := machine ℕ) (.learn 0 ⟨7, 3⟩) (.init ⟨0xABC, 0x1234, 8, rfl⟩) trivial) trivial
  exact authenticated_flow_stays _ hreach 0 ⟨⟨7, 3⟩, true, {}, {}⟩ (by decide +kernel) rfl flood (by decide +kernel)

end Demuxer

end Pulsebeam.Shard
