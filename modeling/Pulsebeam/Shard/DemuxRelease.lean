import Pulsebeam.Shard.DemuxRun

/-! The cache frees with a route exactly what it holds for it. -/

namespace Pulsebeam.Shard.Demuxer

open Lib Demux Option

variable {Addr : Type} [LinearOrder Addr] {d : Demuxer Addr} {L : Listing Addr}

lemma Tracks.routeHead (h : Tracks d L none) (r : ℕ) :
    ((d.routeAddrs.get? r).bind fun lists => lists.unauthenticated.head.or lists.authenticated.head) =
      (L.route (r, false)).head?.or (L.route (r, true)).head? := by
  rw [← (h.route.chain _).head, ← (h.route.chain _).head, routeEnds, routeEnds, routeLists]
  cases d.routeAddrs.get? r <;> rfl

-- Every address freed leaves its route, so the room that is left covers the addresses that are left.
lemma unregisterLoop_frees (h : Tracks d L none) (r : ℕ) {room : ℕ} (hroom : d.routeLen r ≤ room) (freed : List Addr) :
    ∃ d' l, unregisterLoop r room d freed = some (d', freed ++ l) ∧ l.length ≤ room ∧ l.Nodup ∧
      (∀ a, a ∈ l ↔ ∃ x, d.core a = some x ∧ x.1.route = r) ∧ ∀ a, d'.core a = if a ∈ l then none else d.core a := by
  induction room generalizing d L freed with
  | zero =>
    rw [h.routeLen_eq, ← List.length_append, Nat.le_zero, List.length_eq_zero_iff] at hroom
    obtain ⟨hfalse, htrue⟩ := List.append_eq_nil_iff.1 hroom
    refine ⟨d, [], ?_, le_rfl, .nil, fun a => ?_, by simp⟩
    · rw [unregisterLoop, h.routeHead, hfalse, htrue, List.append_nil]
      rfl
    · rw [← h.mem_members, hroom]
  | succ room ih =>
    rw [unregisterLoop]
    split
    next hhead =>
      rw [h.routeHead, or_eq_none_iff, List.head?_eq_none_iff, List.head?_eq_none_iff] at hhead
      refine ⟨d, [], by rw [List.append_nil], Nat.zero_le _, .nil, fun a => ?_, by simp⟩
      rw [← h.mem_members, hhead.1, hhead.2, List.append_nil]
    next v hv =>
      obtain ⟨b, hb⟩ := mem_of_routeHead h hv
      obtain ⟨-, c, hc, hr⟩ := (h.mem_route v _).1 hb
      have hv := (h.mem_members (r := r)).2 ⟨_, hc, hr⟩
      obtain ⟨L', h', -, hcore⟩ := removeEntry_spec h v
      have hless : (d.removeEntry v).routeLen r ≤ room := by
        refine (h'.routeLen_le (l := (L.route (r, false) ++ L.route (r, true)).erase v) fun a x hx hxr => ?_).trans ?_
        · refine (List.mem_erase_of_ne ?_).2 (h.mem_members.2 ⟨x, of_update_none hcore a x hx, hxr⟩)
          rintro rfl
          rw [hcore, Function.update_self] at hx
          cases hx
        · rw [List.length_erase_of_mem hv, List.length_append, ← h.routeLen_eq]
          omega
      obtain ⟨d', l, hl, hlen, hnodup, hmem, hrest⟩ := ih h' hless (freed ++ [v])
      simp only [hcore, Function.update_apply] at hmem hrest
      refine ⟨d', v :: l, hl.trans (by rw [List.append_assoc]; rfl), Nat.succ_le_succ hlen,
        List.nodup_cons.2 ⟨by simp [hmem], hnodup⟩, fun j => ?_, fun j => ?_⟩
      · grind
      · grind

/-- The lists of the cache stay whole and no route holds more addresses than the buffer for the freed ones takes, so
unregistering a route returns, and with it go exactly the addresses held for it, each once. -/
theorem unregister_frees_route (h : (machine Addr).Reachable d) :
    (∃ L : Listing Addr, Tracks d L none) ∧ ∀ r, d.routeLen r ≤ maxAddrsPerRoute ∧
      ∃ d' freed, d.unregister r = some (d', freed) ∧ freed.length ≤ maxAddrsPerRoute ∧ freed.Nodup ∧
        (∀ a, a ∈ freed ↔ ∃ e, d.addrMap.get? a = some e ∧ e.address.route = r) ∧
        ∀ a, d'.core a = if a ∈ freed then none else d.core a := by
  obtain ⟨⟨L, hL⟩, hfits⟩ := tracks_of_reachable h
  refine ⟨⟨L, hL⟩, fun r => ⟨hfits r, ?_⟩⟩
  obtain ⟨d', freed, hfreed, hlen, hnodup, hmem, hrest⟩ := unregisterLoop_frees hL r (hfits r) []
  refine ⟨d', freed, hfreed, hlen, hnodup, fun a => (hmem a).trans ?_, hrest⟩
  simp [core, view, CachedRoute.core]

private def twoRoutes : List (Op ℕ) :=
  [.learn 5 ⟨7, 3⟩, .learn 9 ⟨8, 3⟩, .learn 6 ⟨7, 3⟩, .authenticate 5 ⟨7, 3⟩]

theorem unregister_frees_two : ∃ d', (twoRoutes.foldl step (forNode 1 2 3)).unregister 7 = some (d', [6, 5]) ∧
    d'.core 9 = some (⟨8, 3⟩, false) := by
  obtain ⟨d', freed, (hfreed : (twoRoutes.foldl step _).unregister 7 = _), -, -, -, hrest⟩ := ((unregister_frees_route
    (Machine.Reachable.run (M := machine ℕ) (.init ⟨1, 2, 3, rfl⟩)
    (Machine.admits_of_forall (fun _ _ => trivial) _ twoRoutes))).2 7).2
  obtain rfl : freed = [6, 5] := by
    have hrun : ((twoRoutes.foldl step (forNode 1 2 3)).unregister 7).map (·.2) = some [6, 5] := by decide +kernel
    rw [hfreed] at hrun
    exact some.inj hrun
  exact ⟨d', hfreed, (hrest 9).trans (by decide +kernel)⟩

end Pulsebeam.Shard.Demuxer
