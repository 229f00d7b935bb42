import Pulsebeam.Control.TopologyIndex

/-! Runs of the topology: the indexes answer what a scan of the room would. -/

namespace Pulsebeam

namespace Control

open Pulsebeam.Lib List

namespace RoomTrackTopology

variable {r r' r'' : RoomTrackTopology} {roomId : RoomId} {k : SubscriptionKey} {s : Subscription} {x : Publication}

def Kept (r r' : RoomTrackTopology) : Prop :=
  ∀ key, key ∈ r'.allocated ↔ key ∈ r.allocated ∧ ∃ k, r'.Reason (· == .allocated) key k

structure Shrinks (roomId : RoomId) (r r' : RoomTrackTopology) : Prop where
  indexed : r'.Indexed roomId
  reason : ∀ test key k, r'.Reason test key k → r.Reason test key k
  kept : Kept r r'

lemma Indexed.kept_of_le (h : r.Indexed roomId) (hal : r'.allocated = r.allocated)
    (hle : ∀ test key k, r.Reason test key k → r'.Reason test key k) : Kept r r' := by
  intro key
  rw [hal]
  refine ⟨fun hkey => ⟨hkey, ?_⟩, And.left⟩
  obtain ⟨k, hk⟩ := h.reasoned.allocated key hkey
  exact ⟨k, hle _ key k hk⟩

lemma Indexed.shrinks_refl (h : r.Indexed roomId) : Shrinks roomId r r :=
  ⟨h, fun _ _ _ hr => hr, h.kept_of_le rfl fun _ _ _ hr => hr⟩

lemma Shrinks.trans (h : Shrinks roomId r r') (h' : Shrinks roomId r' r'') : Shrinks roomId r r'' := by
  refine ⟨h'.indexed, fun test key k hk => h.reason test key k (h'.reason test key k hk), fun key => ?_⟩
  rw [h'.kept, h.kept]
  constructor
  · rintro ⟨⟨hkey, -⟩, hr⟩
    exact ⟨hkey, hr⟩
  · rintro ⟨hkey, k, hk⟩
    exact ⟨⟨hkey, k, h'.reason _ key k hk⟩, k, hk⟩

lemma Indexed.shrinks_unsubscribe (h : r.Indexed roomId) (id : SubscriptionKey) :
    Shrinks roomId r (r.unsubscribe id).1 := by
  cases hs : r.subscriptions.lookup id with
  | none =>
    have : (r.unsubscribe id).1 = r := by simp [RoomTrackTopology.unsubscribe, hs]
    rw [this]
    exact h.shrinks_refl
  | some s =>
    obtain ⟨hind, htracks, hsubs, hkept⟩ := h.unsubscribe hs
    refine ⟨hind, fun test key k => ?_, hkept⟩
    rintro ⟨u, x, hu, hx, hrest⟩
    rw [hsubs, lookup_erase_iff] at hu
    exact ⟨u, x, hu.2, htracks ▸ hx, hrest⟩

lemma Indexed.shrinks_takeTrack (h : r.Indexed roomId) {t : TrackId} (hx : r.tracks.lookup t = some x) :
    Shrinks roomId r (r.takeTrack t (.fromTrack x.track) x.label) := by
  refine ⟨h.takeTrack hx, fun test key k hk => (reason_takeTrack.1 hk).1, fun key => ?_⟩
  have hmem : key ∈ (r.takeTrack t (.fromTrack x.track) x.label).allocated ↔ key ∈ r.allocated ∧ key.2 ≠ t := by
    simp [RoomTrackTopology.takeTrack, unindexTrack]
  rw [hmem]
  refine and_congr_right fun hkey => ?_
  obtain ⟨k, hk⟩ := h.reasoned.allocated key hkey
  refine ⟨fun hne => ⟨k, reason_takeTrack.2 ⟨hk, hne⟩⟩, ?_⟩
  rintro ⟨k, hk⟩
  exact (reason_takeTrack.1 hk).2

lemma Indexed.shrinks_removeTrack (h : r.Indexed roomId) (t : TrackId) : Shrinks roomId r (r.removeTrack t) := by
  unfold removeTrack
  cases hx : r.tracks.lookup t with
  | none => exact h.shrinks_refl
  | some x => exact h.shrinks_takeTrack hx

lemma Indexed.shrinks_foldl {α : Type*} {f : RoomTrackTopology → α → RoomTrackTopology}
    (hf : ∀ r a, r.Indexed roomId → Shrinks roomId r (f r a)) (h : r.Indexed roomId) (l : List α) :
    Shrinks roomId r (l.foldl f r) := by
  induction l generalizing r with
  | nil => exact h.shrinks_refl
  | cons a l ih => exact (hf r a h).trans (ih (hf r a h).indexed)

variable (h : r.Indexed roomId)

include h

lemma Indexed.lookup_unsubscribe (id : SubscriptionKey)
    (hk : (r.unsubscribe id).1.subscriptions.lookup k = some s) : r.subscriptions.lookup k = some s ∧ k ≠ id := by
  cases hs : r.subscriptions.lookup id with
  | none =>
    have : (r.unsubscribe id).1 = r := by simp [RoomTrackTopology.unsubscribe, hs]
    rw [this] at hk
    refine ⟨hk, ?_⟩
    rintro rfl
    cases hs.symm.trans hk
  | some u =>
    rw [(h.unsubscribe hs).2.2.1, lookup_erase_iff] at hk
    exact hk.symm

lemma Indexed.lookup_foldl_unsubscribe (l : List SubscriptionKey)
    (hk : (l.foldl (fun r id => (r.unsubscribe id).1) r).subscriptions.lookup k = some s) :
    r.subscriptions.lookup k = some s ∧ k ∉ l := by
  induction l generalizing r with
  | nil => exact ⟨hk, not_mem_nil⟩
  | cons id l ih =>
    obtain ⟨hk', hl⟩ := ih (h.shrinks_unsubscribe id).indexed hk
    obtain ⟨hr, hne⟩ := h.lookup_unsubscribe id hk'
    exact ⟨hr, by simp [hne, hl]⟩

lemma Indexed.shrinks_removeSubscriber (p : ParticipantId) : Shrinks roomId r (r.removeSubscriber p) := by
  have hfold := h.shrinks_foldl (fun r id hr => hr.shrinks_unsubscribe id)
    (r.subscriptions.keys.filter fun id => (r.subscriptions.lookup id).any fun s => s.subscriber == p)
  refine hfold.trans ?_
  generalize hr1 : (r.subscriptions.keys.filter fun id => (r.subscriptions.lookup id).any fun s =>
    s.subscriber == p).foldl (fun r id => (r.unsubscribe id).1) r = r1 at hfold
  have hnone : ∀ test key k, r1.Reason test key k → key.1 ≠ p := by
    rintro test key k ⟨s, x, hs, -, hsub, -⟩ hp
    subst hr1
    obtain ⟨hs', hnot⟩ := h.lookup_foldl_unsubscribe _ hs
    refine hnot (mem_filter.2 ⟨AList.mem_keys.1 (AList.lookup_isSome.1 (by rw [hs']; rfl)), ?_⟩)
    simp [hs', hsub, hp]
  have hrun : r.removeSubscriber p = { r1 with allocated := r1.allocated.filter fun key => key.1 ≠ p } := by
    rw [removeSubscriber, hr1]
  have hc := hfold.indexed.catalogued
  have hs := hfold.indexed.subscribed
  have hq := hfold.indexed.reasoned
  have hkeep : ∀ key, key ∈ r1.allocated.filter (fun key => key.1 ≠ p) ↔ key ∈ r1.allocated := by
    intro key
    rw [mem_filter]
    refine ⟨And.left, fun hkey => ⟨hkey, ?_⟩⟩
    obtain ⟨k, hk⟩ := hq.allocated key hkey
    simpa using hnone _ key k hk
  rw [hrun]
  refine ⟨⟨⟨hc.published, hc.byPublisher, hc.byKind, hc.byLabel⟩, ⟨hs.keyed, hs.owned, hs.anchored.byTrack,
    hs.anchored.byPublisher, hs.anchored.byKind, hs.anchored.byLabel, hs.anchored.nodup, hs.anchored.unconstrained⟩,
    ⟨hq.candidate, hq.automatic, hq.nodup.filter _, fun key hkey => hq.allocated key ((hkeep key).1 hkey)⟩⟩,
    fun _ _ _ hr => hr, fun key => ?_⟩
  exact (hkeep key).trans ⟨fun hkey => ⟨hkey, hq.allocated key hkey⟩, And.left⟩

lemma Indexed.shrinks_removeFromRoom (p : ParticipantId) : Shrinks roomId r (TrackTopology.removeFromRoom p r) :=
  (h.shrinks_removeSubscriber p).trans ((h.shrinks_removeSubscriber p).indexed.shrinks_foldl
    (fun _ t hr => hr.shrinks_removeTrack t) _)

lemma Indexed.kept_addTrack (hroom : x.track.info.roomId = roomId)
    (hlabel : x.label = x.track.publicationLabel) (hfresh : r.tracks.lookup x.track.id = none) :
    Kept r (r.addTrack (.fromTrack x.track) x) := by
  obtain ⟨-, htracks, hsubs, hal⟩ := h.addTrack hroom hlabel hfresh
  refine h.kept_of_le hal ?_
  rintro test key k ⟨s, y, hs, hy, hrest⟩
  refine ⟨s, y, by rwa [hsubs], ?_, hrest⟩
  rw [htracks, lookup_insert_iff]
  refine .inr ⟨?_, hy⟩
  rintro heq
  rw [heq, hfresh] at hy
  cases hy

lemma Indexed.kept_insertSubscription (p : ParticipantId) (selector : TrackSelector)
    (selection : SelectionPolicy) (ref : Option ℕ) (hfree : ∀ n ∈ ref, r.owned.lookup (p, n) = none) :
    Kept r (r.insertSubscription p selector selection ref).1 := by
  obtain ⟨-, htracks, hsubs, hal⟩ := h.insertSubscription p selector selection ref hfree
  refine h.kept_of_le hal ?_
  rintro test key k ⟨s, x, hs, hx, hrest⟩
  refine ⟨s, x, ?_, by rwa [htracks], hrest⟩
  rw [hsubs, lookup_insert_iff]
  exact .inr ⟨Nat.ne_of_lt (h.subscribed.keyed k s hs).2, hs⟩

end RoomTrackTopology

variable {identity : TrackAncestry}

namespace TrackTopology

open RoomTrackTopology

variable {t t' : TrackTopology} {roomId : RoomId} {key : ParticipantId × TrackId} {r : RoomTrackTopology}

def Consistent (t : TrackTopology) : Prop := ∀ roomId r, t.rooms.lookup roomId = some r → r.Indexed roomId

/-- What a scan of the room says. -/
def scan (t : TrackTopology) (test : SelectionPolicy → Bool) (roomId : RoomId) (key : ParticipantId × TrackId) : Bool :=
  (t.rooms.lookup roomId).any fun room => (room.tracks.lookup key.2).any fun publication =>
    room.subscriptions.entries.any fun entry => entry.2.subscriber == key.1 &&
      entry.2.selector.matchesTrack publication.track && test entry.2.selection

def Allocates (t : TrackTopology) (roomId : RoomId) (key : ParticipantId × TrackId) : Prop :=
  ∃ r, t.rooms.lookup roomId = some r ∧ key ∈ r.allocated

lemma scan_iff {test : SelectionPolicy → Bool} :
    t.scan test roomId key = true ↔ ∃ r, t.rooms.lookup roomId = some r ∧ ∃ k, r.Reason test key k := by
  simp only [scan, Option.any_eq_true, any_eq_true, Bool.and_eq_true, beq_iff_eq]
  constructor
  · rintro ⟨r, hr, x, hx, ⟨k, s⟩, hs, ⟨hp, hm⟩, htest⟩
    exact ⟨r, hr, k, s, x, AList.mem_lookup_iff.2 hs, hx, hp, hm, htest⟩
  · rintro ⟨r, hr, k, s, x, hs, hx, hp, hm, htest⟩
    exact ⟨r, hr, x, hx, ⟨k, s⟩, AList.mem_lookup_iff.1 hs, ⟨hp, hm⟩, htest⟩

structure Carries (t t' : TrackTopology) : Prop where
  consistent : t'.Consistent
  allocates : ∀ roomId key, t'.Allocates roomId key ↔ t.Allocates roomId key ∧ t'.scan (· == .allocated) roomId key

lemma Consistent.scan_of_allocates (h : t.Consistent) (ha : t.Allocates roomId key) :
    t.scan (· == .allocated) roomId key = true := by
  obtain ⟨r, hr, hkey⟩ := ha
  exact scan_iff.2 ⟨r, hr, (h roomId r hr).reasoned.allocated key hkey⟩

lemma Consistent.carries_refl (h : t.Consistent) : Carries t t :=
  ⟨h, fun _ _ => ⟨fun ha => ⟨ha, h.scan_of_allocates ha⟩, And.left⟩⟩

lemma lookup_setRoom {r' : RoomTrackTopology} {roomId' : RoomId} :
    (t.setRoom roomId r).rooms.lookup roomId' = some r' ↔
      (roomId' = roomId ∧ r' = r) ∨ (roomId' ≠ roomId ∧ t.rooms.lookup roomId' = some r') :=
  lookup_insert_iff

lemma Consistent.room (h : t.Consistent) (roomId : RoomId) : (t.roomOrDefault roomId).Indexed roomId := by
  unfold roomOrDefault
  cases hr : t.rooms.lookup roomId with
  | none => exact Indexed.empty
  | some r => exact h roomId r hr

lemma roomOrDefault_of_lookup (hr : t.rooms.lookup roomId = some r) : t.roomOrDefault roomId = r := by
  rw [roomOrDefault, hr]
  rfl

lemma roomOrDefault_setRoom : (t.setRoom roomId r).roomOrDefault roomId = r :=
  roomOrDefault_of_lookup (lookup_setRoom.2 (.inl ⟨rfl, rfl⟩))

lemma allocates_iff : t.Allocates roomId key ↔ key ∈ (t.roomOrDefault roomId).allocated := by
  unfold Allocates roomOrDefault
  cases hr : t.rooms.lookup roomId with
  | none => simp [RoomTrackTopology.empty]
  | some r => simp

section

variable (h : t.Consistent)

include h

lemma Consistent.carries_setRoom (hr : r.Indexed roomId) (hkept : Kept (t.roomOrDefault roomId) r) :
    Carries t (t.setRoom roomId r) := by
  refine ⟨fun room r' hr' => ?_, fun room key => ?_⟩
  · rcases lookup_setRoom.1 hr' with ⟨rfl, rfl⟩ | ⟨-, hr'⟩
    · exact hr
    · exact h room r' hr'
  · rw [scan_iff]
    simp only [Allocates, lookup_setRoom]
    by_cases hroom : room = roomId
    · subst hroom
      rw [← Allocates, allocates_iff]
      simp [hkept key]
    · simp only [hroom, false_and, ne_eq, not_false_eq_true, true_and, false_or]
      exact ⟨fun ha => ⟨ha, scan_iff.1 (h.scan_of_allocates ha)⟩, And.left⟩

lemma Consistent.carries_shrinks (hr : t.rooms.lookup roomId = some r) (hshrink : Shrinks roomId r r') :
    Carries t (t.setRoom roomId r') :=
  h.carries_setRoom hshrink.indexed (by rw [roomOrDefault_of_lookup hr]; exact hshrink.kept)

lemma Consistent.carries_publish (track : Track) : Carries t (t.publish track).1 := by
  have hroom := h.room track.info.roomId
  dsimp only [publish]
  split
  · exact h.carries_setRoom hroom hroom.shrinks_refl.kept
  next hfresh =>
    have hnone : (t.roomOrDefault track.info.roomId).tracks.lookup track.id = none := AList.lookup_eq_none.2 hfresh
    exact h.carries_setRoom (hroom.addTrack (x := ⟨track, track.publicationLabel⟩) rfl rfl hnone).1
      (hroom.kept_addTrack (x := ⟨track, track.publicationLabel⟩) rfl rfl hnone)

lemma Consistent.carries_unpublish
    (hid : ∀ x ∈ t.track identity, TrackAncestry.fromTrack x = identity) : Carries t (t.unpublish identity).1 := by
  unfold unpublish
  cases hr : t.rooms.lookup identity.roomId with
  | none => exact h.carries_refl
  | some r =>
    dsimp only
    cases hx : r.tracks.lookup identity.trackId with
    | none => exact h.carries_refl
    | some x =>
      have hsame : TrackAncestry.fromTrack x.track = identity := hid x.track (by simp [track, source, hr, hx])
      have hshrink := (h _ r hr).shrinks_takeTrack hx
      rw [hsame] at hshrink
      exact h.carries_shrinks hr hshrink

lemma Consistent.carries_setReverse (identity : TrackAncestry)
    (reverse : Option NodeRouteAddress) : Carries t (t.setReverse identity reverse) := by
  unfold setReverse
  cases hr : t.rooms.lookup identity.roomId with
  | none => exact h.carries_refl
  | some r =>
    dsimp only
    cases hx : r.tracks.lookup identity.trackId with
    | none => exact h.carries_refl
    | some x =>
      obtain ⟨hind, hreason⟩ := (h _ r hr).setReverse hx reverse
      refine h.carries_setRoom hind ?_
      rw [roomOrDefault_of_lookup hr]
      exact (h _ r hr).kept_of_le rfl fun test key k hk => (hreason test key k).2 hk

lemma Consistent.carries_subscribe (roomId : RoomId) (p : ParticipantId) (selector : TrackSelector)
    (selection : SelectionPolicy) : Carries t (t.subscribe roomId p selector selection).1 :=
  h.carries_setRoom ((h.room roomId).insertSubscription p selector selection none (by simp)).1
    ((h.room roomId).kept_insertSubscription p selector selection none (by simp))

lemma Consistent.carries_removeOwned (roomId : RoomId) (p : ParticipantId) (ref : ℕ) :
    Carries t (t.removeOwned roomId p ref).1 := by
  unfold removeOwned
  cases hr : t.rooms.lookup roomId with
  | none => exact h.carries_refl
  | some r =>
    dsimp only
    cases r.owned.lookup _ with
    | none => exact h.carries_refl
    | some id => exact h.carries_shrinks hr ((h _ r hr).shrinks_unsubscribe id)

lemma Consistent.carries_removeMatching (roomId : RoomId) (p : ParticipantId)
    (selector : TrackSelector) (first : SubscriptionKey) : Carries t (t.removeMatching roomId p selector first).1 := by
  unfold removeMatching
  cases hr : t.rooms.lookup roomId with
  | none => exact h.carries_refl
  | some r =>
    dsimp only
    split
    · exact h.carries_shrinks hr ((h _ r hr).shrinks_unsubscribe first)
    · exact h.carries_refl

end

lemma lookup_leaveRoom (p : ParticipantId) (a : RoomId) :
    (leaveRoom p t a).rooms.lookup roomId =
      if roomId = a then (t.rooms.lookup roomId).map (removeFromRoom p) else t.rooms.lookup roomId := by
  unfold leaveRoom
  by_cases hra : roomId = a
  · subst hra
    cases hr : t.rooms.lookup roomId with
    | none => simp [hr]
    | some r => simp [setRoom]
  · rw [if_neg hra]
    cases t.rooms.lookup a with
    | none => rfl
    | some r => exact AList.lookup_insert_ne hra

lemma lookup_foldl_leaveRoom {p : ParticipantId} {l : List RoomId} (hl : l.Nodup) :
    (l.foldl (leaveRoom p) t).rooms.lookup roomId =
      if roomId ∈ l then (t.rooms.lookup roomId).map (removeFromRoom p) else t.rooms.lookup roomId := by
  induction l generalizing t with
  | nil => rfl
  | cons a l ih =>
    obtain ⟨ha, hl⟩ := nodup_cons.1 hl
    rw [foldl_cons, ih hl, lookup_leaveRoom]
    by_cases hra : roomId = a
    · subst hra
      simp [ha]
    · simp [hra]

variable (h : t.Consistent)

include h

lemma Consistent.carries_removeParticipant (p : ParticipantId) : Carries t (t.removeParticipant p) := by
  have hlook : ∀ roomId, (t.removeParticipant p).rooms.lookup roomId =
      (t.rooms.lookup roomId).map (removeFromRoom p) := by
    intro roomId
    rw [removeParticipant, lookup_foldl_leaveRoom t.rooms.keys_nodup]
    split
    · rfl
    next hmem =>
      rw [AList.lookup_eq_none.2 (fun hm => hmem (AList.mem_keys.1 hm))]
      rfl
  refine ⟨fun roomId r hr => ?_, fun roomId key => ?_⟩
  · rw [hlook, Option.map_eq_some_iff] at hr
    obtain ⟨r', hr', rfl⟩ := hr
    exact ((h roomId r' hr').shrinks_removeFromRoom p).indexed
  · rw [scan_iff]
    simp only [Allocates, hlook, Option.map_eq_some_iff]
    constructor
    · rintro ⟨_, ⟨r, hr, rfl⟩, hkey⟩
      obtain ⟨hold, hreason⟩ := (((h roomId r hr).shrinks_removeFromRoom p).kept key).1 hkey
      exact ⟨⟨r, hr, hold⟩, _, ⟨r, hr, rfl⟩, hreason⟩
    · rintro ⟨⟨r, hr, hold⟩, _, ⟨r', hr', rfl⟩, hreason⟩
      cases hr.symm.trans hr'
      exact ⟨_, ⟨r, hr, rfl⟩, (((h roomId r hr).shrinks_removeFromRoom p).kept key).2 ⟨hold, hreason⟩⟩

lemma Consistent.carries_setOwned (roomId : RoomId) (p : ParticipantId) (ref : ℕ) (track : TrackId)
    (enabled : Bool) (haccept : (t.setOwned roomId p ref track enabled).2 = true) :
    Carries (t.removeOwned roomId p ref).1 (t.setOwned roomId p ref track enabled).1 := by
  have hmid := (h.carries_removeOwned roomId p ref).consistent
  have henter : (t.setOwned roomId p ref track enabled).1 = (t.removeOwned roomId p ref).1.setRoom roomId
      (((t.removeOwned roomId p ref).1.roomOrDefault roomId).insertSubscription p (.ofTrack track)
        (if enabled then .all else .allocated) (some ref)).1 := by
    revert haccept
    unfold setOwned removeOwned
    cases hr : t.rooms.lookup roomId with
    | none => simp [roomOrDefault, hr, RoomTrackTopology.empty]
    | some r =>
      simp only [roomOrDefault_of_lookup hr]
      cases ho : r.owned.lookup _ with
      | none => simp [roomOrDefault_of_lookup hr]
      | some id =>
        dsimp only
        split
        · simp
        intro _
        rw [roomOrDefault_setRoom]
        simp only [setRoom, AList.insert_insert]
  have hfree : ((t.removeOwned roomId p ref).1.roomOrDefault roomId).owned.lookup (p, ref) = none := by
    unfold removeOwned
    cases hr : t.rooms.lookup roomId with
    | none => simp [roomOrDefault, hr, RoomTrackTopology.empty]
    | some r =>
      dsimp only
      cases ho : r.owned.lookup _ with
      | none => rwa [roomOrDefault_of_lookup hr]
      | some id =>
        have hr' := h roomId r hr
        obtain ⟨s, hs, hsub, href⟩ := (hr'.subscribed.owned p ref id).1 ho
        rw [roomOrDefault_setRoom]
        by_contra hne
        obtain ⟨k, hk⟩ := Option.ne_none_iff_exists'.1 hne
        obtain ⟨u, hu, hup, hur⟩ := ((hr'.unsubscribe hs).1.subscribed.owned p ref k).1 hk
        obtain ⟨hu, hki⟩ := hr'.lookup_unsubscribe id hu
        exact hki (Option.some.inj (((hr'.subscribed.owned p ref k).2 ⟨u, hu, hup, hur⟩).symm.trans ho))
  rw [henter]
  have hroom := hmid.room roomId
  have hfree' : ∀ n ∈ some ref, ((t.removeOwned roomId p ref).1.roomOrDefault roomId).owned.lookup (p, n) = none := by
    rintro n ⟨⟩
    exact hfree
  exact hmid.carries_setRoom (hroom.insertSubscription _ _ _ _ hfree').1 (hroom.kept_insertSubscription _ _ _ _ hfree')

lemma Consistent.carries_setOwned_rejected (roomId : RoomId) (p : ParticipantId) (ref : ℕ)
    (track : TrackId) (enabled : Bool) (hreject : (t.setOwned roomId p ref track enabled).2 = false) :
    Carries t (t.setOwned roomId p ref track enabled).1 := by
  have hsame : (t.setOwned roomId p ref track enabled).1 = t.setRoom roomId (t.roomOrDefault roomId) := by
    revert hreject
    dsimp only [setOwned]
    cases (t.roomOrDefault roomId).owned.lookup _ with
    | none => simp
    | some id =>
      dsimp only
      split
      · intro _
        rfl
      · simp
  rw [hsame]
  exact h.carries_setRoom (h.room roomId) (h.room roomId).shrinks_refl.kept

lemma Consistent.reallocate (hr : t.rooms.lookup roomId = some r)
    {al : List (ParticipantId × TrackId)} (hnodup : al.Nodup) (hal : ∀ key ∈ al, ∃ k, r.Reason (· == .allocated) key k) :
    (t.setRoom roomId { r with allocated := al }).Consistent ∧
      (∀ test room key, (t.setRoom roomId { r with allocated := al }).scan test room key = t.scan test room key) ∧
      ∀ room key, (t.setRoom roomId { r with allocated := al }).Allocates room key ↔
        (room = roomId ∧ key ∈ al) ∨ (room ≠ roomId ∧ t.Allocates room key) := by
  have hold := h roomId r hr
  refine ⟨fun room r' hr' => ?_, fun test room key => ?_, fun room key => ?_⟩
  · rcases lookup_setRoom.1 hr' with ⟨rfl, rfl⟩ | ⟨-, hr'⟩
    · exact ⟨{ hold.catalogued with }, { hold.subscribed with anchored := { hold.subscribed.anchored with } },
        { hold.reasoned with nodup := hnodup, allocated := hal }⟩
    · exact h room r' hr'
  · rw [Bool.eq_iff_iff, scan_iff, scan_iff]
    simp only [lookup_setRoom]
    by_cases hroom : room = roomId
    · subst hroom
      simp only [hr, true_and, ne_eq, not_true_eq_false, false_and, or_false, exists_eq_left, Option.some.injEq,
        exists_eq_left']
      exact Iff.rfl
    · simp [hroom]
  · simp only [Allocates, lookup_setRoom]
    by_cases hroom : room = roomId <;> simp [hroom]

lemma Consistent.activate (identity : TrackAncestry) (p : ParticipantId) :
    (t.activate identity p).1.Consistent ∧
      (∀ test room key, (t.activate identity p).1.scan test room key = t.scan test room key) ∧
      ∀ room key, (t.activate identity p).1.Allocates room key ↔ t.Allocates room key ∨
        (room = identity.roomId ∧ key = (p, identity.trackId) ∧ t.scan (· == .allocated) room key = true) := by
  unfold TrackTopology.activate
  cases hr : t.rooms.lookup identity.roomId with
  | none =>
    refine ⟨h, fun _ _ _ => rfl, fun room key => ⟨.inl, ?_⟩⟩
    rintro (ha | ⟨rfl, rfl, hscan⟩)
    · exact ha
    · obtain ⟨r, hr', -⟩ := scan_iff.1 hscan
      cases hr.symm.trans hr'
  | some r =>
    have hroom := h _ r hr
    have hall : r.hasAllocated (p, identity.trackId) = true ↔
        t.scan (· == .allocated) identity.roomId (p, identity.trackId) = true := by
      rw [hasAllocated_iff hroom.reasoned.candidate, scan_iff]
      simp only [Reason]
      grind
    have hkeys : ∀ key, t.Allocates identity.roomId key ↔ key ∈ r.allocated := fun key => by
      rw [allocates_iff, roomOrDefault_of_lookup hr]
    dsimp only [RoomTrackTopology.activate]
    split
    next hyes =>
      have hnodup : (r.allocated.insert (p, identity.trackId)).Nodup := hroom.reasoned.nodup.insert
      obtain ⟨hcons, hscan, halloc⟩ := h.reallocate hr hnodup (by
          intro key hkey
          rcases mem_insert_iff.1 hkey with rfl | hkey
          · obtain ⟨r', hr', hreason⟩ := scan_iff.1 (hall.1 hyes)
            cases hr.symm.trans hr'
            exact hreason
          · exact hroom.reasoned.allocated key hkey)
      refine ⟨hcons, hscan, fun room key => (halloc room key).trans ?_⟩
      grind
    next hno =>
      obtain ⟨hcons, hscan, halloc⟩ := h.reallocate hr hroom.reasoned.nodup hroom.reasoned.allocated
      refine ⟨hcons, hscan, fun room key => (halloc room key).trans ?_⟩
      grind

lemma Consistent.deactivate (identity : TrackAncestry) (p : ParticipantId) :
    (t.deactivate identity p).1.Consistent ∧
      (∀ test room key, (t.deactivate identity p).1.scan test room key = t.scan test room key) ∧
      ∀ room key, (t.deactivate identity p).1.Allocates room key ↔ t.Allocates room key ∧
        ¬ (room = identity.roomId ∧ key = (p, identity.trackId)) := by
  unfold TrackTopology.deactivate
  cases hr : t.rooms.lookup identity.roomId with
  | none =>
    refine ⟨h, fun _ _ _ => rfl, fun room key => ⟨fun ha => ⟨ha, ?_⟩, And.left⟩⟩
    rintro ⟨rfl, -⟩
    obtain ⟨r, hr', -⟩ := ha
    cases hr.symm.trans hr'
  | some r =>
    have hroom := h _ r hr
    have hnodup : (r.allocated.filter (· ≠ (p, identity.trackId))).Nodup := hroom.reasoned.nodup.filter _
    obtain ⟨hcons, hscan, halloc⟩ := h.reallocate hr hnodup
      fun key hkey => hroom.reasoned.allocated key (mem_filter.1 hkey).1
    have hkeys : ∀ key, t.Allocates identity.roomId key ↔ key ∈ r.allocated := fun key => by
      rw [allocates_iff, roomOrDefault_of_lookup hr]
    refine ⟨hcons, hscan, fun room key => (halloc room key).trans ?_⟩
    simp only [mem_filter]
    grind

end TrackTopology

inductive TopologyOp
  | publish (track : Track)
  | unpublish (identity : TrackAncestry)
  | setReverse (identity : TrackAncestry) (reverse : Option NodeRouteAddress)
  | subscribe (roomId : RoomId) (subscriber : ParticipantId) (selector : TrackSelector) (selection : SelectionPolicy)
  | setOwned (roomId : RoomId) (subscriber : ParticipantId) (reference : ℕ) (track : TrackId) (enabled : Bool)
  | removeOwned (roomId : RoomId) (subscriber : ParticipantId) (reference : ℕ)
  | removeMatching (roomId : RoomId) (subscriber : ParticipantId) (selector : TrackSelector) (first : SubscriptionKey)
  | activate (identity : TrackAncestry) (subscriber : ParticipantId)
  | deactivate (identity : TrackAncestry) (subscriber : ParticipantId)
  | removeParticipant (participant : ParticipantId)

namespace TrackTopology

open RoomTrackTopology (mem_selectorTracks indexedTracks)

variable {t : TrackTopology} {roomId : RoomId} {key : ParticipantId × TrackId} {p : ParticipantId}
  {ops : List TopologyOp} {x : Track}

def apply (t : TrackTopology) : TopologyOp → TrackTopology
  | .publish track => (t.publish track).1
  | .unpublish identity => (t.unpublish identity).1
  | .setReverse identity reverse => t.setReverse identity reverse
  | .subscribe roomId subscriber selector selection => (t.subscribe roomId subscriber selector selection).1
  | .setOwned roomId subscriber reference track enabled => (t.setOwned roomId subscriber reference track enabled).1
  | .removeOwned roomId subscriber reference => (t.removeOwned roomId subscriber reference).1
  | .removeMatching roomId subscriber selector first => (t.removeMatching roomId subscriber selector first).1
  | .activate identity subscriber => (t.activate identity subscriber).1
  | .deactivate identity subscriber => (t.deactivate identity subscriber).1
  | .removeParticipant participant => t.removeParticipant participant

/-- `unpublish` is called with the identity of the publication: the source asserts it. -/
def legalIn (t : TrackTopology) : TopologyOp → Bool
  | .unpublish identity => (t.track identity).all fun track => TrackAncestry.fromTrack track == identity
  | _ => true

def after : List TopologyOp → TrackTopology
  | [] => .empty
  | op :: earlier => (after earlier).apply op

def legal : List TopologyOp → Bool
  | [] => true
  | op :: earlier => legal earlier && (after earlier).legalIn op

def activates (roomId : RoomId) (key : ParticipantId × TrackId) : TopologyOp → Bool
  | .activate identity subscriber => identity.roomId == roomId && (subscriber, identity.trackId) == key
  | _ => false

def deactivates (roomId : RoomId) (key : ParticipantId × TrackId) : TopologyOp → Bool
  | .deactivate identity subscriber => identity.roomId == roomId && (subscriber, identity.trackId) == key
  | _ => false

/-- Activated, not deactivated since, and with a matching `Allocated` subscription after every operation since, and wherever
`within` looks. -/
def held (within : TrackTopology → TopologyOp → List TrackTopology) (roomId : RoomId)
    (key : ParticipantId × TrackId) : List TopologyOp → Bool
  | [] => false
  | op :: earlier =>
    (after (op :: earlier)).scan (· == .allocated) roomId key &&
      (activates roomId key op || (held within roomId key earlier && !deactivates roomId key op &&
        (within (after earlier) op).all fun t => t.scan (· == .allocated) roomId key))

/-- An accepted declaration of an owned subscription has removed the previous one, and not yet entered the new one. -/
def redeclaring (t : TrackTopology) : TopologyOp → List TrackTopology
  | .setOwned roomId subscriber reference track enabled =>
    if (t.setOwned roomId subscriber reference track enabled).2 then [(t.removeOwned roomId subscriber reference).1]
    else []
  | _ => []

lemma Consistent.apply (h : t.Consistent) {op : TopologyOp} (hop : t.legalIn op = true) :
    (t.apply op).Consistent ∧ ∀ roomId key, (t.apply op).Allocates roomId key ↔
      (t.apply op).scan (· == .allocated) roomId key = true ∧ (activates roomId key op = true ∨
        (t.Allocates roomId key ∧ deactivates roomId key op = false ∧
          ∀ m ∈ redeclaring t op, m.scan (· == .allocated) roomId key = true)) := by
  have hplain : ∀ {t'}, Carries t t' → t'.Consistent ∧ ∀ roomId key, t'.Allocates roomId key ↔
      t'.scan (· == .allocated) roomId key = true ∧ (false = true ∨ (t.Allocates roomId key ∧ false = false ∧
        ∀ m ∈ ([] : List TrackTopology), m.scan (· == .allocated) roomId key = true)) := by
    intro t' hc
    refine ⟨hc.consistent, fun roomId key => (hc.allocates roomId key).trans ?_⟩
    simp [and_comm]
  cases op with
  | publish track => exact hplain (h.carries_publish track)
  | unpublish identity =>
    refine hplain (h.carries_unpublish fun x hx => ?_)
    have := hop
    simp only [legalIn, Option.all_eq_true, beq_iff_eq] at this
    exact this x hx
  | setReverse identity reverse => exact hplain (h.carries_setReverse identity reverse)
  | subscribe room p selector selection => exact hplain (h.carries_subscribe room p selector selection)
  | removeOwned room p ref => exact hplain (h.carries_removeOwned room p ref)
  | removeMatching room p selector first => exact hplain (h.carries_removeMatching room p selector first)
  | removeParticipant p => exact hplain (h.carries_removeParticipant p)
  | setOwned room p ref track enabled =>
    cases hacc : (t.setOwned room p ref track enabled).2 with
    | false =>
      obtain ⟨hcons, hal⟩ := hplain (h.carries_setOwned_rejected room p ref track enabled hacc)
      refine ⟨hcons, fun roomId key => (hal roomId key).trans ?_⟩
      simp [redeclaring, hacc, activates, deactivates, TrackTopology.apply]
    | true =>
      have hmid := h.carries_removeOwned room p ref
      have hend := h.carries_setOwned room p ref track enabled hacc
      refine ⟨hend.consistent, fun roomId key => ?_⟩
      have h1 := hmid.allocates roomId key
      have h2 := hend.allocates roomId key
      simp only [redeclaring, hacc, if_true, activates, deactivates, TrackTopology.apply, mem_singleton, forall_eq]
      tauto
  | activate identity p =>
    obtain ⟨hcons, hscan, hal⟩ := h.activate identity p
    refine ⟨hcons, fun roomId key => (hal roomId key).trans ?_⟩
    have hs : t.Allocates roomId key → t.scan (· == .allocated) roomId key = true := h.scan_of_allocates
    simp only [TrackTopology.apply, activates, deactivates, redeclaring]
    grind
  | deactivate identity p =>
    obtain ⟨hcons, hscan, hal⟩ := h.deactivate identity p
    refine ⟨hcons, fun roomId key => (hal roomId key).trans ?_⟩
    have hs : t.Allocates roomId key → t.scan (· == .allocated) roomId key = true := h.scan_of_allocates
    simp only [TrackTopology.apply, hscan, activates, deactivates, redeclaring, Bool.and_eq_false_iff,
      beq_eq_false_iff_ne]
    grind

lemma consistent_after (h : legal ops = true) :
    (after ops).Consistent ∧ ∀ roomId key, (after ops).Allocates roomId key ↔ held redeclaring roomId key ops = true := by
  induction ops with
  | nil =>
    refine ⟨nofun, fun roomId key => ⟨?_, nofun⟩⟩
    rintro ⟨r, hr, -⟩
    cases hr
  | cons op earlier ih =>
    obtain ⟨hlegal, hop⟩ := Bool.and_eq_true_iff.1 h
    obtain ⟨hcons, hal⟩ := ih hlegal
    obtain ⟨hcons', hal'⟩ := hcons.apply hop
    refine ⟨hcons', fun roomId key => (hal' roomId key).trans ?_⟩
    rw [hal]
    simp [held, after, and_assoc]

lemma Consistent.mem_candidateSubscribers (h : t.Consistent) :
    p ∈ t.candidateSubscribers (.fromTrack x) ↔ t.scan (fun _ => true) x.info.roomId (p, x.id) = true := by
  rw [scan_iff, candidateSubscribers]
  cases hr : t.rooms.lookup (TrackAncestry.fromTrack x).roomId with
  | none =>
    have : t.rooms.lookup x.info.roomId = none := hr
    simp [this]
  | some r =>
    have hroom : t.rooms.lookup x.info.roomId = some r := hr
    have hkeys := (h _ r hr).reasoned.candidate.mem_keys (k := (p, x.id))
    simp only [Option.elim_some, RoomTrackTopology.candidateSubscribers, mem_map, mem_filter, beq_iff_eq,
      hroom, Option.some.injEq, exists_eq_left', ← hkeys]
    constructor
    · rintro ⟨⟨q, u⟩, ⟨hmem, rfl⟩, rfl⟩
      exact hmem
    · exact fun hmem => ⟨_, ⟨hmem, rfl⟩, rfl⟩

lemma Consistent.mem_activeSubscribers (h : t.Consistent) :
    p ∈ t.activeSubscribers (.fromTrack x) ↔
      t.scan (· == .all) x.info.roomId (p, x.id) = true ∨ t.Allocates x.info.roomId (p, x.id) := by
  have hcand := h.mem_candidateSubscribers (x := x) (p := p)
  have hmore : ∀ test, t.scan test x.info.roomId (p, x.id) = true →
      t.scan (fun _ => true) x.info.roomId (p, x.id) = true := by
    intro test htest
    obtain ⟨r, hr, k, s, y, hs, hy, hp, hm, -⟩ := scan_iff.1 htest
    exact scan_iff.2 ⟨r, hr, k, s, y, hs, hy, hp, hm, rfl⟩
  rw [candidateSubscribers] at hcand
  rw [activeSubscribers]
  cases hr : t.rooms.lookup (TrackAncestry.fromTrack x).roomId with
  | none =>
    have hroom : t.rooms.lookup x.info.roomId = none := hr
    simp [scan, Allocates, hroom]
  | some r =>
    have hroom : t.rooms.lookup x.info.roomId = some r := hr
    have hkeys := (h _ r hr).reasoned.automatic.mem_keys (k := (p, x.id))
    have hscan : t.scan (· == .all) x.info.roomId (p, x.id) = true ↔ (p, x.id) ∈ r.automaticReasons := by
      rw [scan_iff, hkeys]
      simp [hroom]
    have hal : t.Allocates x.info.roomId (p, x.id) ↔ (p, x.id) ∈ r.allocated := by simp [Allocates, hroom]
    rw [hr] at hcand
    simp only [Option.elim_some] at hcand ⊢
    rw [RoomTrackTopology.activeSubscribers, mem_filter, hcand, Bool.or_eq_true, decide_eq_true_eq, decide_eq_true_eq]
    change _ ∧ ((p, x.id) ∈ r.automaticReasons ∨ (p, x.id) ∈ r.allocated) ↔ _
    rw [← hscan, ← hal]
    refine ⟨And.right, fun hor => ⟨?_, hor⟩⟩
    rcases hor with hall | halloc
    · exact hmore _ hall
    · exact hmore _ (h.scan_of_allocates halloc)

lemma Consistent.mem_matchingTracks (h : t.Consistent) {selector : TrackSelector} :
    identity ∈ t.matchingTracks roomId selector ↔ ∃ x, t.source roomId identity.trackId = some x ∧
      selector.matchesTrack x = true ∧ TrackAncestry.fromTrack x = identity := by
  unfold matchingTracks source
  cases hr : t.rooms.lookup roomId with
  | none => simp
  | some r =>
    have hc := (h _ r hr).catalogued
    simp only [Option.elim_some, mem_filterMap, mem_selectorTracks hc, RoomTrackTopology.identity, Option.bind_some,
      Option.map_eq_some_iff]
    constructor
    · rintro ⟨u, ⟨y, hy, hm⟩, y', hy', rfl⟩
      cases hy.symm.trans hy'
      obtain ⟨hid, hroom, -⟩ := hc.published u y hy
      exact ⟨y.track, ⟨y, hy, rfl⟩, hm, by rw [TrackAncestry.fromTrack, hid, hroom]⟩
    · rintro ⟨_, ⟨y, hy, rfl⟩, hm, hid⟩
      obtain ⟨-, hroom, -⟩ := hc.published _ y hy
      refine ⟨identity.trackId, ⟨y, hy, hm⟩, y, hy, ?_⟩
      rw [← hid, TrackAncestry.fromTrack, hroom]

lemma Consistent.nodup_matchingTracks (h : t.Consistent) (roomId : RoomId) (selector : TrackSelector) :
    (t.matchingTracks roomId selector).Nodup := by
  unfold matchingTracks
  cases hr : t.rooms.lookup roomId with
  | none => exact nodup_nil
  | some r =>
    have hc := (h _ r hr).catalogued
    have hindexed : (r.indexedTracks selector).Nodup := by
      unfold indexedTracks
      split
      · split
        · exact nodup_singleton _
        · exact nodup_nil
      · exact hc.byPublisher.tidy.nodup_get _
      · exact hc.byLabel.tidy.nodup_get _
      · exact hc.byKind.tidy.nodup_get _
      · exact r.tracks.keys_nodup
    refine (hindexed.filter _).filterMap fun a b i ha hb => ?_
    simp only [RoomTrackTopology.identity, Option.mem_def, Option.map_eq_some_iff] at ha hb
    obtain ⟨_, -, rfl⟩ := ha
    obtain ⟨_, -, hb⟩ := hb
    exact ((TrackAncestry.mk.injEq ..).mp hb).2.2.symm

theorem answers_as_scan (hops : legal ops = true) :
    (∀ roomId track x p, (after ops).source roomId track = some x →
      (p ∈ (after ops).candidateSubscribers (.fromTrack x) ↔
        (after ops).scan (fun _ => true) roomId (p, track) = true) ∧
      (p ∈ (after ops).activeSubscribers (.fromTrack x) ↔
        (after ops).scan (· == .all) roomId (p, track) = true ∨ held redeclaring roomId (p, track) ops = true)) ∧
    (∀ roomId selector, ((after ops).matchingTracks roomId selector).Nodup ∧
      ∀ identity, identity ∈ (after ops).matchingTracks roomId selector ↔
        ∃ x, (after ops).source roomId identity.trackId = some x ∧ selector.matchesTrack x = true ∧
          TrackAncestry.fromTrack x = identity) ∧
    ∀ roomId room, (after ops).rooms.lookup roomId = some room → room.Indexed roomId ∧
      ∀ key, key ∈ room.allocated ↔ held redeclaring roomId key ops = true := by
  obtain ⟨h, hal⟩ := consistent_after hops
  refine ⟨fun roomId track x p hx => ?_, fun roomId selector => ⟨h.nodup_matchingTracks roomId selector,
    fun identity => h.mem_matchingTracks⟩, fun roomId room hr => ⟨h roomId room hr, fun key => ?_⟩⟩
  · obtain ⟨room, hr, y, hy, rfl⟩ : ∃ room, (after ops).rooms.lookup roomId = some room ∧
        ∃ y, room.tracks.lookup track = some y ∧ y.track = x := by
      simpa [source, Option.bind_eq_some_iff] using hx
    obtain ⟨hid, hroom, -⟩ := (h roomId room hr).catalogued.published track y hy
    rw [← hal, ← hid, ← hroom]
    exact ⟨h.mem_candidateSubscribers, h.mem_activeSubscribers⟩
  · rw [← hal]
    simp [Allocates, hr]

def clip : Track := ⟨⟨0, ⟨7, .video⟩, 1, 0, none⟩, .video, none⟩

def redeclare : List TopologyOp :=
  [.setOwned 0 2 5 clip.id false, .activate (.fromTrack clip) 2, .setOwned 0 2 5 clip.id false, .publish clip]

theorem redeclared_drops_activation :
    legal redeclare = true ∧ (after redeclare).source 0 clip.id = some clip ∧
      held (fun _ _ => []) 0 (2, clip.id) redeclare = true ∧
      2 ∉ (after redeclare).activeSubscribers (.fromTrack clip) := by
  decide +kernel

theorem answers_as_scan_redeclare :
    legal redeclare = true ∧ 2 ∈ (after redeclare).candidateSubscribers (.fromTrack clip) ∧
      held redeclaring 0 (2, clip.id) redeclare.tail = true ∧
      2 ∈ (after redeclare.tail).activeSubscribers (.fromTrack clip) := by
  have hall := @answers_as_scan redeclare (by decide +kernel)
  have htail := @answers_as_scan redeclare.tail (by decide +kernel)
  have hheld : held redeclaring 0 (2, clip.id) redeclare.tail = true := by decide +kernel
  exact ⟨by decide +kernel, (hall.1 0 clip.id clip 2 (by decide +kernel)).1.2 (by decide +kernel), hheld,
    (htail.1 0 clip.id clip 2 (by decide +kernel)).2.2 (.inr hheld)⟩

end TrackTopology

end Control

end Pulsebeam
