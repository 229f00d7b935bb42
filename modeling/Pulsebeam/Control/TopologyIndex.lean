import Pulsebeam.Control.Topology

/-! What the indexes of a room hold, and that every operation on a room keeps it so. -/

namespace Pulsebeam

lemma TrackSelector.matchesTrack_iff {s : TrackSelector} {x : Track} :
    s.matchesTrack x = true ↔ (∀ t ∈ s.track, x.id = t) ∧ (∀ p ∈ s.publisher, x.info.origin = p) ∧
      (∀ k ∈ s.kind, x.kind = k) ∧ ∀ l ∈ s.label, x.publicationLabel = some l := by
  simp [matchesTrack, Option.all_eq_true, and_assoc]

namespace Control

open Pulsebeam.Lib

namespace RoomTrackTopology

def Reason (r : RoomTrackTopology) (test : SelectionPolicy → Bool) (key : ParticipantId × TrackId)
    (k : SubscriptionKey) : Prop :=
  ∃ s x, r.subscriptions.lookup k = some s ∧ r.tracks.lookup key.2 = some x ∧ s.subscriber = key.1 ∧
    s.selector.matchesTrack x.track = true ∧ test s.selection = true

structure Catalogued (roomId : RoomId) (r : RoomTrackTopology) : Prop where
  published : ∀ t x, r.tracks.lookup t = some x →
    x.track.id = t ∧ x.track.info.roomId = roomId ∧ x.label = x.track.publicationLabel
  byPublisher : r.byPublisher.Exact fun p t => ∃ x, r.tracks.lookup t = some x ∧ x.track.info.origin = p
  byKind : r.byKind.Exact fun kind t => ∃ x, r.tracks.lookup t = some x ∧ x.track.kind = kind
  byLabel : r.byLabel.Exact fun label t => ∃ x, r.tracks.lookup t = some x ∧ x.track.publicationLabel = some label

structure Anchored (r : RoomTrackTopology) (P : SubscriptionAnchor → SubscriptionKey → Prop) : Prop where
  byTrack : r.byTrack.Exact fun t => P (.track t)
  byPublisher : r.bySubscriberPublisher.Exact fun p => P (.publisher p)
  byKind : r.bySubscriptionKind.Exact fun kind => P (.kind kind)
  byLabel : r.bySubscriptionLabel.Exact fun label => P (.label label)
  nodup : r.unconstrained.Nodup
  unconstrained : ∀ k, k ∈ r.unconstrained ↔ P .any k

def Under (r : RoomTrackTopology) (a : SubscriptionAnchor) (k : SubscriptionKey) : Prop :=
  ∃ s, r.subscriptions.lookup k = some s ∧ anchor s.selector = a

structure Subscribed (r : RoomTrackTopology) : Prop where
  keyed : ∀ k s, r.subscriptions.lookup k = some s → s.id = k ∧ k < r.nextKey
  owned : ∀ p ref k, r.owned.lookup (p, ref) = some k ↔
    ∃ s, r.subscriptions.lookup k = some s ∧ s.subscriber = p ∧ s.ownedRef = some ref
  anchored : r.Anchored r.Under

structure Reasoned (r : RoomTrackTopology) : Prop where
  candidate : r.candidateReasons.Exact (r.Reason fun _ => true)
  automatic : r.automaticReasons.Exact (r.Reason (· == .all))
  nodup : r.allocated.Nodup
  allocated : ∀ key ∈ r.allocated, ∃ k, r.Reason (· == .allocated) key k

structure Indexed (roomId : RoomId) (r : RoomTrackTopology) : Prop where
  catalogued : r.Catalogued roomId
  subscribed : r.Subscribed
  reasoned : r.Reasoned

variable {r r' : RoomTrackTopology} {roomId : RoomId} {P Q : SubscriptionAnchor → SubscriptionKey → Prop}
  {x : Publication} {t : TrackId} {key : ParticipantId × TrackId} {k : SubscriptionKey}

lemma Indexed.empty : Indexed roomId .empty := by
  have hnone : ∀ test key k, ¬ Reason .empty test key k := by
    rintro test key k ⟨s, x, hs, -⟩
    cases hs
  refine ⟨⟨?_, ?_, ?_, ?_⟩, ⟨?_, ?_, ⟨?_, ?_, ?_, ?_, ?_, ?_⟩⟩, ⟨?_, ?_, ?_, ?_⟩⟩
  all_goals first
    | exact SetMap.exact_empty (hnone _)
    | refine SetMap.exact_empty ?_
    | skip
  all_goals simp [RoomTrackTopology.empty, Under]

section Lookup

lemma mem_indexedTracks (h : r.Catalogued roomId) {selector : TrackSelector} (hx : r.tracks.lookup t = some x)
    (hm : selector.matchesTrack x.track = true) : t ∈ r.indexedTracks selector := by
  obtain ⟨htrack, hpub, hkind, hlabel⟩ := TrackSelector.matchesTrack_iff.1 hm
  unfold indexedTracks
  split
  next track _ =>
    have : t = track := by
      rw [← (h.published t x hx).1]
      exact htrack track (by assumption)
    subst this
    rw [if_pos (AList.lookup_isSome.1 (by rw [hx]; rfl))]
    exact List.mem_singleton_self t
  next publisher _ _ => exact (h.byPublisher.mem _ _).2 ⟨x, hx, hpub publisher (by assumption)⟩
  next label _ _ _ => exact (h.byLabel.mem _ _).2 ⟨x, hx, hlabel label (by assumption)⟩
  next kind _ _ _ _ => exact (h.byKind.mem _ _).2 ⟨x, hx, hkind kind (by assumption)⟩
  · exact AList.mem_keys.1 (AList.lookup_isSome.1 (by rw [hx]; rfl))

variable {selector : TrackSelector}

lemma mem_selectorTracks (h : r.Catalogued roomId) :
    t ∈ r.selectorTracks selector ↔ ∃ x, r.tracks.lookup t = some x ∧ selector.matchesTrack x.track = true := by
  rw [selectorTracks, List.mem_filter]
  constructor
  · simp [Option.any_eq_true]
  · rintro ⟨x, hx, hm⟩
    refine ⟨mem_indexedTracks h hx hm, ?_⟩
    simp [hx, hm]

lemma anchor_of_matches {x : Track} (hm : selector.matchesTrack x = true) :
    anchor selector = .any ∨ anchor selector = .track x.id ∨ anchor selector = .publisher x.info.origin ∨
      anchor selector = .kind x.kind ∨ ∃ l, x.publicationLabel = some l ∧ anchor selector = .label l := by
  obtain ⟨htrack, hpub, hkind, hlabel⟩ := TrackSelector.matchesTrack_iff.1 hm
  rcases selector with ⟨_ | t, _ | p, _ | k, _ | l⟩ <;> simp_all [anchor]

lemma mem_matchingSubscriptionKeys (hc : r.Catalogued roomId) (hs : r.Subscribed)
    (hx : r.tracks.lookup x.track.id = some x) :
    k ∈ r.matchingSubscriptionKeys (.fromTrack x.track) ↔
      ∃ s, r.subscriptions.lookup k = some s ∧ s.selector.matchesTrack x.track = true := by
  have hlook : r.tracks.lookup (TrackAncestry.fromTrack x.track).trackId = some x := hx
  rw [matchingSubscriptionKeys, hlook]
  simp only [List.mem_filter, List.mem_dedup]
  constructor
  · simp [Option.any_eq_true]
  · rintro ⟨s, hk, hm⟩
    refine ⟨?_, by simp [hk, hm]⟩
    have hunder : ∀ a, anchor s.selector = a → r.Under a k := fun a ha => ⟨s, hk, ha⟩
    simp only [List.mem_append]
    rcases anchor_of_matches hm with ha | ha | ha | ha | ⟨l, hl, ha⟩
    · exact .inl (.inl (.inl (.inl ((hs.anchored.unconstrained k).2 (hunder _ ha)))))
    · exact .inl (.inl (.inl (.inr ((hs.anchored.byTrack.mem _ k).2 (hunder _ ha)))))
    · exact .inl (.inl (.inr ((hs.anchored.byPublisher.mem _ k).2 (hunder _ ha))))
    · exact .inl (.inr ((hs.anchored.byKind.mem _ k).2 (hunder _ ha)))
    · refine .inr ?_
      rw [(hc.published _ x hx).2.2, hl]
      exact (hs.anchored.byLabel.mem l k).2 (hunder _ ha)

lemma hasAllocated_iff {P' : ParticipantId × TrackId → SubscriptionKey → Prop} (h : r.candidateReasons.Exact P') :
    r.hasAllocated key = true ↔ ∃ k s, P' key k ∧ r.subscriptions.lookup k = some s ∧ s.selection = .allocated := by
  simp [hasAllocated, h.mem, Option.any_eq_true]

end Lookup

section Anchors

lemma Anchored.congr (h : r.Anchored P) (hPQ : ∀ a k, P a k ↔ Q a k) : r.Anchored Q :=
  ⟨h.byTrack.congr fun _ => hPQ _, h.byPublisher.congr fun _ => hPQ _, h.byKind.congr fun _ => hPQ _,
    h.byLabel.congr fun _ => hPQ _, h.nodup, fun k => (h.unconstrained k).trans (hPQ _ k)⟩

lemma Anchored.index (h : r.Anchored P) (selector : TrackSelector) (id : SubscriptionKey) :
    (r.indexSubscription selector id).Anchored fun a k => (a = anchor selector ∧ k = id) ∨ P a k := by
  unfold indexSubscription
  cases anchor selector
  case track t =>
    exact ⟨(h.byTrack.insertAt t id).congr (by simp), h.byPublisher.congr (by simp), h.byKind.congr (by simp),
      h.byLabel.congr (by simp), h.nodup, by simp [h.unconstrained]⟩
  case publisher p =>
    exact ⟨h.byTrack.congr (by simp), (h.byPublisher.insertAt p id).congr (by simp), h.byKind.congr (by simp),
      h.byLabel.congr (by simp), h.nodup, by simp [h.unconstrained]⟩
  case label l =>
    exact ⟨h.byTrack.congr (by simp), h.byPublisher.congr (by simp), h.byKind.congr (by simp),
      (h.byLabel.insertAt l id).congr (by simp), h.nodup, by simp [h.unconstrained]⟩
  case kind c =>
    exact ⟨h.byTrack.congr (by simp), h.byPublisher.congr (by simp), (h.byKind.insertAt c id).congr (by simp),
      h.byLabel.congr (by simp), h.nodup, by simp [h.unconstrained]⟩
  case any =>
    exact ⟨h.byTrack.congr (by simp), h.byPublisher.congr (by simp), h.byKind.congr (by simp),
      h.byLabel.congr (by simp), h.nodup.insert, by simp [h.unconstrained]⟩

lemma Anchored.unindex (h : r.Anchored P) (selector : TrackSelector) (id : SubscriptionKey) :
    (r.unindexSubscription selector id).Anchored fun a k => P a k ∧ ¬ (a = anchor selector ∧ k = id) := by
  unfold unindexSubscription
  cases anchor selector
  case track t =>
    exact ⟨(h.byTrack.removeAt t id).congr (by simp), h.byPublisher.congr (by simp), h.byKind.congr (by simp),
      h.byLabel.congr (by simp), h.nodup, by simp [h.unconstrained]⟩
  case publisher p =>
    exact ⟨h.byTrack.congr (by simp), (h.byPublisher.removeAt p id).congr (by simp), h.byKind.congr (by simp),
      h.byLabel.congr (by simp), h.nodup, by simp [h.unconstrained]⟩
  case label l =>
    exact ⟨h.byTrack.congr (by simp), h.byPublisher.congr (by simp), h.byKind.congr (by simp),
      (h.byLabel.removeAt l id).congr (by simp), h.nodup, by simp [h.unconstrained]⟩
  case kind c =>
    exact ⟨h.byTrack.congr (by simp), h.byPublisher.congr (by simp), (h.byKind.removeAt c id).congr (by simp),
      h.byLabel.congr (by simp), h.nodup, by simp [h.unconstrained]⟩
  case any =>
    exact ⟨h.byTrack.congr (by simp), h.byPublisher.congr (by simp), h.byKind.congr (by simp),
      h.byLabel.congr (by simp), h.nodup.filter _, by simp [h.unconstrained]⟩

lemma indexSubscription_frame (r : RoomTrackTopology) (selector : TrackSelector) (id : SubscriptionKey) :
    ∃ a b c d e, r.indexSubscription selector id = { r with
      byTrack := a, bySubscriberPublisher := b, bySubscriptionKind := c, bySubscriptionLabel := d, unconstrained := e } := by
  unfold indexSubscription
  cases anchor selector <;> exact ⟨_, _, _, _, _, rfl⟩

lemma unindexSubscription_frame (r : RoomTrackTopology) (selector : TrackSelector) (id : SubscriptionKey) :
    ∃ a b c d e, r.unindexSubscription selector id = { r with
      byTrack := a, bySubscriberPublisher := b, bySubscriptionKind := c, bySubscriptionLabel := d, unconstrained := e } := by
  unfold unindexSubscription
  cases anchor selector <;> exact ⟨_, _, _, _, _, rfl⟩

end Anchors

section Reasons

variable {A B : ParticipantId × TrackId → SubscriptionKey → Prop}

lemma foldl_addReason (l : List (TrackId × SubscriptionKey)) (hA : r.candidateReasons.Exact A)
    (hB : r.automaticReasons.Exact B) :
    ∃ c a, l.foldl (fun r x => r.addReason x.1 x.2) r = { r with candidateReasons := c, automaticReasons := a } ∧
      c.Exact (fun key k => A key k ∨ ∃ s, r.subscriptions.lookup k = some s ∧ s.subscriber = key.1 ∧ (key.2, k) ∈ l) ∧
      a.Exact (fun key k => B key k ∨
        ∃ s, r.subscriptions.lookup k = some s ∧ s.subscriber = key.1 ∧ (key.2, k) ∈ l ∧ s.selection = .all) := by
  induction l generalizing r A B with
  | nil => exact ⟨_, _, rfl, hA.congr (by simp), hB.congr (by simp)⟩
  | cons x l ih =>
    rw [List.foldl_cons]
    cases hs : r.subscriptions.lookup x.2 with
    | none =>
      have hstep : r.addReason x.1 x.2 = r := by simp [addReason, hs]
      rw [hstep]
      obtain ⟨c, a, hfold, hc, ha⟩ := ih hA hB
      refine ⟨c, a, hfold, hc.congr fun key k => ?_, ha.congr fun key k => ?_⟩ <;>
        grind
    | some s =>
      have hstep : r.addReason x.1 x.2 = { r with
          candidateReasons := r.candidateReasons.insertAt (s.subscriber, x.1) x.2
          automaticReasons := if s.selection = .all then r.automaticReasons.insertAt (s.subscriber, x.1) x.2
            else r.automaticReasons } := by simp [addReason, hs]
      rw [hstep]
      have hB' : (if s.selection = .all then r.automaticReasons.insertAt (s.subscriber, x.1) x.2
          else r.automaticReasons).Exact fun key k => (s.selection = .all ∧ key = (s.subscriber, x.1) ∧ k = x.2) ∨
            B key k := by
        split
        · exact (hB.insertAt _ _).congr (by simp_all)
        · exact hB.congr (by simp_all)
      obtain ⟨c, a, hfold, hc, ha⟩ := ih (r := { r with
          candidateReasons := r.candidateReasons.insertAt _ x.2
          automaticReasons := if s.selection = .all then r.automaticReasons.insertAt _ x.2
            else r.automaticReasons }) (hA.insertAt _ _) hB'
      refine ⟨c, a, hfold, hc.congr fun key k => ?_, ha.congr fun key k => ?_⟩
      · grind
      · grind

lemma foldl_dropReason (s : Subscription) (id : SubscriptionKey) (l : List TrackId) (hA : r.candidateReasons.Exact A)
    (hB : r.automaticReasons.Exact B) :
    ∃ c a al, l.foldl (dropReason s id) r = { r with candidateReasons := c, automaticReasons := a, allocated := al } ∧
      c.Exact (fun key k => A key k ∧ ¬ (key.1 = s.subscriber ∧ key.2 ∈ l ∧ k = id)) ∧
      a.Exact (fun key k => B key k ∧ ¬ (s.selection = .all ∧ key.1 = s.subscriber ∧ key.2 ∈ l ∧ k = id)) ∧
      al.Sublist r.allocated ∧
      ∀ key, key ∈ al ↔ key ∈ r.allocated ∧ (key.1 = s.subscriber → key.2 ∈ l →
        ∃ k u, A key k ∧ k ≠ id ∧ r.subscriptions.lookup k = some u ∧ u.selection = .allocated) := by
  induction l generalizing r A B with
  | nil => exact ⟨_, _, _, rfl, hA.congr (by simp), hB.congr (by simp), List.Sublist.refl _, by simp⟩
  | cons t l ih =>
    rw [List.foldl_cons]
    have hA' := (hA.removeAt (s.subscriber, t) id)
    have hB' : (if s.selection = .all then r.automaticReasons.removeAt (s.subscriber, t) id
        else r.automaticReasons).Exact fun key k => B key k ∧
          ¬ (s.selection = .all ∧ key = (s.subscriber, t) ∧ k = id) := by
      split
      · exact (hB.removeAt _ _).congr (by simp_all)
      · exact hB.congr (by simp_all)
    -- the activation goes unless another reason with policy `Allocated` is left
    obtain ⟨al, hstep, hsub, hal⟩ : ∃ al, dropReason s id r t = { r with
        candidateReasons := r.candidateReasons.removeAt (s.subscriber, t) id
        automaticReasons := if s.selection = .all then r.automaticReasons.removeAt (s.subscriber, t) id
          else r.automaticReasons
        allocated := al } ∧ al.Sublist r.allocated ∧ ∀ key, key ∈ al ↔ key ∈ r.allocated ∧ (key = (s.subscriber, t) →
          ∃ k u, A key k ∧ k ≠ id ∧ r.subscriptions.lookup k = some u ∧ u.selection = .allocated) := by
      dsimp only [dropReason]
      generalize (if s.selection = .all then r.automaticReasons.removeAt _ id
        else r.automaticReasons) = a
      split
      next hall =>
        rw [hasAllocated_iff hA'] at hall
        grind
      next hall =>
        refine ⟨_, rfl, List.filter_sublist, fun key => ?_⟩
        rw [hasAllocated_iff hA'] at hall
        grind
    rw [hstep]
    obtain ⟨c, a, al', hfold, hc, ha, hsub', hal'⟩ := ih (r := { r with
        candidateReasons := r.candidateReasons.removeAt _ id
        automaticReasons := if s.selection = .all then r.automaticReasons.removeAt _ id
          else r.automaticReasons
        allocated := al }) hA' hB'
    refine ⟨c, a, al', hfold, hc.congr fun key k => ?_, ha.congr fun key k => ?_, hsub'.trans hsub, fun key => ?_⟩
    · grind
    · grind
    · grind

lemma Reasoned.addReasons (h : r.Reasoned) (r1 : RoomTrackTopology) (l : List (TrackId × SubscriptionKey))
    (hsame : r1.candidateReasons = r.candidateReasons ∧ r1.automaticReasons = r.automaticReasons ∧ r1.allocated = r.allocated)
    (hreason : ∀ test key k, r1.Reason test key k ↔ r.Reason test key k ∨ ∃ s, r1.subscriptions.lookup k = some s ∧
      s.subscriber = key.1 ∧ (key.2, k) ∈ l ∧ test s.selection = true) :
    ∃ c a, l.foldl (fun r x => r.addReason x.1 x.2) r1 = { r1 with candidateReasons := c, automaticReasons := a } ∧
      Reasoned { r1 with candidateReasons := c, automaticReasons := a } := by
  obtain ⟨hcand, hauto, halloc⟩ := hsame
  obtain ⟨c, a, hfold, hc, ha⟩ := foldl_addReason (r := r1) l (hcand ▸ h.candidate) (hauto ▸ h.automatic)
  refine ⟨c, a, hfold, hc.congr fun key k => ?_, ha.congr fun key k => ?_, halloc ▸ h.nodup, fun key hkey => ?_⟩
  · exact Iff.trans (by simp) (hreason (fun _ => true) key k).symm
  · exact Iff.trans (by simp) (hreason (· == .all) key k).symm
  · obtain ⟨k, hk⟩ := h.allocated key (halloc ▸ hkey)
    exact ⟨k, (hreason _ key k).2 (.inl hk)⟩

end Reasons

section Tracks

lemma Catalogued.addTrack (h : r.Catalogued roomId) (hroom : x.track.info.roomId = roomId)
    (hlabel : x.label = x.track.publicationLabel) (hfresh : r.tracks.lookup x.track.id = none) :
    Catalogued roomId { r.indexTrack (.fromTrack x.track) x.label with tracks := r.tracks.insert x.track.id x } := by
  refine ⟨fun t y hy => ?_, (h.byPublisher.insertAt x.track.info.origin x.track.id).congr fun p t => ?_,
    (h.byKind.insertAt x.track.kind x.track.id).congr fun c t => ?_, ?_⟩
  · rcases lookup_insert_iff.1 hy with ⟨rfl, rfl⟩ | ⟨-, hy⟩
    · exact ⟨rfl, hroom, hlabel⟩
    · exact h.published t y hy
  · simp only [lookup_insert_iff]
    grind
  · simp only [lookup_insert_iff]
    grind
  simp only [lookup_insert_iff]
  rw [hlabel]
  cases hl : x.track.publicationLabel with
  | none => exact h.byLabel.congr fun l t => by grind
  | some l =>
    exact (h.byLabel.insertAt l x.track.id).congr fun l' t => by grind

lemma Indexed.addTrack (h : r.Indexed roomId) (hroom : x.track.info.roomId = roomId)
    (hlabel : x.label = x.track.publicationLabel) (hfresh : r.tracks.lookup x.track.id = none) :
    (r.addTrack (.fromTrack x.track) x).Indexed roomId ∧
      (r.addTrack (.fromTrack x.track) x).tracks = r.tracks.insert x.track.id x ∧
      (r.addTrack (.fromTrack x.track) x).subscriptions = r.subscriptions ∧
      (r.addTrack (.fromTrack x.track) x).allocated = r.allocated := by
  have hcat := h.catalogued.addTrack hroom hlabel hfresh
  generalize hr1 : { r.indexTrack _ x.label with tracks := r.tracks.insert x.track.id x } = r1
    at hcat
  have hsub : r1.Subscribed := by
    subst hr1
    exact { h.subscribed with anchored := { h.subscribed.anchored with } }
  have hlook : r1.tracks.lookup x.track.id = some x := by simp [← hr1]
  have hlook' : ∀ t, t ≠ x.track.id → r1.tracks.lookup t = r.tracks.lookup t := by
    intro t ht
    simp [← hr1, AList.lookup_insert_ne ht]
  have hsubs : r1.subscriptions = r.subscriptions := by simp [← hr1, indexTrack]
  have hkeys := fun k => @mem_matchingSubscriptionKeys r1 roomId x k hcat hsub hlook
  obtain ⟨c, a, hfold, hreasoned⟩ := h.reasoned.addReasons r1
    ((r1.matchingSubscriptionKeys (.fromTrack x.track)).map fun k => (x.track.id, k)) (by subst hr1; exact ⟨rfl, rfl, rfl⟩) (by
      rintro test ⟨p, t⟩ k
      simp only [Reason]
      by_cases ht : t = x.track.id
      · grind
      · grind)
  have hadd : r.addTrack (.fromTrack x.track) x = { r1 with candidateReasons := c, automaticReasons := a } := by
    rw [← hfold, List.foldl_map]
    subst hr1
    rfl
  rw [hadd]
  refine ⟨⟨{ hcat with }, { hsub with anchored := { hsub.anchored with } }, hreasoned⟩, ?_, ?_, ?_⟩
  all_goals
    subst hr1
    rfl

lemma Catalogued.takeTrack (h : r.Catalogued roomId) (hx : r.tracks.lookup t = some x) :
    (r.takeTrack t (.fromTrack x.track) x.label).Catalogued roomId := by
  obtain ⟨hid, -, hlabel⟩ := h.published t x hx
  have hname : (TrackAncestry.fromTrack x.track).trackId = t := hid
  refine ⟨fun u y hy => h.published u y (lookup_erase_iff.1 hy).2,
    (h.byPublisher.removeAt x.track.info.origin (TrackAncestry.fromTrack x.track).trackId).congr fun p u => ?_,
    (h.byKind.removeAt x.track.kind (TrackAncestry.fromTrack x.track).trackId).congr fun c u => ?_, ?_⟩
  · simp only [RoomTrackTopology.takeTrack, unindexTrack, lookup_erase_iff]
    grind
  · simp only [RoomTrackTopology.takeTrack, unindexTrack, lookup_erase_iff]
    grind
  simp only [RoomTrackTopology.takeTrack, unindexTrack, lookup_erase_iff, hlabel, hname]
  cases hl : x.track.publicationLabel with
  | none => exact h.byLabel.congr fun l u => by grind
  | some l => exact (h.byLabel.removeAt l t).congr fun l' u => by grind

lemma reason_takeTrack {identity : TrackAncestry} {label : Option String} {test : SelectionPolicy → Bool} :
    (r.takeTrack t identity label).Reason test key k ↔ r.Reason test key k ∧ key.2 ≠ t := by
  simp only [Reason, takeTrack, unindexTrack, lookup_erase_iff]
  grind

lemma Indexed.takeTrack (h : r.Indexed roomId) (hx : r.tracks.lookup t = some x) :
    (r.takeTrack t (.fromTrack x.track) x.label).Indexed roomId := by
  refine ⟨h.catalogued.takeTrack hx, { h.subscribed with anchored := { h.subscribed.anchored with } },
    ⟨?_, ?_, h.reasoned.nodup.filter _, ?_⟩⟩
  · exact (h.reasoned.candidate.retain fun key => key.2 ≠ t).congr fun key k => by simp [reason_takeTrack]
  · exact (h.reasoned.automatic.retain fun key => key.2 ≠ t).congr fun key k => by simp [reason_takeTrack]
  intro key hkey
  obtain ⟨hmem, hne⟩ := List.mem_filter.1 hkey
  obtain ⟨k, hk⟩ := h.reasoned.allocated key hmem
  exact ⟨k, reason_takeTrack.2 ⟨hk, by simpa using hne⟩⟩

lemma Indexed.setReverse (h : r.Indexed roomId) (hx : r.tracks.lookup t = some x) (reverse : Option NodeRouteAddress) :
    Indexed roomId { r with tracks := r.tracks.insert t (x.setReverse reverse) } ∧
      ∀ test key k, Reason { r with tracks := r.tracks.insert t (x.setReverse reverse) }
        test key k ↔ r.Reason test key k := by
  have hlook : ∀ (P : Track → Prop), (∀ y, P (y.setReverse reverse) ↔ P y) → ∀ u,
      (∃ y, (r.tracks.insert t (x.setReverse reverse)).lookup u = some y ∧ P y.track) ↔
        ∃ y, r.tracks.lookup u = some y ∧ P y.track := by
    intro P hP u
    by_cases hu : u = t
    · subst hu
      simp [hx, Publication.setReverse, hP]
    · simp [hu]
  have hreason : ∀ test key k, Reason { r with tracks := r.tracks.insert t (x.setReverse reverse) } test key k ↔
      r.Reason test key k := by
    intro test key k
    have := hlook (fun y => ∃ s, r.subscriptions.lookup k = some s ∧ s.subscriber = key.1 ∧
      s.selector.matchesTrack y = true ∧ test s.selection = true) (fun _ => Iff.rfl) key.2
    simp only [Reason]
    grind
  have hc := h.catalogued
  refine ⟨⟨⟨fun u y hy => ?_, hc.byPublisher.congr fun p u => (hlook (·.info.origin = p) (fun _ => Iff.rfl) u).symm,
    hc.byKind.congr fun c u => (hlook (·.kind = c) (fun _ => Iff.rfl) u).symm,
    hc.byLabel.congr fun l u => (hlook (·.publicationLabel = some l) (fun _ => Iff.rfl) u).symm⟩,
    { h.subscribed with anchored := { h.subscribed.anchored with } },
    ⟨h.reasoned.candidate.congr fun key k => (hreason _ key k).symm,
      h.reasoned.automatic.congr fun key k => (hreason _ key k).symm, h.reasoned.nodup, fun key hkey => ?_⟩⟩, hreason⟩
  · rcases lookup_insert_iff.1 hy with ⟨rfl, rfl⟩ | ⟨-, hy⟩
    · exact hc.published u x hx
    · exact hc.published u y hy
  · obtain ⟨k, hk⟩ := h.reasoned.allocated key hkey
    exact ⟨k, (hreason _ key k).2 hk⟩

end Tracks

section Subscriptions

lemma Indexed.insertSubscription (h : r.Indexed roomId) (p : ParticipantId) (selector : TrackSelector)
    (selection : SelectionPolicy) (ref : Option ℕ) (hfree : ∀ n ∈ ref, r.owned.lookup (p, n) = none) :
    (r.insertSubscription p selector selection ref).1.Indexed roomId ∧
      (r.insertSubscription p selector selection ref).1.tracks = r.tracks ∧
      (r.insertSubscription p selector selection ref).1.subscriptions =
        r.subscriptions.insert r.nextKey ⟨r.nextKey, p, selector, selection, ref⟩ ∧
      (r.insertSubscription p selector selection ref).1.allocated = r.allocated := by
  have hfresh : r.subscriptions.lookup r.nextKey = none := by
    by_contra hne
    obtain ⟨s, hs⟩ := Option.ne_none_iff_exists'.1 hne
    exact absurd (h.subscribed.keyed _ s hs).2 (Nat.lt_irrefl _)
  generalize hnew : (⟨r.nextKey, p, selector, selection, ref⟩ : Subscription) = new
  generalize hr0 : ({ r with
      subscriptions := r.subscriptions.insert r.nextKey new
      nextKey := r.nextKey + 1
      owned := ref.elim r.owned fun n => r.owned.insert (p, n) r.nextKey } : RoomTrackTopology) = r0
  obtain ⟨a, b, c, d, e, hframe⟩ := r0.indexSubscription_frame selector r.nextKey
  have hinsert : (r.insertSubscription p selector selection ref).1 =
      (r0.indexSubscription selector r.nextKey).addSubscriptionReasons r.nextKey := by
    subst hr0 hnew
    rfl
  have hanch : (r0.indexSubscription selector r.nextKey).Anchored r0.Under := by
    have h0 : r0.Anchored r.Under := by
      subst hr0
      exact { h.subscribed.anchored with }
    refine (h0.index selector r.nextKey).congr fun a k => ?_
    subst hr0 hnew
    simp only [Under, lookup_insert_iff]
    grind
  rw [hframe] at hanch
  have hcat : Catalogued roomId (r0.indexSubscription selector r.nextKey) := by
    rw [hframe]
    subst hr0
    exact { h.catalogued with }
  rw [hinsert]
  generalize r0.indexSubscription selector r.nextKey = r1 at hframe hcat
  have hsubs : r1.subscriptions = r.subscriptions.insert r.nextKey new := by rw [hframe, ← hr0]
  have htracks : r1.tracks = r.tracks := by rw [hframe, ← hr0]
  have hlook : r1.subscriptions.lookup r.nextKey = some new := by simp [hsubs]
  obtain ⟨cand, auto, hfold, hreasoned⟩ := h.reasoned.addReasons r1
    ((r1.selectorTracks selector).map fun t => (t, r.nextKey)) (by rw [hframe, ← hr0]; exact ⟨rfl, rfl, rfl⟩) (by
      simp only [Reason, hsubs, htracks, List.mem_map, mem_selectorTracks hcat, lookup_insert_iff]
      grind)
  have hadd : r1.addSubscriptionReasons r.nextKey = { r1 with candidateReasons := cand, automaticReasons := auto } := by
    rw [← hfold, List.foldl_map, addSubscriptionReasons, hlook, ← hnew]
  rw [hadd]
  refine ⟨⟨{ hcat with }, ⟨?_, ?_, ?_⟩, hreasoned⟩, htracks, hsubs, ?_⟩
  · intro k s hs
    have hnext : r1.nextKey = r.nextKey + 1 := by rw [hframe, ← hr0]
    rw [hnext]
    rcases lookup_insert_iff.1 (hsubs ▸ hs) with ⟨rfl, rfl⟩ | ⟨-, hs⟩
    · exact ⟨by rw [← hnew], Nat.lt_succ_self _⟩
    · exact (h.subscribed.keyed k s hs).imp_right Nat.lt_succ_of_lt
  · intro q n k
    have howned : r1.owned = ref.elim r.owned fun n => r.owned.insert (p, n) r.nextKey := by rw [hframe, ← hr0]
    have hold := h.subscribed.owned q n k
    simp only [howned, hsubs, lookup_insert_iff]
    cases ref with
    | none =>
      grind
    | some m =>
      simp only [Option.elim_some, lookup_insert_iff]
      grind
  · rw [hframe]
    exact { hanch with }
  · rw [hframe, ← hr0]

variable {id : SubscriptionKey} {s : Subscription}

lemma Subscribed.owned_erase (h : r.Subscribed) (hs : r.subscriptions.lookup id = some s) (q : ParticipantId) (n : ℕ)
    (k : SubscriptionKey) :
    (s.ownedRef.elim r.owned fun n => r.owned.erase (s.subscriber, n)).lookup (q, n) = some k ↔
      ∃ u, (r.subscriptions.erase id).lookup k = some u ∧ u.subscriber = q ∧ u.ownedRef = some n := by
  have hold := h.owned q n
  simp only [lookup_erase_iff]
  cases href : s.ownedRef with
  | none =>
    grind
  | some m =>
    simp only [Option.elim_some, lookup_erase_iff, hold]
    constructor
    · rintro ⟨hne, u, hu, rfl, hn⟩
      refine ⟨u, ⟨?_, hu⟩, rfl, hn⟩
      rintro rfl
      cases hs.symm.trans hu
      exact hne (by rw [Option.some.inj (hn.symm.trans href)])
    · rintro ⟨u, ⟨hne, hu⟩, rfl, hn⟩
      refine ⟨fun heq => hne ?_, u, hu, rfl, hn⟩
      obtain ⟨hq, rfl⟩ := Prod.mk.inj heq
      have h1 := (hold k).2 ⟨u, hu, rfl, hn⟩
      exact Option.some.inj (h1.symm.trans ((hold id).2 ⟨s, hs, hq.symm, href⟩))

lemma Indexed.unsubscribe (h : r.Indexed roomId) (hs : r.subscriptions.lookup id = some s) :
    (r.unsubscribe id).1.Indexed roomId ∧ (r.unsubscribe id).1.tracks = r.tracks ∧
      (r.unsubscribe id).1.subscriptions = r.subscriptions.erase id ∧
      ∀ key, key ∈ (r.unsubscribe id).1.allocated ↔
        key ∈ r.allocated ∧ ∃ k, (r.unsubscribe id).1.Reason (· == .allocated) key k := by
  generalize hr0 : ({ r with
      subscriptions := r.subscriptions.erase id
      owned := s.ownedRef.elim r.owned fun n => r.owned.erase _ } : RoomTrackTopology) = r0
  obtain ⟨a, b, c, d, e, hframe⟩ := r0.unindexSubscription_frame s.selector id
  have hrun : (r.unsubscribe id).1 = ((r0.unindexSubscription s.selector id).selectorTracks s.selector).foldl
      (dropReason s id) (r0.unindexSubscription s.selector id) := by
    rw [RoomTrackTopology.unsubscribe, hs, ← hr0]
  have hanch : (r0.unindexSubscription s.selector id).Anchored r0.Under := by
    have h0 : r0.Anchored r.Under := by
      subst hr0
      exact { h.subscribed.anchored with }
    refine (h0.unindex s.selector id).congr fun a k => ?_
    subst hr0
    simp only [Under, lookup_erase_iff]
    grind
  have hcat : Catalogued roomId (r0.unindexSubscription s.selector id) := by
    rw [hframe]
    subst hr0
    exact { h.catalogued with }
  rw [hframe] at hanch
  rw [hrun]
  generalize r0.unindexSubscription s.selector id = r1 at hframe hcat
  have hsubs : r1.subscriptions = r.subscriptions.erase id := by rw [hframe, ← hr0]
  have htracks : r1.tracks = r.tracks := by rw [hframe, ← hr0]
  have hal : r1.allocated = r.allocated := by rw [hframe, ← hr0]
  obtain ⟨cand, auto, al, hfold, hcand, hauto, hsub, hmem⟩ := foldl_dropReason (r := r1) s id
    (r1.selectorTracks s.selector)
    (by rw [hframe, ← hr0]; exact h.reasoned.candidate) (by rw [hframe, ← hr0]; exact h.reasoned.automatic)
  have hreason : ∀ test key k, r1.Reason test key k ↔ r.Reason test key k ∧ k ≠ id := by
    simp only [Reason, hsubs, lookup_erase_iff]
    grind
  -- the removed subscription was a reason only for the tracks its selector still finds
  have hid : ∀ test key, r.Reason test key id ↔
      (key.1 = s.subscriber ∧ key.2 ∈ r1.selectorTracks s.selector) ∧ test s.selection = true := by
    simp only [mem_selectorTracks hcat, Reason]
    grind
  have hkept : ∀ key, key ∈ al ↔ key ∈ r.allocated ∧ ∃ k, r1.Reason (· == .allocated) key k := by
    intro key
    rw [hmem, hal]
    simp only [hreason]
    refine and_congr_right fun hkey => ?_
    obtain ⟨k, hk⟩ := h.reasoned.allocated key hkey
    constructor
    · intro himp
      by_cases hki : k = id
      · subst hki
        obtain ⟨⟨h1, h2⟩, -⟩ := (hid _ key).1 hk
        obtain ⟨k', u, ⟨s', x, hs', hx, hp, hm, -⟩, hne, hu, hpol⟩ := himp h1 h2
        rw [hsubs, lookup_erase_iff, hs'] at hu
        obtain ⟨-, ⟨⟩⟩ := hu
        exact ⟨k', ⟨_, x, hs', hx, hp, hm, by simp [hpol]⟩, hne⟩
      · exact ⟨k, hk, hki⟩
    · rintro ⟨k', ⟨s', x, hs', hx, hp, hm, hpol⟩, hne⟩ - -
      exact ⟨k', s', ⟨s', x, hs', hx, hp, hm, rfl⟩, hne, by rw [hsubs, lookup_erase_iff]; exact ⟨hne, hs'⟩,
        by simpa using hpol⟩
  rw [hfold]
  refine ⟨⟨{ hcat with }, ⟨?_, ?_, ?_⟩,
    ⟨hcand.congr fun key k => ?_, hauto.congr fun key k => ?_, ?_, ?_⟩⟩, htracks, hsubs, hkept⟩
  · intro k u hu
    have hnext : r1.nextKey = r.nextKey := by rw [hframe, ← hr0]
    rw [hnext]
    exact h.subscribed.keyed k u (lookup_erase_iff.1 (hsubs ▸ hu)).2
  · intro q n k
    have howned : r1.owned = s.ownedRef.elim r.owned fun n => r.owned.erase (s.subscriber, n) := by
      rw [hframe, ← hr0]
    simpa only [howned, hsubs] using h.subscribed.owned_erase hs q n k
  · rw [hframe]
    exact { hanch with }
  · refine Iff.trans ?_ (hreason (fun _ => true) key k).symm
    grind
  · refine Iff.trans ?_ (hreason (· == .all) key k).symm
    grind
  · exact (hal ▸ hsub).nodup h.reasoned.nodup
  · exact fun key hkey => ((hkept key).1 hkey).2

end Subscriptions

end RoomTrackTopology

end Control

end Pulsebeam
