import Pulsebeam.Lib.SetMap
import Pulsebeam.Track

/-! The catalogue of published tracks and subscriptions of each room, with its indexes. -/

namespace Pulsebeam.Control

open Pulsebeam.Lib

abbrev SubscriptionKey := ℕ

structure TrackAncestry where
  roomId : RoomId
  publisher : ParticipantId
  trackId : TrackId
  deriving DecidableEq, Repr

namespace TrackAncestry

def fromTrack (track : Track) : TrackAncestry := ⟨track.info.roomId, track.info.origin, track.id⟩

def kind (identity : TrackAncestry) : TrackKind := identity.trackId.kind

end TrackAncestry

structure Subscription where
  id : SubscriptionKey
  subscriber : ParticipantId
  selector : TrackSelector
  selection : SelectionPolicy
  ownedRef : Option ℕ
  deriving DecidableEq, Repr

structure Publication where
  track : Track
  label : Option String
  deriving DecidableEq, Repr

def Publication.setReverse (x : Publication) (reverse : Option NodeRouteAddress) : Publication :=
  { x with track := x.track.setReverse reverse }

inductive SubscriptionAnchor
  | track (id : TrackId)
  | publisher (id : ParticipantId)
  | label (label : String)
  | kind (kind : TrackKind)
  | any
  deriving DecidableEq, Repr

structure RoomTrackTopology where
  tracks : AList fun _ : TrackId => Publication
  byPublisher : SetMap ParticipantId TrackId
  byKind : SetMap TrackKind TrackId
  byLabel : SetMap String TrackId
  subscriptions : AList fun _ : SubscriptionKey => Subscription
  nextKey : SubscriptionKey
  owned : AList fun _ : ParticipantId × ℕ => SubscriptionKey
  byTrack : SetMap TrackId SubscriptionKey
  bySubscriberPublisher : SetMap ParticipantId SubscriptionKey
  bySubscriptionKind : SetMap TrackKind SubscriptionKey
  bySubscriptionLabel : SetMap String SubscriptionKey
  unconstrained : List SubscriptionKey
  candidateReasons : SetMap (ParticipantId × TrackId) SubscriptionKey
  automaticReasons : SetMap (ParticipantId × TrackId) SubscriptionKey
  allocated : List (ParticipantId × TrackId)

namespace RoomTrackTopology

def empty : RoomTrackTopology := ⟨∅, ∅, ∅, ∅, ∅, 0, ∅, ∅, ∅, ∅, ∅, [], ∅, ∅, []⟩

variable (r : RoomTrackTopology)

def identity (roomId : RoomId) (track : TrackId) : Option TrackAncestry :=
  (r.tracks.lookup track).map fun publication => ⟨roomId, publication.track.info.origin, track⟩

def indexTrack (identity : TrackAncestry) (label : Option String) : RoomTrackTopology :=
  { r with
    byPublisher := r.byPublisher.insertAt identity.publisher identity.trackId
    byKind := r.byKind.insertAt identity.kind identity.trackId
    byLabel := label.elim r.byLabel fun label => r.byLabel.insertAt label identity.trackId }

def unindexTrack (identity : TrackAncestry) (label : Option String) : RoomTrackTopology :=
  { r with
    byPublisher := r.byPublisher.removeAt identity.publisher identity.trackId
    byKind := r.byKind.removeAt identity.kind identity.trackId
    byLabel := label.elim r.byLabel fun label => r.byLabel.removeAt label identity.trackId }

def indexedTracks (selector : TrackSelector) : List TrackId :=
  match selector.track, selector.publisher, selector.label, selector.kind with
  | some track, _, _, _ => if track ∈ r.tracks then [track] else []
  | none, some publisher, _, _ => r.byPublisher.get publisher
  | none, none, some label, _ => r.byLabel.get label
  | none, none, none, some kind => r.byKind.get kind
  | none, none, none, none => r.tracks.keys

def selectorTracks (selector : TrackSelector) : List TrackId :=
  (r.indexedTracks selector).filter fun track =>
    (r.tracks.lookup track).any fun publication => selector.matchesTrack publication.track

def anchor (selector : TrackSelector) : SubscriptionAnchor :=
  match selector.track, selector.publisher, selector.label, selector.kind with
  | some track, _, _, _ => .track track
  | none, some publisher, _, _ => .publisher publisher
  | none, none, some label, _ => .label label
  | none, none, none, some kind => .kind kind
  | none, none, none, none => .any

def indexSubscription (selector : TrackSelector) (id : SubscriptionKey) : RoomTrackTopology :=
  match anchor selector with
  | .track track => { r with byTrack := r.byTrack.insertAt track id }
  | .publisher publisher => { r with bySubscriberPublisher := r.bySubscriberPublisher.insertAt publisher id }
  | .label label => { r with bySubscriptionLabel := r.bySubscriptionLabel.insertAt label id }
  | .kind kind => { r with bySubscriptionKind := r.bySubscriptionKind.insertAt kind id }
  | .any => { r with unconstrained := r.unconstrained.insert id }

def unindexSubscription (selector : TrackSelector) (id : SubscriptionKey) : RoomTrackTopology :=
  match anchor selector with
  | .track track => { r with byTrack := r.byTrack.removeAt track id }
  | .publisher publisher => { r with bySubscriberPublisher := r.bySubscriberPublisher.removeAt publisher id }
  | .label label => { r with bySubscriptionLabel := r.bySubscriptionLabel.removeAt label id }
  | .kind kind => { r with bySubscriptionKind := r.bySubscriptionKind.removeAt kind id }
  | .any => { r with unconstrained := r.unconstrained.filter (· ≠ id) }

def matchingSubscriptionKeys (identity : TrackAncestry) : List SubscriptionKey :=
  match r.tracks.lookup identity.trackId with
  | none => []
  | some publication =>
    let candidates := r.unconstrained ++ r.byTrack.get identity.trackId ++
      r.bySubscriberPublisher.get identity.publisher ++ r.bySubscriptionKind.get identity.kind ++
      publication.label.elim [] r.bySubscriptionLabel.get
    candidates.dedup.filter fun id =>
      (r.subscriptions.lookup id).any fun subscription => subscription.selector.matchesTrack publication.track

def addReason (track : TrackId) (id : SubscriptionKey) : RoomTrackTopology :=
  match r.subscriptions.lookup id with
  | none => r
  | some subscription =>
    { r with
      candidateReasons := r.candidateReasons.insertAt (subscription.subscriber, track) id
      automaticReasons :=
        if subscription.selection = .all then r.automaticReasons.insertAt (subscription.subscriber, track) id
        else r.automaticReasons }

def addPublicationReasons (identity : TrackAncestry) : RoomTrackTopology :=
  (r.matchingSubscriptionKeys identity).foldl (fun r id => r.addReason identity.trackId id) r

def addSubscriptionReasons (id : SubscriptionKey) : RoomTrackTopology :=
  match r.subscriptions.lookup id with
  | none => r
  | some subscription => (r.selectorTracks subscription.selector).foldl (fun r track => r.addReason track id) r

def hasAllocated (key : ParticipantId × TrackId) : Bool :=
  (r.candidateReasons.get key).any fun id =>
    (r.subscriptions.lookup id).any fun subscription => subscription.selection == .allocated

def dropReason (subscription : Subscription) (id : SubscriptionKey) (r : RoomTrackTopology) (track : TrackId) :
    RoomTrackTopology :=
  let key := (subscription.subscriber, track)
  let r := { r with
    candidateReasons := r.candidateReasons.removeAt key id
    automaticReasons :=
      if subscription.selection = .all then r.automaticReasons.removeAt key id else r.automaticReasons }
  if r.hasAllocated key then r else { r with allocated := r.allocated.filter (· ≠ key) }

def unsubscribe (id : SubscriptionKey) : RoomTrackTopology × Option Subscription :=
  match r.subscriptions.lookup id with
  | none => (r, none)
  | some subscription =>
    let r := { r with
      subscriptions := r.subscriptions.erase id
      owned := subscription.ownedRef.elim r.owned fun reference => r.owned.erase (subscription.subscriber, reference) }
    let r := r.unindexSubscription subscription.selector id
    ((r.selectorTracks subscription.selector).foldl (dropReason subscription id) r, some subscription)

def candidateSubscribers (track : TrackId) : List ParticipantId :=
  (r.candidateReasons.keys.filter fun key => key.2 == track).map (·.1)

def activeSubscribers (track : TrackId) : List ParticipantId :=
  (r.candidateSubscribers track).filter fun subscriber =>
    decide ((subscriber, track) ∈ r.automaticReasons) || decide ((subscriber, track) ∈ r.allocated)

def activate (track : TrackId) (subscriber : ParticipantId) : RoomTrackTopology × Bool :=
  if r.hasAllocated (subscriber, track) then
    ({ r with allocated := r.allocated.insert (subscriber, track) }, decide ((subscriber, track) ∉ r.allocated))
  else (r, false)

def removeSubscriber (participant : ParticipantId) : RoomTrackTopology :=
  let subscriptions := r.subscriptions.keys.filter fun id =>
    (r.subscriptions.lookup id).any fun subscription => subscription.subscriber == participant
  let r := subscriptions.foldl (fun r id => (r.unsubscribe id).1) r
  { r with allocated := r.allocated.filter fun key => key.1 ≠ participant }

def addTrack (identity : TrackAncestry) (publication : Publication) : RoomTrackTopology :=
  let r := r.indexTrack identity publication.label
  let r := { r with tracks := r.tracks.insert identity.trackId publication }
  r.addPublicationReasons identity

def takeTrack (track : TrackId) (identity : TrackAncestry) (label : Option String) : RoomTrackTopology :=
  let r := { r with tracks := r.tracks.erase track }
  let r := r.unindexTrack identity label
  { r with
    candidateReasons := r.candidateReasons.retain fun key => key.2 ≠ track
    automaticReasons := r.automaticReasons.retain fun key => key.2 ≠ track
    allocated := r.allocated.filter fun key => key.2 ≠ track }

def removeTrack (track : TrackId) : RoomTrackTopology :=
  match r.tracks.lookup track with
  | none => r
  | some publication => r.takeTrack track (.fromTrack publication.track) publication.label

def insertSubscription (subscriber : ParticipantId) (selector : TrackSelector)
    (selection : SelectionPolicy) (ownedRef : Option ℕ) : RoomTrackTopology × SubscriptionKey :=
  let id := r.nextKey
  let r := { r with
    subscriptions := r.subscriptions.insert id ⟨id, subscriber, selector, selection, ownedRef⟩
    nextKey := id + 1
    owned := ownedRef.elim r.owned fun reference => r.owned.insert (subscriber, reference) id }
  ((r.indexSubscription selector id).addSubscriptionReasons id, id)

end RoomTrackTopology

structure TrackTopology where
  rooms : AList fun _ : RoomId => RoomTrackTopology

namespace TrackTopology

def empty : TrackTopology := ⟨∅⟩

variable (t : TrackTopology)

def roomOrDefault (roomId : RoomId) : RoomTrackTopology := (t.rooms.lookup roomId).getD .empty

def setRoom (roomId : RoomId) (room : RoomTrackTopology) : TrackTopology := ⟨t.rooms.insert roomId room⟩

def publish (track : Track) : TrackTopology × Option TrackAncestry :=
  let identity := TrackAncestry.fromTrack track
  let label := track.publicationLabel
  let room := t.roomOrDefault identity.roomId
  if identity.trackId ∈ room.tracks then (t.setRoom identity.roomId room, none)
  else
    (t.setRoom identity.roomId (room.addTrack identity ⟨track, label⟩), some identity)

def unpublish (identity : TrackAncestry) : TrackTopology × Option Track :=
  match t.rooms.lookup identity.roomId with
  | none => (t, none)
  | some room =>
    match room.tracks.lookup identity.trackId with
    | none => (t, none)
    | some publication =>
      (t.setRoom identity.roomId (room.takeTrack identity.trackId identity publication.label), some publication.track)

def source (roomId : RoomId) (track : TrackId) : Option Track :=
  (t.rooms.lookup roomId).bind fun room => (room.tracks.lookup track).map (·.track)

def track (identity : TrackAncestry) : Option Track := t.source identity.roomId identity.trackId

def setReverse (identity : TrackAncestry) (reverse : Option NodeRouteAddress) : TrackTopology :=
  match t.rooms.lookup identity.roomId with
  | none => t
  | some room =>
    match room.tracks.lookup identity.trackId with
    | none => t
    | some publication =>
      t.setRoom identity.roomId
        { room with tracks := room.tracks.insert identity.trackId (publication.setReverse reverse) }

def subscribe (roomId : RoomId) (subscriber : ParticipantId) (selector : TrackSelector)
    (selection : SelectionPolicy) : TrackTopology × SubscriptionKey :=
  let (room, id) := (t.roomOrDefault roomId).insertSubscription subscriber selector selection none
  (t.setRoom roomId room, id)

def setOwned (roomId : RoomId) (subscriber : ParticipantId) (reference : ℕ) (track : TrackId)
    (enabled : Bool) : TrackTopology × Bool :=
  let room := t.roomOrDefault roomId
  let selector := TrackSelector.ofTrack track
  let selection : SelectionPolicy := if enabled then .all else .allocated
  match room.owned.lookup (subscriber, reference) with
  | none =>
    (t.setRoom roomId (room.insertSubscription subscriber selector selection (some reference)).1, true)
  | some previous =>
    if (room.subscriptions.lookup previous).all fun subscription => subscription.selector != selector then
      (t.setRoom roomId room, false)
    else
      let room := (room.unsubscribe previous).1
      (t.setRoom roomId (room.insertSubscription subscriber selector selection (some reference)).1, true)

def removeOwned (roomId : RoomId) (subscriber : ParticipantId) (reference : ℕ) : TrackTopology × Option Subscription :=
  match t.rooms.lookup roomId with
  | none => (t, none)
  | some room =>
    match room.owned.lookup (subscriber, reference) with
    | none => (t, none)
    | some id =>
      let (room, subscription) := room.unsubscribe id
      (t.setRoom roomId room, subscription)

def removeMatching (roomId : RoomId) (subscriber : ParticipantId) (selector : TrackSelector)
    (first : SubscriptionKey) : TrackTopology × Option Subscription :=
  match t.rooms.lookup roomId with
  | none => (t, none)
  | some room =>
    if (room.subscriptions.lookup first).any fun subscription =>
        subscription.ownedRef.isNone && subscription.subscriber == subscriber && subscription.selector == selector then
      let (room, subscription) := room.unsubscribe first
      (t.setRoom roomId room, subscription)
    else (t, none)

def candidateSubscribers (identity : TrackAncestry) : List ParticipantId :=
  (t.rooms.lookup identity.roomId).elim [] fun room => room.candidateSubscribers identity.trackId

def activeSubscribers (identity : TrackAncestry) : List ParticipantId :=
  (t.rooms.lookup identity.roomId).elim [] fun room => room.activeSubscribers identity.trackId

def activate (identity : TrackAncestry) (subscriber : ParticipantId) : TrackTopology × Bool :=
  match t.rooms.lookup identity.roomId with
  | none => (t, false)
  | some room =>
    let (room, inserted) := room.activate identity.trackId subscriber
    (t.setRoom identity.roomId room, inserted)

def deactivate (identity : TrackAncestry) (subscriber : ParticipantId) : TrackTopology × Bool :=
  match t.rooms.lookup identity.roomId with
  | none => (t, false)
  | some room =>
    (t.setRoom identity.roomId
        { room with allocated := room.allocated.filter (· ≠ (subscriber, identity.trackId)) },
      decide ((subscriber, identity.trackId) ∈ room.allocated))

def matchingTracks (roomId : RoomId) (selector : TrackSelector) : List TrackAncestry :=
  (t.rooms.lookup roomId).elim [] fun room => (room.selectorTracks selector).filterMap (room.identity roomId)

def removeFromRoom (participant : ParticipantId) (room : RoomTrackTopology) : RoomTrackTopology :=
  let room := room.removeSubscriber participant
  let published := room.tracks.keys.filter fun id =>
    (room.tracks.lookup id).any fun publication => publication.track.info.origin == participant
  published.foldl RoomTrackTopology.removeTrack room

def leaveRoom (participant : ParticipantId) (t : TrackTopology) (roomId : RoomId) : TrackTopology :=
  match t.rooms.lookup roomId with
  | none => t
  | some room => t.setRoom roomId (removeFromRoom participant room)

def removeParticipant (participant : ParticipantId) : TrackTopology := t.rooms.keys.foldl (leaveRoom participant) t

end TrackTopology

end Pulsebeam.Control
