import Pulsebeam.Entity

/-! Published tracks and the selectors that name them. -/

namespace Pulsebeam

structure NodeRouteAddress where
  shard : ShardId
  slot : ℕ
  epoch : ℕ
  deriving DecidableEq, Repr

structure TrackMeta where
  roomId : RoomId
  id : TrackId
  origin : ParticipantId
  connectionId : ConnectionId
  label : Option String
  deriving DecidableEq, Repr

inductive DataLane
  | latest
  | lossy
  | ordered
  deriving DecidableEq, Repr

def DataLane.asStr : DataLane → String
  | .latest => "latest"
  | .lossy => "lossy"
  | .ordered => "ordered"

inductive TrackMedia
  | audio
  | video
  | data (topic : Option String) (lane : DataLane)
  deriving DecidableEq, Repr

structure Track where
  info : TrackMeta
  media : TrackMedia
  reverse : Option NodeRouteAddress
  deriving DecidableEq, Repr

def publicationLabel (lane : DataLane) (topic : String) : String := "v2/" ++ lane.asStr ++ "/" ++ topic

namespace Track

def id (t : Track) : TrackId := t.info.id

def kind (t : Track) : TrackKind := t.id.kind

def setReverse (t : Track) (reverse : Option NodeRouteAddress) : Track := { t with reverse := reverse }

def publicationLabel (t : Track) : Option String :=
  match t.media with
  | .data (some topic) lane => some (Pulsebeam.publicationLabel lane topic)
  | .data none _ => t.info.label
  | _ => none

end Track

structure TrackSelector where
  track : Option TrackId
  publisher : Option ParticipantId
  kind : Option TrackKind
  label : Option String
  deriving DecidableEq, Repr

namespace TrackSelector

def ofTrack (track : TrackId) : TrackSelector := ⟨some track, none, none, none⟩

def matchesTrack (s : TrackSelector) (t : Track) : Bool :=
  s.track.all (fun expected => t.id == expected) && s.publisher.all (fun expected => t.info.origin == expected) &&
    s.kind.all (fun expected => t.kind == expected) &&
    s.label.all fun expected => t.publicationLabel == some expected

end TrackSelector

inductive SelectionPolicy
  | all
  | allocated
  deriving DecidableEq, Repr

end Pulsebeam
