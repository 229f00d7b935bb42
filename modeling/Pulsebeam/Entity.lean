import Mathlib

/-! Identifiers. They are compared for equality; connection identifiers are also ordered. -/

namespace Pulsebeam

abbrev RoomId := ℕ

abbrev ParticipantId := ℕ

abbrev ConnectionId := ℕ

abbrev ShardId := ℕ

inductive TrackKind
  | audio
  | video
  | data
  deriving DecidableEq, Repr

structure TrackId where
  raw : ℕ
  kind : TrackKind
  deriving DecidableEq, Repr

end Pulsebeam
