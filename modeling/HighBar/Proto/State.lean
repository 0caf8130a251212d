import Mathlib.Tactic.Common

/-!
# The state wire format: the update envelope

`StateUpdate` is the envelope every stream message travels in. Its body is a parameter, because the
transport (ring, bus, stream) reads the sequence number and never the body.

Serialization is the protobuf library's, outside this repository, so it enters as data: an
`UpdateCodec` is a serializer and a parser together with the round trip that the library documents.
Nothing else about the bytes is used anywhere.
-/

namespace HighBar

/-- `StateUpdate`. -/
structure StateUpdate (π : Type*) where
  seq : ℕ
  frame : ℕ
  /-- The payload oneof. -/
  body : π
deriving Repr, DecidableEq

/-- A serializer and a parser that undoes it. -/
structure UpdateCodec (π β : Type*) where
  serialize : StateUpdate π → β
  /-- `ParseFromString`; `none` when it returns false. -/
  parse : β → Option (StateUpdate π)
  /-- What was serialized parses back. -/
  parse_serialize : ∀ u, parse (serialize u) = some u

namespace UpdateCodec

variable {π β : Type*} (codec : UpdateCodec π β)

/-- The sequence number a payload carries. -/
def seqOf (payload : β) : Option ℕ := (codec.parse payload).map StateUpdate.seq

/-- A serialized update has its number. -/
@[simp] theorem seqOf_serialize (u : StateUpdate π) :
    codec.seqOf (codec.serialize u) = some u.seq := by
  rw [seqOf, codec.parse_serialize, Option.map_some]

/-- What has a number parses. -/
theorem parse_of_seqOf {payload : β} {n : ℕ} (h : codec.seqOf payload = some n) :
    ∃ u, codec.parse payload = some u ∧ u.seq = n :=
  Option.map_eq_some_iff.1 h

end UpdateCodec

end HighBar
