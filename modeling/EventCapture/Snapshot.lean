import EventCapture.Event

/-! Snapshots: the sequence of a sink at one moment, in order of arrival. -/

set_option autoImplicit false

namespace EventCapture

structure Snapshot where
  records : List Record
  /-- The sequence can no longer change. -/
  final : Bool
  deriving DecidableEq, Repr

namespace Snapshot

def empty : Snapshot := ⟨[], false⟩

def size (snapshot : Snapshot) : Nat := snapshot.records.length

def get? (snapshot : Snapshot) (index : Nat) : Option Record := snapshot.records[index]?

def messages (snapshot : Snapshot) : List String :=
  snapshot.records.map (·.event.message)

def jsonLines (snapshot : Snapshot) : String :=
  String.join (snapshot.records.map fun record => record.json.render ++ "\n")

end Snapshot

end EventCapture
