import EventCapture.Document

/-! The tables of a document while it is being read. A table may come into being by its own header,
by a header or dotted key that leads through it, or as a value; what may be added to it later
depends on how it came into being. -/

set_option autoImplicit false

namespace EventCapture.Toml

inductive Node where
  | value (document : Document)
  /-- A table. It is implied until it gets a header of its own, and it may have been made by a
  dotted key. -/
  | table (implied dotted : Bool) (members : List (String × Node))
  | tables (items : List (List (String × Node)))
  deriving Repr

abbrev Members := List (String × Node)

namespace Node

mutual

def document : Node → Document
  | .value document => document
  | .table _ _ members => .table (documentMembers members)
  | .tables items => .sequence (documentTables items)

def documentMembers : List (String × Node) → List (String × Document)
  | [] => []
  | member :: rest => documentMember member :: documentMembers rest

def documentMember : String × Node → String × Document
  | (key, node) => (key, node.document)

def documentTables : List (List (String × Node)) → List Document
  | [] => []
  | members :: rest => .table (documentMembers members) :: documentTables rest

end

end Node

namespace Members

def replace (members : Members) (key : String) (node : Node) : Members :=
  members.map fun member => if member.1 == key then (key, node) else member

/-- Follow a path of keys and change the table at its end; tables that are missing on the way are
made. The change is told whether that table was made by a dotted key. A dotted path may not lead
through a table that has its own header, and no path leads through a value. -/
def change {α : Type} (byDots : Bool) (edit : Bool → Members → Option (Members × α)) :
    List String → Bool → Members → Option (Members × α)
  | [], dotted, members => edit dotted members
  | key :: rest, _, members =>
    match members.lookup key with
    | none => do
      let (inner, result) ← change byDots edit rest byDots []
      some (members ++ [(key, .table true byDots inner)], result)
    | some (.value _) => none
    -- a path leads into the table that was appended last
    | some (.tables items) =>
      match items.getLast? with
      | some last => do
        let (inner, result) ← change byDots edit rest false last
        some (replace members key (.tables (items.dropLast ++ [inner])), result)
      | none => none
    | some (.table implied dotted inner) =>
      if byDots && !implied then none
      else do
        let (inner, result) ← change byDots edit rest dotted inner
        some (replace members key (.table implied dotted inner), result)

/-- Add a value at the end of a dotted path. The key must be new, and a table made by dotted keys
can only be reached by dotted keys. -/
def insert (members : Members) (path : List String) (key : String) (value : Document) :
    Option Members :=
  (change true (fun dotted here =>
    if dotted == path.isEmpty || (here.lookup key).isSome then none
    else some (here ++ [(key, .value value)], ())) path false members).map Prod.fst

end Members

/-- A document while it is being read: the tables that are complete, and the one whose header was
read last. The first table has no header. -/
structure Draft where
  root : Members
  current : Members
  path : List String
  appended : Bool

namespace Draft

def empty : Draft := ⟨[], [], [], false⟩

def finish (draft : Draft) : Option Members :=
  match draft.path.getLast? with
  | none => some draft.current
  | some key =>
    (Members.change false (fun _ here =>
      match here.lookup key, draft.appended with
      | none, true => some (here ++ [(key, .tables [draft.current])], ())
      | none, false => some (here ++ [(key, .table false false draft.current)], ())
      | some (.tables items), true =>
        some (Members.replace here key (.tables (items ++ [draft.current])), ())
      | _, _ => none) draft.path.dropLast false draft.root).map Prod.fst

/-- Begin a table with a header. A table that was only implied so far goes on from what it holds,
and its place in the document is that of the header. -/
def openTable (draft : Draft) (path : List String) (key : String) : Option Draft := do
  let root ← draft.finish
  let (root, current) ← Members.change false (fun _ here =>
    match here.lookup key with
    | none => some (here, [])
    | some (.table true false inner) => some (here.filter (·.1 != key), inner)
    | some _ => none) path false root
  some ⟨root, current, path ++ [key], false⟩

def appendTable (draft : Draft) (path : List String) (key : String) : Option Draft := do
  let root ← draft.finish
  let (root, _) ← Members.change false (fun _ here =>
    match here.lookup key with
    | none => some (here ++ [(key, .tables [])], ())
    | some (.tables _) => some (here, ())
    | some _ => none) path false root
  some ⟨root, [], path ++ [key], true⟩

def insert (draft : Draft) (path : List String) (key : String) (value : Document) :
    Option Draft := do
  some { draft with current := ← draft.current.insert path key value }

end Draft

end EventCapture.Toml
