import EventCapture.Filter
import EventCapture.Snapshot

/-! Views over a snapshot: queries, checks, and the report that a failed check carries. -/

set_option autoImplicit false

namespace EventCapture

namespace Report

def usualLimit : Nat := 50

/-- The lines of a report: one for each of the first records, and one that counts the rest. -/
def lines (records : List Record) (limit : Nat) : List String :=
  ((records.take limit).map fun record => "  " ++ record.text) ++
    (if limit < records.length then ["  ... " ++ toString (records.length - limit) ++ " more"]
      else [])

def render (records : List Record) (limit : Nat) : String :=
  if records.isEmpty then "  (no events captured)"
  else String.intercalate "\n" (lines records limit)

end Report

structure View where
  snapshot : Snapshot
  limit : Nat
  deriving DecidableEq, Repr

namespace View

def ofSnapshot (snapshot : Snapshot) : View := ⟨snapshot, Report.usualLimit⟩

def records (view : View) : List Record := view.snapshot.records

def report (view : View) : String := Report.render view.records view.limit

def allMatching (view : View) (filter : Filter) : List Record :=
  view.records.filter filter.passes

def countMatching (view : View) (filter : Filter) : Nat :=
  (view.allMatching filter).length

def hasMatching (view : View) (filter : Filter) : Bool :=
  view.records.any filter.passes

def firstMatching? (view : View) (filter : Filter) : Option Record :=
  view.records.find? filter.passes

def expectMatching (view : View) (filter : Filter) : Except Failure Record :=
  match view.firstMatching? filter with
  | some record => .ok record
  | none => .error (.assertion ("an event matching " ++ filter.text) view.report)

def checkCount (view : View) (filter : Filter) (expected : Nat) : Except Failure Unit :=
  let found := view.countMatching filter
  if found = expected then .ok ()
  else .error (.assertion
    (toString expected ++ " event(s) matching " ++ filter.text ++ ", found " ++ toString found)
    view.report)

def offending (view : View) : List Record :=
  view.records.filter (·.event.isError)

def checkNoErrors (view : View) : Except Failure Unit :=
  let offending := view.offending
  if offending.isEmpty then .ok ()
  else .error (.assertion
    ("no errors logged, found " ++ toString offending.length ++ " of " ++
      toString view.records.length ++ " captured event(s)")
    (Report.render offending view.limit))

end View

end EventCapture
