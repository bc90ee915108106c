import EventCapture.Event
import EventCapture.Pattern
import EventCapture.Window

/-! Filters: what a record must satisfy to be of interest.

A filter has one place for each kind of criterion and a list of required fields. A record passes
when it satisfies every criterion that is set.
-/

set_option autoImplicit false

namespace EventCapture

inductive LevelTest where
  | exactly (level : Level)
  | atLeast (level : Level)
  deriving DecidableEq, Repr

namespace LevelTest

def holds : LevelTest → Level → Bool
  | .exactly wanted, level => level == wanted
  | .atLeast least, level => decide (least ≤ level)

def text : LevelTest → String
  | .exactly wanted => "level=" ++ wanted.name
  | .atLeast least => "level>=" ++ least.name

end LevelTest

structure TextTest where
  source : String
  accepts : String → Bool

inductive MessageTest where
  | contains (needle : String)
  | equals (wanted : String)
  | matching (test : TextTest)

namespace MessageTest

def occursIn (needle : List Char) : List Char → Bool
  | [] => needle.isEmpty
  | c :: rest => needle.isPrefixOf (c :: rest) || occursIn needle rest

def holds : MessageTest → String → Bool
  | .contains needle, message => occursIn needle.toList message.toList
  | .equals wanted, message => message == wanted
  | .matching test, message => test.accepts message

def text : MessageTest → String
  | .contains needle => "message contains " ++ Text.quoted needle
  | .equals wanted => "message == " ++ Text.quoted wanted
  | .matching test => "message =~ /" ++ test.source ++ "/"

end MessageTest

structure Filter where
  level : Option LevelTest
  logger : Option NamePattern
  message : Option MessageTest
  window : Option Window
  hasError : Option Bool
  fields : List (String × String)

namespace Filter

def any : Filter := ⟨none, none, none, none, none, []⟩

inductive Call where
  | level (wanted : Level)
  | atLeast (least : Level)
  | logger (pattern : NamePattern)
  | message (test : MessageTest)
  | within (window : Window)
  | hasError (present : Bool)
  | field (name text : String)

/-- A criterion takes the place of an earlier one of its kind; required fields add up. -/
def call (filter : Filter) : Call → Filter
  | .level wanted => { filter with level := some (.exactly wanted) }
  | .atLeast least => { filter with level := some (.atLeast least) }
  | .logger pattern => { filter with logger := some pattern }
  | .message test => { filter with message := some test }
  | .within window => { filter with window := some window }
  | .hasError present => { filter with hasError := some present }
  | .field name text => { filter with fields := filter.fields ++ [(name, text)] }

def ofCalls (calls : List Call) : Filter := calls.foldl call any

def passes (filter : Filter) (record : Record) : Bool :=
  filter.level.all (·.holds record.event.level) &&
    filter.logger.all (·.matchesName record.event.logger) &&
    filter.message.all (·.holds record.event.message) &&
    filter.window.all (·.contains record.timestamp) &&
    filter.hasError.all (record.event.error.isSome == ·) &&
    filter.fields.all fun wanted => record.event.fields.get? wanted.1 == some wanted.2

def parts (filter : Filter) : List String :=
  (filter.level.toList.map LevelTest.text) ++
    (filter.logger.toList.map fun pattern => "logger=" ++ pattern.text) ++
    (filter.message.toList.map MessageTest.text) ++
    (filter.window.toList.map fun window => "within " ++ window.text) ++
    (filter.hasError.toList.map fun present => if present then "with error" else "without error") ++
    (filter.fields.map fun wanted => wanted.1 ++ "=" ++ Text.quoted wanted.2)

def text (filter : Filter) : String :=
  match filter.parts with
  | [] => "any event"
  | parts => String.intercalate " " parts

end Filter

end EventCapture
