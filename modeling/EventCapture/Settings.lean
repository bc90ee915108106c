import EventCapture.Pattern.Set
import EventCapture.Report
import EventCapture.Schema

/-! Settings of a capture: which names, how severe, how long to wait, how much to show. Patterns
and severity are kept as written and checked when the settings are used. -/

set_option autoImplicit false

namespace EventCapture

/-- How long a wait may last, and how often it looks; in milliseconds. -/
structure WaitSettings where
  timeout : Nat
  pollInterval : Nat
  deriving DecidableEq, Repr

def WaitSettings.usual : WaitSettings := ⟨1000, 10⟩

/-- The bounds of a wait, in nanoseconds. -/
structure WaitPolicy where
  timeout : Nat
  pollInterval : Nat
  deriving DecidableEq, Repr

namespace WaitPolicy

def nanosPerMilli : Nat := 1000000

/-- One second, looking every ten milliseconds. -/
def usual : WaitPolicy := ⟨1000 * nanosPerMilli, 10 * nanosPerMilli⟩

/-- How long to sleep when so much time is left: no longer than that, and a millisecond at least. -/
def sleepFor (policy : WaitPolicy) (remaining : Nat) : Nat :=
  max (min policy.pollInterval remaining) nanosPerMilli

end WaitPolicy

structure Settings where
  patterns : List String
  minimumLevel : String
  wait : WaitSettings
  renderLimit : Nat
  deriving DecidableEq, Repr

namespace Settings

def usual : Settings := ⟨[], "trace", WaitSettings.usual, Report.usualLimit⟩

/-- The items of a text between commas, without the blanks around them; blank items are left
out. -/
def items (text : String) : List String :=
  (((Text.pieces ',' text.toList).map Text.trimmed).filter (!·.isEmpty)).map String.ofList

def overridden (settings : Settings) (lookup : String → Option String) : Settings :=
  { settings with
    patterns := match lookup Schema.patternsVariable with
      | some text => items text
      | none => settings.patterns
    -- a blank severity is kept, and refused when the settings are checked
    minimumLevel := match lookup Schema.levelVariable with
      | some text => Text.trim text
      | none => settings.minimumLevel }

/-- The patterns and the severity that the settings name. The first fault wins: of the patterns,
of the severity, of the timeout. -/
def validate (settings : Settings) : Except Fault (PatternSet × Level) :=
  match PatternSet.parse settings.patterns with
  | .error fault => .error fault
  | .ok patterns =>
    match Level.parse settings.minimumLevel with
    | .error fault => .error fault
    | .ok level =>
      if settings.wait.timeout = 0 then .error .zeroTimeout else .ok (patterns, level)

def waitPolicy (settings : Settings) : WaitPolicy :=
  ⟨settings.wait.timeout * WaitPolicy.nanosPerMilli,
    settings.wait.pollInterval * WaitPolicy.nanosPerMilli⟩

end Settings

end EventCapture
