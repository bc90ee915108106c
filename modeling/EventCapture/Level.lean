import EventCapture.Failure

/-! Severities of events, from the least severe to the most. -/

set_option autoImplicit false

namespace EventCapture

inductive Level where
  | trace
  | debug
  | info
  | warn
  | error
  deriving DecidableEq, Repr

namespace Level

def all : List Level := [.trace, .debug, .info, .warn, .error]

def rank : Level → Nat
  | .trace => 0
  | .debug => 1
  | .info => 2
  | .warn => 3
  | .error => 4

instance : LE Level where
  le a b := a.rank ≤ b.rank

instance : LT Level where
  lt a b := a.rank < b.rank

instance (a b : Level) : Decidable (a ≤ b) :=
  inferInstanceAs (Decidable (a.rank ≤ b.rank))

instance (a b : Level) : Decidable (a < b) :=
  inferInstanceAs (Decidable (a.rank < b.rank))

theorem le_iff {a b : Level} : a ≤ b ↔ a.rank ≤ b.rank := Iff.rfl

theorem le_refl (a : Level) : a ≤ a := Nat.le_refl _

theorem le_trans {a b c : Level} (first : a ≤ b) (second : b ≤ c) : a ≤ c :=
  Nat.le_trans first second

theorem rank_injective {a b : Level} (same : a.rank = b.rank) : a = b := by
  cases a <;> cases b <;> simp [rank] at same ⊢

def cmp (a b : Level) : Ordering := compare a.rank b.rank

def max (a b : Level) : Level := if a ≤ b then b else a

def name : Level → String
  | .trace => "TRACE"
  | .debug => "DEBUG"
  | .info => "INFO"
  | .warn => "WARN"
  | .error => "ERROR"

def capitalized : Level → String
  | .trace => "Trace"
  | .debug => "Debug"
  | .info => "Info"
  | .warn => "Warn"
  | .error => "Error"

/-- The severity of a name in lower case; a warning may be spelled out. -/
def ofLowerName? (name : String) : Option Level :=
  match name with
  | "trace" => some .trace
  | "debug" => some .debug
  | "info" => some .info
  | "warn" | "warning" => some .warn
  | "error" => some .error
  | _ => none

/-- Read a severity. Letters of the English alphabet may have either case, and blanks around the
name do not count. -/
def parse (text : String) : Except Fault Level :=
  match ofLowerName? (String.ofList ((Text.trimmed text.toList).map Char.toLower)) with
  | some level => .ok level
  | none => .error (.unknownLevel text)

end Level

end EventCapture
