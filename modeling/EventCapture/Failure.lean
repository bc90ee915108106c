import EventCapture.Document
import EventCapture.Text.Blank
import EventCapture.Text.Pieces
import EventCapture.Time.Instant

/-! What can go wrong in a capture: settings that are refused, a wait that ends without a match,
and a check that does not hold. Each failure has a kind with a stable code and a message. -/

set_option autoImplicit false

namespace EventCapture

inductive ReadFault where
  | notFound
  | isDirectory
  | notText
  | nameTooLong
  /-- There is a zero character in the path. -/
  | unfitPath
  deriving DecidableEq, Repr

def ReadFault.message : ReadFault → String
  | .notFound => "No such file or directory (os error 2)"
  | .isDirectory => "Is a directory (os error 21)"
  | .notText => "stream did not contain valid UTF-8"
  | .nameTooLong => "File name too long (os error 36)"
  | .unfitPath => "file name contained an unexpected NUL byte"

namespace ReadFault

/-- The longest path, in bytes. -/
def longestPath : Nat := 4095

/-- The longest name in a path, in bytes. -/
def longestName : Nat := 255

/-- Why nothing can be read at a path that leads to no file: it stands where it begins, or its first
name leads nowhere. -/
def ofPath (path : String) : ReadFault :=
  let names := (Text.pieces '/' path.toList).map String.ofList
  let first := names.find? fun name => name != "" && name != "." && name != ".."
  -- a path is looked at as a text before any directory is searched
  if path.toList.contains '\x00' then .unfitPath
  else if longestPath < path.utf8ByteSize then .nameTooLong
  else
    match first with
    | some name => if longestName < name.utf8ByteSize then .nameTooLong else .notFound
    | none => if path.isEmpty then .notFound else .isDirectory

end ReadFault

inductive Fault where
  | emptyPattern
  | blankInPattern (raw : String)
  | emptySegment (raw : String)
  | misplacedStar (raw : String)
  | noPatterns
  | unknownLevel (text : String)
  | zeroTimeout
  | invertedWindow (start stop : Instant)
  | unreadable (path : String) (why : ReadFault)
  /-- The document does not follow its notation. -/
  | malformedDocument
  | misshapenDocument (why : ShapeFault)
  /-- A reason in the words of the caller. -/
  | stated (reason : String)
  deriving DecidableEq, Repr

def Fault.reason : Fault → String
  | .emptyPattern => "logger pattern is empty"
  | .blankInPattern raw => "logger pattern '" ++ raw ++ "' contains whitespace"
  | .emptySegment raw => "logger pattern '" ++ raw ++ "' has an empty segment"
  | .misplacedStar raw =>
    "logger pattern '" ++ raw ++ "' may only use '*' as a whole trailing segment"
  | .noPatterns => "at least one logger pattern is required"
  | .unknownLevel text =>
    "unrecognized severity '" ++ text ++ "' (expected one of TRACE, DEBUG, INFO, WARN, ERROR)"
  | .zeroTimeout => "wait.timeout_ms must be greater than zero"
  | .invertedWindow start stop =>
    "time window start " ++ start.offsetText ++ " is after end " ++ stop.offsetText
  | .unreadable path why => "cannot read " ++ path ++ ": " ++ why.message
  | .malformedDocument => "TOML parse error: <syntax>"
  | .misshapenDocument why => "TOML parse error: " ++ why.message .pointed
  | .stated reason => reason

inductive FailureKind where
  | configuration
  | timeout
  | assertionFailure
  deriving DecidableEq, Repr

def FailureKind.code : FailureKind → String
  | .configuration => "ERR_CONFIGURATION"
  | .timeout => "ERR_TIMEOUT"
  | .assertionFailure => "ERR_ASSERTION_FAILED"

def FailureKind.name : FailureKind → String
  | .configuration => "Configuration"
  | .timeout => "Timeout"
  | .assertionFailure => "AssertionFailure"

/-- A failed capture operation. Criteria say what was looked for, and the rendering shows what was
captured instead. -/
inductive Failure where
  | configuration (fault : Fault)
  | timeout (criteria : String) (waitedMillis : Nat) (rendering : String)
  | assertion (criteria : String) (rendering : String)
  deriving DecidableEq, Repr

namespace Failure

def kind : Failure → FailureKind
  | .configuration _ => .configuration
  | .timeout .. => .timeout
  | .assertion .. => .assertionFailure

def code (failure : Failure) : String := failure.kind.code

def criteria? : Failure → Option String
  | .configuration _ => none
  | .timeout criteria _ _ => some criteria
  | .assertion criteria _ => some criteria

def rendering? : Failure → Option String
  | .configuration _ => none
  | .timeout _ _ rendering => some rendering
  | .assertion _ rendering => some rendering

def message : Failure → String
  | .configuration fault => "Invalid capture configuration: " ++ fault.reason
  | .timeout criteria waitedMillis rendering =>
    "Timed out after " ++ toString waitedMillis ++ "ms waiting for event matching " ++ criteria ++
      "\n" ++ rendering
  | .assertion criteria rendering =>
    "Assertion failed: expected " ++ criteria ++ "\n" ++ rendering

end Failure

end EventCapture
