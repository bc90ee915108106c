import EventCapture.Json
import EventCapture.Text.Alphanumeric

/-! Errors attached to events: a kind and a message, and the chain of causes behind them. -/

set_option autoImplicit false

namespace EventCapture

structure ErrorEntry where
  kind : String
  message : String
  deriving DecidableEq, Repr

structure ErrorChain where
  head : ErrorEntry
  causes : List ErrorEntry
  deriving DecidableEq, Repr

structure ErrorFace where
  debug : String
  display : String
  deriving DecidableEq, Repr

namespace ErrorChain

/-- A chain that is longer is cut here, so that an endless one ends. -/
def longest : Nat := 32

def plainKind : String := "Error"

def isNoKind : List Char → Bool
  | [] => true
  | first :: _ => first.isDigit

/-- The kind of an error: the identifier that its developer's form begins with. -/
def kindOf (debug : String) : String :=
  let identifier := debug.toList.takeWhile fun c => Text.isAlphanumeric c || c == '_'
  if isNoKind identifier then plainKind else String.ofList identifier

def ofMessage (message : String) : ErrorChain := ⟨⟨plainKind, message⟩, []⟩

def entryOf (face : ErrorFace) : ErrorEntry := ⟨kindOf face.debug, face.display⟩

def entriesFrom {ε : Type} (face : ε → ErrorFace) (source : ε → Option ε) :
    Nat → Option ε → List ErrorEntry
  | 0, _ => []
  | _ + 1, none => []
  | n + 1, some error => entryOf (face error) :: entriesFrom face source n (source error)

/-- The chain of an error value, following its sources. The sources may go round in a circle. -/
def ofError {ε : Type} (face : ε → ErrorFace) (source : ε → Option ε) (error : ε) : ErrorChain :=
  ⟨entryOf (face error), entriesFrom face source (longest - 1) (source error)⟩

def ofFaces (first : ErrorFace) (sources : List ErrorFace) : ErrorChain :=
  ofError (fun faces : ErrorFace × List ErrorFace => faces.1)
    (fun faces => match faces.2 with
      | [] => none
      | next :: rest => some (next, rest))
    (first, sources)

def withKind (chain : ErrorChain) (kind : String) : ErrorChain :=
  { chain with head := { chain.head with kind := kind } }

def entries (chain : ErrorChain) : List ErrorEntry := chain.head :: chain.causes

/-- An entry and the causes behind it, each cause inside the parentheses of the one before. -/
def textFrom (entry : ErrorEntry) : List ErrorEntry → String
  | [] => entry.kind ++ ": " ++ entry.message
  | cause :: rest =>
    entry.kind ++ ": " ++ entry.message ++ " (caused by " ++ textFrom cause rest ++ ")"

def text (chain : ErrorChain) : String := textFrom chain.head chain.causes

def jsonFrom (entry : ErrorEntry) : List ErrorEntry → Json
  | [] => .object [("kind", .text entry.kind), ("message", .text entry.message)]
  | cause :: rest =>
    .object [("kind", .text entry.kind), ("message", .text entry.message),
      ("cause", jsonFrom cause rest)]

def json (chain : ErrorChain) : Json := jsonFrom chain.head chain.causes

theorem length_entriesFrom_le {ε : Type} (face : ε → ErrorFace) (source : ε → Option ε)
    (n : Nat) (error : Option ε) : (entriesFrom face source n error).length ≤ n := by
  induction n generalizing error with
  | zero => simp [entriesFrom]
  | succ n ih =>
    cases error with
    | none => simp [entriesFrom]
    | some error => simpa [entriesFrom] using ih (source error)

/-- The chain of a list of errors holds all of them, as far as it goes. -/
theorem ofFaces_eq (first : ErrorFace) (sources : List ErrorFace) :
    ofFaces first sources = ⟨entryOf first, (sources.take (longest - 1)).map entryOf⟩ := by
  rw [ofFaces, ofError, mk.injEq]
  refine ⟨rfl, ?_⟩
  generalize longest - 1 = n
  induction n generalizing first sources with
  | zero => rfl
  | succ n ih =>
    cases sources with
    | nil => rfl
    | cons next rest => exact congrArg (entryOf next :: ·) (ih next rest)

end ErrorChain

end EventCapture
