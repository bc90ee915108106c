import EventCapture.Pattern

/-! Sets of patterns: not empty, in the order in which they were given. A name falls under a set
when it falls under one of its patterns. -/

set_option autoImplicit false

namespace EventCapture

structure PatternSet where
  patterns : List NamePattern
  nonempty : patterns ≠ []
  deriving DecidableEq, Repr

namespace PatternSet

def ofPatterns (patterns : List NamePattern) : Except Fault PatternSet :=
  match patterns with
  | [] => .error .noPatterns
  | first :: rest => .ok ⟨first :: rest, List.cons_ne_nil first rest⟩

/-- Read patterns in order. The first fault wins. -/
def parseAll : List String → Except Fault (List NamePattern)
  | [] => .ok []
  | raw :: rest =>
    match NamePattern.parse raw with
    | .error fault => .error fault
    | .ok pattern => (parseAll rest).map (pattern :: ·)

def withoutRepeats : List NamePattern → List NamePattern → List NamePattern
  | seen, [] => seen.reverse
  | seen, pattern :: rest =>
    if seen.contains pattern then withoutRepeats seen rest
    else withoutRepeats (pattern :: seen) rest

/-- Read a set; a pattern that was read before is dropped. -/
def parse (raws : List String) : Except Fault PatternSet :=
  match parseAll raws with
  | .error fault => .error fault
  | .ok patterns => ofPatterns (withoutRepeats [] patterns)

def matchesName (set : PatternSet) (name : String) : Bool :=
  set.patterns.any (·.matchesName name)

def text (set : PatternSet) : String :=
  "[" ++ String.intercalate ", " (set.patterns.map NamePattern.text) ++ "]"

end PatternSet

end EventCapture
