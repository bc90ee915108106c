import EventCapture.Regex.Meaning
import EventCapture.Regex.Reader
import EventCapture.Regex.Size

/-! Regular expressions from patterns.

The notation knows alternatives, groups with flags and names, repetition with and without limits,
classes in brackets with set operations, escapes, anchors and word boundaries. It has no
back-references and no look-around, which are refused like every other malformed pattern.
-/

set_option autoImplicit false

namespace EventCapture.Regex

def read? (pattern : String) : Option Expr := do
  let node ← Node.ofPattern? pattern
  let (expr, _) ← node.expr? .initial
  some expr

def parse? (pattern : String) : Option Expr :=
  (read? pattern).filter Expr.isAffordable

end EventCapture.Regex
