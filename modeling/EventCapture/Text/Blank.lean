/-! Blank characters and the trimming of blanks from both ends of a text. -/

set_option autoImplicit false

namespace EventCapture.Text

def isBlank (c : Char) : Bool :=
  let n := c.toNat
  (0x9 ≤ n && n ≤ 0xD) || n == 0x20 || n == 0x85 || n == 0xA0 || n == 0x1680 ||
    (0x2000 ≤ n && n ≤ 0x200A) || n == 0x2028 || n == 0x2029 || n == 0x202F || n == 0x205F ||
    n == 0x3000

def trimEnd (cs : List Char) : List Char :=
  (cs.reverse.dropWhile isBlank).reverse

def trimmed (cs : List Char) : List Char :=
  trimEnd (cs.dropWhile isBlank)

def trim (text : String) : String :=
  String.ofList (trimmed text.toList)

theorem isBlank_of_isWhitespace {c : Char} (blank : c.isWhitespace = true) : isBlank c = true := by
  simp only [Char.isWhitespace, Bool.or_eq_true, decide_eq_true_eq] at blank
  rcases blank with ((rfl | rfl) | rfl) | rfl <;> decide

end EventCapture.Text
