import EventCapture.Character.Category

/-! Characters that can be shown as they are. What cannot be shown is a control, format, private-use
or unassigned character, a separator other than the space, a letter that leaves its place empty, or
a character that extends the one before it. -/

set_option autoImplicit false

namespace EventCapture.Text

def unseen : CharSet :=
  (CharSet.ofCategories ["Cc", "Cf", "Cn", "Co", "Cs", "Zl", "Zp", "Zs"]).diff (.single ' ')

def fillers : CharSet := .table ["115F-1160 3164 FFA0"]

/-- Voiced sound marks of half width, which extend the character before them and are still drawn in
a place of their own. -/
def halfWidthMarks : CharSet := .table ["FF9E-FF9F"]

def unprintable : CharSet :=
  .unionAll [unseen, fillers, CharSet.extending.diff halfWidthMarks]

def isPrintable (c : Char) : Bool :=
  !unprintable.has c

end EventCapture.Text
