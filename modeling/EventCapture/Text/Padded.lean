/-! Padding of a short text to a least width, with an optional cut to a greatest one. -/

set_option autoImplicit false

namespace EventCapture.Text

inductive Alignment where
  | left
  | right
  | center
  deriving DecidableEq, Repr

/-- How a text is laid out: cut to `limit` characters first, then filled up to `width`. -/
structure Layout where
  width : Nat
  limit : Option Nat
  alignment : Alignment
  fill : Char
  deriving DecidableEq, Repr

/-- Padding before and after, for so many missing characters. A centered text that cannot stand
in the middle stands one place to the left of it. -/
def Alignment.split (alignment : Alignment) (missing : Nat) : Nat × Nat :=
  match alignment with
  | .left => (0, missing)
  | .right => (missing, 0)
  | .center => (missing / 2, missing - missing / 2)

def Layout.apply (layout : Layout) (text : String) : String :=
  let kept := match layout.limit with
    | some limit => text.toList.take limit
    | none => text.toList
  let gap := layout.alignment.split (layout.width - kept.length)
  String.ofList (List.replicate gap.1 layout.fill ++ kept ++ List.replicate gap.2 layout.fill)

def Layout.greatest : Nat := 65535

inductive LayoutFault where
  | outOfRange
  deriving DecidableEq, Repr

def LayoutFault.message : LayoutFault → String
  | .outOfRange => "Formatting argument out of range"

def Layout.applyWithin (layout : Layout) (text : String) : Except LayoutFault String :=
  if layout.width ≤ Layout.greatest && layout.limit.all (· ≤ Layout.greatest) then
    .ok (layout.apply text)
  else .error .outOfRange

def padRight (width : Nat) (text : String) : String :=
  Layout.apply ⟨width, none, .left, ' '⟩ text

def zeroPadded (width n : Nat) : String :=
  Layout.apply ⟨width, none, .right, '0'⟩ (toString n)

end EventCapture.Text
