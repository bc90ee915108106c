import EventCapture.Character.Category

/-! Letters and numbers of every script. -/

set_option autoImplicit false

namespace EventCapture.Text

def numbers : CharSet := .ofCategories ["Nd", "Nl", "No"]

def alphanumerics : CharSet := CharSet.alphabetic.union numbers

def isAlphabetic (c : Char) : Bool :=
  CharSet.alphabetic.has c

def isAlphanumeric (c : Char) : Bool :=
  alphanumerics.has c

end EventCapture.Text
