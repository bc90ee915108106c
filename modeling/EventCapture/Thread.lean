import EventCapture.Json

/-! Tags that tell which thread emitted an event. -/

set_option autoImplicit false

namespace EventCapture

structure ThreadTag where
  id : String
  name : Option String
  deriving DecidableEq, Repr

namespace ThreadTag

/-- The tag of the thread that was started as the so-manieth. -/
def ofNumber (number : Nat) (name : Option String) : ThreadTag :=
  ⟨"ThreadId(" ++ toString number ++ ")", name⟩

structure UnfitThreadName where
  name : String
  deriving DecidableEq, Repr

/-- The complaint shows the bytes of the name, and which of them is the first zero. -/
def UnfitThreadName.message (unfit : UnfitThreadName) : String :=
  -- the number is the place of the first zero byte
  let bytes := unfit.name.toUTF8.toList
  "thread name may not contain interior null bytes: NulError(" ++
    toString (bytes.takeWhile (· != 0)).length ++ ", [" ++
    String.intercalate ", " (bytes.map toString) ++ "])"

def started (number : Nat) (name : Option String) : Except UnfitThreadName ThreadTag :=
  if name.any (·.toList.contains '\x00') then .error ⟨name.getD ""⟩ else .ok (ofNumber number name)

def main : ThreadTag := ofNumber 1 (some "main")

def hasNumberedForm (tag : ThreadTag) : Bool :=
  "ThreadId(".toList.isPrefixOf tag.id.toList && tag.id.toList.getLast? == some ')'

def text (tag : ThreadTag) : String :=
  match tag.name with
  | some name => name ++ "[" ++ tag.id ++ "]"
  | none => tag.id

def json (tag : ThreadTag) : Json :=
  .object [("id", .text tag.id), ("name", Json.optional .text tag.name)]

end ThreadTag

end EventCapture
