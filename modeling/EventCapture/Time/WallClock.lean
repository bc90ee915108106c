import EventCapture.Time.Instant

/-! Readings of the time of day that are of no use. Whoever dates something by the clock needs a
time that is not before 1970, and a sink needs one that can be represented. -/

set_option autoImplicit false

namespace EventCapture

inductive ClockReader where
  | sink
  /-- A session, for its identifier. -/
  | session
  deriving DecidableEq, Repr

inductive ClockFault where
  /-- It lies so many nanoseconds before 1970. -/
  | beforeEpoch (reader : ClockReader) (nanos : Nat)
  | beyondRange
  deriving DecidableEq, Repr

namespace ClockFault

/-- A whole number and a fraction of so many digits, of which zeros at the end are left out. -/
def decimalText (whole fraction digits : Nat) : String :=
  let shown := ((Text.zeroPadded digits fraction).toList.reverse.dropWhile (· == '0')).reverse
  toString whole ++
    (if fraction = 0 then "" else "." ++ String.ofList shown)

def spanText (nanos : Nat) : String :=
  if 1000000000 ≤ nanos then decimalText (nanos / 1000000000) (nanos % 1000000000) 9 ++ "s"
  else if 1000000 ≤ nanos then decimalText (nanos / 1000000) (nanos % 1000000) 6 ++ "ms"
  else if 1000 ≤ nanos then decimalText (nanos / 1000) (nanos % 1000) 3 ++ "µs"
  else decimalText nanos 0 0 ++ "ns"

def message : ClockFault → String
  | .beforeEpoch .sink nanos =>
    "system time before Unix epoch: SystemTimeError(" ++ spanText nanos ++ ")"
  | .beforeEpoch .session nanos =>
    "Getting elapsed time since UNIX_EPOCH. If this fails, we've somehow violated causality: " ++
      "SystemTimeError(" ++ spanText nanos ++ ")"
  | .beyondRange => "called \x60Option::unwrap()\x60 on a \x60None\x60 value"

end ClockFault

def Instant.usable (reader : ClockReader) (now : Option Instant) : Except ClockFault Instant :=
  match now with
  | none => .error .beyondRange
  | some now =>
    -- the clocks tell the time from 1970 on
    if now.seconds < 0 then .error (.beforeEpoch reader (-now.total).toNat) else .ok now

end EventCapture
