import EventCapture.Facade.Trace

/-! Reports on operations: structured events that tell of the start of an operation, its end, or
its failure, with the time it took. -/

set_option autoImplicit false

namespace EventCapture

structure Operation where
  component : String
  name : String
  deriving DecidableEq, Repr

namespace Operation

open Facade

def report (operation : Operation) (level : Level) (happening : String) (rest : List Visit) :
    TraceEvent :=
  { target := operation.component
    level := level
    visits :=
      ⟨Schema.component, .text operation.component⟩ :: ⟨Schema.operation, .text operation.name⟩ ::
        ⟨Schema.event, .text happening⟩ :: rest }

def started (operation : Operation) (extra : List Visit) : TraceEvent :=
  operation.report .debug Schema.start extra

def finished (operation : Operation) (millis : Nat) (extra : List Visit) : TraceEvent :=
  operation.report .debug Schema.finish (⟨Schema.duration, .integer millis⟩ :: extra)

def failed (operation : Operation) (failure : Failure) (millis : Nat) (extra : List Visit) :
    TraceEvent :=
  operation.report .warn Schema.finishFailed
    (⟨Schema.duration, .integer millis⟩ :: ⟨Schema.failureKind, .shown failure.kind.name⟩ ::
      ⟨Schema.failureCode, .text failure.code⟩ :: extra)

end Operation

def greatestMillis : Nat := Nat.pow 2 64 - 1

/-- Whole milliseconds of a span of nanoseconds, held at the largest number a report can give. -/
def wholeMillis (nanos : Nat) : Nat := min (nanos / 1000000) greatestMillis

end EventCapture
