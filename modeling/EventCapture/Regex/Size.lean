import Std.Data.HashMap
import EventCapture.Regex.Layout

/-! The size of the automata that would search for an expression.

There are two of them, one that reads forward and keeps where captured parts begin and end, and one
that reads backward. A counted repetition is written out in both, so that a short pattern may ask
for a large automaton; neither may take more than ten mebibytes.

States have numbers in the order in which they are taken. A character of many scripts takes several
states, and like ones among them are taken once; but only so many of them are remembered, each in a
slot to which its number and those of its ranges lead, so that the size depends on the numbers. -/

set_option autoImplicit false

namespace EventCapture.Regex

structure Taken where
  states : Nat
  extra : Nat

def stateSize : Nat := 32

def largest : Nat := 10 * Nat.pow 2 20

def Taken.bytes (taken : Taken) : Nat := stateSize * taken.states + taken.extra

/-- A part of the construction of an automaton, which ends where the automaton gets too large. -/
abbrev Building (α : Type) := StateT Taken Option α

namespace Building

def take (states extra : Nat) : Building Nat := fun before =>
  let after : Taken := ⟨before.states + states, before.extra + extra⟩
  if after.bytes ≤ largest then some (before.states, after) else none

/-- Go on from the end of a part. From a fork one more step takes its bytes. -/
def goOn (fork : Bool) : Building Unit := do
  let _ ← take 0 (if fork then branchSize else 0)

/-- The states that are remembered: for each slot numbers and the state that they led to. -/
abbrev Memory := Std.HashMap UInt64 (List Nat × Nat)

def forwardSlots : UInt64 := 10000

def backwardSlots : UInt64 := 1000

def slotOf (slots : UInt64) (numbers : List Nat) : UInt64 :=
  numbers.foldl (fun hash number => (hash ^^^ number.toUInt64) * 0x100000001B3)
    0xCBF29CE484222325 % slots

/-- The state for numbers: the one that is remembered, or else a new one, which takes some bytes and
is remembered instead of what was in its slot. -/
def stateFor (slots : UInt64) (numbers : List Nat) (extra : Nat) (memory : Memory) :
    Building (Nat × Memory) := do
  let slot := slotOf slots numbers
  match memory[slot]?.filter (·.1 == numbers) with
  | some (_, state) => pure (state, memory)
  | none =>
    let state ← take 1 extra
    pure (state, memory.insert slot (numbers, state))

/-- The state from which pieces of so many places at most lead to an end. It has a step for each
range at the first place; states with the same steps are one. -/
def toEnd (ending : Nat) : Nat → List ByteRanges → Memory → Building (Nat × Memory)
  | 0, _, memory => pure (ending, memory)
  | places + 1, pieces, memory =>
    match groups pieces with
    | [] => pure (ending, memory)
    | found => do
      let (steps, memory) ← found.foldlM (fun (steps, memory) (range, tails) => do
        let (next, memory) ← toEnd ending places tails memory
        pure ([range.1, range.2, next] :: steps, memory)) ([], memory)
      stateFor forwardSlots steps.reverse.flatten (rangeSize * steps.length) memory

/-- The state from which a piece leads to an end when it is read from its last place on. It has one
step for each place, and what leads to the same end in the same way is one state. -/
def fromLast (ending : Nat) (piece : ByteRanges) (memory : Memory) : Building (Nat × Memory) :=
  piece.foldlM (fun (state, memory) range =>
    stateFor backwardSlots [state, range.1, range.2] 0 memory) (ending, memory)

def char (direction : Direction) (pieces : List ByteRanges) : Building Unit :=
  match direction with
  | .forward => do
    let ending ← take 1 0
    let _ ← toEnd ending 4 pieces ∅
  -- backward a fork leads to every piece, and all pieces share the memory
  | .backward => do
    let fork ← take 2 0
    let _ ← pieces.foldlM (fun memory piece => do
      let (_, memory) ← fromLast (fork + 1) piece memory
      goOn true
      pure memory) ∅

/-- So many copies, one after the other, where what comes before them may be a fork. -/
def copies (once : Building Bool) : Nat → Bool → Building Bool
  | 0, fork => pure fork
  | count + 1, fork => do
    let next ← once
    goOn fork
    copies once count next

def endings (once : Building Bool) : Nat → Bool → Building Bool
  | 0, fork => pure fork
  | count + 1, fork => do
    let _ ← take 1 (2 * branchSize)
    let next ← once
    goOn fork
    endings once count next

def unlimited (once : Building Bool) (takesSome : Bool) (least : Nat) : Building Bool :=
  if least ≠ 0 then do
    let fork ← copies once least false
    let _ ← take 1 branchSize
    goOn fork
    pure true
  else if takesSome then do
    let _ ← take 1 branchSize
    let fork ← once
    goOn fork
    pure true
  else do
    let fork ← once
    goOn fork
    let _ ← take 3 (4 * branchSize)
    pure false

def limited (once : Building Bool) (least most : Nat) : Building Bool :=
  if least = 0 ∧ most = 1 then do
    let _ ← take 1 (2 * branchSize)
    let fork ← once
    let _ ← take 1 0
    goOn fork
    pure false
  else do
    let _ ← take (if least = 0 then 1 else 0) 0
    let fork ← copies once least false
    if most ≤ least then pure fork
    else do
      let _ ← take 1 0
      let fork ← endings once (most - least) fork
      goOn fork
      pure false

end Building

open Building

mutual

/-- Take what a layout needs. The result tells whether its end is a fork. -/
def Layout.build (direction : Direction) : Layout → Building Bool
  | .block states extra => do
    let _ ← take states extra
    pure false
  | .char pieces => do
    Building.char direction pieces
    pure false
  | .captured a => do
    let _ ← take 1 0
    let fork ← a.build direction
    let _ ← take 1 0
    goOn fork
    pure false
  | .seq parts => Layout.buildAfter direction false parts
  | .either choices => do
    Layout.buildChoices direction 0 choices
    pure false
  | .repeated a takesSome least none => unlimited (a.build direction) takesSome least
  | .repeated a _ least (some most) => limited (a.build direction) least most

def Layout.buildAfter (direction : Direction) (fork : Bool) : List Layout → Building Bool
  | [] => pure fork
  | part :: rest => do
    let next ← part.build direction
    goOn fork
    Layout.buildAfter direction next rest

/-- Take what choices need after so many others. The states before and behind all of them are taken
after the second. -/
def Layout.buildChoices (direction : Direction) (done : Nat) : List Layout → Building Unit
  | [] => pure ()
  | choice :: rest => do
    let fork ← choice.build direction
    goOn true
    goOn fork
    let _ ← take (if done = 1 then 2 else 0) 0
    Layout.buildChoices direction (done + 1) rest

end

mutual

/-- Whether every match begins at the start of the text or, backward, ends at its end. -/
def Expr.isBound (direction : Direction) : Expr → Bool
  | .empty | .literal _ | .char _ _ => false
  | .anchor condition =>
    match direction with
    | .forward => condition == .textStart
    | .backward => condition == .textEnd
  | .seq exprs => Expr.isAnyBound direction exprs
  | .either exprs => Expr.areAllBound direction exprs
  | .repeated a least _ _ => least != 0 && a.isBound direction
  | .captured a => a.isBound direction

def Expr.isAnyBound (direction : Direction) : List Expr → Bool
  | [] => false
  | expr :: rest =>
    match direction with
    | .forward => expr.isBound direction || (expr.takesNothing && Expr.isAnyBound direction rest)
    | .backward => Expr.isAnyBound direction rest ||
        (Expr.allTakeNothing rest && expr.isBound direction)

def Expr.areAllBound (direction : Direction) : List Expr → Bool
  | [] => true
  | expr :: rest => expr.isBound direction && Expr.areAllBound direction rest

end

/-- Take what a whole automaton needs. A match that may begin anywhere comes after a loop over the
bytes before it; the limits of the match are kept like those of a captured part. -/
def Expr.build (direction : Direction) (expr : Expr) : Building Unit := do
  let isBound := expr.isBound direction
  let _ ← if isBound then take 1 0 else take 3 (2 * branchSize + rangeSize)
  let layout := expr.layout direction
  let fork ← match direction with
    | .forward => (Layout.captured layout).build direction
    | .backward => layout.build direction
  goOn fork
  let _ ← take 1 0

def Expr.fits (direction : Direction) (expr : Expr) : Bool :=
  (expr.build direction |>.run ⟨0, 0⟩).isSome

/-- The number of words from which on a choice among them is searched for in another way. -/
def manyWords : Nat := 3000

/-- Whether an expression can be searched for: its automata are not too large, or it is a choice
among words so many that none are needed. -/
def Expr.isAffordable (expr : Expr) : Bool :=
  let areManyWords := match expr with
    | .either choices => manyWords ≤ choices.length && (choices.mapM chars?).isSome
    | _ => false
  areManyWords || (expr.fits .forward && expr.fits .backward)

end EventCapture.Regex
