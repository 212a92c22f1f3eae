import Marginalia.Pattern.Basic

/-!
# Matching

A pattern is compiled to a graph of instructions and the graph is run on a text with one list of
threads per place, in order of preference.  A place is visited at most once by each instruction, so
the running time is bounded by the product of the two sizes and no pattern makes it explode.

The match that is found is the leftmost one, and of the matches that start there the one that the
pattern prefers; it need not be the longest.
-/

namespace Marginalia

/-- One instruction of a compiled pattern; successors are positions in the program. -/
inductive Instruction where
  | consume (chars : CharClass) (next : Nat)
  | check (condition : Look) (next : Nat)
  | split (preferred other : Nat)
  | accept

/-- A compiled pattern. -/
structure Program where
  instructions : Array Instruction
  start : Nat

namespace Program

/-- Add the instructions of a pattern that goes on at `next`; the result has the position where the
pattern starts. -/
def emit : Pattern → (next : Nat) → Array Instruction → Nat × Array Instruction
  | .empty, next, code => (next, code)
  | .set chars, next, code => (code.size, code.push (.consume chars next))
  | .look condition, next, code => (code.size, code.push (.check condition next))
  | .seq first second, next, code =>
    let (middle, code) := emit second next code
    emit first middle code
  | .choice first second, next, code =>
    let (right, code) := emit second next code
    let (left, code) := emit first next code
    (code.size, code.push (.split left right))
  | .optional body greedy, next, code =>
    let (enter, code) := emit body next code
    (code.size, code.push (if greedy then .split enter next else .split next enter))
  | .repeated body greedy, next, code =>
    let again := code.size
    let (enter, code) := emit body again (code.push .accept)
    (enter, code.setIfInBounds again (if greedy then .split enter next else .split next enter))

/-- Compile a pattern. -/
def compile (pattern : Pattern) : Program :=
  let (start, instructions) := emit pattern 0 #[.accept]
  { instructions := instructions, start := start }

/-- A thread that has come to a place: it needs a character, or it has matched. -/
inductive Thread where
  | waiting (chars : CharClass) (next : Nat)
  | matched

/-- The threads that start from the instructions `pending`, in order of preference, at the place
between the characters `before` and `after`.  Instructions in `seen` have been visited at this place;
everything after a match is less preferred and is left out.  Each step takes one pending instruction,
and `budget` bounds the number of steps. -/
def threadsWithin (code : Array Instruction) (before after : Option Char) :
    (budget : Nat) → (seen pending : List Nat) → List Thread
  | 0, _, _ => []
  | _ + 1, _, [] => []
  | budget + 1, seen, position :: rest =>
    if position ∈ seen then threadsWithin code before after budget seen rest
    else
      let seen := position :: seen
      match code[position]? with
      | some (.consume chars next) =>
        .waiting chars next :: threadsWithin code before after budget seen rest
      | some (.check condition next) =>
        threadsWithin code before after budget seen
          (if condition.holds before after then next :: rest else rest)
      | some (.split preferred other) =>
        threadsWithin code before after budget seen (preferred :: other :: rest)
      | some .accept => [.matched]
      | none => threadsWithin code before after budget seen rest

/-- The threads that start from the given instructions at a place.  An instruction is expanded once
and into at most two others, so the steps are bounded by the instructions given and twice the size of
the program. -/
def threads (code : Array Instruction) (before after : Option Char) (pending : List Nat) :
    List Thread :=
  threadsWithin code before after (pending.length + 2 * code.size + 1) [] pending

/-- Where a thread goes on after a character, if it accepts it. -/
def Thread.advance (c : Char) : Thread → Option Nat
  | waiting chars next => if chars c then some next else none
  | matched => none

/-- Whether a thread has matched. -/
def Thread.isMatched : Thread → Bool
  | matched => true
  | waiting _ _ => false

/-- Run the program from a place on.  `seeds` are the instructions to start from, `best` what
followed the best match so far; while there is none, every place is also tried as a start. -/
def run (program : Program) (before : Option Char) (seeds : List Nat) (best : Option Text) :
    Text → Option Text
  | [] =>
    let here := threads program.instructions before none seeds
    if here.any Thread.isMatched then some [] else best
  | c :: rest =>
    let here := threads program.instructions before (some c) seeds
    let best := if here.any Thread.isMatched then some (c :: rest) else best
    let onward := here.filterMap (Thread.advance c)
    let seeds := if best.isNone then onward ++ [program.start] else onward
    if seeds.isEmpty then best else run program (some c) seeds best rest

/-- What follows the first match in a text, if there is a match. -/
def afterMatch? (program : Program) (text : Text) : Option Text :=
  program.run none [program.start] none text

end Program

end Marginalia
