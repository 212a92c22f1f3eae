/-!
# Sets of code points

The tables of the Unicode standard are long lists of ranges.  They are written compactly as words of
hexadecimal digits, and this module reads that notation: a word `g` or `g+s` says that, after a gap of
`g` code points that are not in the set, `s + 1` code points are.
-/

namespace Marginalia.Unicode

namespace Hex

/-- The value of a hexadecimal digit in lower case. -/
def digit? (c : Char) : Option Nat :=
  if '0' ≤ c ∧ c ≤ '9' then some (c.toNat - '0'.toNat)
  else if 'a' ≤ c ∧ c ≤ 'f' then some (c.toNat - 'a'.toNat + 10)
  else none

/-- The number a text starts with, after the part `acc` already read, and what follows it. -/
def numberFrom (acc : Nat) : List Char → Nat × List Char
  | [] => (acc, [])
  | c :: rest =>
    match digit? c with
    | some d => numberFrom (16 * acc + d) rest
    | none => (acc, c :: rest)

/-- The number a text starts with, zero when it starts with no digit, and what follows it. -/
def number (text : List Char) : Nat × List Char :=
  numberFrom 0 text

/-- The pieces of a text between occurrences of `mark`. -/
def splitAt (mark : Char) : List Char → List (List Char)
  | [] => [[]]
  | c :: rest =>
    if c = mark then [] :: splitAt mark rest
    else
      match splitAt mark rest with
      | [] => [[c]]
      | piece :: others => (c :: piece) :: others

/-- The words of several lines, separated by single spaces. -/
def words (lines : List String) : List (List Char) :=
  lines.flatMap fun line => splitAt ' ' line.toList

/-- Numbers separated by commas. -/
def numbers (text : List Char) : List Nat :=
  (splitAt ',' text).map fun piece => (number piece).1

end Hex

/-- A set of code points as a list of inclusive ranges in increasing order. -/
structure CodePointSet where
  ranges : List (Nat × Nat)
  deriving Repr

namespace CodePointSet

/-- The set without members. -/
def empty : CodePointSet := ⟨[]⟩

/-- The ranges that words of gaps and lengths describe, from the code point `next` on. -/
def ofGaps (next : Nat) : List (Nat × Nat) → List (Nat × Nat)
  | [] => []
  | (gap, more) :: rest => (next + gap, next + gap + more) :: ofGaps (next + gap + more + 1) rest

/-- Read the written form of a set. -/
def decode (written : List String) : CodePointSet :=
  ⟨ofGaps 0 ((Hex.words written).map fun word =>
    let (gap, rest) := Hex.number word
    (gap, (Hex.number (rest.drop 1)).1))⟩

/-- Membership of a code point in ranges that increase. -/
def within (n : Nat) : List (Nat × Nat) → Bool
  | [] => false
  | (low, high) :: rest => if n < low then false else n ≤ high || within n rest

/-- Whether a character is in the set. -/
def contains (set : CodePointSet) (c : Char) : Bool :=
  within c.toNat set.ranges

end CodePointSet

end Marginalia.Unicode
