import Marginalia.Pattern.CharClass

/-!
# Patterns

A pattern describes texts by sets of characters, conditions on the place, sequence, choice and
repetition.  Where several ways to match exist the order of preference is part of the pattern: of a
choice the first branch comes first, and a repetition says whether it prefers to go on or to stop.
Counted repetition needs no constructor of its own, since it is a sequence of copies.
-/

namespace Marginalia

/-- A condition on a place in a text; it looks at the characters on both sides and consumes none. -/
inductive Look where
  | textStart
  | textEnd
  | lineStart
  | lineEnd
  | breakStart
  | breakEnd
  | wordBoundary (word : CharClass)
  | noWordBoundary (word : CharClass)
  | wordStart (word : CharClass)
  | wordEnd (word : CharClass)
  | noWordBefore (word : CharClass)
  | noWordAfter (word : CharClass)

namespace Look

/-- Whether the condition holds between the characters `before` and `after`.  Lines end at a line
feed; for `breakStart` and `breakEnd` they end at a carriage return, a line feed, or both, and the
place between the two is neither an end nor a start. -/
def holds (before after : Option Char) : Look → Bool
  | textStart => before.isNone
  | textEnd => after.isNone
  | lineStart => before.isNone || before == some '\n'
  | lineEnd => after.isNone || after == some '\n'
  | breakStart =>
    before.isNone || before == some '\n' || (before == some '\r' && after != some '\n')
  | breakEnd =>
    after.isNone || after == some '\r' || (after == some '\n' && before != some '\r')
  | wordBoundary word => before.any word != after.any word
  | noWordBoundary word => before.any word == after.any word
  | wordStart word => !before.any word && after.any word
  | wordEnd word => before.any word && !after.any word
  | noWordBefore word => !before.any word
  | noWordAfter word => !after.any word

end Look

/-- A pattern with its preferences. -/
inductive Pattern where
  | empty
  | set (chars : CharClass)
  | look (condition : Look)
  | seq (first second : Pattern)
  | choice (first second : Pattern)
  | optional (body : Pattern) (greedy : Bool)
  | repeated (body : Pattern) (greedy : Bool)

namespace Pattern

/-- The patterns one after the other. -/
def sequence : List Pattern → Pattern
  | [] => empty
  | [p] => p
  | p :: rest => seq p (sequence rest)

/-- The patterns as alternatives, the first preferred. -/
def alternatives : List Pattern → Pattern
  | [] => empty
  | [p] => p
  | p :: rest => choice p (alternatives rest)

/-- Up to `count` further copies; each is tried only after the one before it. -/
def atMost (body : Pattern) (greedy : Bool) : Nat → Pattern
  | 0 => empty
  | 1 => optional body greedy
  | count + 1 => optional (seq body (atMost body greedy count)) greedy

/-- Between `least` and `most` copies, without an upper bound when `most` is absent.  Repetition that
may be empty is an optional repetition that is not: only so does an empty copy end the repetition. -/
def copies (body : Pattern) (least : Nat) (most : Option Nat) (greedy : Bool) : Pattern :=
  match most with
  | some most => sequence (List.replicate least body ++
      if most ≤ least then [] else [atMost body greedy (most - least)])
  | none =>
    match least with
    | 0 => optional (repeated body greedy) greedy
    | least + 1 => sequence (List.replicate least body ++ [repeated body greedy])

end Pattern

end Marginalia
