import Marginalia.Markdown.Inline

/-!
# Emphasis

Runs of emphasis marks are paired after a stretch of inline content has been read.  A run that can
close is paired with the nearest run below it that can open, has the same mark and does not violate
the rule of three; two marks of each are used when both runs have them, one otherwise.  What stands
between the two runs becomes the content, and runs in between that found no partner are text.

A run of tildes is used as a whole.  When a closing run meets an opening run of another length, the
pairing of the whole stretch stops there.
-/

namespace Marginalia.Markdown

/-- A run of equal emphasis marks.  `length` is its length when it was read, `left` how many of its
marks are not used yet. -/
structure Run where
  mark : Char
  length : Nat
  left : Nat
  opens : Bool
  closes : Bool
  deriving DecidableEq, Repr

namespace Run

/-- What is left of a run as text. -/
def rest (run : Run) : List Inline :=
  if run.left = 0 then [] else [.text (List.replicate run.left run.mark)]

/-- The rule of three: if one of the two runs can both open and close, their lengths do not add up to
a multiple of three, unless both are multiples of three. -/
def allows (opener closer : Run) : Bool :=
  !((closer.opens || opener.closes) && (opener.length + closer.length) % 3 == 0 &&
    !(opener.length % 3 == 0 && closer.length % 3 == 0))

/-- Whether `opener` can be paired with `closer`. -/
def pairs (opener closer : Run) : Bool :=
  opener.opens && opener.mark == closer.mark && opener.allows closer

end Run

/-- Inline content in which runs are not paired yet. -/
inductive Piece where
  | inline (content : Inline)
  | run (run : Run)

namespace Emphasis

/-- A run that waits for a partner, with the content after it, latest first. -/
structure Opener where
  run : Run
  after : List Inline := []

/-- Content read so far: what comes before all waiting runs, and the waiting runs, the latest first.
Content is kept latest first. -/
structure Stack where
  base : List Inline := []
  openers : List Opener := []

namespace Stack

/-- Add content after everything read so far. -/
def push (stack : Stack) (content : List Inline) : Stack :=
  match stack.openers with
  | [] => { stack with base := content.reverse ++ stack.base }
  | top :: below =>
    { stack with openers := { top with after := content.reverse ++ top.after } :: below }

/-- Let a run wait for a partner. -/
def wait (stack : Stack) (run : Run) : Stack :=
  { stack with openers := { run := run } :: stack.openers }

/-- The content of several waiting runs as text, latest first. -/
def flatten (openers : List Opener) : List Inline :=
  openers.flatMap fun opener => opener.after ++ opener.run.rest

/-- All content, in order; runs that still wait are text. -/
def finish (stack : Stack) : List Inline :=
  (flatten stack.openers ++ stack.base).reverse

end Stack

/-- The element that pairing with `used` marks makes. -/
def element (mark : Char) (used : Nat) (children : List Inline) : Inline :=
  if mark = '~' then .strikethrough children
  else if used = 1 then .emphasis children
  else .strong children

/-- What closing a run comes to: pairing goes on, or it stops for good. -/
inductive Closing where
  | goOn (stack : Stack)
  | stop (stack : Stack)

/-- Pair a closing run as often as it has marks and partners; what is left of it waits or is text. -/
def close : Nat → Stack → Run → Closing
  | 0, stack, run => .goOn (stack.push run.rest)
  | fuel + 1, stack, run =>
    let above := stack.openers.takeWhile fun opener => !opener.run.pairs run
    match stack.openers.drop above.length with
    | [] => .goOn (if run.opens then stack.wait run else stack.push run.rest)
    | opener :: below =>
      let used := if 2 ≤ run.left ∧ 2 ≤ opener.run.left then 2 else 1
      let openerLeft := opener.run.left - used
      let runLeft := run.left - used
      if run.mark = '~' ∧ (openerLeft ≠ runLeft ∨ 0 < openerLeft) then
        .stop (stack.push run.rest)
      else
        let content := (Stack.flatten above ++ opener.after).reverse
        let made := element run.mark used content
        let lower : Stack := { stack with openers := below }
        let next :=
          if openerLeft = 0 then lower
          else lower.wait { opener.run with left := openerLeft }
        let next := next.push [made]
        if runLeft = 0 then .goOn next
        else close fuel next { run with left := runLeft }

/-- The text of pieces that are not paired any more. -/
def plain (pieces : List Piece) : List Inline :=
  pieces.flatMap fun
    | .inline content => [content]
    | .run run => run.rest

/-- Pair the runs of a stretch of content, from left to right. -/
def resolveFrom (stack : Stack) : List Piece → List Inline
  | [] => stack.finish
  | .inline content :: rest => resolveFrom (stack.push [content]) rest
  | .run run :: rest =>
    if run.closes then
      match close (run.left + 1) stack run with
      | .goOn stack => resolveFrom stack rest
      | .stop stack => stack.finish ++ plain rest
    else resolveFrom (stack.wait run) rest

/-- Pair the runs of a stretch of content. -/
def resolve (pieces : List Piece) : List Inline :=
  resolveFrom {} pieces

end Emphasis

end Marginalia.Markdown
