import CppSurface.Pattern.CodeSet
import CppSurface.Text.CharClass

/-!
# Pattern expressions and where they match

An expression describes the pieces of a text that it matches.  `reach` computes, from a set of
positions where a match may begin, the set of positions where it may end.  Working with sets makes
the time polynomial in the length of the text, whatever the expression, and it makes every case a
structural recursion: an unbounded repetition grows the set until it no longer changes, which
happens within as many rounds as there are positions.
-/

namespace CppSurface.Pattern

open CppSurface.Text

/-! ## 1. Expressions -/

/-- Conditions on a position. -/
inductive Anchor where
  | textStart
  | textEnd
  | lineStart
  | lineEnd
  /-- As `lineStart` and `lineEnd`, with a carriage return and line feed as one line ending. -/
  | lineStartReturn
  | lineEndReturn
  | wordBoundary (ascii : Bool)
  | notWordBoundary (ascii : Bool)
  | wordStart (ascii : Bool)
  | wordEnd (ascii : Bool)
  | wordStartHalf (ascii : Bool)
  | wordEndHalf (ascii : Bool)
  deriving Repr, DecidableEq

/-- Pattern expressions. -/
inductive Expr where
  | empty
  | chars (set : CodeSet)
  | anchor (a : Anchor)
  | seq (first second : Expr)
  | alt (first second : Expr)
  | rep (body : Expr) (least : Nat) (most : Option Nat)
  deriving Repr, DecidableEq

/-! ## 2. Positions -/

/-- Whether a word character stands at an index. -/
def wordAt (ascii : Bool) (text : Array Char) (i : Nat) : Bool :=
  match text[i]? with
  | some c => isWord c && (!ascii || decide (c.toNat < 0x80))
  | none => false

/-- Whether a word character stands before a position. -/
def wordBefore (ascii : Bool) (text : Array Char) (i : Nat) : Bool :=
  decide (0 < i) && wordAt ascii text (i - 1)

/-- The character before a position. -/
def charBefore (text : Array Char) (i : Nat) : Option Char :=
  if i = 0 then none else text[i - 1]?

/-- Whether a condition holds at a position. -/
def Anchor.holds (text : Array Char) (i : Nat) : Anchor → Bool
  | textStart => i == 0
  | textEnd => i == text.size
  | lineStart => i == 0 || charBefore text i == some '\n'
  | lineEnd => i == text.size || text[i]? == some '\n'
  | lineStartReturn =>
    i == 0 || charBefore text i == some '\n' ||
      (charBefore text i == some '\r' && text[i]? != some '\n')
  | lineEndReturn =>
    i == text.size || text[i]? == some '\r' ||
      (text[i]? == some '\n' && charBefore text i != some '\r')
  | wordBoundary ascii => wordBefore ascii text i != wordAt ascii text i
  | notWordBoundary ascii => wordBefore ascii text i == wordAt ascii text i
  | wordStart ascii => !wordBefore ascii text i && wordAt ascii text i
  | wordEnd ascii => wordBefore ascii text i && !wordAt ascii text i
  | wordStartHalf ascii => !wordBefore ascii text i
  | wordEndHalf ascii => !wordAt ascii text i

/-- The union of two ascending lists of positions. -/
def joinPositions : List Nat → List Nat → List Nat
  | [], ys => ys
  | x :: xs, ys => x :: joinPositions xs (ys.filter (· ≠ x))

/-- Apply a step a number of times, or until it changes nothing. -/
def iterate (step : List Nat → List Nat) : Nat → List Nat → List Nat
  | 0, s => s
  | n + 1, s =>
    let s' := step s
    if s' = s then s else iterate step n s'

/-! ## 3. Matching -/

/-- **The positions where a match of `e` may end** when it may begin at those of `starts`.  After
as many rounds as there are positions a repetition changes nothing any more, so no more of them
are carried out. -/
def Expr.reach (text : Array Char) : Expr → (starts : List Nat) → List Nat
  | .empty, s => s
  | .chars set, s =>
    s.filterMap fun i =>
      match text[i]? with
      | some c => if set.has c.toNat then some (i + 1) else none
      | none => none
  | .anchor a, s => s.filter fun i => a.holds text i
  | .seq first second, s => second.reach text (first.reach text s)
  | .alt first second, s => (joinPositions (first.reach text s) (second.reach text s)).mergeSort
  | .rep body least most, s =>
    let rounds := text.size + 2
    let required := iterate (body.reach text) (min least rounds) s
    let optional := match most with
      | some n => min (n - least) rounds
      | none => rounds
    iterate (fun s => (joinPositions s (body.reach text s)).mergeSort) optional required

/-- **Whether some match of the expression begins at the start of a text.** -/
def Expr.matchesStart (e : Expr) (text : String) : Bool :=
  !(e.reach text.toList.toArray [0]).isEmpty

/-! ## 4. Size -/

/-- The room that a set of code points takes in a compiled pattern, in bytes. -/
def CodeSet.weight (s : CodeSet) : Nat :=
  if s.below 0x80 then 32 + (if s.length ≤ 1 then 0 else 8 * s.length)
  else 32 * (s.length + 2)

/-- The room that an expression takes when its counted repetitions are written out, in bytes. -/
def Expr.weight : Expr → Nat
  | .empty => 32
  | .chars set => set.weight
  | .anchor _ => 32
  | .seq first second => first.weight + second.weight
  | .alt first second => first.weight + second.weight + 40
  | .rep body least most =>
    match most with
    | none => body.weight * max least 1 + 40
    | some n => body.weight * n + 40 * (n - least)

/-- The room that a pattern may take. -/
def weightLimit : Nat := 10485760

end CppSurface.Pattern
