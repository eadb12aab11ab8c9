import CppSurface.Text.CharClass

/-!
# Maximal runs

A text is cut, once and for all, into *pieces* with respect to a class of characters: a maximal
run of the class is one piece, and every other character is a piece of its own.  Nothing is lost
(`unpieces_pieces`), so an edit on the pieces is an edit on the text that never splits a word.
Deleting a keyword, listing the words of a type and splitting at white space are all such edits.
-/

namespace CppSurface.Text

/-! ## 1. Pieces -/

/-- A piece of a text: a maximal run of a class, or one character outside it. -/
inductive Piece where
  | run (chars : List Char)
  | gap (char : Char)
  deriving Repr, DecidableEq

namespace Piece

/-- The characters that a piece stands for. -/
def chars : Piece → List Char
  | run cs => cs
  | gap c => [c]

/-- The run that a piece is, if it is one. -/
def run? : Piece → Option (List Char)
  | run cs => some cs
  | gap _ => none

end Piece

/-- Put a member of the class in front of a cut text, joining it to the run that follows. -/
def consRun (c : Char) : List Piece → List Piece
  | .run cs :: rest => .run (c :: cs) :: rest
  | rest => .run [c] :: rest

/-- **The cut of a text into maximal runs of `p` and single characters outside `p`.** -/
def pieces (p : Char → Bool) : List Char → List Piece
  | [] => []
  | c :: cs => if p c then consRun c (pieces p cs) else .gap c :: pieces p cs

/-- The text that a list of pieces stands for. -/
def unpieces (ps : List Piece) : List Char := ps.flatMap Piece.chars

/-- The maximal runs of `p` in a text, from left to right. -/
def runs (p : Char → Bool) (cs : List Char) : List (List Char) :=
  (pieces p cs).filterMap Piece.run?

/-! ## 2. What the cut keeps -/

@[simp] theorem unpieces_nil : unpieces [] = [] := rfl

@[simp] theorem unpieces_cons (q : Piece) (ps : List Piece) :
    unpieces (q :: ps) = q.chars ++ unpieces ps := rfl

@[simp] theorem unpieces_consRun (c : Char) (ps : List Piece) :
    unpieces (consRun c ps) = c :: unpieces ps := by
  cases ps with
  | nil => rfl
  | cons q rest => cases q <;> rfl

/-- **The cut loses nothing.** -/
@[simp] theorem unpieces_pieces (p : Char → Bool) (cs : List Char) :
    unpieces (pieces p cs) = cs := by
  induction cs with
  | nil => rfl
  | cons c cs ih =>
    simp only [pieces]
    split
    · simp [ih]
    · simp [ih, Piece.chars]

/-! ## 3. Words and white-space separated items -/

/-- The words of a text: the maximal runs of word characters. -/
def words (cs : List Char) : List (List Char) := runs isWord cs

/-- The items of a text that white space separates. -/
def items (cs : List Char) : List (List Char) := runs (fun c => !isBlank c) cs

end CppSurface.Text
