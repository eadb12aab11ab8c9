import CppSurface.FileTree

/-!
# Include traces

While it reads a file, the compiler prints a line for each header that it enters: one dot for each
level of nesting, a space, and the header's path.  A header with `n` dots was entered from the most
recent one with `n - 1` dots, and one with a single dot from the main file.  So the trace is a
pre-order listing of a forest, and the open path from the main file down is all that has to be
remembered to recover its edges.
-/

namespace CppSurface

open CppSurface.Text

/-- One file includes another. -/
structure Inclusion where
  includer : Path
  included : Path
  deriving Repr, DecidableEq

namespace IncludeTrace

/-- Read a line of the trace: how deep the header is nested, and its path. -/
def readLine? (cs : List Char) : Option (Nat × Path) :=
  match cs.takeWhile (· == '.'), cs.dropWhile (· == '.') with
  | _ :: more, ' ' :: c :: rest =>
    some (more.length + 1, ⟨String.ofList (trim (c :: rest))⟩)
  | _, _ => none

/-- The edges of a trace, given the files that are open: the innermost first, the main file last.
A line that is nested deeper than the open files allow is passed over. -/
def edges (canonical : Path → Path) : (stack : List Path) → List (Nat × Path) → List Inclusion
  | _, [] => []
  | stack, (depth, path) :: rest =>
    match stack.drop (stack.length - depth) with
    | includer :: below =>
      if depth ≤ stack.length then
        ⟨includer, canonical path⟩ ::
          edges canonical (canonical path :: includer :: below) rest
      else edges canonical stack rest
    | [] => edges canonical stack rest

/-- **The inclusions that a compiler run printed**, in the order in which they were entered. -/
def read (files : FileTree) (main : Path) (output : List Char) : List Inclusion :=
  edges files.canonical [main] ((lines output).filterMap readLine?)

end IncludeTrace

end CppSurface
