import CppSurface.Text.Runs
import CppSurface.Text.Trim

/-!
# Type texts

A type is known only by its spelling.  Four readings of a spelling matter.

* `simplify` forgets `const`, pointers and references.  The result is what a user-defined value
  type is looked up by.
* `dropElaborated` forgets the keywords `struct` and `class` in front of a name.
* `tokens` lists the words that a policy is asked about.
* `returnType` takes the return type out of the spelling of a function's type.

The first three are edits on the cut of the text into words, so they never act inside a longer
name: `constant` keeps its head, `subclass x` its tail.
-/

namespace CppSurface.TypeText

open CppSurface.Text

/-! ## 1. Keywords -/

/-- The word `const`. -/
def constWord : List Char := ['c', 'o', 'n', 's', 't']

/-- The words that introduce an elaborated type name. -/
def elaboratedWords : List (List Char) :=
  [['s', 't', 'r', 'u', 'c', 't'], ['c', 'l', 'a', 's', 's']]

/-- The text without the word `const`; what stood around it stays. -/
def dropConst (cs : List Char) : List Char :=
  unpieces ((pieces isWord cs).filter (· ≠ .run constWord))

/-- Remove each `struct` or `class` that a white-space character follows directly, together with
that one character. -/
def dropElaboratedPieces : List Piece → List Piece
  | .run w :: .gap c :: rest =>
    if w ∈ elaboratedWords ∧ isBlank c = true then dropElaboratedPieces rest
    else .run w :: .gap c :: dropElaboratedPieces rest
  | q :: rest => q :: dropElaboratedPieces rest
  | [] => []

/-- `dropElaborated` on characters. -/
def dropElaboratedChars (cs : List Char) : List Char :=
  unpieces (dropElaboratedPieces (pieces isWord cs))

/-- The type text without the keywords `struct` and `class` in front of a name. -/
def dropElaborated (s : String) : String := String.ofList (dropElaboratedChars s.toList)

/-! ## 2. The simple spelling -/

/-- A pointer or reference mark. -/
def isIndirection (c : Char) : Bool := c == '*' || c == '&'

/-- `simplify` on characters. -/
def simplifyChars (cs : List Char) : List Char :=
  trim ((dropConst cs).filter (fun c => !isIndirection c))

/-- **The simple spelling of a type**: without `const`, pointers and references, and without white
space at the ends. -/
def simplify (raw : String) : String := String.ofList (simplifyChars raw.toList)

/-! ## 3. Tokens -/

/-- A character of a token: a word character or a digit separator. -/
def isTokenChar (c : Char) : Bool := isWord c || c == '\''

/-- The tokens of a type text: its maximal runs of word characters and digit separators. -/
def tokens (s : String) : List String := (runs isTokenChar s.toList).map String.ofList

/-! ## 4. The return type of a function type -/

/-- Cut a text before its first `(` that no angle or square bracket encloses.  `depth` counts the
brackets open so far; a closing bracket without an opening one counts for nothing. -/
def splitParameters? : Nat → List Char → Option (List Char × List Char)
  | _, [] => none
  | depth, c :: cs =>
    if c = '<' ∨ c = '[' then (splitParameters? (depth + 1) cs).map fun (a, b) => (c :: a, b)
    else if c = '>' ∨ c = ']' then (splitParameters? (depth - 1) cs).map fun (a, b) => (c :: a, b)
    else if c = '(' ∧ depth = 0 then some ([], c :: cs)
    else (splitParameters? depth cs).map fun (a, b) => (c :: a, b)

/-- `returnType` on characters. -/
def returnTypeChars (cs : List Char) : List Char :=
  match splitParameters? 0 cs with
  | none => trim cs
  | some (head, parameters) =>
    if trim head = ['a', 'u', 't', 'o'] then
      match afterLast? ['-', '>'] parameters with
      | some trailing => trim trailing
      | none => trim head
    else trim head

/-- **The return type** of a function type such as `int (int, float)`.  For `auto (int) -> int` it
is what follows the last arrow. -/
def returnType (functionType : String) : String :=
  String.ofList (returnTypeChars functionType.toList)

example : simplifyChars "const char *".toList = "char".toList := by decide
example : returnTypeChars "auto (int) -> int".toList = "int".toList := by decide

end CppSurface.TypeText
