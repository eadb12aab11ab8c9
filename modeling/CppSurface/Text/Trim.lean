import CppSurface.Text.CharClass

/-!
# Trimming and searching

The operations on texts that read no structure: removing white space at the ends, looking for a
fixed text inside another, and cutting a text at the places where a fixed text stands.  They work
on lists of characters; the versions on `String` are these, conjugated.
-/

namespace CppSurface.Text

/-! ## 1. Trimming -/

/-- The text without the white space it starts with. -/
def trimStart (cs : List Char) : List Char := cs.dropWhile isBlank

/-- The text without the white space it ends with. -/
def trimEnd (cs : List Char) : List Char := (cs.reverse.dropWhile isBlank).reverse

/-- The text without the white space at either end. -/
def trim (cs : List Char) : List Char := trimEnd (trimStart cs)

/-- `trim` on strings. -/
def trimmed (s : String) : String := String.ofList (trim s.toList)

@[simp] theorem trim_nil : trim [] = [] := rfl

/-! ## 2. Searching -/

/-- Whether `pat` stands somewhere in the text. -/
def occursIn (pat : List Char) : List Char → Bool
  | [] => pat.isEmpty
  | c :: cs => pat.isPrefixOf (c :: cs) || occursIn pat cs

/-- The text after the last occurrence of `pat`, if there is one. -/
def afterLast? (pat : List Char) : List Char → Option (List Char)
  | [] => if pat.isEmpty then some [] else none
  | c :: cs =>
    match afterLast? pat cs with
    | some rest => some rest
    | none => if pat.isPrefixOf (c :: cs) then some ((c :: cs).drop pat.length) else none

/-- The text without `pat` at its end, if it ends with `pat`. -/
def dropEnd? (pat cs : List Char) : Option (List Char) :=
  if pat.isSuffixOf cs then some (cs.take (cs.length - pat.length)) else none

/-! ## 3. Cutting at a character -/

/-- Put a character in front of the first of several parts. -/
def consPart (c : Char) : List (List Char) → List (List Char)
  | [] => [[c]]
  | part :: rest => (c :: part) :: rest

/-- The parts of a text between the occurrences of a separator: one more than there are
separators, some of them possibly empty. -/
def splitAt (sep : Char) : List Char → List (List Char)
  | [] => [[]]
  | c :: cs => if c = sep then [] :: splitAt sep cs else consPart c (splitAt sep cs)

/-- Parts written one after the other with a separator between them. -/
def joinWith (sep : List Char) : List (List Char) → List Char
  | [] => []
  | [part] => part
  | part :: rest => part ++ sep ++ joinWith sep rest

@[simp] theorem splitAt_ne_nil (sep : Char) (cs : List Char) : splitAt sep cs ≠ [] := by
  cases cs with
  | nil => simp [splitAt]
  | cons c cs =>
    simp only [splitAt]
    split
    · simp
    · cases splitAt sep cs <;> simp [consPart]

/-- **Cutting loses nothing.**  Joining the parts with the separator gives the text back. -/
theorem joinWith_splitAt (sep : Char) (cs : List Char) : joinWith [sep] (splitAt sep cs) = cs := by
  induction cs with
  | nil => rfl
  | cons c cs ih =>
    simp only [splitAt]
    cases hs : splitAt sep cs with
    | nil => exact absurd hs (splitAt_ne_nil sep cs)
    | cons part rest =>
      rw [hs] at ih
      split
      · rename_i hc
        subst hc
        simp [joinWith, ih]
      · cases rest with
        | nil => simpa [joinWith, consPart] using ih
        | cons next more => simpa [joinWith, consPart] using ih

/-! ## 4. Lines -/

/-- A line without the carriage return in front of its line feed. -/
def dropReturn (line : List Char) : List Char :=
  if line.getLast? = some '\r' then line.dropLast else line

/-- Close every part but the last with its line feed: these lose a trailing carriage return.  The
last part is a line only if it holds something. -/
def closeLines : List (List Char) → List (List Char)
  | [] => []
  | [last] => if last.isEmpty then [] else [last]
  | part :: rest => dropReturn part :: closeLines rest

/-- **The lines of a text.**  A line ends at a line feed, or at a carriage return and a line feed;
a last line without a line feed keeps a carriage return, and an empty one is no line. -/
def lines (cs : List Char) : List (List Char) := closeLines (splitAt '\n' cs)

example : lines "a\r\nb\n".toList = ["a".toList, "b".toList] := by decide
example : lines "a\r".toList = ["a\r".toList] := by decide
example : lines "".toList = [] := by decide

end CppSurface.Text
