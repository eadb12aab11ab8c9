import CppSurface.Text.WordRanges

/-!
# Character classes

Three classes of characters decide how type texts and compiler output are cut up.

* A *blank* is a character with the Unicode property White_Space.  Zero-width and information
  separators (U+200B, U+FEFF, U+001C to U+001F) are not blanks.
* A *decimal digit* has the general category Decimal_Number, in any script.
* A *word character* is Alphabetic, a Mark, a Decimal_Number, a Connector_Punctuation or a
  Join_Control.  A name of the programming language is one maximal run of them.

The classes beyond ASCII are tables of closed ranges in ascending order, so `inRanges` may stop
at the first range that begins above the code point it looks for.
-/

namespace CppSurface.Text

/-! ## 1. Tables of ranges -/

/-- Whether a code point lies in one of the ranges of an ascending table. -/
def inRanges : List (Nat × Nat) → Nat → Bool
  | [], _ => false
  | (lo, hi) :: rest, n => if n < lo then false else if n ≤ hi then true else inRanges rest n

/-- **Soundness of the early stop's other half.**  What is found lies in a listed range. -/
theorem exists_range_of_inRanges {table : List (Nat × Nat)} {n : Nat}
    (h : inRanges table n = true) : ∃ r ∈ table, r.1 ≤ n ∧ n ≤ r.2 := by
  induction table with
  | nil => simp [inRanges] at h
  | cons r rest ih =>
    obtain ⟨lo, hi⟩ := r
    simp only [inRanges] at h
    split at h
    · exact absurd h (by simp)
    · split at h
      · exact ⟨(lo, hi), List.mem_cons_self, by omega, by assumption⟩
      · obtain ⟨r, hr, hb⟩ := ih h
        exact ⟨r, List.mem_cons_of_mem _ hr, hb⟩

/-! ## 2. The classes -/

/-- The ranges of White_Space. -/
def blankRanges : List (Nat × Nat) :=
  [
   (0x0009, 0x000d), (0x0020, 0x0020), (0x0085, 0x0085), (0x00a0, 0x00a0), (0x1680, 0x1680), (0x2000, 0x200a),
   (0x2028, 0x2029), (0x202f, 0x202f), (0x205f, 0x205f), (0x3000, 0x3000)]

/-- White space. -/
def isBlank (c : Char) : Bool := inRanges blankRanges c.toNat

/-- The ranges of Decimal_Number. -/
def decimalRanges : List (Nat × Nat) :=
  [
   (0x0030, 0x0039), (0x0660, 0x0669), (0x06f0, 0x06f9), (0x07c0, 0x07c9), (0x0966, 0x096f), (0x09e6, 0x09ef),
   (0x0a66, 0x0a6f), (0x0ae6, 0x0aef), (0x0b66, 0x0b6f), (0x0be6, 0x0bef), (0x0c66, 0x0c6f), (0x0ce6, 0x0cef),
   (0x0d66, 0x0d6f), (0x0de6, 0x0def), (0x0e50, 0x0e59), (0x0ed0, 0x0ed9), (0x0f20, 0x0f29), (0x1040, 0x1049),
   (0x1090, 0x1099), (0x17e0, 0x17e9), (0x1810, 0x1819), (0x1946, 0x194f), (0x19d0, 0x19d9), (0x1a80, 0x1a89),
   (0x1a90, 0x1a99), (0x1b50, 0x1b59), (0x1bb0, 0x1bb9), (0x1c40, 0x1c49), (0x1c50, 0x1c59), (0xa620, 0xa629),
   (0xa8d0, 0xa8d9), (0xa900, 0xa909), (0xa9d0, 0xa9d9), (0xa9f0, 0xa9f9), (0xaa50, 0xaa59), (0xabf0, 0xabf9),
   (0xff10, 0xff19), (0x104a0, 0x104a9), (0x10d30, 0x10d39), (0x10d40, 0x10d49), (0x11066, 0x1106f), (0x110f0, 0x110f9),
   (0x11136, 0x1113f), (0x111d0, 0x111d9), (0x112f0, 0x112f9), (0x11450, 0x11459), (0x114d0, 0x114d9), (0x11650, 0x11659),
   (0x116c0, 0x116c9), (0x116d0, 0x116e3), (0x11730, 0x11739), (0x118e0, 0x118e9), (0x11950, 0x11959), (0x11bf0, 0x11bf9),
   (0x11c50, 0x11c59), (0x11d50, 0x11d59), (0x11da0, 0x11da9), (0x11f50, 0x11f59), (0x16130, 0x16139), (0x16a60, 0x16a69),
   (0x16ac0, 0x16ac9), (0x16b50, 0x16b59), (0x16d70, 0x16d79), (0x1ccf0, 0x1ccf9), (0x1d7ce, 0x1d7ff), (0x1e140, 0x1e149),
   (0x1e2f0, 0x1e2f9), (0x1e4f0, 0x1e4f9), (0x1e5f1, 0x1e5fa), (0x1e950, 0x1e959), (0x1fbf0, 0x1fbf9)]

/-- A decimal digit of any script. -/
def isDecimal (c : Char) : Bool := inRanges decimalRanges c.toNat

/-- A word character.  Below U+0080 these are the letters, the digits and the underscore. -/
def isWord (c : Char) : Bool :=
  if c.toNat < 0x80 then c.isAlphanum || c == '_' else inRanges wordRanges c.toNat

/-- A digit `0` to `9`, the only digits that a number's text is read from. -/
def isAsciiDigit (c : Char) : Bool := '0' ≤ c && c ≤ '9'

/-! ## 3. The classes at the characters of type texts -/

example : isWord 'a' = true ∧ isWord '_' = true ∧ isWord '9' = true := by decide
example : isWord ' ' = false ∧ isWord '*' = false ∧ isWord ':' = false := by decide
example : isBlank ' ' = true ∧ isBlank '\t' = true ∧ isBlank '\u0085' = true := by decide
example : isBlank '\u200b' = false ∧ isBlank '\u001c' = false := by decide

end CppSurface.Text
