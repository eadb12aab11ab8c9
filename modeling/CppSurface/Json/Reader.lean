import CppSurface.Json

/-!
# Reading JSON

A strict reader: no trailing commas, no comments, no control characters in strings, no leading
zeros, and nothing but white space after the value.  The leaves (white space, string literals,
numbers) are read by structural recursion.  Values nest, so the reader of values takes a bound on
the number of its turns; each character accounts for at most two of them.
-/

namespace CppSurface.Json

namespace Reader

/-! ## 1. White space -/

/-- The white space of JSON. -/
def isSpace (c : Char) : Bool := c == ' ' || c == '\n' || c == '\t' || c == '\r'

/-- The text without the white space it starts with. -/
def skip (cs : List Char) : List Char := cs.dropWhile isSpace

/-! ## 2. String literals -/

/-- A part of a string literal: a character, or a 16-bit unit written as an escape. -/
inductive Part where
  | char (c : Char)
  | unit (n : Nat)
  deriving Repr, DecidableEq

/-- The value of a hexadecimal digit. -/
def hexDigit? (c : Char) : Option Nat :=
  if '0' ≤ c ∧ c ≤ '9' then some (c.toNat - 48)
  else if 'a' ≤ c ∧ c ≤ 'f' then some (c.toNat - 87)
  else if 'A' ≤ c ∧ c ≤ 'F' then some (c.toNat - 55)
  else none

/-- The unit that four hexadecimal digits spell. -/
def unit? (a b c d : Char) : Option Nat :=
  match hexDigit? a, hexDigit? b, hexDigit? c, hexDigit? d with
  | some a, some b, some c, some d => some (((a * 16 + b) * 16 + c) * 16 + d)
  | _, _, _, _ => none

/-- The character that a letter after a backslash stands for. -/
def escaped? (c : Char) : Option Char :=
  match c with
  | '"' => some '"'
  | '\\' => some '\\'
  | '/' => some '/'
  | 'b' => some '\x08'
  | 'f' => some '\x0c'
  | 'n' => some '\n'
  | 'r' => some '\r'
  | 't' => some '\t'
  | _ => none

/-- Put a part in front of what was read after it. -/
def consPart (p : Part) : Option (List Part × List Char) → Option (List Part × List Char)
  | some (ps, rest) => some (p :: ps, rest)
  | none => none

/-- Read a string literal after its opening quote. -/
def readParts : List Char → Option (List Part × List Char)
  | [] => none
  | '"' :: rest => some ([], rest)
  | '\\' :: 'u' :: a :: b :: c :: d :: rest =>
    match unit? a b c d with
    | some n => consPart (.unit n) (readParts rest)
    | none => none
  | '\\' :: c :: rest =>
    match escaped? c with
    | some e => consPart (.char e) (readParts rest)
    | none => none
  | c :: rest => if c.toNat < 0x20 ∨ c = '\\' then none else consPart (.char c) (readParts rest)

/-- The text that the parts of a literal spell.  Units beyond the basic plane come in pairs. -/
def textOf : List Part → Option (List Char)
  | [] => some []
  | .char c :: ps => (textOf ps).map (c :: ·)
  | .unit n :: .unit m :: ps =>
    if 0xD800 ≤ n ∧ n ≤ 0xDBFF then
      if 0xDC00 ≤ m ∧ m ≤ 0xDFFF then
        (textOf ps).map (Char.ofNat (0x10000 + (n - 0xD800) * 0x400 + (m - 0xDC00)) :: ·)
      else none
    else if 0xDC00 ≤ n ∧ n ≤ 0xDFFF then none
    else (textOf (.unit m :: ps)).map (Char.ofNat n :: ·)
  | .unit n :: ps =>
    if 0xD800 ≤ n ∧ n ≤ 0xDFFF then none else (textOf ps).map (Char.ofNat n :: ·)

/-- Read a string literal after its opening quote: its text, if it spells one, and the rest. -/
def readString (cs : List Char) : Option (Option String × List Char) :=
  (readParts cs).map fun (ps, rest) => ((textOf ps).map String.ofList, rest)

/-! ## 3. Numbers -/

/-- A digit. -/
def isDigit (c : Char) : Bool := '0' ≤ c && c ≤ '9'

/-- The number that digits spell. -/
def decimal (cs : List Char) : Nat := cs.foldl (fun n c => n * 10 + (c.toNat - 48)) 0

/-- Read one or more digits. -/
def readDigits (cs : List Char) : Option (List Char × List Char) :=
  match cs.takeWhile isDigit with
  | [] => none
  | digits => some (digits, cs.dropWhile isDigit)

/-- Read the digits of an integer: a zero by itself, or digits that do not start with one. -/
def readInteger (cs : List Char) : Option (List Char × List Char) :=
  match cs with
  | '0' :: rest => some (['0'], rest)
  | _ => readDigits cs

/-- Read a fraction, if there is one. -/
def readFraction (cs : List Char) : Option (List Char × List Char) :=
  match cs with
  | '.' :: rest => (readDigits rest).map fun (ds, rest') => ('.' :: ds, rest')
  | _ => some ([], cs)

/-- Read an exponent, if there is one. -/
def readExponent (cs : List Char) : Option (List Char × List Char) :=
  match cs with
  | e :: rest =>
    if e = 'e' ∨ e = 'E' then
      match rest with
      | s :: rest' =>
        if s = '+' ∨ s = '-' then
          (readDigits rest').map fun (ds, rest'') => (e :: s :: ds, rest'')
        else (readDigits rest).map fun (ds, rest'') => (e :: ds, rest'')
      | [] => none
    else some ([], cs)
  | [] => some ([], cs)

/-- The greatest number of 64 bits. -/
def maxNatural : Nat := 18446744073709551615

/-- Read a number without a sign. -/
def readUnsigned (cs : List Char) : Option (List Char × Bool × List Char) :=
  match readInteger cs with
  | some (digits, rest) =>
    match readFraction rest with
    | some (fraction, rest') =>
      match readExponent rest' with
      | some (exponent, rest'') =>
        some (digits ++ fraction ++ exponent, fraction.isEmpty && exponent.isEmpty, rest'')
      | none => none
    | none => none
  | none => none

/-- Read a number. -/
def readNumber (cs : List Char) : Option (Json × List Char) :=
  match cs with
  | '-' :: rest =>
    (readUnsigned rest).map fun (literal, _, rest') => (.number ('-' :: literal), rest')
  | _ =>
    (readUnsigned cs).map fun (literal, whole, rest) =>
      if whole && decide (decimal literal ≤ maxNatural) then (.natural (decimal literal), rest)
      else (.number literal, rest)

/-! ## 4. Values -/

/-- Read a word that stands for a value. -/
def readWord (word : List Char) (v : Json) (cs : List Char) : Option (Json × List Char) :=
  if word.isPrefixOf cs then some (v, cs.drop word.length) else none

mutual

/-- Read a value. -/
def readValue : (turns : Nat) → List Char → Option (Json × List Char)
  | 0, _ => none
  | turns + 1, cs =>
    match skip cs with
    | [] => none
    | '"' :: rest => (readString rest).map fun (s, rest') => (.string s, rest')
    | '[' :: rest =>
      match skip rest with
      | ']' :: rest' => some (.array [], rest')
      | _ => (readItems turns rest).map fun (items, rest') => (.array items, rest')
    | '{' :: rest =>
      match skip rest with
      | '}' :: rest' => some (.object [], rest')
      | _ => (readMembers turns rest).map fun (members, rest') => (.object members, rest')
    | 't' :: rest => readWord ['r', 'u', 'e'] (.bool true) rest
    | 'f' :: rest => readWord ['a', 'l', 's', 'e'] (.bool false) rest
    | 'n' :: rest => readWord ['u', 'l', 'l'] .null rest
    | rest => readNumber rest

/-- Read the items of a list up to its closing bracket. -/
def readItems : (turns : Nat) → List Char → Option (List Json × List Char)
  | 0, _ => none
  | turns + 1, cs =>
    match readValue turns cs with
    | none => none
    | some (v, rest) =>
      match skip rest with
      | ']' :: rest' => some ([v], rest')
      | ',' :: rest' => (readItems turns rest').map fun (vs, rest'') => (v :: vs, rest'')
      | _ => none

/-- Read the members of an object up to its closing brace. -/
def readMembers : (turns : Nat) → List Char → Option (List (Option String × Json) × List Char)
  | 0, _ => none
  | turns + 1, cs =>
    match skip cs with
    | '"' :: rest =>
      match readString rest with
      | none => none
      | some (key, rest') =>
        match skip rest' with
        | ':' :: rest'' =>
          match readValue turns rest'' with
          | none => none
          | some (v, more) =>
            match skip more with
            | '}' :: after => some ([(key, v)], after)
            | ',' :: after => (readMembers turns after).map fun (ms, end_) => ((key, v) :: ms, end_)
            | _ => none
        | _ => none
    | _ => none

end

end Reader

/-- **The value that a text spells**, if it is JSON. -/
def read (cs : List Char) : Option Json :=
  match Reader.readValue (2 * cs.length + 2) cs with
  | some (v, rest) => if (Reader.skip rest).isEmpty then some v else none
  | none => none

end CppSurface.Json
