import CppSurface.Json

/-!
# Writing JSON

Two layouts of the same value: compact, without any white space, and indented, with two blanks for
each level, one item or member on a line, and empty lists and objects closed at once.  In strings
only quotes, backslashes and control characters below U+0020 are escaped, those with a letter of
their own by it.
-/

namespace CppSurface.Json

namespace Writer

/-! ## 1. Strings -/

/-- A hexadecimal digit. -/
def hexDigit (n : Nat) : Char := if n < 10 then Char.ofNat (48 + n) else Char.ofNat (87 + n)

/-- A character as it stands in a string literal. -/
def escape (c : Char) : List Char :=
  if c = '"' then ['\\', '"']
  else if c = '\\' then ['\\', '\\']
  else if c = '\x08' then ['\\', 'b']
  else if c = '\x0c' then ['\\', 'f']
  else if c = '\n' then ['\\', 'n']
  else if c = '\r' then ['\\', 'r']
  else if c = '\t' then ['\\', 't']
  else if c.toNat < 0x20 then
    ['\\', 'u', '0', '0', hexDigit (c.toNat / 16), hexDigit (c.toNat % 16)]
  else [c]

/-- A string literal. -/
def literal (s : String) : List Char := '"' :: s.toList.flatMap escape ++ ['"']

/-- A value without parts.  A string without a text is written as an empty one. -/
def scalar : Json → List Char
  | .null => ['n', 'u', 'l', 'l']
  | .bool true => ['t', 'r', 'u', 'e']
  | .bool false => ['f', 'a', 'l', 's', 'e']
  | .natural n => Nat.toDigits 10 n
  | .number literal => literal
  | .string text => literal (text.getD "")
  | _ => []

/-! ## 2. The compact layout -/

mutual

/-- A value in the compact layout. -/
def compactChars : Json → List Char
  | .array items => '[' :: compactItems items ++ [']']
  | .object members => '{' :: compactMembers members ++ ['}']
  | v => scalar v

/-- Items with commas between them. -/
def compactItems : List Json → List Char
  | [] => []
  | [v] => compactChars v
  | v :: vs => compactChars v ++ ',' :: compactItems vs

/-- Members with commas between them. -/
def compactMembers : List (Option String × Json) → List Char
  | [] => []
  | [m] => compactMember m
  | m :: ms => compactMember m ++ ',' :: compactMembers ms

/-- A key and its value. -/
def compactMember : Option String × Json → List Char
  | (key, v) => literal (key.getD "") ++ ':' :: compactChars v

end

/-! ## 3. The indented layout -/

/-- The start of a line at a level. -/
def newline (level : Nat) : List Char := '\n' :: List.replicate (2 * level) ' '

mutual

/-- A value in the indented layout, at a level. -/
def prettyChars : (level : Nat) → Json → List Char
  | _, .array [] => ['[', ']']
  | level, .array items => '[' :: prettyItems (level + 1) items ++ newline level ++ [']']
  | _, .object [] => ['{', '}']
  | level, .object members => '{' :: prettyMembers (level + 1) members ++ newline level ++ ['}']
  | _, v => scalar v

/-- Items, each on a line of its own. -/
def prettyItems : (level : Nat) → List Json → List Char
  | _, [] => []
  | level, [v] => newline level ++ prettyChars level v
  | level, v :: vs => newline level ++ prettyChars level v ++ ',' :: prettyItems level vs

/-- Members, each on a line of its own. -/
def prettyMembers : (level : Nat) → List (Option String × Json) → List Char
  | _, [] => []
  | level, [m] => newline level ++ prettyMember level m
  | level, m :: ms => newline level ++ prettyMember level m ++ ',' :: prettyMembers level ms

/-- A key and its value. -/
def prettyMember : (level : Nat) → Option String × Json → List Char
  | level, (key, v) => literal (key.getD "") ++ ':' :: ' ' :: prettyChars level v

end

end Writer

/-- **The compact text of a value.** -/
def compact (v : Json) : String := String.ofList (Writer.compactChars v)

/-- **The indented text of a value.** -/
def pretty (v : Json) : String := String.ofList (Writer.prettyChars 0 v)

end CppSurface.Json
