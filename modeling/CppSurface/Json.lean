/-!
# JSON values

Values keep the order and the repetitions of their members, because both are meaningful to some
readers.  A number is a natural number or is kept as it was written: nothing here computes with
fractions.  A string literal may hold an escape of one half of a surrogate pair without the other;
it is then well formed but spells no text, and only those who ask for its text can tell.
-/

namespace CppSurface

/-- JSON values. -/
inductive Json where
  | null
  | bool (b : Bool)
  | natural (n : Nat)
  /-- A number that is negative, or has a fraction or an exponent, or exceeds 64 bits. -/
  | number (literal : List Char)
  /-- A string, with its text if it spells one. -/
  | string (text : Option String)
  | array (items : List Json)
  /-- An object, with the texts of its keys if they spell one. -/
  | object (members : List (Option String × Json))

namespace Json

/-! ## 1. Making values -/

/-- A string. -/
def text (s : String) : Json := .string (some s)

/-- A list of strings. -/
def texts (ss : List String) : Json := .array (ss.map text)

/-- An object with these members. -/
def record (members : List (String × Json)) : Json :=
  .object (members.map fun m => (some m.1, m.2))

/-- A value or null. -/
def optional {α : Type} (f : α → Json) : Option α → Json
  | some a => f a
  | none => .null

/-! ## 2. Taking values apart -/

/-- The text of a string. -/
def text? : Json → Option String
  | .string (some s) => some s
  | _ => none

/-- A truth value. -/
def bool? : Json → Option Bool
  | .bool b => some b
  | _ => none

/-- A natural number up to a bound. -/
def naturalUpTo? (bound : Nat) : Json → Option Nat
  | .natural n => if n ≤ bound then some n else none
  | _ => none

/-- A number of 32 bits. -/
def uint32? (v : Json) : Option UInt32 := (v.naturalUpTo? 4294967295).map UInt32.ofNat

/-- A list. -/
def array? : Json → Option (List Json)
  | .array items => some items
  | _ => none

/-- Null, or a value that can be read. -/
def nullable? {α : Type} (f : Json → Option α) : Json → Option (Option α)
  | .null => some none
  | v => (f v).map some

/-- Read every element of a list. -/
def readAll {α : Type} (f : Json → Option α) : List Json → Option (List α)
  | [] => some []
  | v :: vs =>
    match f v, readAll f vs with
    | some a, some as => some (a :: as)
    | _, _ => none

/-- A list whose every element can be read. -/
def list? {α : Type} (f : Json → Option α) (v : Json) : Option (List α) :=
  v.array?.bind (readAll f)

/-- A list of texts. -/
def texts? (v : Json) : Option (List String) := v.list? text?

/-! ## 3. Records -/

/-- The value of a field among the members of an object; `none` when the field is repeated. -/
def field? (name : String) (members : List (Option String × Json)) : Option (Option Json) :=
  match members.filter fun m => m.1 == some name with
  | [] => some none
  | [m] => some (some m.2)
  | _ => none

/-- The values of several fields, in the order of their names. -/
def fieldValues? (members : List (Option String × Json)) :
    List String → Option (List (Option Json))
  | [] => some []
  | name :: names =>
    match field? name members, fieldValues? members names with
    | some v, some vs => some (v :: vs)
    | _, _ => none

/-- **The fields of a record.**  A record is an object, in which no field is repeated and every key
spells a text, or a list of the fields' values, exactly as long. -/
def fields? (names : List String) : Json → Option (List (Option Json))
  | .object members =>
    if members.all (fun m => m.1.isSome) then fieldValues? members names else none
  | .array items => if items.length = names.length then some (items.map some) else none
  | _ => none

/-- A field that must be there. -/
def required? {α : Type} (f : Json → Option α) : Option Json → Option α
  | some v => f v
  | none => none

/-- A field that may be missing or null. -/
def optional? {α : Type} (f : Json → Option α) : Option Json → Option (Option α)
  | some v => v.nullable? f
  | none => some none

end Json

end CppSurface
