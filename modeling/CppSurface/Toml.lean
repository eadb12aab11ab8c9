/-!
# TOML documents

A document is a table of values.  While it is read, a table remembers how it came about, because
that decides what may still be added to it: a table with a header of its own is not opened twice,
a table made by dotted keys takes no header, and an inline table is closed once it is written.
-/

namespace CppSurface

/-- How a table came about. -/
inductive Toml.Origin where
  /-- By a header of its own. -/
  | header
  /-- As the parent of a table with a header. -/
  | implied
  /-- By a dotted key. -/
  | dotted
  /-- As an inline table. -/
  | closed
  deriving Repr, DecidableEq

/-- TOML values.  Of a number with a fraction and of a date only the fact is kept. -/
inductive Toml where
  | string (s : String)
  | integer (n : Int)
  | boolean (b : Bool)
  | float
  | date
  | array (items : List Toml)
  | table (origin : Toml.Origin) (entries : List (String × Toml))
  /-- The tables of a header that may be repeated. -/
  | tables (list : List (List (String × Toml)))

namespace Toml

/-- The entries of a table. -/
abbrev Entries := List (String × Toml)

/-! ## 1. Single entries -/

/-- Put a value under a key, in place of the one that is there. -/
def put (key : String) (v : Toml) : Entries → Entries
  | [] => [(key, v)]
  | (k, w) :: rest => if k = key then (k, v) :: rest else (k, w) :: put key v rest

/-- Change the last of several tables. -/
def updateLast (f : Entries → Option Entries) : List Entries → Option (List Entries)
  | [] => none
  | [t] => (f t).map fun t' => [t']
  | t :: rest => (updateLast f rest).map (t :: ·)

/-! ## 2. Dotted keys -/

/-- **Add a value under a dotted key.**  The tables on the way must have been made by dotted keys,
or stand only as parents of others, and the last one must be of the former sort. -/
def addValue (key : String) (v : Toml) : (path : List String) → Entries → Option Entries
  | [], entries =>
    match entries.lookup key with
    | some _ => none
    | none => some (entries ++ [(key, v)])
  | k :: ks, entries =>
    match entries.lookup k with
    | none => (addValue key v ks []).map fun inner => entries ++ [(k, .table .dotted inner)]
    | some (.table .dotted inner) =>
      (addValue key v ks inner).map fun inner' => put k (.table .dotted inner') entries
    | some (.table .implied inner) =>
      if ks.isEmpty then none
      else (addValue key v ks inner).map fun inner' => put k (.table .implied inner') entries
    | some (.tables list) =>
      if ks.isEmpty then none
      else (updateLast (addValue key v ks) list).map fun list' => put k (.tables list') entries
    | some _ => none

/-! ## 3. Headers -/

/-- What a table that a header opens holds already; `none` when it may not be opened. -/
def openTable : (path : List String) → Entries → Option Entries
  | [], _ => none
  | [k], entries =>
    match entries.lookup k with
    | none => some []
    | some (.table .implied inner) => some inner
    | some _ => none
  | k :: ks, entries =>
    match entries.lookup k with
    | none => some []
    | some (.table .closed _) => none
    | some (.table _ inner) => openTable ks inner
    | some (.tables list) => openTable ks (list.getLast?.getD [])
    | some _ => none

/-- Put the entries of a finished table in their place. -/
def closeTable (finished : Entries) : (path : List String) → Entries → Option Entries
  | [], _ => none
  | [k], entries => some (put k (.table .header finished) entries)
  | k :: ks, entries =>
    match entries.lookup k with
    | none => (closeTable finished ks []).map fun inner => put k (.table .implied inner) entries
    | some (.table origin inner) =>
      (closeTable finished ks inner).map fun inner' => put k (.table origin inner') entries
    | some (.tables list) =>
      (updateLast (closeTable finished ks) list).map fun list' => put k (.tables list') entries
    | some _ => none

/-- Whether one more table may be added under a repeated header. -/
def canRepeat : (path : List String) → Entries → Bool
  | [], _ => false
  | [k], entries =>
    match entries.lookup k with
    | none => true
    | some (.tables _) => true
    | some _ => false
  | k :: ks, entries =>
    match entries.lookup k with
    | none => true
    | some (.table .closed _) => false
    | some (.table _ inner) => canRepeat ks inner
    | some (.tables list) => canRepeat ks (list.getLast?.getD [])
    | some _ => false

/-- Add a finished table under a repeated header. -/
def closeRepeated (finished : Entries) : (path : List String) → Entries → Option Entries
  | [], _ => none
  | [k], entries =>
    match entries.lookup k with
    | none => some (put k (.tables [finished]) entries)
    | some (.tables list) => some (put k (.tables (list ++ [finished])) entries)
    | some _ => none
  | k :: ks, entries =>
    match entries.lookup k with
    | none => (closeRepeated finished ks []).map fun inner => put k (.table .implied inner) entries
    | some (.table origin inner) =>
      (closeRepeated finished ks inner).map fun inner' => put k (.table origin inner') entries
    | some (.tables list) =>
      (updateLast (closeRepeated finished ks) list).map fun list' => put k (.tables list') entries
    | some _ => none

/-! ## 4. Taking values apart -/

/-- A text. -/
def string? : Toml → Option String
  | .string s => some s
  | _ => none

/-- A truth value. -/
def boolean? : Toml → Option Bool
  | .boolean b => some b
  | _ => none

/-- A number that is not negative. -/
def natural? : Toml → Option Nat
  | .integer n => if 0 ≤ n then some n.toNat else none
  | _ => none

/-- A table. -/
def entries? : Toml → Option Entries
  | .table _ entries => some entries
  | _ => none

/-- Read every element of a list. -/
def readAll {α : Type} (f : Toml → Option α) : List Toml → Option (List α)
  | [] => some []
  | v :: vs =>
    match f v, readAll f vs with
    | some a, some as => some (a :: as)
    | _, _ => none

/-- A list of texts. -/
def strings? : Toml → Option (List String)
  | .array items => readAll string? items
  | _ => none

/-- Whether a value is an empty list or table. -/
def isVoid : Toml → Bool
  | .array [] => true
  | .table _ [] => true
  | .tables [] => true
  | _ => false

/-- One of several names: as a text, or as the only key of a table, with nothing in it. -/
def name? : Toml → Option String
  | .string s => some s
  | .table _ [(key, v)] => if v.isVoid then some key else none
  | _ => none

end Toml

end CppSurface
