import CppSurface.DeclTree
import CppSurface.Pattern.Literals
import CppSurface.TypeText

/-!
# Alias tables

The type aliases that one file declares at its top level, and their substitution into type texts.
Substitution is textual: wherever an alias name stands between two word boundaries it gives way to
its target, whatever scope the spelling came from.  Passes are repeated until none of the names is
left, or until the budget of passes is used up; the keywords `struct` and `class` go last.

Where several names stand at one place the longest one wins, then the first in the order of their
characters.  The table keeps its entries in this order of preference, so that the first entry that
fits is the right one.

The names are looked for with one pattern, an alternation of them all.  When the names are too long
for a pattern there is none, and then nothing is substituted; the keywords go all the same.
-/

namespace CppSurface

open CppSurface.Text

/-- Aliases with their targets, by preference, and the number of passes a substitution may take. -/
structure AliasTable where
  entries : List (String × String)
  maxPasses : Nat
  /-- The names have been found too long for a pattern. -/
  oversized : Bool
  deriving Repr, DecidableEq, Inhabited

namespace AliasTable

/-! ## 1. The table -/

/-- The number of passes when none is asked for. -/
def defaultPasses : Nat := 64

/-- The table without aliases.  At least one pass is always allowed. -/
def empty (maxPasses : Nat) : AliasTable := ⟨[], max maxPasses 1, false⟩

/-- Whether a name is preferred to another: the longer one, in bytes, or else the smaller one. -/
def precedes (a b : String) : Bool :=
  if a.utf8ByteSize = b.utf8ByteSize then decide (a < b)
  else decide (b.utf8ByteSize < a.utf8ByteSize)

/-- Put an entry in front of the first one that it is preferred to. -/
def place (name target : String) : List (String × String) → List (String × String)
  | [] => [(name, target)]
  | e :: rest =>
    if precedes name e.1 then (name, target) :: e :: rest else e :: place name target rest

/-- Put an alias among the entries, in place of an earlier one of the same name. -/
def put (t : AliasTable) (name target : String) : AliasTable :=
  { t with entries := place name target (t.entries.filter fun e => e.1 ≠ name) }

/-- Make the pattern of the names anew. -/
def rebuild (t : AliasTable) : AliasTable :=
  { t with oversized := !Pattern.Literals.fits (t.entries.map Prod.fst) }

/-- Add an alias. -/
def insert (t : AliasTable) (name target : String) : AliasTable := (t.put name target).rebuild

/-- The number of aliases. -/
def size (t : AliasTable) : Nat := t.entries.length

/-- Whether there is no alias. -/
def isEmpty (t : AliasTable) : Bool := t.entries.isEmpty

/-- The target of a name. -/
def get? (t : AliasTable) (name : String) : Option String := t.entries.lookup name

/-! ## 2. Where a name stands -/

/-- Whether a word begins or ends between two neighbouring characters. -/
def isBoundary (before after : Option Char) : Bool := before.any isWord != after.any isWord

/-- The character before what follows `name`, when `before` stands before `name`. -/
def lastBefore (before : Option Char) (name : List Char) : Option Char := name.getLast?.or before

/-- Whether `name` stands at the beginning of `rest` and ends at a word boundary. -/
def standsAt (before : Option Char) (rest name : List Char) : Bool :=
  name.isPrefixOf rest && isBoundary (lastBefore before name) (rest.drop name.length).head?

/-- The preferred entry whose name stands between word boundaries at the beginning of `rest`. -/
def match? (entries : List (List Char × List Char)) (before : Option Char) (rest : List Char) :
    Option (List Char × List Char) :=
  if isBoundary before rest.head? then entries.find? fun e => standsAt before rest e.1 else none

/-- Whether some name stands somewhere in a text. -/
def anyMatch (entries : List (List Char × List Char)) : Option Char → List Char → Bool
  | before, [] => (match? entries before []).isSome
  | before, c :: rest => (match? entries before (c :: rest)).isSome || anyMatch entries (some c) rest

/-! ## 3. One pass -/

/-- **One pass of substitution.**  `skip` characters still belong to the name that was replaced
last, and `fresh` says that no name ended right here: an empty name may stand only where no other
one ended. -/
def substitute (entries : List (List Char × List Char)) :
    (before : Option Char) → (skip : Nat) → (fresh : Bool) → List Char → List Char
  | before, 0, fresh, [] =>
    match match? entries before [] with
    | some (_, target) => if fresh then target else []
    | none => []
  | _, _ + 1, _, [] => []
  | _, skip + 1, _, c :: rest => substitute entries (some c) skip false rest
  | before, 0, fresh, c :: rest =>
    match match? entries before (c :: rest) with
    | some ([], target) =>
      (if fresh then target else []) ++ c :: substitute entries (some c) 0 true rest
    | some (_ :: name, target) => target ++ substitute entries (some c) name.length false rest
    | none => c :: substitute entries (some c) 0 true rest

/-- One pass over a whole text. -/
def pass (entries : List (List Char × List Char)) (text : List Char) : List Char :=
  substitute entries none 0 true text

/-! ## 4. Resolution -/

/-- Repeat passes until no name is left or the budget is used up; the flag says the latter. -/
def expand (entries : List (List Char × List Char)) : Nat → List Char → List Char × Bool
  | 0, text => (text, anyMatch entries none text)
  | budget + 1, text =>
    if anyMatch entries none text then expand entries budget (pass entries text)
    else (text, false)

/-- The entries as lists of characters. -/
def spelled (t : AliasTable) : List (List Char × List Char) :=
  t.entries.map fun e => (e.1.toList, e.2.toList)

/-- Substitute the aliases in a text, if there is a pattern of their names; the flag says that the
budget of passes was used up. -/
def substituted (t : AliasTable) (text : List Char) : List Char × Bool :=
  if t.oversized then (text, false) else expand t.spelled t.maxPasses text

/-- **The type text with every alias substituted**, and without `struct` and `class`. -/
def resolve (t : AliasTable) (text : String) : String :=
  TypeText.dropElaborated (String.ofList (t.substituted text.toList).1)

/-- Whether the budget of passes ends before the substitution of a text does. -/
def exhausted (t : AliasTable) (text : String) : Bool := (t.substituted text.toList).2

/-! ## 5. The aliases of a file -/

/-- Whether a declaration is an alias that a file's table holds.  An alias that merely repeats the
name of the type it stands for, as in `typedef struct foo foo`, is none. -/
def isEntry (file : Path) (d : Decl) : Bool :=
  d.kind.isAlias && d.isIn file && d.name != "" &&
    String.ofList (trim (TypeText.dropElaborated (d.typeText.getD "")).toList) != d.name

/-- **The aliases that are direct children of the translation unit and stand in `file`.** -/
def ofUnit (tree : DeclTree) (file : Path) (maxPasses : Nat) : AliasTable :=
  ((((tree.children 0).map tree.get).filter (isEntry file)).foldl
    (fun t d => t.put d.name (d.typeText.getD "")) (empty maxPasses)).rebuild

end AliasTable

end CppSurface
