import CppSurface.Record

/-!
# Extractions

The result of a survey: for each file, in the order in which files were first attributed something,
its functions, its value types and the files it includes.  The entry of inline source text has no
file.  Entries are found up to `Path.same`, and an entry that is not there yet is appended when it
is first written to.
-/

namespace CppSurface

/-- Everything extracted for one file. -/
structure FileEntry where
  file : Option Path
  functions : List FunctionRecord
  valueTypes : List ValueType
  includes : List Path
  deriving Repr, DecidableEq, Inhabited

namespace FileEntry

/-- The entry of a file for which nothing has been extracted. -/
def blank (file : Option Path) : FileEntry := ⟨file, [], [], []⟩

/-- The entry with these includes. -/
def setIncludes (includes : List Path) (e : FileEntry) : FileEntry :=
  { e with includes := includes }

/-- The entry with one more function. -/
def addFunction (f : FunctionRecord) (e : FileEntry) : FileEntry :=
  { e with functions := e.functions ++ [f] }

/-- Put a value type into a list: in place of the one with the same key if `overwrite` says so, and
at the end if there is none. -/
def placeType (overwrite : Bool) (v : ValueType) : List ValueType → List ValueType
  | [] => [v]
  | w :: rest =>
    if w.key.same v.key then (if overwrite then v else w) :: rest
    else w :: placeType overwrite v rest

/-- The entry with a value type. -/
def addValueType (overwrite : Bool) (v : ValueType) (e : FileEntry) : FileEntry :=
  { e with valueTypes := placeType overwrite v e.valueTypes }

end FileEntry

/-- The result of a survey. -/
structure Extraction where
  entries : List FileEntry
  deriving Repr, DecidableEq, Inhabited

namespace Extraction

/-- The result before anything was surveyed. -/
def empty : Extraction := ⟨[]⟩

/-- The number of entries. -/
def size (x : Extraction) : Nat := x.entries.length

/-- Whether there is no entry. -/
def isEmpty (x : Extraction) : Bool := x.entries.isEmpty

/-- The entry of a file. -/
def get? (x : Extraction) (file : Option Path) : Option FileEntry :=
  x.entries.find? fun e => Path.same? e.file file

/-- Whether a file has an entry. -/
def contains (x : Extraction) (file : Option Path) : Bool := (x.get? file).isSome

/-- Change the entry of a file in a list of entries, or append it, changed. -/
def updateEntries (file : Option Path) (f : FileEntry → FileEntry) :
    List FileEntry → List FileEntry
  | [] => [f (.blank file)]
  | e :: rest => if Path.same? e.file file then f e :: rest else e :: updateEntries file f rest

/-- **Change the entry of a file**, which is appended if it is not there. -/
def update (x : Extraction) (file : Option Path) (f : FileEntry → FileEntry) : Extraction :=
  ⟨updateEntries file f x.entries⟩

end Extraction

end CppSurface
