import CppSurface.Extraction
import CppSurface.Report
import CppSurface.Resolver
import CppSurface.Sightings
import CppSurface.Unit

/-!
# The pass over one file

What a parsed unit has to say about the file it was parsed for: the functions that can be
published, the value types that they and the file's own types need, the files it includes, and
what has to be reported.  A pass depends on its unit, on the policy and on the budget of alias
passes, and on nothing that happened before.  `absorb` then adds it to the extraction.
-/

namespace CppSurface

/-! ## 1. Entries -/

/-- Where a survey starts: a file, or source text written to one. -/
structure EntryPoint where
  path : Path
  isInline : Bool
  deriving Repr, DecidableEq

/-- The file that results are attributed to.  Inline source text has none. -/
def EntryPoint.keyFor (entry : EntryPoint) (file : Path) : Option Path :=
  if entry.isInline && file.same entry.path then none else some file

/-! ## 2. Notices -/

/-- What is worth a warning in the course of a survey. -/
inductive Notice where
  | compilerWarning (d : Diagnostic)
  | aliasesExhausted (text : String) (passes : Nat)
  deriving Repr, DecidableEq

/-- A notice in words. -/
def Notice.text : Notice → String
  | .compilerWarning d => "[clang] " ++ d.text
  | .aliasesExhausted text passes =>
    "[alias] gave up resolving `" ++ text ++ "` after " ++ toString passes ++ " passes"

/-- The notices of resolving texts, one for each that runs out of passes. -/
def AliasTable.notices (aliases : AliasTable) (texts : List String) : List Notice :=
  (texts.filter aliases.exhausted).map fun text => .aliasesExhausted text aliases.maxPasses

/-! ## 3. Sifting -/

/-- Put each element of a list to a check, in order, within one session. -/
def Resolver.sift {α : Type} (check : α → Session → Bool × Session) :
    List α → Session → List (α × Bool) × Session
  | [], s => ([], s)
  | a :: as, s =>
    let (holds, s') := check a s
    let (rest, s'') := sift check as s'
    ((a, holds) :: rest, s'')

/-- The elements that passed. -/
def kept {α : Type} (sifted : List (α × Bool)) : List α := (sifted.filter (·.2)).map (·.1)

/-- The elements that failed. -/
def dropped {α : Type} (sifted : List (α × Bool)) : List α := (sifted.filter (!·.2)).map (·.1)

/-! ## 4. The pass -/

/-- The result of a pass over a file. -/
structure FilePass where
  includes : List Path
  functions : List FunctionRecord
  /-- The value types to publish, each after those it depends on. -/
  required : List ValueType
  reports : List Report
  notices : List Notice
  deriving Repr, DecidableEq

/-- **The pass over a file.**  Types that are ruled out by their members are reported first, then
types that do not hold up, then functions. -/
def FilePass.of (policy : Policy) (maxAliasPasses : Nat) (entry : EntryPoint) (file : Path)
    (unit : ParsedUnit) : FilePass :=
  let key := entry.keyFor file
  let aliases := AliasTable.ofUnit unit.tree file maxAliasPasses
  let types := unit.tree.valueTypes aliases
  let resolver : Resolver := ⟨types, policy⟩
  let own := types.filter fun t => t.file.same file
  let (siftedTypes, s) := Resolver.sift resolver.checkValueType own Session.start
  let (siftedFunctions, s) :=
    Resolver.sift (fun f => resolver.checkFunction f.signature)
      (unit.tree.functions file aliases) s
  { includes := unit.directIncludes file
    functions := kept siftedFunctions
    required := resolver.required s
    reports :=
      (unit.tree.rejectedTypes file aliases).map (fun r => ⟨r.name, key, some r.line⟩) ++
      (dropped siftedTypes).map (fun t => ⟨t.name, key, some t.definitionLine⟩) ++
      (dropped siftedFunctions).map (fun f => ⟨f.signature.name, key, f.line⟩)
    notices :=
      aliases.notices (unit.tree.recordTexts aliases ++ unit.tree.functionTexts file) }

/-! ## 5. Adding a pass to the extraction -/

/-- Attribute a value type to its file.  A file's own pass has the last word on its types. -/
def Extraction.attribute (entry : EntryPoint) (file : Path) (unit : ParsedUnit) (x : Extraction)
    (v : ValueType) : Extraction :=
  let owner := entry.keyFor v.file
  let x := if x.contains owner then x
    else x.update owner (FileEntry.setIncludes (unit.directIncludes v.file))
  x.update owner (FileEntry.addValueType (v.file.same file) v)

/-- **Add the pass over a file to the extraction.** -/
def Extraction.absorb (entry : EntryPoint) (file : Path) (unit : ParsedUnit) (x : Extraction)
    (pass : FilePass) : Extraction :=
  let key := entry.keyFor file
  let x := x.update key (FileEntry.setIncludes pass.includes)
  let x := pass.functions.foldl (fun x f => x.update key (FileEntry.addFunction f)) x
  pass.required.foldl (Extraction.attribute entry file unit) x

end CppSurface
