import CppSurface.Verdict

/-!
# Sightings of functions

A function may be declared several times and defined once.  All its sightings in one file make one
record: sightings are the same function when their six-part signatures agree.  The record keeps
the line of the first sighting as its declaration, and the line of the last sighting with a body
as its definition.
-/

namespace CppSurface

namespace DeclTree

/-! ## 1. What counts as a sighting -/

/-- The free functions of `file` at namespace scope, in the order of the text. -/
def functionsIn (tree : DeclTree) (file : Path) : List Nat :=
  tree.members.filter fun id => (tree.get id).kind == .function && (tree.get id).isIn file

/-- The signature of a function, with every alias substituted. -/
def signature (tree : DeclTree) (aliases : AliasTable) (id : Nat) : Signature where
  name := tree.qualifiedName id
  rawReturnType := aliases.typeOf (tree.get id)
  simpleReturnType := TypeText.simplify (aliases.typeOf (tree.get id))
  parameters := Variables.ofDecls aliases (tree.parameters id)

end DeclTree

/-- One sighting of a function. -/
structure Sighting where
  signature : Signature
  line : UInt32
  hasBody : Bool
  deriving Repr, DecidableEq

namespace Sighting

/-! ## 2. Joining sightings -/

/-- The record of a function that has been seen once. -/
def first (file : Path) (s : Sighting) : FunctionRecord where
  signature := s.signature
  declarationLine := some s.line
  definitionLine := if s.hasBody then some s.line else none
  file := file

/-- The record of a function that has been seen once more. -/
def again (s : Sighting) (r : FunctionRecord) : FunctionRecord :=
  if s.hasBody then { r with definitionLine := some s.line } else r

/-- Add a sighting to the records so far. -/
def join (file : Path) : List FunctionRecord → Sighting → List FunctionRecord
  | [], s => [s.first file]
  | r :: rest, s => if r.signature = s.signature then s.again r :: rest else r :: join file rest s

end Sighting

/-! ## 3. The functions of a file -/

/-- The sightings of functions in `file`, in the order of the text. -/
def DeclTree.sightings (tree : DeclTree) (file : Path) (aliases : AliasTable) : List Sighting :=
  (tree.functionsIn file).map fun id =>
    ⟨tree.signature aliases id, (tree.get id).line, (tree.get id).hasBody⟩

/-- **The free functions of `file`**, one record for each signature, by first sighting. -/
def DeclTree.functions (tree : DeclTree) (file : Path) (aliases : AliasTable) :
    List FunctionRecord :=
  (tree.sightings file aliases).foldl (Sighting.join file) []

/-- The texts that the functions of a file have resolved, in order. -/
def DeclTree.functionTexts (tree : DeclTree) (file : Path) : List String :=
  (tree.functionsIn file).flatMap fun id =>
    (tree.get id).typeText.getD "" :: (tree.parameters id).map fun p => p.typeText.getD ""

end CppSurface
