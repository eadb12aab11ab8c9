import CppSurface.AliasTable
import CppSurface.Record

/-!
# Which records are value types

A structure or class is judged by its direct members alone.  It is a value type when it has a
public move constructor and no public copy constructor, all its fields are public, its only
methods are public move assignments, and it holds nothing else but bases, enumerations and access
specifiers.  Deleted constructors and methods count for nothing.  A record without members is a
mere declaration and gets no judgement.

One pass over the members does both (`Review`): it finds out whether they leave the record a value
type, and it lists what the record is to publish.  The lists keep the order of the members; the
record that they make up, taken as a whole, is `describe`.
-/

namespace CppSurface

open DeclTree

/-! ## 1. Variables -/

/-- The type text of a declaration with every alias substituted. -/
def AliasTable.typeOf (aliases : AliasTable) (d : Decl) : String :=
  aliases.resolve (d.typeText.getD "")

/-- Variables followed by others. -/
instance : Append Variables where
  append v w :=
    ⟨v.names ++ w.names, v.rawTypes ++ w.rawTypes, v.simpleTypes ++ w.simpleTypes⟩

theorem Variables.append_eq (v w : Variables) :
    v ++ w = ⟨v.names ++ w.names, v.rawTypes ++ w.rawTypes, v.simpleTypes ++ w.simpleTypes⟩ := rfl

/-- The names and types of declarations, in order. -/
def Variables.ofDecls (aliases : AliasTable) (ds : List Decl) : Variables where
  names := ds.map (·.name)
  rawTypes := ds.map aliases.typeOf
  simpleTypes := ds.map fun d => TypeText.simplify (aliases.typeOf d)

namespace Verdict

/-! ## 2. The judgement on a member -/

/-- The type of the parameter of a record's move assignment. -/
def moveParameterType (aliases : AliasTable) (recordName : String) : String :=
  aliases.resolve recordName ++ " &&"

/-- Whether a method is a public move assignment of the record. -/
def isMoveAssignment (tree : DeclTree) (aliases : AliasTable) (moveType : String) (id : Nat) :
    Bool :=
  (tree.get id).name == "operator=" && (tree.get id).isPublic &&
    (tree.parameters id).all fun p => aliases.typeOf p == moveType

/-- A constructor that is not deleted. -/
def isLiveConstructor (d : Decl) : Bool := d.kind == .constructor && !d.isDeleted

/-- A public constructor of a special sort that is not deleted. -/
def isPublicSpecial (sort : SpecialMember) (d : Decl) : Bool :=
  isLiveConstructor d && d.isPublic && d.special == some sort

/-! ## 3. The published record -/

/-- A defaulted move constructor leaves its parameter unnamed; it is published as `other`. -/
def nameMoved (d : Decl) (parameters : Variables) : Variables :=
  if isPublicSpecial .move d && d.isDefaulted && parameters.names == [""] then
    { parameters with names := ["other"] }
  else parameters

/-- The constructor that a declaration publishes. -/
def describeConstructor (tree : DeclTree) (aliases : AliasTable) (id : Nat) : Constructor where
  parameters := nameMoved (tree.get id) (Variables.ofDecls aliases (tree.parameters id))
  definitionLine := (tree.get id).line

/-- The type that a base specifier names. -/
def baseType (aliases : AliasTable) (d : Decl) : String :=
  aliases.resolve (d.typeText.getD d.name)

/-- The children of a declaration of one kind. -/
def childrenOf (tree : DeclTree) (id : Nat) (kind : Decl.Kind) : List Decl :=
  ((tree.children id).map tree.get).filter fun d => d.kind == kind

/-- The record that a structure or class publishes. -/
def describe (tree : DeclTree) (aliases : AliasTable) (id : Nat) : ValueType where
  name := tree.qualifiedName id
  fields := Variables.ofDecls aliases (childrenOf tree id .field)
  definitionLine := (tree.get id).line
  constructors :=
    ((tree.children id).filter fun c => isLiveConstructor (tree.get c)).map
      (describeConstructor tree aliases)
  bases := (childrenOf tree id .baseSpecifier).map (baseType aliases)
  file := (tree.get id).file.getD ⟨""⟩

/-! ## 4. One pass over the members -/

/-- What is known of a record after some of its members: the record that they publish, whether
none of them rules it out, and whether one of them is a public move constructor. -/
structure Review where
  record : ValueType
  acceptable : Bool
  hasMove : Bool
  deriving Repr, DecidableEq

namespace Review

/-- The review before the first member. -/
def start (tree : DeclTree) (id : Nat) : Review where
  record :=
    { name := tree.qualifiedName id, fields := ⟨[], [], []⟩,
      definitionLine := (tree.get id).line, constructors := [], bases := [],
      file := (tree.get id).file.getD ⟨""⟩ }
  acceptable := true
  hasMove := false

/-- Go on with a member. -/
def add (tree : DeclTree) (aliases : AliasTable) (moveType : String) (r : Review) (id : Nat) :
    Review :=
  let d := tree.get id
  match d.kind with
  | .constructor =>
    if d.isDeleted then r
    else
      { record :=
          { r.record with
            constructors := r.record.constructors ++ [describeConstructor tree aliases id] }
        acceptable := r.acceptable && !(d.isPublic && d.special == some .copy)
        hasMove := r.hasMove || d.isPublic && d.special == some .move }
  | .field =>
    { r with
      record := { r.record with fields := r.record.fields ++ Variables.ofDecls aliases [d] }
      acceptable := r.acceptable && d.isPublic }
  | .method =>
    if d.isDeleted then r
    else { r with acceptable := r.acceptable && isMoveAssignment tree aliases moveType id }
  | .baseSpecifier =>
    { r with record := { r.record with bases := r.record.bases ++ [baseType aliases d] } }
  | .enumType | .accessSpecifier => r
  | _ => { r with acceptable := false }

end Review

end Verdict

/-! ## 5. The verdict -/

/-- The judgement on a structure or class. -/
inductive Verdict where
  | accepted (record : ValueType)
  /-- It has members, and one of them, or the lack of one, rules it out. -/
  | invalid
  /-- It has no members: a forward declaration. -/
  | notADefinition
  deriving Repr, DecidableEq

/-- **The verdict on a structure or class.** -/
def DeclTree.verdict (tree : DeclTree) (aliases : AliasTable) (id : Nat) : Verdict :=
  let members := tree.children id
  let moveType := Verdict.moveParameterType aliases (tree.get id).name
  if members.isEmpty then .notADefinition
  else
    let review := members.foldl (Verdict.Review.add tree aliases moveType) (.start tree id)
    if review.acceptable && review.hasMove then .accepted review.record else .invalid

/-! ## 6. The candidates of a unit -/

/-- A structure or class of the surveyed file that is no value type. -/
structure Rejected where
  name : String
  file : Path
  line : UInt32
  deriving Repr, DecidableEq

/-- The structures and classes at namespace scope, in the order of the text. -/
def DeclTree.records (tree : DeclTree) : List Nat :=
  tree.members.filter fun id => (tree.get id).kind.isRecord

/-- The value types at namespace scope, of every file of the unit. -/
def DeclTree.valueTypes (tree : DeclTree) (aliases : AliasTable) : List ValueType :=
  tree.records.filterMap fun id =>
    match tree.verdict aliases id with
    | .accepted record => some record
    | _ => none

/-- The structures and classes of `file` at namespace scope that are no value types. -/
def DeclTree.rejectedTypes (tree : DeclTree) (file : Path) (aliases : AliasTable) :
    List Rejected :=
  tree.records.filterMap fun id =>
    match tree.verdict aliases id with
    | .invalid =>
      if (tree.get id).isIn file then some ⟨tree.qualifiedName id, file, (tree.get id).line⟩
      else none
    | _ => none

/-! ## 7. The texts that a verdict resolves

Resolving a text may run out of passes, and each time it does there is a notice.  These lists give
the texts in the order in which a verdict looks at them; the parameters of a method are looked at
only up to the first that rules it out. -/

namespace Verdict

/-- The elements up to and including the first that fails a test. -/
def throughFirstFailure {α : Type} (p : α → Bool) : List α → List α
  | [] => []
  | a :: as => if p a then a :: throughFirstFailure p as else [a]

/-- The texts that a member has resolved. -/
def memberTexts (tree : DeclTree) (aliases : AliasTable) (moveType : String) (id : Nat) :
    List String :=
  let d := tree.get id
  match d.kind with
  | .constructor =>
    if d.isDeleted then [] else (tree.parameters id).map fun p => p.typeText.getD ""
  | .field => [d.typeText.getD ""]
  | .method =>
    if !d.isDeleted && d.name == "operator=" && d.isPublic then
      (throughFirstFailure (fun p => aliases.typeOf p == moveType) (tree.parameters id)).map
        fun p => p.typeText.getD ""
    else []
  | .baseSpecifier => [d.typeText.getD d.name]
  | _ => []

/-- The texts that a verdict resolves, in order. -/
def texts (tree : DeclTree) (aliases : AliasTable) (id : Nat) : List String :=
  let members := tree.children id
  if members.isEmpty then []
  else
    (tree.get id).name ::
      members.flatMap (memberTexts tree aliases (moveParameterType aliases (tree.get id).name))

end Verdict

/-- The texts that the verdicts of a unit resolve, in order. -/
def DeclTree.recordTexts (tree : DeclTree) (aliases : AliasTable) : List String :=
  tree.records.flatMap (Verdict.texts tree aliases)

end CppSurface
