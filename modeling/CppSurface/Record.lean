import CppSurface.Path

/-!
# Records

What is published of a function and of a value type.  A list of variables is kept as three lists
of equal meaning: names, types as spelled, and types as they are looked up.  The file of a record
is its identity together with the name; it is no part of the published text.
-/

namespace CppSurface

/-- Named variables with their types, as spelled and in simple spelling. -/
structure Variables where
  names : List String
  rawTypes : List String
  simpleTypes : List String
  deriving Repr, DecidableEq, Inhabited

/-- Everything that makes two sightings the same function. -/
structure Signature where
  name : String
  rawReturnType : String
  simpleReturnType : String
  parameters : Variables
  deriving Repr, DecidableEq, Inhabited

/-- A free function. -/
structure FunctionRecord where
  signature : Signature
  declarationLine : Option UInt32
  definitionLine : Option UInt32
  file : Path
  deriving Repr, DecidableEq, Inhabited

/-- The line reported for a function: that of its definition, or else of its declaration. -/
def FunctionRecord.line (f : FunctionRecord) : Option UInt32 :=
  f.definitionLine.or f.declarationLine

/-- A constructor of a value type. -/
structure Constructor where
  parameters : Variables
  definitionLine : UInt32
  deriving Repr, DecidableEq, Inhabited

/-- A record type that moves but does not copy, and so can be passed by value. -/
structure ValueType where
  name : String
  fields : Variables
  definitionLine : UInt32
  constructors : List Constructor
  bases : List String
  file : Path
  deriving Repr, DecidableEq, Inhabited

/-- The simple types of the parameters of all constructors, in order. -/
def ValueType.constructorTypes (v : ValueType) : List String :=
  v.constructors.flatMap fun c => c.parameters.simpleTypes

/-- The simple types that a value type is built from: its fields', then its constructors'. -/
def ValueType.memberTypes (v : ValueType) : List String :=
  v.fields.simpleTypes ++ v.constructorTypes

/-- **A value type is built from a type**: the simple type of one of its fields, or of a parameter
of one of its constructors. -/
def ValueType.BuiltFrom (v : ValueType) (text : String) : Prop :=
  text ∈ v.fields.simpleTypes ∨ ∃ c ∈ v.constructors, text ∈ c.parameters.simpleTypes

instance (v : ValueType) (text : String) : Decidable (v.BuiltFrom text) :=
  inferInstanceAs (Decidable (_ ∨ _))

/-- The member types of a value type are those that it is built from. -/
theorem ValueType.mem_memberTypes {v : ValueType} {text : String} :
    text ∈ v.memberTypes ↔ v.BuiltFrom text := by
  rw [memberTypes, constructorTypes, List.mem_append, List.mem_flatMap, BuiltFrom]

/-! ## Identity -/

/-- The identity of a value type in one unit: its qualified name and its file. -/
structure TypeKey where
  name : String
  file : Path
  deriving Repr, DecidableEq, Inhabited

namespace TypeKey

/-- Whether two keys name the same type: equal names, and the same file. -/
def same (k l : TypeKey) : Bool := k.name == l.name && k.file.same l.file

theorem same_iff {k l : TypeKey} :
    k.same l = true ↔ k.name = l.name ∧ k.file.components = l.file.components := by
  simp [same, Path.same_iff]

@[simp] theorem same_self (k : TypeKey) : k.same k = true := by simp [same]

theorem same_symm {k l : TypeKey} (h : k.same l = true) : l.same k = true :=
  same_iff.2 ⟨(same_iff.1 h).1.symm, (same_iff.1 h).2.symm⟩

theorem same_trans {k l m : TypeKey} (h : k.same l = true) (h' : l.same m = true) :
    k.same m = true :=
  same_iff.2 ⟨(same_iff.1 h).1.trans (same_iff.1 h').1, (same_iff.1 h).2.trans (same_iff.1 h').2⟩

/-- Whether a list of keys holds one that names the same type. -/
def within (k : TypeKey) (keys : List TypeKey) : Bool := keys.any k.same

end TypeKey

/-- The key of a value type. -/
def ValueType.key (v : ValueType) : TypeKey := ⟨v.name, v.file⟩

end CppSurface
