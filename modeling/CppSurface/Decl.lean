import CppSurface.Path

/-!
# Declarations

What is kept of one declaration of a translation unit: its kind and name, where it stands, the
text of its type, its access, and the marks that decide whether a record can be passed by value.
-/

namespace CppSurface

/-- Member access. -/
inductive Access where
  | isPublic
  | isProtected
  | isPrivate
  deriving Repr, DecidableEq

/-- The access that a keyword spells. -/
def Access.ofSpelling? (s : String) : Option Access :=
  if s = "public" then some .isPublic
  else if s = "protected" then some .isProtected
  else if s = "private" then some .isPrivate
  else none

/-- The two constructors that are told apart from all others. -/
inductive SpecialMember where
  | copy
  | move
  deriving Repr, DecidableEq

namespace Decl

/-- The kinds of declaration.  A kind without a rule of its own keeps its label. -/
inductive Kind where
  | translationUnit
  | namespaceScope
  | structType
  | classType
  | field
  | constructor
  | method
  | function
  | parameter
  | typedefName
  | typeAlias
  | enumType
  | accessSpecifier
  | baseSpecifier
  | other (label : String)
  deriving Repr, DecidableEq

/-- Structures and classes. -/
def Kind.isRecord : Kind → Bool
  | .structType | .classType => true
  | _ => false

/-- Names for another type. -/
def Kind.isAlias : Kind → Bool
  | .typedefName | .typeAlias => true
  | _ => false

end Decl

/-- One declaration. -/
structure Decl where
  kind : Decl.Kind
  /-- The unqualified name; empty for anonymous declarations and unnamed parameters. -/
  name : String
  file : Option Path := none
  line : UInt32 := 0
  /-- The type of a field or parameter, the target of an alias, the return type of a function or
  the type of a base. -/
  typeText : Option String := none
  access : Option Access := none
  special : Option SpecialMember := none
  isDeleted : Bool := false
  isDefaulted : Bool := false
  hasBody : Bool := false
  /-- The declaration that encloses this one in the text. -/
  parent : Option Nat := none
  /-- The scope that this declaration belongs to, where it is not the enclosing one. -/
  context : Option Nat := none
  deriving Repr, DecidableEq

namespace Decl

/-- The declaration at the root of every tree. -/
def root : Decl := { kind := .translationUnit, name := "" }

/-- Whether the declaration stands in a file. -/
def isIn (d : Decl) (file : Path) : Bool :=
  match d.file with
  | some f => f.same file
  | none => false

/-- Whether the declaration is a public member. -/
def isPublic (d : Decl) : Bool := d.access == some .isPublic

end Decl

end CppSurface
