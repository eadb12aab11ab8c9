import CppSurface.Decl

/-!
# Dumps

The compiler dumps the tree of a translation unit.  Of each node the identity, the kind and the
inner nodes are kept, and of the kinds that describe declarations the attributes that the survey
reads.  Every other kind keeps its label and its place.
-/

namespace CppSurface.Dump

/-- Where a node stands: a file that has a name, and a line that is counted from one. -/
structure Place where
  file : String
  line : Nat
  deriving Repr, DecidableEq

/-- The kinds of node that describe declarations. -/
inductive DeclSort where
  | namespaceDecl
  | recordDecl
  | fieldDecl
  | constructorDecl
  | methodDecl
  | accessSpecDecl
  | enumDecl
  | functionDecl
  | parameterDecl
  | typedefDecl
  | typeAliasDecl
  deriving Repr, DecidableEq

/-- A base of a record, with its access as spelled. -/
structure Base where
  access : Option String
  qualType : Option String
  deriving Repr, DecidableEq

/-- The attributes of a declaration.  Few of them apply to any one kind. -/
structure Attributes where
  name : Option String := none
  place : Option Place := none
  isImplicit : Option Bool := none
  qualType : Option String := none
  /-- The identity of the scope of a declaration that stands outside of it. -/
  contextId : Option Nat := none
  access : Option String := none
  tagUsed : Option String := none
  bases : List Base := []
  explicitlyDeleted : Option Bool := none
  explicitlyDefaulted : Option String := none
  deriving Repr, DecidableEq

namespace Attributes

/-- The name; empty if there is none. -/
def nameText (a : Attributes) : String := a.name.getD ""

/-- Whether the compiler declared it on its own. -/
def implicit (a : Attributes) : Bool := a.isImplicit.getD false

/-- Whether it is a union. -/
def isUnion (a : Attributes) : Bool := a.tagUsed == some "union"

/-- Whether it is a class, whose members are private at first. -/
def isClass (a : Attributes) : Bool := a.tagUsed == some "class"

/-- Whether it is deleted. -/
def isDeleted (a : Attributes) : Bool := a.explicitlyDeleted.getD false

/-- Whether it is defaulted. -/
def isDefaulted (a : Attributes) : Bool := a.explicitlyDefaulted == some "default"

end Attributes

/-- What a node says. -/
inductive Content where
  | decl (sort : DeclSort) (attributes : Attributes)
  /-- The body of a function. -/
  | compound
  | other (label : String) (place : Option Place)
  deriving Repr, DecidableEq

/-- A node: its identity, what it says, and the nodes inside it. -/
inductive Node where
  | mk (id : Nat) (content : Content) (inner : List Node)

namespace Node

/-- The identity of a node. -/
def id : Node → Nat
  | mk id _ _ => id

/-- What a node says. -/
def content : Node → Content
  | mk _ content _ => content

/-- The nodes inside a node. -/
def inner : Node → List Node
  | mk _ _ inner => inner

end Node

end CppSurface.Dump
