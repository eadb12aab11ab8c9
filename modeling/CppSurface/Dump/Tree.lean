import CppSurface.DeclTree
import CppSurface.Dump
import CppSurface.TypeText

/-!
# From a dump to a declaration tree

Of a dump the declaration tree keeps namespaces, records with their direct members, functions with
their parameters, and aliases.  What the compiler declared on its own is left out.

At namespace scope everything without a rule of its own is dropped; in a record it is kept under
its label, because it rules the record out as a value type.  The access of a member is that of the
last access specifier before it, or the default of its record.

A scope is remembered under its identity as soon as it is added, and a declaration that names its
scope by identity looks it up after it was added itself.  So a recorded scope stands before the
declaration, or is the declaration.
-/

namespace CppSurface.Dump

open CppSurface.Text

/-! ## 1. Constructors that copy or move -/

/-- The words that say nothing about which type is named. -/
def isQualifier (word : List Char) : Bool :=
  word == "const".toList || word == "volatile".toList || word == "struct".toList ||
    word == "class".toList

/-- The last segment of a qualified name. -/
def unqualified (name : List Char) : List Char := (afterLast? [':', ':'] name).getD name

/-- Whether a text names a record, apart from qualifiers and enclosing scopes. -/
def namesRecord (recordName : List Char) (text : List Char) : Bool :=
  match (items text).filter fun word => !isQualifier word with
  | [name] => !recordName.isEmpty && unqualified name == recordName
  | _ => false

/-- **Whether a constructor of a record copies or moves**, by the types of its parameters: it has a
single one, a reference to the record. -/
def special? (recordName : String) (parameterTypes : List String) : Option SpecialMember :=
  match parameterTypes with
  | [parameter] =>
    let text := trim parameter.toList
    match dropEnd? ['&', '&'] text with
    | some base => if namesRecord recordName.toList base then some .move else none
    | none =>
      match dropEnd? ['&'] text with
      | some base => if namesRecord recordName.toList base then some .copy else none
      | none => none
  | _ => none

/-! ## 2. Building the tree -/

/-- A tree under construction, and the scopes in it by identity, the last one first. -/
structure Builder where
  tree : DeclTree
  scopes : List (Nat × Nat)
  deriving Repr, DecidableEq

namespace Builder

/-- Nothing but the root. -/
def start : Builder := ⟨.empty, []⟩

/-- Add a declaration. -/
def push (b : Builder) (parent : Nat) (d : Decl) : Builder :=
  { b with tree := b.tree.push parent d }

/-- The index of the declaration that is added next. -/
def next (b : Builder) : Nat := b.tree.size

/-- Remember a scope. -/
def register (b : Builder) (id index : Nat) : Builder := { b with scopes := (id, index) :: b.scopes }

/-- Record the scope of a declaration, if it names one that is known. -/
def setContext (b : Builder) (index : Nat) (contextId : Option Nat) : Builder :=
  match contextId.bind fun id => b.scopes.lookup id with
  | some scope => { b with tree := b.tree.setContext index scope }
  | none => b

/-- Give a member its access. -/
def setAccess (b : Builder) (index : Nat) (access : Access) : Builder :=
  { b with tree := b.tree.modify index fun d => { d with access := some access } }

end Builder

/-! ## 3. Single declarations -/

/-- A line number in 32 bits. -/
def lineOf (n : Nat) : UInt32 := UInt32.ofNat (n % 4294967296)

/-- Put a declaration where it stands. -/
def locate (canonical : Path → Path) (place : Option Place) (d : Decl) : Decl :=
  match place with
  | some p => { d with file := some (canonical ⟨p.file⟩), line := lineOf p.line }
  | none => d

/-- A declaration of a kind. -/
def declOf (canonical : Path → Path) (kind : Decl.Kind) (a : Attributes) : Decl :=
  locate canonical a.place { kind := kind, name := a.nameText, typeText := a.qualType }

/-- Whether a node is the body of a function. -/
def isBody (n : Node) : Bool :=
  match n.content with
  | .compound => true
  | _ => false

/-- A function, method or constructor. -/
def functionOf (canonical : Path → Path) (kind : Decl.Kind) (a : Attributes) (inner : List Node) :
    Decl :=
  { declOf canonical kind a with
    typeText := a.qualType.map TypeText.returnType
    isDeleted := a.isDeleted
    isDefaulted := a.isDefaulted
    hasBody := inner.any isBody }

/-- The parameters among the nodes inside a function. -/
def parametersOf (canonical : Path → Path) (inner : List Node) : List Decl :=
  inner.filterMap fun n =>
    match n.content with
    | .decl .parameterDecl a => some (declOf canonical .parameter a)
    | _ => none

/-- Add a function with its parameters. -/
def addFunction (canonical : Path → Path) (kind : Decl.Kind) (a : Attributes) (inner : List Node)
    (parent : Nat) (b : Builder) : Builder :=
  (parametersOf canonical inner).foldl (fun b' p => b'.push b.next p)
    (b.push parent (functionOf canonical kind a inner))

/-- Add a constructor, and mark it if it copies or moves. -/
def addConstructor (canonical : Path → Path) (recordName : String) (a : Attributes)
    (inner : List Node) (parent : Nat) (b : Builder) : Builder :=
  let b' := addFunction canonical .constructor a inner parent b
  let types := (parametersOf canonical inner).map fun p => p.typeText.getD ""
  match special? recordName types with
  | some sort =>
    { b' with tree := b'.tree.modify b.next fun d => { d with special := some sort } }
  | none => b'

/-- A declaration without a rule of its own. -/
def otherOf (canonical : Path → Path) (label : String) (place : Option Place) : Decl :=
  locate canonical place { kind := .other label, name := "" }

/-- Whether a label is that of a comment, which says nothing about its record. -/
def isComment (label : String) : Bool := "Comment".toList.isSuffixOf label.toList

/-- The base of a record; it stands where the record stands. -/
def baseOf (owner : Decl) (base : Base) : Decl where
  kind := .baseSpecifier
  name := base.qualType.getD ""
  file := owner.file
  line := owner.line
  typeText := base.qualType
  access := base.access.bind Access.ofSpelling?

/-- The access of members before the first access specifier. -/
def defaultAccess (a : Attributes) : Access := if a.isClass then .isPrivate else .isPublic

/-- The kind of a record. -/
def recordKind (a : Attributes) : Decl.Kind := if a.isClass then .classType else .structType

/-- Add a record, without its members: it becomes a scope, its own scope is recorded, and its bases
follow. -/
def openRecord (canonical : Path → Path) (id : Nat) (a : Attributes) (parent : Nat) (b : Builder) :
    Builder :=
  let index := b.next
  let d := declOf canonical (recordKind a) a
  let b := ((b.push parent d).register id index).setContext index a.contextId
  a.bases.foldl (fun b base => b.push index (baseOf d base)) b

/-- The access after a member of a record: an access specifier that spells one changes it. -/
def accessAfter (access : Access) (n : Node) : Access :=
  match n.content with
  | .decl .accessSpecDecl a => (a.access.bind Access.ofSpelling?).getD access
  | _ => access

/-- How a member of a record is taken over. -/
inductive Treatment where
  /-- It is left out. -/
  | drop
  | accessSpecifier
  | plain (kind : Decl.Kind)
  | functionLike (kind : Decl.Kind)
  | constructor
  | record
  | labelled (label : String)
  deriving Repr, DecidableEq

/-- What becomes of a member of a record. -/
def treatment : Content → Treatment
  | .compound => .drop
  | .other label _ => if isComment label then .drop else .labelled label
  | .decl sort a =>
    match sort with
    | .accessSpecDecl => .accessSpecifier
    | .recordDecl => if a.isUnion then .labelled "union" else if a.implicit then .drop else .record
    | .fieldDecl => if a.implicit then .drop else .plain .field
    | .constructorDecl => if a.implicit then .drop else .constructor
    | .methodDecl => if a.implicit then .drop else .functionLike .method
    | .enumDecl => if a.implicit then .drop else .plain .enumType
    | .typedefDecl => if a.implicit then .drop else .plain .typedefName
    | .typeAliasDecl => if a.implicit then .drop else .plain .typeAlias
    | .functionDecl => if a.implicit then .drop else .functionLike .function
    | .namespaceDecl | .parameterDecl => .drop

/-- The attributes of a node; those of a node without any are empty. -/
def attributesOf : Content → Attributes
  | .decl _ a => a
  | .compound => {}
  | .other _ place => { place := place }

/-! ## 4. Records -/

mutual

/-- **Add the members of a record**, with the access in force. -/
def addMembers (canonical : Path → Path) (owner : Nat) (recordName : String) :
    (access : Access) → List Node → Builder → Builder
  | _, [], b => b
  | access, n :: rest, b =>
    addMembers canonical owner recordName (accessAfter access n) rest
      (addMember canonical owner recordName access n b)

/-- Add one member of a record. -/
def addMember (canonical : Path → Path) (owner : Nat) (recordName : String) (access : Access) :
    Node → Builder → Builder
  | .mk id content inner, b =>
    let a := attributesOf content
    match treatment content with
    | .drop => b
    | .accessSpecifier => b.push owner (declOf canonical .accessSpecifier a)
    | .plain kind => (b.push owner (declOf canonical kind a)).setAccess b.next access
    | .functionLike kind => (addFunction canonical kind a inner owner b).setAccess b.next access
    | .constructor => (addConstructor canonical recordName a inner owner b).setAccess b.next access
    | .labelled label => (b.push owner (otherOf canonical label a.place)).setAccess b.next access
    | .record =>
      (addMembers canonical b.next a.nameText (defaultAccess a) inner
        (openRecord canonical id a owner b)).setAccess b.next access

end

/-! ## 5. Namespace scope -/

mutual

/-- Add the declarations of a namespace, or of the whole unit. -/
def addScoped (canonical : Path → Path) (parent : Nat) : List Node → Builder → Builder
  | [], b => b
  | n :: rest, b => addScoped canonical parent rest (addScopedOne canonical parent n b)

/-- Add one declaration at namespace scope. -/
def addScopedOne (canonical : Path → Path) (parent : Nat) : Node → Builder → Builder
  | .mk id content inner, b =>
    match content with
    | .decl .namespaceDecl a =>
      addScoped canonical b.next inner
        ((b.push parent (declOf canonical .namespaceScope a)).register id b.next)
    | .decl .recordDecl a =>
      if a.implicit || a.isUnion then b
      else
        addMembers canonical b.next a.nameText (defaultAccess a) inner
          (openRecord canonical id a parent b)
    | .decl .functionDecl a =>
      if a.implicit then b
      else (addFunction canonical .function a inner parent b).setContext b.next a.contextId
    | .decl .typedefDecl a =>
      if a.implicit then b else b.push parent (declOf canonical .typedefName a)
    | .decl .typeAliasDecl a =>
      if a.implicit then b else b.push parent (declOf canonical .typeAlias a)
    | .decl .enumDecl a =>
      if a.implicit then b else b.push parent (declOf canonical .enumType a)
    | .decl .constructorDecl a =>
      if a.implicit then b else addFunction canonical .constructor a inner parent b
    | .decl .methodDecl a =>
      if a.implicit then b else addFunction canonical .method a inner parent b
    | _ => b

end

/-- **The declaration tree of a dump.** -/
def toTree (canonical : Path → Path) (root : Node) : DeclTree :=
  (addScoped canonical 0 root.inner .start).tree

end CppSurface.Dump
