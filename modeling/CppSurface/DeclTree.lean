import CppSurface.Decl

/-!
# Declaration trees

The declarations of one translation unit stand in the order in which they were met, each known by
its index; the root has index `0`.  A declaration names the one that encloses it, and the children
of a declaration are, in order, the later ones that name it.  So adding a declaration appends one
index to the children of its parent and changes nothing else.

Next to the enclosing declaration there is the *semantic parent*: the scope that a declaration
belongs to.  The qualified name follows semantic parents up to the translation unit.
-/

namespace CppSurface

/-- The declarations of a translation unit. -/
structure DeclTree where
  decls : Array Decl
  deriving Repr, DecidableEq

namespace DeclTree

/-! ## 1. Building -/

/-- The tree that holds only the root. -/
def empty : DeclTree := ⟨#[Decl.root]⟩

/-- The number of declarations, the root included. -/
def size (t : DeclTree) : Nat := t.decls.size

/-- Whether nothing is declared. -/
def isEmpty (t : DeclTree) : Bool := t.size ≤ 1

/-- The declaration with an index. -/
def get (t : DeclTree) (id : Nat) : Decl := t.decls[id]?.getD Decl.root

/-- Add a declaration as the last child of `parent`.  Its index is the size of `t`. -/
def push (t : DeclTree) (parent : Nat) (d : Decl) : DeclTree :=
  ⟨t.decls.push { d with parent := some parent }⟩

/-- Change one declaration. -/
def modify (t : DeclTree) (id : Nat) (f : Decl → Decl) : DeclTree := ⟨t.decls.modify id f⟩

/-- Record the scope that a declaration belongs to. -/
def setContext (t : DeclTree) (id scope : Nat) : DeclTree :=
  t.modify id fun d => { d with context := some scope }

/-! ## 2. Reading -/

/-- The children of a declaration, in the order of their declaration. -/
def children (t : DeclTree) (id : Nat) : List Nat :=
  (List.range t.size).filter fun i => decide (id < i) && (t.get i).parent == some id

/-- The parameters among the children of a declaration. -/
def parameters (t : DeclTree) (id : Nat) : List Decl :=
  ((t.children id).map t.get).filter fun d => d.kind == .parameter

/-- The scope that a declaration belongs to: the recorded one, or else the enclosing one. -/
def semanticParent? (t : DeclTree) (id : Nat) : Option Nat :=
  (t.get id).context.or (t.get id).parent

theorem mem_children {t : DeclTree} {id i : Nat} :
    i ∈ t.children id ↔ i < t.size ∧ id < i ∧ (t.get i).parent = some id := by
  simp [children]

@[simp] theorem size_push (t : DeclTree) (parent : Nat) (d : Decl) :
    (t.push parent d).size = t.size + 1 := by
  simp [size, push]

theorem get_push_of_lt {t : DeclTree} {parent i : Nat} {d : Decl} (h : i < t.size) :
    (t.push parent d).get i = t.get i := by
  have h' : i < t.decls.size := h
  simp [get, push, Array.getElem?_push, Nat.ne_of_lt h']

@[simp] theorem get_push_size (t : DeclTree) (parent : Nat) (d : Decl) :
    (t.push parent d).get t.size = { d with parent := some parent } := by
  simp [get, push, size]

/-! ## 3. Namespace scope -/

/-- **The declarations at namespace scope** below one declaration, in the order of the text: every
child that is no namespace, and in place of a namespace what stands at namespace scope in it. -/
def scopeMembers (t : DeclTree) (id : Nat) : List Nat :=
  (t.children id).attach.flatMap fun ⟨child, _⟩ =>
    if (t.get child).kind == .namespaceScope then t.scopeMembers child else [child]
termination_by t.size - id
decreasing_by
  have := mem_children.1 ‹child ∈ t.children id›
  omega

/-- The recursion of `scopeMembers`, without the bookkeeping that shows it ends. -/
theorem scopeMembers_eq (t : DeclTree) (id : Nat) :
    t.scopeMembers id = (t.children id).flatMap fun child =>
      if (t.get child).kind == .namespaceScope then t.scopeMembers child else [child] := by
  rw [scopeMembers]
  conv => rhs; rw [← List.attach_map_subtype_val (t.children id)]
  rw [List.flatMap_map]

/-- The declarations at namespace scope of the whole unit. -/
def members (t : DeclTree) : List Nat := t.scopeMembers 0

/-! ## 4. Qualified names -/

/-- The names of the scopes around a declaration, innermost first, up to the translation unit.  At
most `steps` of them are listed; a chain of scopes without repetition is shorter than the tree. -/
def scopeNames (t : DeclTree) : (steps : Nat) → (id : Nat) → List String
  | 0, _ => []
  | steps + 1, id =>
    match t.semanticParent? id with
    | none => []
    | some scope =>
      if (t.get scope).kind == .translationUnit then []
      else (t.get scope).name :: t.scopeNames steps scope

/-- Put the names of enclosing scopes in front of a name. -/
def qualify (name : String) (scopes : List String) : String :=
  scopes.foldl (fun inner scope => scope ++ "::" ++ inner) name

/-- **The qualified name of a declaration**, as in `A::B::name`.  An anonymous scope adds an empty
segment. -/
def qualifiedName (t : DeclTree) (id : Nat) : String :=
  qualify (t.get id).name (t.scopeNames t.size id)

/-- The scope of a declaration, unless it is the translation unit, which has no name. -/
def namedScope? (t : DeclTree) (id : Nat) : Option Nat :=
  (t.semanticParent? id).filter fun scope => (t.get scope).kind != .translationUnit

/-- Follow the scopes from a declaration outwards, and put their names in front of a name.  Nothing
comes out of it if there are more of them than `steps`. -/
def nameFrom (t : DeclTree) : (steps : Nat) → (name : String) → (id : Nat) → Option String
  | 0, name, id => if (t.namedScope? id).isSome then none else some name
  | steps + 1, name, id =>
    match t.namedScope? id with
    | none => some name
    | some scope => t.nameFrom steps ((t.get scope).name ++ "::" ++ name) scope

/-- **The full name of a declaration.**  There is none where the scopes go round in a circle and
following them does not end: a chain of scopes that ends is shorter than the tree. -/
def fullName? (t : DeclTree) (id : Nat) : Option String := t.nameFrom t.size (t.get id).name id

end DeclTree

end CppSurface
