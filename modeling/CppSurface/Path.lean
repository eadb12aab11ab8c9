import CppSurface.Text.Trim

/-!
# Paths

A path is kept as it was written.  Two paths are the *same* when their components agree: repeated
slashes, inner `.` components and a trailing slash do not matter, a leading `.` of a relative path
does, and `..` is never folded.  Every look-up by path in this library is up to `Path.same`, while
the text that is shown is the one first stored.
-/

namespace CppSurface

open CppSurface.Text

/-- A path as it was written. -/
structure Path where
  text : String
  deriving Repr, DecidableEq, Inhabited

namespace Path

/-! ## 1. Components -/

/-- One step of a path. -/
inductive Component where
  | root
  /-- A leading `.` of a relative path. -/
  | here
  | up
  | name (text : List Char)
  deriving Repr, DecidableEq

/-- The segments of a path's text between its slashes. -/
def segments (p : Path) : List (List Char) := splitAt '/' p.text.toList

/-- The component that a segment names, if it names one. -/
def component? (segment : List Char) : Option Component :=
  if segment = [] ∨ segment = ['.'] then none
  else if segment = ['.', '.'] then some .up
  else some (.name segment)

/-- The components that a list of segments spells. -/
def componentsOfSegments : List (List Char) → List Component
  | [] => []
  | [[]] => []
  | [] :: rest => .root :: rest.filterMap component?
  | ['.'] :: rest => .here :: rest.filterMap component?
  | rest => rest.filterMap component?

/-- **The components of a path.** -/
def components (p : Path) : List Component := componentsOfSegments p.segments

/-- Whether two paths have the same components. -/
def same (p q : Path) : Bool := p.components == q.components

theorem same_iff {p q : Path} : p.same q = true ↔ p.components = q.components := by
  simp [same]

@[simp] theorem same_self (p : Path) : p.same p = true := same_iff.2 rfl

theorem same_symm {p q : Path} (h : p.same q = true) : q.same p = true :=
  same_iff.2 (same_iff.1 h).symm

theorem same_trans {p q r : Path} (h : p.same q = true) (k : q.same r = true) :
    p.same r = true :=
  same_iff.2 ((same_iff.1 h).trans (same_iff.1 k))

/-- Whether two optional paths are both absent, or both present and the same. -/
def same? : Option Path → Option Path → Bool
  | none, none => true
  | some p, some q => p.same q
  | _, _ => false

/-- Whether the path starts at the root. -/
def isAbsolute (p : Path) : Bool := p.text.toList.head? == some '/'

/-! ## 2. Going up and down -/

/-- Segments without those at the end that name no component. -/
def dropIdle (segments : List (List Char)) : List (List Char) :=
  (segments.reverse.dropWhile fun s => (component? s).isNone).reverse

/-- A path's text from its segments. -/
def ofSegments (segments : List (List Char)) : Path := ⟨String.ofList (joinWith ['/'] segments)⟩

/-- **The path without its last component**, as far as its text goes; the root and the empty path
have none.  This is an operation on the spelling: `a/..` lies in `a`. -/
def parent? (p : Path) : Option Path :=
  match p.segments with
  | [] => none
  | [[]] => none
  | [] :: body =>
    match dropIdle body with
    | [] => none
    | steps =>
      match dropIdle steps.dropLast with
      | [] => some ⟨"/"⟩
      | kept => some (ofSegments ([] :: kept))
  | ['.'] :: body =>
    match dropIdle body with
    | [] => some ⟨""⟩
    | steps => some (ofSegments (['.'] :: dropIdle steps.dropLast))
  | body => some (ofSegments (dropIdle (dropIdle body).dropLast))

/-- The last component, if it is a name. -/
def fileName? (p : Path) : Option String :=
  match p.components.getLast? with
  | some (.name n) => some (String.ofList n)
  | _ => none

/-- A path inside a directory. -/
def join (dir : Path) (inner : String) : Path :=
  if inner.toList.head? = some '/' ∨ dir.text = "" then ⟨inner⟩
  else if dir.text.toList.getLast? = some '/' then ⟨dir.text ++ inner⟩
  else ⟨dir.text ++ "/" ++ inner⟩

example : (Path.mk "/a//b/").same ⟨"/a/./b"⟩ = true := by decide
example : (Path.mk "./a").same ⟨"a"⟩ = false := by decide
example : (Path.mk "a/b").parent? = some ⟨"a"⟩ ∧ (Path.mk "a").parent? = some ⟨""⟩ := by decide
example : (Path.mk "/").parent? = none ∧ (Path.mk "").parent? = none := by decide

end Path

end CppSurface
