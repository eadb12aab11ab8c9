import CppSurface.Proofs.Dump.Building
import Mathlib.Data.List.Induction

/-!
# The children of a record

Every record of a dump that is taken over, however deep it stands in namespaces and other records,
has its bases and then its members for children, in their order, each with its own access
(`record_children`).

Where a record stands in the tree is said by its place in the dump and not by its name or identity,
which two records may share: it is the child of its scope whose turn it is, counted over the nodes
before it that are taken over (`ScopeAt`, `RecordAt`).

The tree goes on growing after a record is complete.  What carries the proof down from the unit to
the members of the innermost record is the state of the walk when it enters a scope, together with
the fact that after it has left the scope nothing goes below it any more (`ScopeBuilt`,
`RecordBuilt`).  The access in force is no part of this state that a nested record could disturb: it
is read off the access specifiers before a member (`foldl_accessAfter`).
-/

namespace CppSurface

open DeclTree

namespace Dump

variable {canonical : Path → Path} {root m : Node} {t : DeclTree} {nodes before after : List Node}
  {members inner : List Node} {a outer : Attributes} {nodeId p i : Nat}

/-! ## 1. Where scopes and records stand -/

/-- **A scope of the dump stands at an index**: the unit at the root, and a namespace where its turn
among the nodes around it puts it. -/
inductive ScopeAt (root : Node) (t : DeclTree) : List Node → Nat → Prop
  | unit : ScopeAt root t root.inner 0
  | inside {before after inner : List Node} {id p i : Nat} {a : Attributes} :
      ScopeAt root t (before ++ .mk id (.decl .namespaceDecl a) inner :: after) p →
      (t.children p)[(before.filter isScoped).length]? = some i → ScopeAt root t inner i

/-- **A record that is taken over stands at an index**, at namespace scope or in another record. -/
inductive RecordAt (root : Node) (t : DeclTree) : Attributes → List Node → Nat → Prop
  | inScope {before after inner : List Node} {id p i : Nat} {a : Attributes} :
      ScopeAt root t (before ++ .mk id (.decl .recordDecl a) inner :: after) p →
      a.implicit = false → a.isUnion = false →
      (t.children p)[(before.filter isScoped).length]? = some i → RecordAt root t a inner i
  | inRecord {before after inner : List Node} {id p i : Nat} {outer a : Attributes} :
      RecordAt root t outer (before ++ .mk id (.decl .recordDecl a) inner :: after) p →
      a.implicit = false → a.isUnion = false →
      (t.children p)[outer.bases.length + (kept before).length]? = some i →
      RecordAt root t a inner i

/-! ## 2. What the children are to be -/

/-- The access that a spelling stands for, if it is one of the three keywords. -/
def namedAccess? : Option String → Option Access
  | some "public" => some .isPublic
  | some "protected" => some .isProtected
  | some "private" => some .isPrivate
  | _ => none

/-- The access that an access specifier spells; nothing else spells one. -/
def spelledAccess? (n : Node) : Option Access :=
  match n.content with
  | .decl .accessSpecDecl a => namedAccess? a.access
  | _ => none

/-- **The access after some members of a record**: that of the last access specifier among them that
spells one.  Before the first one it is private in a class, and public in any other record. -/
def accessBefore (a : Attributes) (before : List Node) : Access :=
  (before.reverse.findSome? spelledAccess?).getD
    (if a.tagUsed = some "class" then .isPrivate else .isPublic)

/-- **The children of a record**: its bases, then its members that are taken over, each in order.  A
base stands where its record stands, and has the access that is spelled with it. -/
structure RecordChildren (canonical : Path → Path) (t : DeclTree) (a : Attributes)
    (inner : List Node) (i : Nat) : Prop where
  /-- The declaration at the index is the record. -/
  record : { (t.get i).unplaced with access := none } =
    declOf canonical (if a.tagUsed = some "class" then .classType else .structType) a
  length : (t.children i).length = a.bases.length + (kept inner).length
  base : ∀ (k : Nat) (base : Base), a.bases[k]? = some base → ∃ j, (t.children i)[k]? = some j ∧
    (t.get j).unplaced =
      { kind := .baseSpecifier, name := base.qualType.getD "", file := (t.get i).file
        line := (t.get i).line, typeText := base.qualType, access := namedAccess? base.access }
  member : ∀ before m after, inner = before ++ m :: after → isDropped m.content = false →
    ∃ j, (t.children i)[a.bases.length + (kept before).length]? = some j ∧
      (t.get j).unplaced = { memberDecl canonical a.nameText m with
        access := if isAccessSpecifier m then none else some (accessBefore a before) }

/-! ## 3. The access in force -/

theorem bind_ofSpelling? (spelling : Option String) :
    spelling.bind Access.ofSpelling? = namedAccess? spelling := by
  cases spelling with
  | none => rfl
  | some s =>
    rw [Option.bind_some, Access.ofSpelling?]
    split
    · subst s
      rfl
    · split
      · subst s
        rfl
      · split
        · subst s
          rfl
        · unfold namedAccess?
          split <;> simp_all

theorem defaultAccess_eq (a : Attributes) :
    defaultAccess a = if a.tagUsed = some "class" then .isPrivate else .isPublic := by
  simp only [defaultAccess, Attributes.isClass, beq_iff_eq]

theorem recordKind_eq (a : Attributes) :
    recordKind a = if a.tagUsed = some "class" then .classType else .structType := by
  simp only [recordKind, Attributes.isClass, beq_iff_eq]

theorem accessAfter_eq (access : Access) (n : Node) :
    accessAfter access n = (spelledAccess? n).getD access := by
  obtain ⟨id, content, inner⟩ := n
  cases content with
  | compound | other => rfl
  | decl sort a =>
    cases sort with
    | accessSpecDecl => exact congrArg (Option.getD · access) (bind_ofSpelling? a.access)
    | _ => rfl

/-- The access that the walk carries along is the last one that was spelled. -/
theorem foldl_accessAfter (before : List Node) (access : Access) :
    before.foldl accessAfter access = (before.reverse.findSome? spelledAccess?).getD access := by
  induction before using List.reverseRecOn with
  | nil => rfl
  | append_singleton before n ih =>
    rw [List.foldl_append, List.foldl_cons, List.foldl_nil, ih, accessAfter_eq,
      List.reverse_append, List.reverse_singleton, List.singleton_append, List.findSome?_cons]
    cases spelledAccess? n <;> rfl

theorem foldl_accessAfter_default (before : List Node) (a : Attributes) :
    before.foldl accessAfter (defaultAccess a) = accessBefore a before := by
  rw [foldl_accessAfter, defaultAccess_eq, accessBefore]

/-! ## 4. Entering a scope -/

/-- The walk has been through the nodes of a scope, which had no children before, and nothing has
been added to it since. -/
def ScopeBuilt (canonical : Path → Path) (t : DeclTree) (nodes : List Node) (p : Nat) : Prop :=
  ∃ b : Builder, p < b.next ∧ b.tree.children p = [] ∧
    Completed p (addScoped canonical p nodes b).tree t

/-- The walk has been through a record, and nothing has been added to it since.  The record itself
may have got an access. -/
def RecordBuilt (canonical : Path → Path) (t : DeclTree) (a : Attributes) (inner : List Node)
    (i : Nat) : Prop :=
  (∃ access, (t.get i).unplaced = { declOf canonical (recordKind a) a with access := access }) ∧
    ∃ (id parent : Nat) (b : Builder), b.next = i ∧
      Completed i (addMembers canonical i a.nameText (defaultAccess a) inner
        (openRecord canonical id a parent b)).tree t

theorem ScopeBuilt.length_children (h : ScopeBuilt canonical t nodes p) :
    (t.children p).length = (nodes.filter isScoped).length := by
  obtain ⟨b, hp, hnil, hcompleted⟩ := h
  obtain ⟨ids, hids, hlength⟩ := addScoped_addsChildren canonical p nodes b
  have hp' : p < (addScoped canonical p nodes b).tree.size :=
    Nat.lt_of_lt_of_le hp hids.growsBelow.size_le
  rw [hcompleted.children_eq (Nat.le_refl p) hp', hids.children_eq hp, hnil, List.nil_append,
    hlength]

/-- **A node of a scope is the child whose turn it is.** -/
theorem ScopeBuilt.child (h : ScopeBuilt canonical t (before ++ m :: after) p)
    (hm : isScoped m = true) :
    ∃ b : Builder, (t.children p)[(before.filter isScoped).length]? = some b.next ∧
      t.get b.next = (addScopedOne canonical p m b).tree.get b.next ∧
      Completed b.next (addScopedOne canonical p m b).tree t := by
  obtain ⟨b, hp, hnil, hcompleted⟩ := h
  obtain ⟨ids, hids, hlength⟩ := addScoped_addsChildren canonical p before b
  obtain ⟨ids', hids', -⟩ := addScoped_addsChildren canonical p after
    (addScopedOne canonical p m (addScoped canonical p before b))
  rw [addScoped_append, addScoped] at hcompleted
  have hchild := hcompleted.child hids (addScopedOne_addsChild hm) hids' hp
  rw [hnil, hlength, List.length_nil, Nat.zero_add] at hchild
  exact ⟨_, hchild⟩

theorem scopeBuilt_unit (canonical : Path → Path) (root : Node) :
    ScopeBuilt canonical (toTree canonical root) root.inner 0 :=
  ⟨.start, Nat.one_pos, rfl, .refl 0 _⟩

theorem ScopeBuilt.inside
    (h : ScopeBuilt canonical t (before ++ .mk nodeId (.decl .namespaceDecl a) inner :: after) p)
    (hi : (t.children p)[(before.filter isScoped).length]? = some i) :
    ScopeBuilt canonical t inner i := by
  obtain ⟨b, hnext, -, hcompleted⟩ := h.child rfl
  obtain rfl : b.next = i := Option.some.inj (hnext.symm.trans hi)
  have hsize : ((b.push p (declOf canonical .namespaceScope a)).register nodeId b.next).next =
      b.next + 1 := size_push _ _ _
  rw [addScopedOne] at hcompleted
  exact ⟨_, by omega, children_eq_nil (Nat.le_of_eq hsize), hcompleted⟩

/-- **A scope of the dump has been gone through.** -/
theorem ScopeAt.built (h : ScopeAt root (toTree canonical root) nodes p) :
    ScopeBuilt canonical (toTree canonical root) nodes p := by
  induction h with
  | unit => exact scopeBuilt_unit canonical root
  | inside _ hi ih => exact ih.inside hi

/-! ## 5. Entering a record -/

/-- **A member of a record is the child whose turn it is**, after the bases. -/
theorem RecordBuilt.child (h : RecordBuilt canonical t a (before ++ m :: after) i)
    (hm : isDropped m.content = false) :
    ∃ b : Builder, (t.children i)[a.bases.length + (kept before).length]? = some b.next ∧
      t.get b.next =
        (addMember canonical i a.nameText (accessBefore a before) m b).tree.get b.next ∧
      Completed b.next (addMember canonical i a.nameText (accessBefore a before) m b).tree t := by
  obtain ⟨-, id, parent, b, rfl, hcompleted⟩ := h
  have hopen : b.next < (openRecord canonical id a parent b).next :=
    (openRecord_addsChild id).size_lt
  obtain ⟨ids, hids, hlength⟩ := addMembers_addsChildren canonical b.next a.nameText
    (defaultAccess a) before (openRecord canonical id a parent b)
  obtain ⟨ids', hids', -⟩ := addMembers_addsChildren canonical b.next a.nameText
    (accessAfter (accessBefore a before) m) after
    (addMember canonical b.next a.nameText (accessBefore a before) m
      (addMembers canonical b.next a.nameText (defaultAccess a) before
        (openRecord canonical id a parent b)))
  rw [addMembers_append, addMembers, foldl_accessAfter_default] at hcompleted
  have hchild := hcompleted.child hids (addMember_addsChild hm) hids' hopen
  rw [children_openRecord, List.length_range', hlength] at hchild
  exact ⟨_, hchild⟩

theorem RecordBuilt.of_scopeBuilt
    (h : ScopeBuilt canonical t (before ++ .mk nodeId (.decl .recordDecl a) inner :: after) p)
    (himplicit : a.implicit = false) (hunion : a.isUnion = false)
    (hi : (t.children p)[(before.filter isScoped).length]? = some i) :
    RecordBuilt canonical t a inner i := by
  have hscoped : isScoped (.mk nodeId (.decl .recordDecl a) inner) = true := by
    simp [isScoped, Node.content, himplicit, hunion]
  obtain ⟨b, hnext, hget, hcompleted⟩ := h.child hscoped
  obtain rfl : b.next = i := Option.some.inj (hnext.symm.trans hi)
  have hopen : b.next < (openRecord canonical nodeId a p b).tree.size :=
    (openRecord_addsChild nodeId).size_lt
  simp only [addScopedOne, himplicit, hunion, Bool.or_self, Bool.false_eq_true, if_false]
    at hget hcompleted
  rw [addMembers_growsBelow.get_eq _ hopen] at hget
  refine ⟨⟨(declOf canonical (recordKind a) a).access, ?_⟩, nodeId, p, b, rfl, hcompleted⟩
  rw [hget, unplaced_openRecord]

/-- What is done to the record after its members is to give it its access. -/
theorem RecordBuilt.nested
    (h : RecordBuilt canonical t outer
      (before ++ .mk nodeId (.decl .recordDecl a) inner :: after) p)
    (himplicit : a.implicit = false) (hunion : a.isUnion = false)
    (hi : (t.children p)[outer.bases.length + (kept before).length]? = some i) :
    RecordBuilt canonical t a inner i := by
  have hkept : isDropped (Node.mk nodeId (.decl .recordDecl a) inner).content = false := by
    simp [isDropped, Node.content, himplicit]
  obtain ⟨b, hnext, hget, hcompleted⟩ := h.child hkept
  obtain rfl : b.next = i := Option.some.inj (hnext.symm.trans hi)
  refine ⟨⟨some (accessBefore outer before), ?_⟩, nodeId, p, b, rfl, ?_⟩
  · rw [hget, unplaced_addMember hkept]
    simp [memberDecl, Node.content, hunion, memberAccess, isAccessSpecifier]
  · simp only [addMember, treatment, attributesOf, himplicit, hunion, Bool.false_eq_true, if_false]
      at hcompleted
    exact hcompleted.of_modify

/-- **A record of the dump has been gone through.**  The induction is over where it stands. -/
theorem RecordAt.built (h : RecordAt root (toTree canonical root) a inner i) :
    RecordBuilt canonical (toTree canonical root) a inner i := by
  induction h with
  | inScope hscope himplicit hunion hi =>
    exact .of_scopeBuilt hscope.built himplicit hunion hi
  | inRecord _ himplicit hunion hi ih => exact ih.nested himplicit hunion hi

/-! ## 6. The children of a record -/

theorem RecordBuilt.children_eq (h : RecordBuilt canonical t a inner i) :
    ∃ ids, t.children i = List.range' (i + 1) a.bases.length ++ ids ∧
      ids.length = (kept inner).length := by
  obtain ⟨-, id, parent, b, rfl, hcompleted⟩ := h
  have hopen : b.next < (openRecord canonical id a parent b).next :=
    (openRecord_addsChild id).size_lt
  obtain ⟨ids, hids, hlength⟩ := addMembers_addsChildren canonical b.next a.nameText
    (defaultAccess a) inner (openRecord canonical id a parent b)
  refine ⟨ids, ?_, hlength⟩
  rw [hcompleted.children_eq (Nat.le_refl _) (Nat.lt_of_lt_of_le hopen hids.growsBelow.size_le),
    hids.children_eq hopen, children_openRecord]

theorem RecordBuilt.base (h : RecordBuilt canonical t a inner i) {k : Nat} {base : Base}
    (hbase : a.bases[k]? = some base) :
    (t.get (i + 1 + k)).unplaced = baseOf (declOf canonical (recordKind a) a) base := by
  obtain ⟨-, id, parent, b, rfl, hcompleted⟩ := h
  have hlt : k < a.bases.length := (List.getElem?_eq_some_iff.mp hbase).1
  have hmem : b.next + 1 + k ∈ (openRecord canonical id a parent b).tree.children b.next := by
    rw [children_openRecord]
    exact List.mem_range'_1.mpr ⟨by omega, by omega⟩
  obtain ⟨hsize, hgt, -⟩ := mem_children.mp hmem
  have hgrow : GrowsBelow b.next (openRecord canonical id a parent b).tree
      (addMembers canonical b.next a.nameText (defaultAccess a) inner
        (openRecord canonical id a parent b)).tree := addMembers_growsBelow
  rw [hcompleted.get_eq _ hgt (Nat.lt_of_lt_of_le hsize hgrow.size_le), hgrow.get_eq _ hsize,
    unplaced_base hbase]

theorem RecordBuilt.record (h : RecordBuilt canonical t a inner i) :
    { (t.get i).unplaced with access := none } = declOf canonical (recordKind a) a := by
  obtain ⟨⟨access, hrecord⟩, -⟩ := h
  rw [hrecord]
  unfold declOf locate
  split <;> rfl

theorem RecordBuilt.recordChildren (h : RecordBuilt canonical t a inner i) :
    RecordChildren canonical t a inner i := by
  obtain ⟨ids, hchildren, hlength⟩ := h.children_eq
  constructor
  case record => rw [h.record, recordKind_eq]
  case length => rw [hchildren, List.length_append, List.length_range', hlength]
  case base =>
    intro k base hbase
    have hlt : k < a.bases.length := (List.getElem?_eq_some_iff.mp hbase).1
    refine ⟨i + 1 + k, ?_, ?_⟩
    · rw [hchildren, List.getElem?_append_left (by rwa [List.length_range']),
        List.getElem?_range' hlt]
      simp
    · have hfile := congrArg Decl.file h.record
      have hline := congrArg Decl.line h.record
      rw [h.base hbase, baseOf, bind_ofSpelling?, ← hfile, ← hline]
      rfl
  case member =>
    rintro before m after rfl hm
    obtain ⟨b, hnext, hget, -⟩ := h.child hm
    refine ⟨b.next, hnext, ?_⟩
    rw [hget, unplaced_addMember hm]
    rfl

/-- The members that are taken over can be counted off. -/
theorem exists_kept_split {q : Nat} (h : q < (kept inner).length) :
    ∃ before m after, inner = before ++ m :: after ∧ isDropped m.content = false ∧
      (kept before).length = q := by
  have hsplit : kept inner =
      (kept inner).take q ++ (kept inner)[q] :: (kept inner).drop (q + 1) := by
    rw [← List.drop_eq_getElem_cons h, List.take_append_drop]
  obtain ⟨first, rest, hinner, hfirst, hrest⟩ := List.filter_eq_append_iff.mp hsplit
  obtain ⟨skipped, after, rfl, hskipped, hm, -⟩ := List.filter_eq_cons_iff.mp hrest
  refine ⟨first ++ skipped, _, after, by rw [hinner, List.append_assoc], by simpa using hm, ?_⟩
  have hnone : kept skipped = [] := List.filter_eq_nil_iff.mpr hskipped
  unfold kept at hnone hfirst ⊢
  rw [List.filter_append, hnone, hfirst, List.append_nil, List.length_take]
  exact Nat.min_eq_left (Nat.le_of_lt h)

/-- **Every child of a record is a base or a member.** -/
theorem RecordChildren.cases {q j : Nat} (h : RecordChildren canonical t a inner i)
    (hj : (t.children i)[q]? = some j) :
    (∃ base, a.bases[q]? = some base ∧ (t.get j).kind = .baseSpecifier) ∨
    ∃ before m after, inner = before ++ m :: after ∧ isDropped m.content = false ∧
      q = a.bases.length + (kept before).length := by
  have hq : q < (t.children i).length := (List.getElem?_eq_some_iff.mp hj).1
  rw [h.length] at hq
  rcases Nat.lt_or_ge q a.bases.length with hlt | hge
  · obtain ⟨j', hj', hbase⟩ := h.base q _ (List.getElem?_eq_getElem hlt)
    obtain rfl : j' = j := Option.some.inj (hj'.symm.trans hj)
    have hkind : (t.get j').kind = .baseSpecifier := congrArg Decl.kind hbase
    exact Or.inl ⟨_, List.getElem?_eq_getElem hlt, hkind⟩
  · obtain ⟨before, m, after, hinner, hm, hlength⟩ :=
      exists_kept_split (Nat.sub_lt_left_of_lt_add hge hq)
    exact Or.inr ⟨before, m, after, hinner, hm, by omega⟩

/-- **Records keep their members, in order, with their access.**  Each scope of the dump has a child
for every node in it that is taken over, so that a record can be found by its place; and each record
that is taken over, at namespace scope or nested in records to any depth, has its bases and then its
members for children. -/
theorem record_children (canonical : Path → Path) (root : Node) :
    (∀ nodes p, ScopeAt root (toTree canonical root) nodes p →
      ((toTree canonical root).children p).length = (nodes.filter isScoped).length) ∧
    ∀ a inner i, RecordAt root (toTree canonical root) a inner i →
      RecordChildren canonical (toTree canonical root) a inner i := by
  constructor
  · intro nodes p h
    exact h.built.length_children
  · intro a inner i h
    exact h.built.recordChildren

/-! ## 7. Non-vacuity -/

/-- The nested structure of `shapeUnit`. -/
def pointAttributes : Attributes := { name := some "Point", tagUsed := some "struct" }

/-- Its one field. -/
def pointMembers : List Node :=
  [.mk 5 (.decl .fieldDecl { name := some "x", qualType := some "int" }) []]

/-- A class with a base. -/
def shapeAttributes : Attributes :=
  { name := some "Shape", tagUsed := some "class", bases := [⟨some "public", some "Base"⟩] }

/-- Of what stands before the nested structure, the name that the compiler injects is left out. -/
def shapePrelude : List Node :=
  [.mk 2 (.decl .recordDecl { name := some "Shape", isImplicit := some true }) [],
    .mk 3 (.decl .accessSpecDecl { access := some "public" }) []]

/-- What stands after the nested structure. -/
def shapeRest : List Node :=
  [.mk 6 (.decl .fieldDecl { name := some "origin", qualType := some "Point" }) []]

/-- A unit with one class, which holds a structure. -/
def shapeUnit : Node :=
  .mk 0 (.other "TranslationUnitDecl" none)
    [.mk 1 (.decl .recordDecl shapeAttributes)
      (shapePrelude ++ .mk 4 (.decl .recordDecl pointAttributes) pointMembers :: shapeRest)]

/-- A record inside another one is found, and it is the third child: the base and the access
specifier come before it. -/
theorem shapeUnit_children :
    RecordAt shapeUnit (toTree id shapeUnit) pointAttributes pointMembers 4 ∧
      RecordChildren id (toTree id shapeUnit) pointAttributes pointMembers 4 := by
  have hunit : ScopeAt shapeUnit (toTree id shapeUnit) ([] ++ .mk 1 (.decl .recordDecl
      shapeAttributes) (shapePrelude ++ .mk 4 (.decl .recordDecl pointAttributes) pointMembers ::
        shapeRest) :: []) 0 := .unit
  have hshape : RecordAt shapeUnit (toTree id shapeUnit) shapeAttributes (shapePrelude ++
      .mk 4 (.decl .recordDecl pointAttributes) pointMembers :: shapeRest) 1 :=
    .inScope hunit rfl rfl (by decide)
  have hpoint : RecordAt shapeUnit (toTree id shapeUnit) pointAttributes pointMembers 4 :=
    .inRecord hshape rfl rfl (by decide)
  exact ⟨hpoint, (record_children id shapeUnit).2 _ _ _ hpoint⟩

end Dump

end CppSurface
