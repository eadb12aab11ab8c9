import CppSurface.Dump.Tree
import CppSurface.Proofs.DeclTree.Growth
import CppSurface.Proofs.DeclTree.ValueTypes

/-!
# What the nodes of a dump add to the tree

The tree of a dump is built in one walk, which enters a namespace or a record in the middle of its
siblings.  Here it is said once what a single node does.  Either it is left out and changes nothing
(`addMember_of_isDropped`, `addScopedOne_of_not_isScoped`), or it adds one child, with what stands
below it (`addMember_addsChild`, `addScopedOne_addsChild`).  For a member of a record it is also
said which declaration the child is (`unplaced_addMember`).

Which nodes are left out is said by `isDropped` and `isScoped`, each in its own words.  The
induction is over the dump: that a record adds one child rests on what its members do, which go
below the record itself.
-/

namespace CppSurface

open DeclTree

namespace Dump

variable {canonical : Path → Path} {owner parent : Nat} {recordName : String} {access : Access}
  {n : Node} {nodes before rest : List Node} {a : Attributes} {inner : List Node} {kind : Decl.Kind}
  {b b' : Builder}

/-- **Induction over a dump**, from the inner nodes of a node to the node. -/
@[elab_as_elim]
theorem Node.inductionOn {motive : Node → Prop} (n : Node)
    (mk : ∀ id content inner, (∀ m ∈ inner, motive m) → motive (.mk id content inner)) :
    motive n :=
  @Node.rec motive (fun nodes => ∀ m ∈ nodes, motive m) mk (by simp)
    (fun _ _ ih ihs => List.forall_mem_cons.mpr ⟨ih, ihs⟩) n

/-! ## 1. What is taken over -/

/-- **The members of a record that are left out**: what the compiler declared on its own, as far as
it is a field, a constructor, a method, an enumeration, an alias, a function or a record that is no
union; namespaces, parameters and bodies; and other kinds whose label ends in `Comment`. -/
def isDropped : Content → Bool
  | .compound => true
  | .other label _ => "Comment".toList.isSuffixOf label.toList
  | .decl sort a =>
    match sort with
    | .accessSpecDecl => false
    | .namespaceDecl | .parameterDecl => true
    | .recordDecl => a.implicit && !a.isUnion
    | .fieldDecl | .constructorDecl | .methodDecl | .enumDecl | .typedefDecl | .typeAliasDecl
    | .functionDecl => a.implicit

/-- The members of a record that are taken over, in order. -/
def kept (members : List Node) : List Node := members.filter fun n => !isDropped n.content

/-- **The nodes of a namespace that are taken over**: namespaces, and what the source declares among
records that are no unions, functions, constructors, methods, enumerations and aliases. -/
def isScoped (n : Node) : Bool :=
  match n.content with
  | .decl .namespaceDecl _ => true
  | .decl .recordDecl a => !a.implicit && !a.isUnion
  | .decl .functionDecl a | .decl .constructorDecl a | .decl .methodDecl a | .decl .enumDecl a
  | .decl .typedefDecl a | .decl .typeAliasDecl a => !a.implicit
  | _ => false

/-- The declaration that a member of a record becomes, but for its access. -/
def memberDecl (canonical : Path → Path) (recordName : String) (n : Node) : Decl :=
  match n.content with
  | .decl .accessSpecDecl a => declOf canonical .accessSpecifier a
  | .decl .fieldDecl a => declOf canonical .field a
  | .decl .enumDecl a => declOf canonical .enumType a
  | .decl .typedefDecl a => declOf canonical .typedefName a
  | .decl .typeAliasDecl a => declOf canonical .typeAlias a
  | .decl .methodDecl a => functionOf canonical .method a n.inner
  | .decl .functionDecl a => functionOf canonical .function a n.inner
  | .decl .constructorDecl a =>
    { functionOf canonical .constructor a n.inner with
      special := special? recordName
        ((parametersOf canonical n.inner).map fun p => p.typeText.getD "") }
  | .decl .recordDecl a =>
    if a.isUnion then otherOf canonical "union" a.place else declOf canonical (recordKind a) a
  | .other label place => otherOf canonical label place
  | _ => Decl.root

/-- Whether a node is an access specifier. -/
def isAccessSpecifier (n : Node) : Bool :=
  match n.content with
  | .decl .accessSpecDecl _ => true
  | _ => false

/-- The access that a member gets from the access in force: an access specifier gets none. -/
def memberAccess (access : Access) (n : Node) : Option Access :=
  if isAccessSpecifier n then none else some access

/-! ## 2. Single declarations have no place in the tree -/

theorem unplaced_locate (place : Option Place) {d : Decl} (h : d.unplaced = d) :
    (locate canonical place d).unplaced = locate canonical place d := by
  cases place with
  | none => exact h
  | some p =>
    rw [← h]
    rfl

theorem unplaced_declOf (canonical : Path → Path) (kind : Decl.Kind) (a : Attributes) :
    (declOf canonical kind a).unplaced = declOf canonical kind a :=
  unplaced_locate a.place rfl

theorem unplaced_otherOf (canonical : Path → Path) (label : String) (place : Option Place) :
    (otherOf canonical label place).unplaced = otherOf canonical label place :=
  unplaced_locate place rfl

theorem unplaced_functionOf (canonical : Path → Path) (kind : Decl.Kind) (a : Attributes)
    (inner : List Node) :
    (functionOf canonical kind a inner).unplaced = functionOf canonical kind a inner := by
  unfold functionOf
  rw [← unplaced_declOf canonical kind a]
  rfl

/-! ## 3. The steps of the builder -/

/-- Recording a scope changes one declaration, if anything, and only its scope. -/
theorem tree_setContext (b : Builder) (index : Nat) (contextId : Option Nat) :
    (b.setContext index contextId).tree = b.tree ∨
      ∃ scope, (b.setContext index contextId).tree =
        b.tree.modify index fun d => { d with context := some scope } := by
  unfold Builder.setContext
  split
  · rename_i scope _
    exact Or.inr ⟨scope, rfl⟩
  · exact Or.inl rfl

theorem addsChild_setContext (h : AddsChild parent b.tree b'.tree) (contextId : Option Nat) :
    AddsChild parent b.tree (b'.setContext b.next contextId).tree := by
  rcases tree_setContext b' b.next contextId with htree | ⟨scope, htree⟩
  · rw [htree]
    exact h
  · rw [htree]
    exact h.modify fun _ => rfl

theorem unplaced_setContext (h : AddsChild parent b.tree b'.tree) (contextId : Option Nat) :
    ((b'.setContext b.next contextId).tree.get b.next).unplaced =
      (b'.tree.get b.next).unplaced := by
  rcases tree_setContext b' b.next contextId with htree | ⟨scope, htree⟩
  · rw [htree]
  · rw [htree, Builder.next, get_modify_self _ h.size_lt]
    rfl

theorem addsChild_setAccess (h : AddsChild parent b.tree b'.tree) (access : Access) :
    AddsChild parent b.tree (b'.setAccess b.next access).tree :=
  h.modify fun _ => rfl

theorem unplaced_setAccess (h : AddsChild parent b.tree b'.tree) (access : Access) :
    ((b'.setAccess b.next access).tree.get b.next).unplaced =
      { (b'.tree.get b.next).unplaced with access := some access } := by
  rw [Builder.setAccess, Builder.next, get_modify_self _ h.size_lt]
  rfl

theorem tree_foldl_push (index : Nat) (ds : List Decl) (b : Builder) :
    (ds.foldl (fun b d => b.push index d) b).tree =
      ds.foldl (fun t d => t.push index d) b.tree := by
  induction ds generalizing b with
  | nil => rfl
  | cons d ds ih => exact ih (b.push index d)

/-! ## 4. Functions -/

theorem tree_addFunction (canonical : Path → Path) (kind : Decl.Kind) (a : Attributes)
    (inner : List Node) (parent : Nat) (b : Builder) :
    (addFunction canonical kind a inner parent b).tree =
      (parametersOf canonical inner).foldl (fun t p => t.push b.next p)
        (b.tree.push parent (functionOf canonical kind a inner)) :=
  tree_foldl_push _ _ _

theorem addFunction_addsChild :
    AddsChild parent b.tree (addFunction canonical kind a inner parent b).tree := by
  rw [tree_addFunction]
  exact (AddsChild.push parent b.tree _).below (AddsChildren.foldl_push _ _ _).growsBelow

theorem unplaced_addFunction :
    ((addFunction canonical kind a inner parent b).tree.get b.next).unplaced =
      (functionOf canonical kind a inner).unplaced := by
  have hlt : b.next < (b.tree.push parent (functionOf canonical kind a inner)).size := by
    rw [size_push]
    exact Nat.lt_succ_self _
  rw [tree_addFunction, (AddsChildren.foldl_push _ _ _).growsBelow.get_eq _ hlt, Builder.next,
    get_push_size]
  rfl

theorem addConstructor_addsChild :
    AddsChild parent b.tree (addConstructor canonical recordName a inner parent b).tree := by
  unfold addConstructor
  dsimp only
  split
  · exact addFunction_addsChild.modify fun _ => rfl
  · exact addFunction_addsChild

/-- Whether a constructor copies or moves is marked on it. -/
theorem unplaced_addConstructor :
    ((addConstructor canonical recordName a inner parent b).tree.get b.next).unplaced =
      { (functionOf canonical .constructor a inner).unplaced with
        special := special? recordName
          ((parametersOf canonical inner).map fun p => p.typeText.getD "") } := by
  have hfunction :
      ((addFunction canonical .constructor a inner parent b).tree.get b.next).unplaced =
        (functionOf canonical .constructor a inner).unplaced := unplaced_addFunction
  unfold addConstructor
  dsimp only
  split
  · rename_i sort hsort
    rw [Builder.next, get_modify_self _ addFunction_addsChild.size_lt, ← hfunction, hsort]
    rfl
  · rename_i hnone
    rw [hfunction, hnone]
    unfold functionOf declOf locate
    split <;> rfl

/-! ## 5. Records without their members -/

/-- A record without its bases and members: it is added and remembered as a scope, and its own scope
is recorded. -/
def recordHead (canonical : Path → Path) (id : Nat) (a : Attributes) (parent : Nat) (b : Builder) :
    Builder :=
  ((b.push parent (declOf canonical (recordKind a) a)).register id b.next).setContext b.next
    a.contextId

/-- The bases follow the record. -/
theorem tree_openRecord (canonical : Path → Path) (id : Nat) (a : Attributes) (parent : Nat)
    (b : Builder) :
    (openRecord canonical id a parent b).tree =
      (a.bases.map (baseOf (declOf canonical (recordKind a) a))).foldl
        (fun t d => t.push b.next d) (recordHead canonical id a parent b).tree := by
  rw [← tree_foldl_push, List.foldl_map]
  rfl

theorem recordHead_addsChild (id : Nat) :
    AddsChild parent b.tree (recordHead canonical id a parent b).tree := by
  unfold recordHead
  exact addsChild_setContext (AddsChild.push parent b.tree _) a.contextId

theorem size_recordHead (id : Nat) :
    (recordHead canonical id a parent b).tree.size = b.next + 1 := by
  unfold recordHead
  rcases tree_setContext ((b.push parent (declOf canonical (recordKind a) a)).register id b.next)
    b.next a.contextId with htree | ⟨scope, htree⟩
  · rw [htree]
    exact size_push _ _ _
  · rw [htree, size_modify]
    exact size_push _ _ _

theorem openRecord_addsChild (id : Nat) :
    AddsChild parent b.tree (openRecord canonical id a parent b).tree := by
  rw [tree_openRecord]
  exact (recordHead_addsChild id).below (AddsChildren.foldl_push _ _ _).growsBelow

theorem unplaced_openRecord (id : Nat) :
    ((openRecord canonical id a parent b).tree.get b.next).unplaced =
      declOf canonical (recordKind a) a := by
  have hpush : AddsChild parent b.tree
      ((b.push parent (declOf canonical (recordKind a) a)).register id b.next).tree :=
    AddsChild.push parent b.tree _
  have hhead : ((recordHead canonical id a parent b).tree.get b.next).unplaced =
      (declOf canonical (recordKind a) a).unplaced := by
    unfold recordHead
    rw [unplaced_setContext hpush]
    change ((b.tree.push parent _).get b.tree.size).unplaced = _
    rw [get_push_size]
    rfl
  have hlt : b.next < (recordHead canonical id a parent b).tree.size :=
    (recordHead_addsChild id).size_lt
  rw [tree_openRecord, (AddsChildren.foldl_push _ _ _).growsBelow.get_eq _ hlt, hhead,
    unplaced_declOf]

/-- **The first children of a record are its bases.** -/
theorem children_openRecord (id : Nat) :
    (openRecord canonical id a parent b).tree.children b.next =
      List.range' (b.next + 1) a.bases.length := by
  have hsize : (recordHead canonical id a parent b).tree.size = b.next + 1 := size_recordHead id
  have hnil : (recordHead canonical id a parent b).tree.children b.next = [] :=
    children_eq_nil (Nat.le_of_eq hsize)
  rw [tree_openRecord, (AddsChildren.foldl_push _ _ _).children_eq (by omega), hnil, hsize,
    List.length_map, List.nil_append]

theorem unplaced_base {k : Nat} {base : Base} (h : a.bases[k]? = some base) (id : Nat) :
    ((openRecord canonical id a parent b).tree.get (b.next + 1 + k)).unplaced =
      baseOf (declOf canonical (recordKind a) a) base := by
  have hbase : (a.bases.map (baseOf (declOf canonical (recordKind a) a)))[k]? =
      some (baseOf (declOf canonical (recordKind a) a) base) := by
    rw [List.getElem?_map, h, Option.map_some]
  have hget := get_foldl_push hbase b.next (recordHead canonical id a parent b).tree
  rw [size_recordHead] at hget
  rw [tree_openRecord, hget]
  rfl

/-! ## 6. Members of a record -/

theorem treatment_eq_drop_iff (content : Content) :
    treatment content = .drop ↔ isDropped content = true := by
  cases content with
  | compound => simp [treatment, isDropped]
  | other label place => simp [treatment, isDropped, isComment]
  | decl sort a =>
    cases sort with
    | recordDecl => cases hunion : a.isUnion <;> simp [treatment, isDropped, hunion]
    | _ => simp [treatment, isDropped]

/-- **A member that is left out changes nothing.** -/
theorem addMember_of_isDropped (h : isDropped n.content = true) :
    addMember canonical owner recordName access n b = b := by
  obtain ⟨id, content, inner⟩ := n
  have htreatment : treatment content = .drop := (treatment_eq_drop_iff content).mpr h
  simp only [addMember, htreatment]

theorem addMembers_eq_foldl (access : Access) (nodes : List Node) (b : Builder) :
    addMembers canonical owner recordName access nodes b =
      (nodes.foldl (fun s n => (accessAfter s.1 n, addMember canonical owner recordName s.1 n s.2))
        (access, b)).2 := by
  induction nodes generalizing access b with
  | nil => rw [addMembers, List.foldl_nil]
  | cons n nodes ih => rw [addMembers, ih, List.foldl_cons]

/-- Members add a child for each of them that is taken over, if each of these adds one. -/
theorem addMembers_addsChildren_of
    (h : ∀ n ∈ nodes, ∀ access b, isDropped n.content = false →
      AddsChild owner b.tree (addMember canonical owner recordName access n b).tree)
    (access : Access) (b : Builder) :
    ∃ ids, AddsChildren owner ids b.tree
        (addMembers canonical owner recordName access nodes b).tree ∧
      ids.length = (kept nodes).length := by
  rw [addMembers_eq_foldl]
  refine AddsChildren.foldl (fun s : Access × Builder => s.2.tree) ?_ ?_ (access, b)
  · intro n _ s hn
    dsimp only
    rw [addMember_of_isDropped (by simpa using hn)]
  · intro n hn s hkept
    exact h n hn s.1 s.2 (by simpa using hkept)

/-- **Every other member adds one child to its record.**  The induction is over the dump: the
members of a record among the members go below that record. -/
theorem addMember_addsChild (h : isDropped n.content = false) :
    AddsChild owner b.tree (addMember canonical owner recordName access n b).tree := by
  induction n using Node.inductionOn generalizing owner recordName access b with
  | mk id content inner ih =>
    have hkept : treatment content ≠ .drop := by
      intro hdrop
      have hdropped : isDropped content = true := (treatment_eq_drop_iff content).mp hdrop
      exact absurd (hdropped.symm.trans h) (by decide)
    rw [addMember]
    split
    · rename_i hdrop
      exact absurd hdrop hkept
    · exact AddsChild.push owner b.tree _
    · exact addsChild_setAccess (AddsChild.push owner b.tree _) access
    · exact addsChild_setAccess addFunction_addsChild access
    · exact addsChild_setAccess addConstructor_addsChild access
    · exact addsChild_setAccess (AddsChild.push owner b.tree _) access
    -- The record itself is the child; its members are children of it, by the induction.
    · obtain ⟨ids, hids, -⟩ := addMembers_addsChildren_of (fun m hm _ _ hm' => ih m hm hm')
        (defaultAccess (attributesOf content))
        (openRecord canonical id (attributesOf content) owner b)
      exact addsChild_setAccess ((openRecord_addsChild id).below hids.growsBelow) access

/-- **Members add a child for each of them that is taken over.** -/
theorem addMembers_addsChildren (canonical : Path → Path) (owner : Nat) (recordName : String)
    (access : Access) (nodes : List Node) (b : Builder) :
    ∃ ids, AddsChildren owner ids b.tree
        (addMembers canonical owner recordName access nodes b).tree ∧
      ids.length = (kept nodes).length :=
  addMembers_addsChildren_of (fun _ _ _ _ => addMember_addsChild) access b

theorem addMembers_growsBelow :
    GrowsBelow owner b.tree (addMembers canonical owner recordName access nodes b).tree := by
  obtain ⟨ids, hids, -⟩ := addMembers_addsChildren canonical owner recordName access nodes b
  exact hids.growsBelow

theorem unplaced_push (b : Builder) (owner : Nat) (d : Decl) :
    ((b.push owner d).tree.get b.next).unplaced = d.unplaced := by
  change ((b.tree.push owner d).get b.tree.size).unplaced = d.unplaced
  rw [get_push_size]
  rfl

/-- **The child is the member's declaration**, with the access in force. -/
theorem unplaced_addMember (h : isDropped n.content = false) :
    ((addMember canonical owner recordName access n b).tree.get b.next).unplaced =
      { memberDecl canonical recordName n with access := memberAccess access n } := by
  have hpush : ∀ d, AddsChild owner b.tree (b.push owner d).tree := fun d =>
    AddsChild.push owner b.tree d
  obtain ⟨id, content, inner⟩ := n
  cases content with
  | compound => exact absurd h (by simp [isDropped, Node.content])
  | other label place =>
    have hcomment : isComment label = false := h
    simp only [addMember, treatment, hcomment, Bool.false_eq_true, if_false]
    rw [unplaced_setAccess (hpush _), unplaced_push, unplaced_otherOf]
    rfl
  | decl sort a =>
    cases sort with
    | namespaceDecl | parameterDecl => exact absurd h (by simp [isDropped, Node.content])
    | accessSpecDecl =>
      simp only [addMember, treatment, attributesOf]
      rw [unplaced_push, unplaced_declOf]
      simp only [memberDecl, Node.content, memberAccess, isAccessSpecifier, if_true, declOf, locate]
      split <;> rfl
    | fieldDecl | enumDecl | typedefDecl | typeAliasDecl =>
      have himplicit : a.implicit = false := h
      simp only [addMember, treatment, attributesOf, himplicit, Bool.false_eq_true, if_false]
      rw [unplaced_setAccess (hpush _), unplaced_push, unplaced_declOf]
      rfl
    | methodDecl | functionDecl =>
      have himplicit : a.implicit = false := h
      simp only [addMember, treatment, attributesOf, himplicit, Bool.false_eq_true, if_false]
      rw [unplaced_setAccess addFunction_addsChild, unplaced_addFunction, unplaced_functionOf]
      rfl
    | constructorDecl =>
      have himplicit : a.implicit = false := h
      simp only [addMember, treatment, attributesOf, himplicit, Bool.false_eq_true, if_false]
      rw [unplaced_setAccess addConstructor_addsChild, unplaced_addConstructor,
        unplaced_functionOf]
      rfl
    | recordDecl =>
      cases hunion : a.isUnion with
      | true =>
        simp only [addMember, treatment, attributesOf, hunion, if_true]
        rw [unplaced_setAccess (hpush _), unplaced_push, unplaced_otherOf]
        simp [memberDecl, Node.content, hunion, memberAccess, isAccessSpecifier]
      | false =>
        have himplicit : a.implicit = false := by
          simpa [isDropped, Node.content, hunion] using h
        have hopen : AddsChild owner b.tree (openRecord canonical id a owner b).tree :=
          openRecord_addsChild id
        have hmembers : GrowsBelow b.next (openRecord canonical id a owner b).tree
            (addMembers canonical b.next a.nameText (defaultAccess a) inner
              (openRecord canonical id a owner b)).tree := addMembers_growsBelow
        have hlt : b.next < (openRecord canonical id a owner b).tree.size := hopen.size_lt
        simp only [addMember, treatment, attributesOf, hunion, himplicit, Bool.false_eq_true,
          if_false]
        rw [unplaced_setAccess (hopen.below hmembers), hmembers.get_eq _ hlt, unplaced_openRecord]
        simp [memberDecl, Node.content, hunion, memberAccess, isAccessSpecifier]

/-- **The members one after the other**: those after the first ones meet the access that these
leave. -/
theorem addMembers_append (before rest : List Node) :
    addMembers canonical owner recordName access (before ++ rest) b =
      addMembers canonical owner recordName (before.foldl accessAfter access) rest
        (addMembers canonical owner recordName access before b) := by
  induction before generalizing access b with
  | nil => rw [List.nil_append, addMembers, List.foldl_nil]
  | cons n before ih => rw [List.cons_append, addMembers, addMembers, List.foldl_cons, ih]

/-! ## 7. Namespace scope -/

/-- **A node that is left out at namespace scope changes nothing.** -/
theorem addScopedOne_of_not_isScoped (h : isScoped n = false) :
    addScopedOne canonical parent n b = b := by
  obtain ⟨id, content, inner⟩ := n
  cases content with
  | compound | other => rfl
  | decl sort a =>
    cases sort with
    | namespaceDecl => exact absurd h (by simp [isScoped, Node.content])
    | fieldDecl | accessSpecDecl | parameterDecl => rfl
    | recordDecl =>
      have hskip : (a.implicit || a.isUnion) = true := by
        cases himplicit : a.implicit <;> simp_all [isScoped, Node.content]
      simp [addScopedOne, hskip]
    | functionDecl | constructorDecl | methodDecl | enumDecl | typedefDecl | typeAliasDecl =>
      have himplicit : a.implicit = true := by simpa [isScoped, Node.content] using h
      simp [addScopedOne, himplicit]

theorem addScoped_eq_foldl (nodes : List Node) (b : Builder) :
    addScoped canonical parent nodes b =
      nodes.foldl (fun b n => addScopedOne canonical parent n b) b := by
  induction nodes generalizing b with
  | nil => rw [addScoped, List.foldl_nil]
  | cons n nodes ih => rw [addScoped, ih, List.foldl_cons]

/-- A scope gets a child for each node that is taken over, if each of these adds one. -/
theorem addScoped_addsChildren_of
    (h : ∀ n ∈ nodes, ∀ b : Builder, isScoped n = true →
      AddsChild parent b.tree (addScopedOne canonical parent n b).tree) (b : Builder) :
    ∃ ids, AddsChildren parent ids b.tree (addScoped canonical parent nodes b).tree ∧
      ids.length = (nodes.filter isScoped).length := by
  rw [addScoped_eq_foldl]
  refine AddsChildren.foldl Builder.tree ?_ h b
  intro n _ b hn
  rw [addScopedOne_of_not_isScoped hn]

/-- **Every other node adds one child to its scope.** -/
theorem addScopedOne_addsChild (h : isScoped n = true) :
    AddsChild parent b.tree (addScopedOne canonical parent n b).tree := by
  induction n using Node.inductionOn generalizing parent b with
  | mk id content inner ih =>
    cases content with
    | compound | other => exact absurd h (by simp [isScoped, Node.content])
    | decl sort a =>
      cases sort with
      | fieldDecl | accessSpecDecl | parameterDecl =>
        exact absurd h (by simp [isScoped, Node.content])
      | namespaceDecl =>
        have hpush : AddsChild parent b.tree
            ((b.push parent (declOf canonical .namespaceScope a)).register id b.next).tree :=
          AddsChild.push parent b.tree _
        obtain ⟨ids, hids, -⟩ := addScoped_addsChildren_of (fun m hm _ hm' => ih m hm hm')
          ((b.push parent (declOf canonical .namespaceScope a)).register id b.next)
        rw [addScopedOne]
        exact hpush.below hids.growsBelow
      | recordDecl =>
        have hopen : AddsChild parent b.tree (openRecord canonical id a parent b).tree :=
          openRecord_addsChild id
        have hkept : (a.implicit || a.isUnion) = false := by
          simpa [isScoped, Node.content] using h
        simp only [addScopedOne, hkept, Bool.false_eq_true, if_false]
        exact hopen.below addMembers_growsBelow
      | functionDecl =>
        have himplicit : a.implicit = false := by simpa [isScoped, Node.content] using h
        simp only [addScopedOne, himplicit, Bool.false_eq_true, if_false]
        exact addsChild_setContext addFunction_addsChild a.contextId
      | constructorDecl | methodDecl =>
        have himplicit : a.implicit = false := by simpa [isScoped, Node.content] using h
        simp only [addScopedOne, himplicit, Bool.false_eq_true, if_false]
        exact addFunction_addsChild
      | enumDecl | typedefDecl | typeAliasDecl =>
        have himplicit : a.implicit = false := by simpa [isScoped, Node.content] using h
        simp only [addScopedOne, himplicit, Bool.false_eq_true, if_false]
        exact AddsChild.push parent b.tree _

/-- **A scope gets a child for each node that is taken over.** -/
theorem addScoped_addsChildren (canonical : Path → Path) (parent : Nat) (nodes : List Node)
    (b : Builder) :
    ∃ ids, AddsChildren parent ids b.tree (addScoped canonical parent nodes b).tree ∧
      ids.length = (nodes.filter isScoped).length :=
  addScoped_addsChildren_of (fun _ _ _ => addScopedOne_addsChild) b

theorem addScoped_append (before rest : List Node) :
    addScoped canonical parent (before ++ rest) b =
      addScoped canonical parent rest (addScoped canonical parent before b) := by
  rw [addScoped_eq_foldl, addScoped_eq_foldl, addScoped_eq_foldl, List.foldl_append]

end Dump

end CppSurface
