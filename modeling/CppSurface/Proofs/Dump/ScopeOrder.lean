import CppSurface.Proofs.DeclTree.QualifiedNames
import CppSurface.Proofs.Dump.Implicit

/-!
# Scopes come first, unless a record names itself

The qualified name of a declaration follows its scopes outwards, so they must come to an end.  The
parent of a declaration is in the tree before the declaration is, but a recorded scope is looked up
by an identity that the dump chooses.  Identities may be repeated, and a scope may be named that
comes later, or never.

What is looked up has been remembered before, so it cannot be later in the tree.  For a function
this settles it: its scope was remembered before the function was added.  A record is itself a
scope, and it is remembered *before* its own scope is looked up.  So a record whose scope has the
identity of the record finds itself, whatever else may have had that identity before: the last one
that was remembered is the one that is found.  Such a record belongs to itself, and the way outwards
from it never ends.

This is the only way in which it can go wrong.  A builder is in order when its declarations come
after their parents and not before their scopes (`InOrder`), and each step of the walk keeps this
and says whether it adds a declaration that belongs to itself (`Continues`).  A whole unit adds one
just if one of the records that are taken over names itself (`scopes_precede_iff`).
-/

namespace CppSurface

open DeclTree

namespace Dump

variable {canonical : Path → Path} {owner parent index : Nat} {recordName : String}
  {access : Access} {n : Node} {nodes inner : List Node} {a : Attributes} {kind : Decl.Kind}
  {d : Decl} {b b' b'' : Builder} {p q : Prop}

/-! ## 1. Records that are taken over -/

mutual

/-- The records that are taken over from the members of a record, with those inside them. -/
def nestedRecords : List Node → List Node
  | [] => []
  | n :: rest => recordsFrom n ++ nestedRecords rest

/-- A record, if it is taken over, and those that are taken over from its members. -/
def recordsFrom : Node → List Node
  | .mk id content inner =>
    match content with
    | .decl .recordDecl a =>
      if a.implicit || a.isUnion then [] else .mk id content inner :: nestedRecords inner
    | _ => []

end

mutual

/-- The records that are taken over from a namespace, or from the whole unit. -/
def scopedRecords : List Node → List Node
  | [] => []
  | n :: rest => scopedRecordsFrom n ++ scopedRecords rest

/-- The records that are taken over from one node at namespace scope. -/
def scopedRecordsFrom : Node → List Node
  | .mk id content inner =>
    match content with
    | .decl .namespaceDecl _ => scopedRecords inner
    | content => recordsFrom (.mk id content inner)

end

/-- **The records of a dump that are taken over**, at namespace scope and in other records. -/
def unitRecords (root : Node) : List Node := scopedRecords root.inner

/-- **A node names itself as the scope that it belongs to.** -/
def NamesItself (n : Node) : Prop := (attributesOf n.content).contextId = some n.id

theorem nestedRecords_eq (nodes : List Node) : nestedRecords nodes = nodes.flatMap recordsFrom := by
  induction nodes with
  | nil => rw [nestedRecords, List.flatMap_nil]
  | cons n nodes ih => rw [nestedRecords, ih, List.flatMap_cons]

theorem scopedRecords_eq (nodes : List Node) :
    scopedRecords nodes = nodes.flatMap scopedRecordsFrom := by
  induction nodes with
  | nil => rw [scopedRecords, List.flatMap_nil]
  | cons n nodes ih => rw [scopedRecords, ih, List.flatMap_cons]

/-- Of the members of a record, just those that are treated as records are among them. -/
theorem recordsFrom_eq (id : Nat) (content : Content) (inner : List Node) :
    recordsFrom (.mk id content inner) =
      if treatment content = .record then .mk id content inner :: nestedRecords inner else [] := by
  cases content with
  | compound => simp [recordsFrom, treatment]
  | other label place =>
    cases hcomment : isComment label <;> simp [recordsFrom, treatment, hcomment]
  | decl sort a =>
    cases sort with
    | recordDecl =>
      cases hunion : a.isUnion <;> cases himplicit : a.implicit <;>
        simp [recordsFrom, treatment, hunion, himplicit]
    | namespaceDecl | accessSpecDecl | parameterDecl => simp [recordsFrom, treatment]
    | _ => cases himplicit : a.implicit <;> simp [recordsFrom, treatment, himplicit]

theorem exists_mem_flatMap_iff {records : Node → List Node} {P : Node → Prop} :
    (∃ k ∈ nodes.flatMap records, P k) ↔ ∃ n ∈ nodes, ∃ k ∈ records n, P k := by
  simp only [List.mem_flatMap]
  exact ⟨fun ⟨k, ⟨n, hn, hk⟩, hP⟩ => ⟨n, hn, k, hk, hP⟩,
    fun ⟨n, hn, k, hk, hP⟩ => ⟨k, ⟨n, hn, hk⟩, hP⟩⟩

/-! ## 2. Builders in order -/

namespace Builder

/-- What is true of every declaration but the root: it comes after its parent, and not before the
scope that is recorded for it. -/
structure Placed (i : Nat) (d : Decl) : Prop where
  kind : d.kind ≠ .translationUnit
  parent : ∃ p, d.parent = some p ∧ p < i
  context : ∀ scope ∈ d.context, scope ≤ i

/-- **A builder in order**: its declarations are, and the scopes that it remembers are among
them. -/
structure InOrder (b : Builder) : Prop where
  root : b.tree.semanticParent? 0 = none
  nonempty : 0 < b.next
  placed : ∀ i, 0 < i → i < b.next → Placed i (b.tree.get i)
  scopes : ∀ e ∈ b.scopes, e.2 < b.next

/-- Some declaration has itself for its recorded scope. -/
def Circular (b : Builder) : Prop := ∃ i < b.next, (b.tree.get i).context = some i

theorem inOrder_start : InOrder start where
  root := rfl
  nonempty := Nat.one_pos
  placed i hpos hlt := absurd hpos (Nat.not_lt_of_le (Nat.le_of_lt_succ hlt))
  scopes e he := absurd he (by simp [start])

theorem not_circular_start : ¬ Circular start := by
  rintro ⟨i, hlt, hcontext⟩
  obtain rfl : i = 0 := Nat.lt_one_iff.mp hlt
  exact absurd hcontext (by decide)

/-- What is remembered under an identity is in the tree. -/
theorem InOrder.lookup_lt (hb : b.InOrder) {id scope : Nat} (h : b.scopes.lookup id = some scope) :
    scope < b.next := by
  obtain ⟨before, after, hscopes, -⟩ := List.lookup_eq_some_iff.mp h
  exact hb.scopes (id, scope) (by simp [hscopes])

/-- The same declarations, changed in neither kind nor parent, and the same scopes remembered. -/
structure Retouched (b b' : Builder) : Prop where
  next_eq : b'.next = b.next
  scopes_eq : b'.scopes = b.scopes
  kind : ∀ i < b.next, (b'.tree.get i).kind = (b.tree.get i).kind
  parent : ∀ i < b.next, (b'.tree.get i).parent = (b.tree.get i).parent

/-- What is changed stays in order if the recorded scopes are not after their declarations. -/
theorem Retouched.inOrder (h : Retouched b b') (hb : b.InOrder)
    (hroot : (b'.tree.get 0).context = (b.tree.get 0).context)
    (hcontext : ∀ i, 0 < i → i < b.next → ∀ scope ∈ (b'.tree.get i).context, scope ≤ i) :
    b'.InOrder where
  root := by
    rw [semanticParent?, hroot, h.parent 0 hb.nonempty]
    exact hb.root
  nonempty := by rw [h.next_eq]; exact hb.nonempty
  placed i hpos hi := by
    rw [h.next_eq] at hi
    obtain ⟨hkind, hparent, -⟩ := hb.placed i hpos hi
    exact ⟨by rwa [h.kind i hi], by rwa [h.parent i hi], hcontext i hpos hi⟩
  scopes := by
    rw [h.scopes_eq, h.next_eq]
    exact hb.scopes

end Builder

open Builder

/-- **One builder continues another in order.**  It has a declaration that belongs to itself if the
other has one, or if `circular`, and only then. -/
structure Continues (circular : Prop) (b b' : Builder) : Prop where
  next_le : b.next ≤ b'.next
  inOrder : b.InOrder → b'.InOrder
  circular_iff : b.InOrder → (b'.Circular ↔ b.Circular ∨ circular)

namespace Continues

theorem refl (b : Builder) : Continues False b b :=
  ⟨Nat.le_refl _, id, fun _ => by simp⟩

theorem congr (h : Continues p b b') (hpq : b.InOrder → (p ↔ q)) : Continues q b b' where
  next_le := h.next_le
  inOrder := h.inOrder
  circular_iff hb := by rw [h.circular_iff hb, hpq hb]

theorem trans (h : Continues p b b') (h' : Continues q b' b'') : Continues (p ∨ q) b b'' where
  next_le := Nat.le_trans h.next_le h'.next_le
  inOrder hb := h'.inOrder (h.inOrder hb)
  circular_iff hb := by rw [h'.circular_iff (h.inOrder hb), h.circular_iff hb, or_assoc]

/-- A step that adds no circle of its own. -/
theorem trans_false (h : Continues p b b') (h' : Continues False b' b'') : Continues p b b'' :=
  (h.trans h').congr fun _ => (or_false p).to_iff

/-- A step that is left out if the compiler declared the node on its own. -/
theorem leftOut (skip : Bool) (h : Continues p b b') :
    Continues (skip = false ∧ p) b (if skip then b else b') := by
  cases skip with
  | true => exact (refl b).congr fun _ => by simp
  | false => exact h.congr fun _ => by simp

/-- **A walk continues as its steps do**, from wherever it has got to. -/
theorem foldl {σ α : Type} (builder : σ → Builder) (step : σ → α → σ) (s : σ)
    {circular : α → Prop} {xs : List α} {least : Nat}
    (h : ∀ x ∈ xs, ∀ s, least ≤ (builder s).next →
      Continues (circular x) (builder s) (builder (step s x)))
    (hs : least ≤ (builder s).next) :
    Continues (∃ x ∈ xs, circular x) (builder s) (builder (xs.foldl step s)) := by
  induction xs generalizing s with
  | nil => exact (refl _).congr fun _ => by simp
  | cons x xs ih =>
    obtain ⟨hx, hxs⟩ := List.forall_mem_cons.mp h
    have hstep := hx s hs
    exact (hstep.trans (ih (step s x) hxs (Nat.le_trans hs hstep.next_le))).congr fun _ => by simp

/-! ## 3. The steps of the builder -/

/-- A declaration that has no place in the tree yet. -/
structure Fresh (d : Decl) : Prop where
  kind : d.kind ≠ .translationUnit
  context : d.context = none

theorem next_lt_push : b.next < (b.push parent d).next :=
  Nat.lt_of_lt_of_eq (Nat.lt_succ_self _) (size_push _ _ _).symm

/-- **A new declaration** comes after the parent that it is given. -/
theorem push (hparent : parent < b.next) (hd : Fresh d) : Continues False b (b.push parent d) := by
  have hnext : (b.push parent d).next = b.next + 1 := size_push _ _ _
  have hold : ∀ {i}, i < b.next → (b.push parent d).tree.get i = b.tree.get i := get_push_of_lt
  have hnew : (b.push parent d).tree.get b.next = { d with parent := some parent } :=
    get_push_size _ _ _
  refine ⟨by omega, fun hb => ⟨?_, by omega, fun i hpos hi => ?_, fun e he => ?_⟩, fun hb => ?_⟩
  · rw [semanticParent?, hold hb.nonempty]
    exact hb.root
  · rcases Nat.lt_succ_iff_lt_or_eq.mp (hnext ▸ hi) with hlt | rfl
    · rw [hold hlt]
      exact hb.placed i hpos hlt
    · rw [hnew]
      exact ⟨hd.kind, ⟨parent, rfl, hparent⟩, by simp [hd.context]⟩
  · have := hb.scopes e he
    omega
  · rw [or_false]
    constructor
    · rintro ⟨i, hi, hcontext⟩
      rcases Nat.lt_succ_iff_lt_or_eq.mp (hnext ▸ hi) with hlt | rfl
      · exact ⟨i, hlt, by rwa [hold hlt] at hcontext⟩
      · rw [hnew] at hcontext
        exact absurd (hd.context.symm.trans hcontext) (by simp)
    · rintro ⟨i, hi, hcontext⟩
      exact ⟨i, by omega, by rwa [hold hi]⟩

/-- A scope that is in the tree may be remembered. -/
theorem register (id : Nat) (hindex : index < b.next) :
    Continues False b (b.register id index) where
  next_le := Nat.le_refl _
  inOrder hb := ⟨hb.root, hb.nonempty, hb.placed,
    List.forall_mem_cons.mpr ⟨hindex, hb.scopes⟩⟩
  circular_iff _ := (or_false _).to_iff.symm

/-- A change to declarations that leaves their recorded scopes alone. -/
theorem of_retouched (h : Retouched b b')
    (hcontext : ∀ i < b.next, (b'.tree.get i).context = (b.tree.get i).context) :
    Continues False b b' where
  next_le := Nat.le_of_eq h.next_eq.symm
  inOrder hb := h.inOrder hb (hcontext 0 hb.nonempty) fun i hpos hi scope hscope =>
    (hb.placed i hpos hi).context scope (by rwa [← hcontext i hi])
  circular_iff hb := by
    rw [or_false, Circular, Circular, h.next_eq]
    exact exists_congr fun i => and_congr_right fun hi => by rw [hcontext i hi]

/-- A change to one declaration that leaves its place alone. -/
theorem modify {f : Decl → Decl} (hf : ∀ d, (f d).kind = d.kind ∧ (f d).parent = d.parent ∧
    (f d).context = d.context) : Continues False b { b with tree := b.tree.modify index f } := by
  have hget : ∀ i < b.next, ((b.tree.modify index f).get i).kind = (b.tree.get i).kind ∧
      ((b.tree.modify index f).get i).parent = (b.tree.get i).parent ∧
      ((b.tree.modify index f).get i).context = (b.tree.get i).context := by
    intro i hi
    by_cases hindex : i = index
    · subst hindex
      rw [get_modify_self f hi]
      exact hf _
    · rw [get_modify_of_ne f hindex]
      exact ⟨rfl, rfl, rfl⟩
  exact of_retouched ⟨size_modify _ _ _, rfl, fun i hi => (hget i hi).1,
    fun i hi => (hget i hi).2.1⟩ fun i hi => (hget i hi).2.2

/-- Recording a scope changes neither kind nor parent of the declaration. -/
theorem retouched_setContext (b : Builder) (index scope : Nat) :
    Retouched b { b with tree := b.tree.setContext index scope } := by
  refine ⟨size_modify _ _ _, rfl, fun i hi => ?_, fun i hi => ?_⟩
  all_goals
    simp only [DeclTree.setContext]
    by_cases hindex : i = index
    · subst hindex
      rw [get_modify_self _ hi]
    · rw [get_modify_of_ne _ hindex]

/-- Where a scope is recorded for the first time, there is a circle more just if the declaration is
its own scope. -/
theorem circular_setContext_iff {scope : Nat} (hindex : index < b.next)
    (hnone : (b.tree.get index).context = none) :
    Circular { b with tree := b.tree.setContext index scope } ↔ b.Circular ∨ scope = index := by
  have hself : ((b.tree.setContext index scope).get index).context = some scope := by
    rw [DeclTree.setContext, get_modify_self _ hindex]
  have hother : ∀ i, i ≠ index → (b.tree.setContext index scope).get i = b.tree.get i :=
    fun i hi => get_modify_of_ne _ hi
  rw [Circular, Circular, (retouched_setContext b index scope).next_eq]
  constructor
  · rintro ⟨i, hi, hcontext⟩
    by_cases hi' : i = index
    · subst hi'
      exact Or.inr (Option.some.inj (hself.symm.trans hcontext))
    · exact Or.inl ⟨i, hi, by rwa [hother i hi'] at hcontext⟩
  · rintro (⟨i, hi, hcontext⟩ | rfl)
    · have hi' : i ≠ index := by
        rintro rfl
        exact absurd (hnone.symm.trans hcontext) (by simp)
      exact ⟨i, hi, by rwa [hother i hi']⟩
    · exact ⟨scope, hindex, hself⟩

/-- **Recording a scope** that is not after the declaration, as a last step.  There is a circle if
it is the declaration. -/
theorem setContext {contextId : Option Nat} (h : Continues False b b') (hpos : 0 < index)
    (hindex : index < b'.next) (hnone : (b'.tree.get index).context = none)
    (hle : b.InOrder → ∀ scope, (contextId.bind fun id => b'.scopes.lookup id) = some scope →
      scope ≤ index) :
    Continues ((contextId.bind fun id => b'.scopes.lookup id) = some index) b
      (b'.setContext index contextId) := by
  unfold Builder.setContext
  cases hfound : contextId.bind fun id => b'.scopes.lookup id with
  | none => exact h.congr fun _ => by simp
  | some scope =>
    have hsame := retouched_setContext b' index scope
    have hother : ∀ i, i ≠ index → (b'.tree.setContext index scope).get i = b'.tree.get i :=
      fun i hi => get_modify_of_ne _ hi
    refine ⟨Nat.le_trans h.next_le (Nat.le_of_eq hsame.next_eq.symm), fun hb => ?_, fun hb => ?_⟩
    · refine hsame.inOrder (h.inOrder hb) (by rw [hother 0 (Nat.ne_of_lt hpos)]) ?_
      intro i hi hlt scope' hscope'
      by_cases hi' : i = index
      · subst hi'
        rw [DeclTree.setContext, get_modify_self _ hindex] at hscope'
        obtain rfl : scope = scope' := Option.some.inj hscope'
        exact hle hb scope hfound
      · rw [hother i hi'] at hscope'
        exact ((h.inOrder hb).placed i hi hlt).context scope' hscope'
    · rw [circular_setContext_iff hindex hnone, h.circular_iff hb, or_false, Option.some.injEq]

/-! ## 4. Declarations that are added -/

theorem fresh_locate (place : Option Place) (hd : Fresh d) : Fresh (locate canonical place d) := by
  cases place with
  | none => exact hd
  | some place => exact ⟨hd.kind, hd.context⟩

theorem fresh_declOf (hkind : kind ≠ .translationUnit) (a : Attributes) :
    Fresh (declOf canonical kind a) :=
  fresh_locate a.place ⟨hkind, rfl⟩

theorem fresh_functionOf (hkind : kind ≠ .translationUnit) (a : Attributes) (inner : List Node) :
    Fresh (functionOf canonical kind a inner) :=
  ⟨(fresh_declOf hkind a).kind, (fresh_declOf hkind a).context⟩

theorem recordKind_ne_unit : recordKind a ≠ .translationUnit := by
  unfold recordKind
  split <;> simp

theorem fresh_of_mem_parametersOf (hd : d ∈ parametersOf canonical inner) : Fresh d := by
  obtain ⟨n, -, hn⟩ := List.mem_filterMap.mp hd
  split at hn
  · obtain rfl := Option.some.inj hn
    exact fresh_declOf (by simp) _
  · exact absurd hn (by simp)

theorem foldl_push {ds : List Decl} (hds : ∀ d ∈ ds, Fresh d) (hindex : index < b.next) :
    Continues False b (ds.foldl (fun b d => b.push index d) b) := by
  have hwalk : Continues (∃ d ∈ ds, False) b (ds.foldl (fun b d => b.push index d) b) :=
    foldl id _ b (fun d hd b hb => push (Nat.lt_of_succ_le hb) (hds d hd)) hindex
  exact hwalk.congr fun _ => by simp

theorem next_lt_addFunction :
    b.next < (Dump.addFunction canonical kind a inner parent b).next :=
  addFunction_addsChild.size_lt

theorem addFunction (hkind : kind ≠ .translationUnit) (hparent : parent < b.next) :
    Continues False b (addFunction canonical kind a inner parent b) := by
  have hpush : Continues False b (b.push parent (functionOf canonical kind a inner)) :=
    push hparent (fresh_functionOf hkind a inner)
  exact hpush.trans_false (foldl_push (fun d hd => fresh_of_mem_parametersOf hd) next_lt_push)

theorem addConstructor (hparent : parent < b.next) :
    Continues False b (addConstructor canonical recordName a inner parent b) := by
  have hfunction : Continues False b (Dump.addFunction canonical .constructor a inner parent b) :=
    addFunction (by simp) hparent
  unfold Dump.addConstructor
  dsimp only
  split
  · exact hfunction.trans_false (modify fun _ => ⟨rfl, rfl, rfl⟩)
  · exact hfunction

theorem setAccess (b : Builder) (index : Nat) (access : Access) :
    Continues False b (b.setAccess index access) :=
  modify fun _ => ⟨rfl, rfl, rfl⟩

theorem scopes_foldl_push (index : Nat) (ds : List Decl) (b : Builder) :
    (ds.foldl (fun b d => b.push index d) b).scopes = b.scopes := by
  induction ds generalizing b with
  | nil => rfl
  | cons d ds ih => exact ih (b.push index d)

/-- **The scope of a function comes before the function.**  It was remembered when the function was
not in the tree. -/
theorem scopedFunction (hpos : 0 < b.next) (hparent : parent < b.next) :
    Continues False b
      ((Dump.addFunction canonical .function a inner parent b).setContext b.next a.contextId) := by
  have hfunction : Continues False b (Dump.addFunction canonical .function a inner parent b) :=
    addFunction (by simp) hparent
  have hnone : ((Dump.addFunction canonical .function a inner parent b).tree.get
      b.next).context = none := by
    have hlt : b.next < (b.tree.push parent (functionOf canonical .function a inner)).size :=
      next_lt_push
    rw [tree_addFunction, (AddsChildren.foldl_push _ _ _).growsBelow.get_eq _ hlt, Builder.next,
      get_push_size]
    exact (fresh_functionOf (by simp) a inner).context
  have hscopes : (Dump.addFunction canonical .function a inner parent b).scopes = b.scopes :=
    scopes_foldl_push _ _ _
  have hbefore : b.InOrder → ∀ scope,
      (a.contextId.bind fun id =>
        (Dump.addFunction canonical .function a inner parent b).scopes.lookup id) = some scope →
      scope < b.next := by
    intro hb scope hscope
    rw [hscopes] at hscope
    obtain ⟨id, -, hlookup⟩ := Option.bind_eq_some_iff.mp hscope
    exact hb.lookup_lt hlookup
  have hstep := hfunction.setContext hpos next_lt_addFunction hnone fun hb scope hscope =>
    Nat.le_of_lt (hbefore hb scope hscope)
  refine hstep.congr fun hb => iff_of_false (fun hself => ?_) id
  exact absurd (hbefore hb b.next hself) (Nat.lt_irrefl _)

/-! ## 5. Records -/

/-- **A record looks its own scope up when it is remembered itself.**  It finds itself just if it
has the identity that it looks for. -/
theorem recordHead (id : Nat) (hpos : 0 < b.next) (hparent : parent < b.next) :
    Continues (a.contextId = some id) b (recordHead canonical id a parent b) := by
  have hpush : Continues False b (b.push parent (declOf canonical (recordKind a) a)) :=
    push hparent (fresh_declOf recordKind_ne_unit a)
  have hnone : (((b.push parent (declOf canonical (recordKind a) a)).register id b.next).tree.get
      b.next).context = none := by
    change ((b.tree.push parent _).get b.tree.size).context = none
    rw [get_push_size]
    exact (fresh_declOf recordKind_ne_unit a).context
  have hlookup : ∀ id', ((b.push parent (declOf canonical (recordKind a) a)).register id
      b.next).scopes.lookup id' = if id' = id then some b.next else b.scopes.lookup id' := by
    intro id'
    change List.lookup id' ((id, b.next) :: b.scopes) = _
    rw [List.lookup_cons]
    by_cases hid : id' = id
    · simp [hid]
    · simp [hid, beq_eq_false_iff_ne.mpr hid]
  have hregister := hpush.trans_false (register id next_lt_push)
  refine (hregister.setContext hpos next_lt_push hnone ?_).congr fun hb => ?_
  · intro hb scope hscope
    obtain ⟨id', -, hfound⟩ := Option.bind_eq_some_iff.mp hscope
    rw [hlookup] at hfound
    split at hfound
    · exact Nat.le_of_eq (Option.some.inj hfound).symm
    · exact Nat.le_of_lt (hb.lookup_lt hfound)
  · cases hcontext : a.contextId with
    | none => simp
    | some id' =>
      rw [Option.bind_some, hlookup, Option.some.injEq]
      split
      · rename_i hid
        simp [hid]
      · rename_i hid
        refine iff_of_false (fun hself => ?_) hid
        exact absurd (hb.lookup_lt hself) (Nat.lt_irrefl _)

theorem next_lt_openRecord (id : Nat) : b.next < (Dump.openRecord canonical id a parent b).next :=
  (openRecord_addsChild id).size_lt

theorem openRecord (id : Nat) (hpos : 0 < b.next) (hparent : parent < b.next) :
    Continues (a.contextId = some id) b (openRecord canonical id a parent b) := by
  have hbases : ∀ d ∈ a.bases.map (baseOf (declOf canonical (recordKind a) a)), Fresh d := by
    intro d hd
    obtain ⟨base, -, rfl⟩ := List.mem_map.mp hd
    exact ⟨by simp [baseOf], rfl⟩
  have hindex : b.next < (Dump.recordHead canonical id a parent b).next :=
    (recordHead_addsChild id).size_lt
  have hpush := foldl_push hbases hindex
  rw [List.foldl_map] at hpush
  exact (recordHead id hpos hparent).trans_false hpush

/-! ## 6. The walk -/

theorem addMembers_of (h : ∀ n ∈ nodes, ∀ access (b : Builder), owner < b.next →
      Continues (∃ k ∈ recordsFrom n, NamesItself k) b
        (addMember canonical owner recordName access n b))
    (access : Access) (howner : owner < b.next) :
    Continues (∃ k ∈ nestedRecords nodes, NamesItself k) b
      (addMembers canonical owner recordName access nodes b) := by
  rw [addMembers_eq_foldl, nestedRecords_eq, exists_mem_flatMap_iff]
  exact foldl (fun s : Access × Builder => s.2)
    (fun s n => (accessAfter s.1 n, Dump.addMember canonical owner recordName s.1 n s.2))
    (access, b) (fun n hn s hs => h n hn s.1 s.2 hs) howner

/-- A member that is no record is added as an ordinary declaration. -/
theorem kind_of_treatment {content : Content}
    (h : treatment content = .plain kind ∨ treatment content = .functionLike kind) :
    kind ≠ .translationUnit := by
  rintro rfl
  cases content with
  | compound => simp [treatment] at h
  | other label place =>
    simp only [treatment] at h
    split at h <;> simp at h
  | decl sort a =>
    cases sort with
    | namespaceDecl | accessSpecDecl | parameterDecl => simp [treatment] at h
    | _ =>
      simp only [treatment] at h
      split_ifs at h <;> simp at h

/-- **A member of a record continues the builder in order**, and adds a circle just if a record in
it names itself.  The induction is over the dump: the members of a record are added when the record
is open. -/
theorem addMember (howner : owner < b.next) :
    Continues (∃ k ∈ recordsFrom n, NamesItself k) b
      (addMember canonical owner recordName access n b) := by
  induction n using Node.inductionOn generalizing owner recordName access b with
  | mk id content inner ih =>
    rw [recordsFrom_eq, Dump.addMember]
    cases htreatment : treatment content with
    | drop => exact (refl b).congr fun _ => by simp
    | accessSpecifier =>
      exact (push howner (fresh_declOf (by simp) _)).congr fun _ => by simp
    | plain kind =>
      have hkind : kind ≠ .translationUnit := kind_of_treatment (Or.inl htreatment)
      exact ((push howner (fresh_declOf hkind _)).trans_false (setAccess _ _ access)).congr
        fun _ => by simp
    | functionLike kind =>
      have hkind : kind ≠ .translationUnit := kind_of_treatment (Or.inr htreatment)
      exact ((addFunction hkind howner).trans_false (setAccess _ _ access)).congr
        fun _ => by simp
    | constructor =>
      exact ((addConstructor howner).trans_false (setAccess _ _ access)).congr fun _ => by simp
    | labelled label =>
      have hfresh : Fresh (otherOf canonical label (attributesOf content).place) :=
        fresh_locate _ ⟨by simp, rfl⟩
      exact ((push howner hfresh).trans_false (setAccess _ _ access)).congr fun _ => by simp
    | record =>
      have hopen : Continues ((attributesOf content).contextId = some id) b
          (Dump.openRecord canonical id (attributesOf content) owner b) :=
        openRecord id (Nat.zero_lt_of_lt howner) howner
      refine ((hopen.trans (addMembers_of (fun m hm _ _ hlt => ih m hm hlt)
        (defaultAccess (attributesOf content)) (next_lt_openRecord id))).trans_false
        (setAccess _ _ access)).congr fun _ => ?_
      simp only [if_true, List.mem_cons, or_and_right, exists_or, exists_eq_left]
      rfl

theorem addMembers (access : Access) (howner : owner < b.next) :
    Continues (∃ k ∈ nestedRecords nodes, NamesItself k) b
      (addMembers canonical owner recordName access nodes b) :=
  addMembers_of (fun _ _ _ _ => addMember) access howner

theorem addScoped_of (h : ∀ n ∈ nodes, ∀ b : Builder, parent < b.next →
      Continues (∃ k ∈ scopedRecordsFrom n, NamesItself k) b (addScopedOne canonical parent n b))
    (hparent : parent < b.next) :
    Continues (∃ k ∈ scopedRecords nodes, NamesItself k) b
      (addScoped canonical parent nodes b) := by
  rw [addScoped_eq_foldl, scopedRecords_eq, exists_mem_flatMap_iff]
  exact foldl id _ b h hparent

/-- **A node at namespace scope continues the builder in order**, and adds a circle just if a record
in it names itself. -/
theorem addScopedOne (hparent : parent < b.next) :
    Continues (∃ k ∈ scopedRecordsFrom n, NamesItself k) b
      (addScopedOne canonical parent n b) := by
  induction n using Node.inductionOn generalizing parent b with
  | mk id content inner ih =>
    have hpos : 0 < b.next := Nat.zero_lt_of_lt hparent
    cases content with
    | compound | other =>
      exact (refl b).congr fun _ => by simp [scopedRecordsFrom, recordsFrom]
    | decl sort a =>
      cases sort with
      | fieldDecl | accessSpecDecl | parameterDecl =>
        exact (refl b).congr fun _ => by simp [scopedRecordsFrom, recordsFrom]
      | namespaceDecl =>
        have hpush : Continues False b (b.push parent (declOf canonical .namespaceScope a)) :=
          push hparent (fresh_declOf (by simp) a)
        have hopen : Continues False b
            ((b.push parent (declOf canonical .namespaceScope a)).register id b.next) :=
          hpush.trans_false (register id next_lt_push)
        rw [Dump.addScopedOne, scopedRecordsFrom]
        exact (hopen.trans (addScoped_of (fun m hm _ hlt => ih m hm hlt) next_lt_push)).congr
          fun _ => by rw [false_or]
      | recordDecl =>
        rw [Dump.addScopedOne]
        refine (((openRecord id hpos hparent).trans
          (addMembers (defaultAccess a) (next_lt_openRecord id))).leftOut _).congr fun _ => ?_
        simp only [scopedRecordsFrom, recordsFrom]
        cases a.implicit || a.isUnion with
        | true => simp
        | false =>
          simp only [Bool.false_eq_true, if_false, true_and, List.mem_cons, or_and_right, exists_or,
            exists_eq_left]
          rfl
      | functionDecl =>
        rw [Dump.addScopedOne]
        exact ((scopedFunction hpos hparent).leftOut a.implicit).congr fun _ => by
          simp [scopedRecordsFrom, recordsFrom]
      | constructorDecl | methodDecl =>
        rw [Dump.addScopedOne]
        exact ((addFunction (by simp) hparent).leftOut a.implicit).congr fun _ => by
          simp [scopedRecordsFrom, recordsFrom]
      | enumDecl | typedefDecl | typeAliasDecl =>
        rw [Dump.addScopedOne]
        exact ((push hparent (fresh_declOf (by simp) a)).leftOut a.implicit).congr fun _ => by
          simp [scopedRecordsFrom, recordsFrom]

/-- **The walk through a whole unit.** -/
theorem unit (canonical : Path → Path) (root : Node) :
    Continues (∃ k ∈ unitRecords root, NamesItself k) .start
      (addScoped canonical 0 root.inner .start) :=
  addScoped_of (fun _ _ _ => addScopedOne) inOrder_start.nonempty

end Continues

/-! ## 7. The scopes of a unit -/

theorem inOrder_unit (canonical : Path → Path) (root : Node) :
    (addScoped canonical 0 root.inner .start).InOrder :=
  (Continues.unit canonical root).inOrder inOrder_start

theorem circular_unit_iff (canonical : Path → Path) (root : Node) :
    (addScoped canonical 0 root.inner .start).Circular ↔ ∃ k ∈ unitRecords root, NamesItself k := by
  rw [(Continues.unit canonical root).circular_iff inOrder_start, or_iff_right not_circular_start]

/-- **Every declaration of a unit belongs to a scope that is not after it.** -/
theorem exists_scope_le (canonical : Path → Path) (root : Node) {i : Nat} (hpos : 0 < i)
    (hi : i < (toTree canonical root).size) :
    ∃ scope, (toTree canonical root).semanticParent? i = some scope ∧ scope ≤ i := by
  obtain ⟨-, ⟨p, hparent, hlt⟩, hcontext⟩ := (inOrder_unit canonical root).placed i hpos hi
  cases hscope : ((toTree canonical root).get i).context with
  | none => exact ⟨p, by rw [semanticParent?, hscope]; exact hparent, Nat.le_of_lt hlt⟩
  | some scope => exact ⟨scope, by rw [semanticParent?, hscope]; rfl, hcontext scope hscope⟩

/-- The translation unit belongs to no scope. -/
theorem semanticParent?_root (canonical : Path → Path) (root : Node) :
    (toTree canonical root).semanticParent? 0 = none :=
  (inOrder_unit canonical root).root

/-- A declaration belongs to itself only through its recorded scope. -/
theorem semanticParent?_self_iff (canonical : Path → Path) (root : Node) {i : Nat}
    (hi : i < (toTree canonical root).size) :
    (toTree canonical root).semanticParent? i = some i ↔
      ((toTree canonical root).get i).context = some i := by
  refine ⟨fun h => ?_, fun h => by rw [semanticParent?, h]; rfl⟩
  rcases Nat.eq_zero_or_pos i with rfl | hpos
  · exact absurd ((semanticParent?_root canonical root).symm.trans h) (by simp)
  · obtain ⟨-, ⟨p, hparent, hlt⟩, -⟩ := (inOrder_unit canonical root).placed i hpos hi
    cases hcontext : ((toTree canonical root).get i).context with
    | none =>
      have hp : (toTree canonical root).semanticParent? i = some p := by
        rw [semanticParent?, hcontext]
        exact hparent
      exact absurd (Option.some.inj (hp.symm.trans h)) (Nat.ne_of_lt hlt)
    | some scope => rwa [semanticParent?, hcontext] at h

/-- **Some declaration belongs to itself just if a record names itself.** -/
theorem exists_semanticParent?_self_iff (canonical : Path → Path) (root : Node) :
    (∃ i < (toTree canonical root).size, (toTree canonical root).semanticParent? i = some i) ↔
      ∃ k ∈ unitRecords root, NamesItself k := by
  rw [← circular_unit_iff canonical root]
  exact exists_congr fun i => and_congr_right fun hi => semanticParent?_self_iff canonical root hi

/-- No way outwards from a declaration that belongs to itself ends. -/
theorem not_scopeChain_of_self {t : DeclTree} {i : Nat} {scopes : List Nat}
    (h : t.semanticParent? i = some i) (hkind : (t.get i).kind ≠ .translationUnit) :
    ¬ t.ScopeChain i scopes := by
  intro hchain
  have hlength := congrArg List.length (hchain.unique (.scope h hkind hchain))
  simp at hlength

/-- **Scopes come first, and names come to an end, unless a record names itself.**  No declaration
of a unit comes before the scope that it belongs to.  Scopes come strictly before what belongs to
them just if no record that is taken over gives its own identity as that of its scope, and just then
each declaration has a full name. -/
theorem scopes_precede_iff (canonical : Path → Path) (root : Node) :
    let t := toTree canonical root
    (∀ i, 0 < i → i < t.size → ∃ scope, t.semanticParent? i = some scope ∧ scope ≤ i) ∧
    ((∀ i, 0 < i → i < t.size → ∃ scope, t.semanticParent? i = some scope ∧ scope < i) ↔
      ∀ k ∈ unitRecords root, ¬ NamesItself k) ∧
    ((∀ i < t.size, t.fullName? i = some (t.qualifiedName i)) ↔
      ∀ k ∈ unitRecords root, ¬ NamesItself k) := by
  intro t
  have hle : ∀ i, 0 < i → i < t.size → ∃ scope, t.semanticParent? i = some scope ∧ scope ≤ i :=
    fun i => exists_scope_le canonical root
  have hself : (∀ i < t.size, t.semanticParent? i ≠ some i) ↔
      ∀ k ∈ unitRecords root, ¬ NamesItself k := by
    simpa using (exists_semanticParent?_self_iff canonical root).not
  have hlt : (∀ i < t.size, t.semanticParent? i ≠ some i) → ∀ i, 0 < i → i < t.size →
      ∃ scope, t.semanticParent? i = some scope ∧ scope < i := by
    intro hne i hpos hi
    obtain ⟨scope, hscope, hscope_le⟩ := hle i hpos hi
    exact ⟨scope, hscope, Nat.lt_of_le_of_ne hscope_le (by rintro rfl; exact hne scope hi hscope)⟩
  refine ⟨hle, ⟨fun h => hself.mp fun i hi hi_self => ?_, fun h => hlt (hself.mpr h)⟩,
    ⟨fun h => hself.mp fun i hi hi_self => ?_, fun h i hi => ?_⟩⟩
  · rcases Nat.eq_zero_or_pos i with rfl | hpos
    · exact absurd ((semanticParent?_root canonical root).symm.trans hi_self) (by simp)
    · obtain ⟨scope, hscope, hscope_lt⟩ := h i hpos hi
      exact Nat.ne_of_lt hscope_lt (Option.some.inj (hscope.symm.trans hi_self))
  · rcases Nat.eq_zero_or_pos i with rfl | hpos
    · exact absurd ((semanticParent?_root canonical root).symm.trans hi_self) (by simp)
    · obtain ⟨-, scopes, hscopes⟩ := fullName?_eq_some_iff.mp (h i hi)
      exact not_scopeChain_of_self hi_self ((inOrder_unit canonical root).placed i hpos hi).kind
        hscopes
  · have hends : t.ScopesEnd := scopesEnd_of_lt fun i hi scope hscope => by
      rcases Nat.eq_zero_or_pos i with rfl | hpos
      · exact absurd ((semanticParent?_root canonical root).symm.trans hscope) (by simp)
      · obtain ⟨scope', hscope', hscope_lt⟩ := hlt (hself.mpr h) i hpos hi
        obtain rfl := Option.some.inj (hscope'.symm.trans hscope)
        exact hscope_lt
    exact fullName?_eq_some_iff.mpr ⟨rfl, hends i⟩

/-- What a structure says that gives its own identity, `0x10`, as that of its scope. -/
def loopAttributes : Attributes :=
  { name := some "Loop", tagUsed := some "struct", contextId := some 16 }

/-- A unit with such a structure. -/
def loopUnit : Node :=
  .mk 0 (.other "TranslationUnitDecl" none) [.mk 16 (.decl .recordDecl loopAttributes) []]

/-- The dump of the unit. -/
def loopDump : Json :=
  .record [("kind", .text "TranslationUnitDecl"), ("inner", .array [.record [
    ("id", .text "0x10"), ("kind", .text "CXXRecordDecl"), ("parentDeclContextId", .text "0x10"),
    ("name", .text "Loop"), ("tagUsed", .text "struct")]])]

/-- **A structure that names itself belongs to itself, and has no full name.**  The dump is read,
but no scope comes before the structure, and the way outwards from it does not end. -/
theorem loopDump_unnamed :
    Reads loopDump loopUnit ∧ 1 < (toTree id loopUnit).size ∧
    (¬ ∃ scope, (toTree id loopUnit).semanticParent? 1 = some scope ∧ scope < 1) ∧
    (∀ scopes, ¬ (toTree id loopUnit).ScopeChain 1 scopes) ∧
    (toTree id loopUnit).fullName? 1 = none := by
  have hself : (toTree id loopUnit).semanticParent? 1 = some 1 := by decide +kernel
  have hchain : ∀ scopes, ¬ (toTree id loopUnit).ScopeChain 1 scopes := fun _ =>
    not_scopeChain_of_self hself (by decide +kernel)
  refine ⟨⟨Reader.depthLimit, .start, .start, by rfl⟩, by decide +kernel, ?_, hchain, ?_⟩
  · rintro ⟨scope, hscope, hlt⟩
    obtain rfl := Option.some.inj (hself.symm.trans hscope)
    exact Nat.lt_irrefl 1 hlt
  · refine Option.eq_none_iff_forall_ne_some.mpr fun name hname => ?_
    obtain ⟨-, scopes, hscopes⟩ := fullName?_eq_some_iff.mp hname
    exact hchain scopes hscopes

end Dump

end CppSurface
