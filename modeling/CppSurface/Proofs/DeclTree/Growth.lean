import CppSurface.DeclTree

/-!
# Trees that grow

A declaration is added below another one, and then more are added below it, before the next
sibling comes.  So while a tree is built, declarations of many levels follow each other, and which
of them become children of a given one is not a matter of where they stand in the order.

What matters is below what a stretch of declarations is added.  `GrowsBelow` says that all of it
goes below one declaration, possibly through others that are new themselves.  `AddsChild` says that
the stretch begins with a child of that declaration, and that the rest of it goes below this child;
then the children are one more than before (`AddsChild.children_eq`).

From the other side, a declaration is done with when whatever comes later goes below an earlier one
(`Completed`).  From then on it keeps its children.  Both together say where a child that was added
among others is found in the end (`Completed.child`).
-/

namespace CppSurface

namespace DeclTree

variable {t t' t'' : DeclTree} {scope head i id : Nat} {d : Decl}

/-! ## 1. Changing one declaration -/

@[simp] theorem size_modify (t : DeclTree) (id : Nat) (f : Decl → Decl) :
    (t.modify id f).size = t.size := by
  simp [size, modify]

theorem get_modify_of_ne (f : Decl → Decl) (h : i ≠ id) : (t.modify id f).get i = t.get i := by
  simp [get, modify, Array.getElem?_modify, Ne.symm h]

theorem get_modify_self (f : Decl → Decl) (h : id < t.size) :
    (t.modify id f).get id = f (t.get id) := by
  have h' : id < t.decls.size := h
  simp [get, modify, h', Array.getElem_modify]

/-! ## 2. The children in a longer tree -/

/-- The children in a tree that another one begins with, and those that come after it. -/
theorem children_eq_append (hsize : t.size ≤ t'.size)
    (hparent : ∀ j, id < j → j < t.size → (t'.get j).parent = (t.get j).parent) :
    t'.children id = t.children id ++ (List.range' t.size (t'.size - t.size)).filter
      fun j => decide (id < j) && (t'.get j).parent == some id := by
  have hrange : List.range t'.size =
      List.range t.size ++ List.range' t.size (t'.size - t.size) := by
    have happend := @List.range'_append_1 0 t.size (t'.size - t.size)
    rw [Nat.zero_add, Nat.add_sub_cancel' hsize] at happend
    rw [List.range_eq_range', List.range_eq_range', happend]
  unfold children
  rw [hrange, List.filter_append]
  congr 1
  refine List.filter_congr fun j hj => ?_
  by_cases hlt : id < j
  · rw [hparent j hlt (List.mem_range.mp hj)]
  · simp [hlt]

/-- A declaration has no new child where nothing is added below it. -/
theorem children_eq_of_parent_ne (hsize : t.size ≤ t'.size)
    (hparent : ∀ j, id < j → j < t.size → (t'.get j).parent = (t.get j).parent)
    (hnew : ∀ j, t.size ≤ j → j < t'.size → (t'.get j).parent ≠ some id) :
    t'.children id = t.children id := by
  rw [children_eq_append hsize hparent, List.filter_eq_nil_iff.mpr, List.append_nil]
  intro j hj
  obtain ⟨hle, hlt⟩ := List.mem_range'_1.mp hj
  have := hnew j hle (by omega)
  simp [this]

/-- What is not in the tree has no children in it. -/
theorem children_eq_nil (h : t.size ≤ id + 1) : t.children id = [] := by
  refine List.filter_eq_nil_iff.mpr fun j hj => ?_
  have hlt := List.mem_range.mp hj
  have : ¬ id < j := by omega
  simp [this]

/-! ## 3. Growing below a declaration -/

/-- **A tree has grown below `scope`.**  The old declarations are as they were, and each new one
stands below `scope` or below another new one. -/
structure GrowsBelow (scope : Nat) (t t' : DeclTree) : Prop where
  size_le : t.size ≤ t'.size
  get_eq : ∀ j < t.size, t'.get j = t.get j
  parent : ∀ j, t.size ≤ j → j < t'.size →
    ∃ p, (t'.get j).parent = some p ∧ (p = scope ∨ t.size ≤ p)

namespace GrowsBelow

theorem refl (scope : Nat) (t : DeclTree) : GrowsBelow scope t t :=
  ⟨Nat.le_refl _, fun _ _ => rfl, fun _ hle hlt => absurd hlt (Nat.not_lt.mpr hle)⟩

theorem trans (h : GrowsBelow scope t t') (h' : GrowsBelow scope t' t'') :
    GrowsBelow scope t t'' where
  size_le := Nat.le_trans h.size_le h'.size_le
  get_eq j hj := (h'.get_eq j (Nat.lt_of_lt_of_le hj h.size_le)).trans (h.get_eq j hj)
  parent j hle hlt := by
    rcases Nat.lt_or_ge j t'.size with hj | hj
    · rw [h'.get_eq j hj]
      exact h.parent j hle hj
    · obtain ⟨p, hp, hscope | hnew⟩ := h'.parent j hj hlt
      · exact ⟨p, hp, Or.inl hscope⟩
      · exact ⟨p, hp, Or.inr (Nat.le_trans h.size_le hnew)⟩

end GrowsBelow

/-! ## 4. Adding a child -/

/-- **A child has been added to `scope`, with what stands below it.**  The child is the first of the
new declarations, and each of the others stands below a new one. -/
structure AddsChild (scope : Nat) (t t' : DeclTree) : Prop where
  size_lt : t.size < t'.size
  get_eq : ∀ j < t.size, t'.get j = t.get j
  head : (t'.get t.size).parent = some scope
  parent : ∀ j, t.size < j → j < t'.size → ∃ p, (t'.get j).parent = some p ∧ t.size ≤ p

namespace AddsChild

theorem push (scope : Nat) (t : DeclTree) (d : Decl) : AddsChild scope t (t.push scope d) where
  size_lt := by rw [size_push]; exact Nat.lt_succ_self _
  get_eq _ hj := get_push_of_lt hj
  head := by rw [get_push_size]
  parent j hlt hle := by rw [size_push] at hle; omega

/-- What goes below the child goes with it. -/
theorem below (h : AddsChild scope t t') (h' : GrowsBelow t.size t' t'') :
    AddsChild scope t t'' where
  size_lt := Nat.lt_of_lt_of_le h.size_lt h'.size_le
  get_eq j hj := (h'.get_eq j (Nat.lt_trans hj h.size_lt)).trans (h.get_eq j hj)
  head := by rw [h'.get_eq _ h.size_lt]; exact h.head
  parent j hlt hle := by
    rcases Nat.lt_or_ge j t'.size with hj | hj
    · rw [h'.get_eq j hj]
      exact h.parent j hlt hj
    · obtain ⟨p, hp, hcases⟩ := h'.parent j hj hle
      have := h.size_lt
      exact ⟨p, hp, by omega⟩

/-- The child may be changed later, except for its parent. -/
theorem modify (h : AddsChild scope t t') {f : Decl → Decl} (hf : ∀ d, (f d).parent = d.parent) :
    AddsChild scope t (t'.modify t.size f) where
  size_lt := by rw [size_modify]; exact h.size_lt
  get_eq j hj := by
    rw [get_modify_of_ne f (Nat.ne_of_lt hj)]
    exact h.get_eq j hj
  head := by rw [get_modify_self f h.size_lt, hf]; exact h.head
  parent j hlt hle := by
    rw [size_modify] at hle
    rw [get_modify_of_ne f (Nat.ne_of_gt hlt)]
    exact h.parent j hlt hle

theorem growsBelow (h : AddsChild scope t t') : GrowsBelow scope t t' where
  size_le := Nat.le_of_lt h.size_lt
  get_eq := h.get_eq
  parent j hle hlt := by
    rcases Nat.eq_or_lt_of_le hle with rfl | hgt
    · exact ⟨scope, h.head, Or.inl rfl⟩
    · obtain ⟨p, hp, hnew⟩ := h.parent j hgt hlt
      exact ⟨p, hp, Or.inr hnew⟩

/-- **The children are one more than before.** -/
theorem children_eq (h : AddsChild scope t t') (hscope : scope < t.size) :
    t'.children scope = t.children scope ++ [t.size] := by
  rw [children_eq_append (Nat.le_of_lt h.size_lt) fun j _ hj => by rw [h.get_eq j hj]]
  congr 1
  have hpos : t'.size - t.size = (t'.size - t.size - 1) + 1 := by
    have := h.size_lt
    omega
  rw [hpos, List.range'_succ, List.filter_cons_of_pos (by simp [hscope, h.head]),
    List.filter_eq_nil_iff.mpr]
  intro j hj
  obtain ⟨hle, hlt⟩ := List.mem_range'_1.mp hj
  obtain ⟨p, hp, hnew⟩ := h.parent j (by omega) (by omega)
  have hne : p ≠ scope := by omega
  simp [hp, hne]

end AddsChild

/-! ## 5. Adding several children -/

/-- **Children have been added to `scope` one after the other**, each with what stands below it.
Their indices are listed. -/
inductive AddsChildren (scope : Nat) : List Nat → DeclTree → DeclTree → Prop
  | nil (t : DeclTree) : AddsChildren scope [] t t
  | cons {ids : List Nat} {t t' t'' : DeclTree} : AddsChild scope t t' →
      AddsChildren scope ids t' t'' → AddsChildren scope (t.size :: ids) t t''

namespace AddsChildren

variable {ids : List Nat}

theorem growsBelow (h : AddsChildren scope ids t t') : GrowsBelow scope t t' := by
  induction h with
  | nil t => exact .refl scope t
  | cons hchild _ ih => exact hchild.growsBelow.trans ih

/-- **The children are those that were there and those that were added.** -/
theorem children_eq (h : AddsChildren scope ids t t') (hscope : scope < t.size) :
    t'.children scope = t.children scope ++ ids := by
  induction h with
  | nil t => rw [List.append_nil]
  | cons hchild _ ih =>
    rw [ih (Nat.lt_trans hscope hchild.size_lt), hchild.children_eq hscope, List.append_assoc,
      List.singleton_append]

theorem foldl_push (scope : Nat) (ds : List Decl) (t : DeclTree) :
    AddsChildren scope (List.range' t.size ds.length) t
      (ds.foldl (fun t d => t.push scope d) t) := by
  induction ds generalizing t with
  | nil => exact .nil t
  | cons d ds ih =>
    have hrest := ih (t.push scope d)
    rw [size_push] at hrest
    rw [List.length_cons, List.range'_succ]
    exact .cons (AddsChild.push scope t d) hrest

/-- **A walk over a list adds a child for each element that is taken over**, if every step does what
it should: of the elements that are left out none changes the tree. -/
theorem foldl {σ α : Type} (tree : σ → DeclTree) {step : σ → α → σ} {taken : α → Bool}
    {xs : List α} (hskip : ∀ x ∈ xs, ∀ s, taken x = false → tree (step s x) = tree s)
    (hadd : ∀ x ∈ xs, ∀ s, taken x = true → AddsChild scope (tree s) (tree (step s x))) (s : σ) :
    ∃ ids, AddsChildren scope ids (tree s) (tree (xs.foldl step s)) ∧
      ids.length = (xs.filter taken).length := by
  induction xs generalizing s with
  | nil => exact ⟨[], .nil (tree s), rfl⟩
  | cons x xs ih =>
    obtain ⟨hskipx, hskip⟩ := List.forall_mem_cons.mp hskip
    obtain ⟨haddx, hadd⟩ := List.forall_mem_cons.mp hadd
    obtain ⟨ids, hids, hlength⟩ := ih hskip hadd (step s x)
    rw [List.foldl_cons]
    cases htaken : taken x with
    | false =>
      rw [List.filter_cons_of_neg (by simp [htaken])]
      rw [hskipx s htaken] at hids
      exact ⟨ids, hids, hlength⟩
    | true =>
      rw [List.filter_cons_of_pos htaken, List.length_cons]
      exact ⟨(tree s).size :: ids, .cons (haddx s htaken) hids, by rw [List.length_cons, hlength]⟩

end AddsChildren

theorem get_foldl_push {ds : List Decl} {k : Nat} (h : ds[k]? = some d) (scope : Nat)
    (t : DeclTree) : (ds.foldl (fun t d => t.push scope d) t).get (t.size + k) =
      { d with parent := some scope } := by
  induction ds generalizing t k with
  | nil => exact absurd h (by simp)
  | cons d' ds ih =>
    rw [List.foldl_cons]
    cases k with
    | zero =>
      obtain rfl : d' = d := by simpa using h
      have hlt : t.size < (t.push scope d').size := by simp
      rw [Nat.add_zero, (AddsChildren.foldl_push scope ds _).growsBelow.get_eq _ hlt, get_push_size]
    | succ k =>
      have hget := ih (k := k) (by simpa using h) (t.push scope d')
      rw [size_push] at hget
      rw [← hget]
      congr 1
      omega

/-- Declarations that are added one after the other to one that had none are its children. -/
theorem map_get_children_foldl_push (ds : List Decl) (hscope : scope < t.size)
    (hnil : t.children scope = []) :
    ((ds.foldl (fun t d => t.push scope d) t).children scope).map
        (ds.foldl (fun t d => t.push scope d) t).get =
      ds.map fun d => { d with parent := some scope } := by
  rw [(AddsChildren.foldl_push scope ds t).children_eq hscope, hnil, List.nil_append]
  refine List.ext_getElem? fun k => ?_
  rw [List.getElem?_map, List.getElem?_map]
  cases hk : ds[k]? with
  | none =>
    have hlen : ds.length ≤ k := List.getElem?_eq_none_iff.mp hk
    rw [List.getElem?_eq_none (by rwa [List.length_range'])]
    rfl
  | some d =>
    have hlt : k < ds.length := (List.getElem?_eq_some_iff.mp hk).1
    rw [List.getElem?_range' hlt, Option.map_some, Option.map_some, Nat.one_mul,
      get_foldl_push hk scope t]

/-! ## 6. Declarations that are done with -/

/-- **What stands at and after `head` in `t` is done with** in the longer tree `t'`: it is as it
was, but for `head` itself, and whatever came later stands below an earlier declaration or below
another later one. -/
structure Completed (head : Nat) (t t' : DeclTree) : Prop where
  size_le : t.size ≤ t'.size
  get_eq : ∀ j, head < j → j < t.size → t'.get j = t.get j
  parent : ∀ j, t.size ≤ j → j < t'.size →
    ∃ p, (t'.get j).parent = some p ∧ (p < head ∨ t.size ≤ p)

namespace Completed

theorem refl (head : Nat) (t : DeclTree) : Completed head t t :=
  ⟨Nat.le_refl _, fun _ _ _ => rfl, fun _ hle hlt => absurd hlt (Nat.not_lt.mpr hle)⟩

/-- **It keeps its children.** -/
theorem children_eq (h : Completed head t t') (hle : head ≤ id) (hlt : id < t.size) :
    t'.children id = t.children id := by
  refine children_eq_of_parent_ne h.size_le ?_ ?_
  · intro j hj hjt
    rw [h.get_eq j (by omega) hjt]
  · intro j hj hjt hparent
    obtain ⟨p, hp, hcases⟩ := h.parent j hj hjt
    obtain rfl : p = id := Option.some.inj (hp.symm.trans hparent)
    omega

/-- The children of a declaration that is done with are as they were. -/
theorem map_get_children (h : Completed head t t') (hhead : head < t.size) :
    (t'.children head).map t'.get = (t.children head).map t.get := by
  rw [h.children_eq (Nat.le_refl head) hhead]
  refine List.map_congr_left fun j hj => ?_
  obtain ⟨hsize, hlt, -⟩ := mem_children.mp hj
  exact h.get_eq j hlt hsize

/-- A child is done with as soon as its siblings come: these go below its own parent. -/
theorem of_growsBelow (h : Completed scope t' t'') (hgrow : GrowsBelow scope t t')
    (hscope : scope < head) (hhead : head ≤ t.size) : Completed head t t'' where
  size_le := Nat.le_trans hgrow.size_le h.size_le
  get_eq j hj hlt := by
    rw [h.get_eq j (by omega) (Nat.lt_of_lt_of_le hlt hgrow.size_le)]
    exact hgrow.get_eq j hlt
  parent j hle hlt := by
    rcases Nat.lt_or_ge j t'.size with hj | hj
    · obtain ⟨p, hp, hcases⟩ := hgrow.parent j hle hj
      rw [h.get_eq j (by omega) hj]
      exact ⟨p, hp, by omega⟩
    · obtain ⟨p, hp, hcases⟩ := h.parent j hj hlt
      have := hgrow.size_le
      exact ⟨p, hp, by omega⟩

/-- A change to the declaration itself does not matter. -/
theorem of_modify {f : Decl → Decl} (h : Completed head (t.modify head f) t') :
    Completed head t t' where
  size_le := by simpa using h.size_le
  get_eq j hj hlt := by
    rw [h.get_eq j hj (by simpa using hlt)]
    exact get_modify_of_ne f (Nat.ne_of_gt hj)
  parent j hle hlt := by simpa using h.parent j (by simpa using hle) hlt

/-- **A child added among others is where its turn puts it, and is done with.** -/
theorem child {t₁ t₂ : DeclTree} {before after : List Nat} (h : Completed scope t' t'')
    (hbefore : AddsChildren scope before t t₁) (hchild : AddsChild scope t₁ t₂)
    (hafter : AddsChildren scope after t₂ t') (hscope : scope < t.size) :
    (t''.children scope)[(t.children scope).length + before.length]? = some t₁.size ∧
      t''.get t₁.size = t₂.get t₁.size ∧ Completed t₁.size t₂ t'' := by
  have hscope₁ : scope < t₁.size := Nat.lt_of_lt_of_le hscope hbefore.growsBelow.size_le
  have hscope₂ : scope < t₂.size := Nat.lt_trans hscope₁ hchild.size_lt
  have hscope' : scope < t'.size := Nat.lt_of_lt_of_le hscope₂ hafter.growsBelow.size_le
  refine ⟨?_, ?_, ?_⟩
  · rw [h.children_eq (Nat.le_refl _) hscope', hafter.children_eq hscope₂,
      hchild.children_eq hscope₁, hbefore.children_eq hscope]
    simp
  · have hlt : t₁.size < t'.size := Nat.lt_of_lt_of_le hchild.size_lt hafter.growsBelow.size_le
    rw [h.get_eq _ hscope₁ hlt, hafter.growsBelow.get_eq _ hchild.size_lt]
  · exact h.of_growsBelow hafter.growsBelow hscope₁ (Nat.le_of_lt hchild.size_lt)

end Completed

end DeclTree

end CppSurface
