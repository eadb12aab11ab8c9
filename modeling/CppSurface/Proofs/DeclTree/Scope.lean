import CppSurface.Verdict

/-!
# What stands at namespace scope

`DeclTree.members` walks through namespaces and lists what it meets.  Here the same declarations
are described without the walk: a declaration stands at namespace scope when its parent is the
translation unit, or a namespace that stands there itself (`ScopedIn`).  The walk meets just these
(`mem_scopeMembers`).
-/

namespace CppSurface

namespace DeclTree

variable {t : DeclTree} {root scope id : Nat}

/-! ## 1. Scopes -/

/-- **A declaration stands in the scope of `root`**: as its child, or as the child of a namespace
that stands there. -/
inductive ScopedIn (t : DeclTree) (root : Nat) : Nat → Prop
  | child {id : Nat} : id ∈ t.children root → ScopedIn t root id
  | inside {scope id : Nat} : ScopedIn t root scope →
      (t.get scope).kind = .namespaceScope → id ∈ t.children scope → ScopedIn t root id

/-- Scopes nest. -/
theorem ScopedIn.trans (hroot : t.ScopedIn root scope)
    (hkind : (t.get scope).kind = .namespaceScope) (h : t.ScopedIn scope id) :
    t.ScopedIn root id := by
  induction h with
  | child hid => exact .inside hroot hkind hid
  | inside _ hk hid ih => exact .inside ih hk hid

/-- A declaration is the child of one other. -/
theorem parent_unique {p p' : Nat} (h : id ∈ t.children p) (h' : id ∈ t.children p') : p = p' :=
  Option.some.inj ((mem_children.mp h).2.2.symm.trans (mem_children.mp h').2.2)

/-! ## 2. The walk -/

/-- What one child adds to the walk. -/
theorem mem_scopeMembers_iff_exists :
    id ∈ t.scopeMembers root ↔ ∃ c ∈ t.children root,
      ((t.get c).kind = .namespaceScope ∧ id ∈ t.scopeMembers c) ∨
        ((t.get c).kind ≠ .namespaceScope ∧ id = c) := by
  rw [scopeMembers_eq, List.mem_flatMap]
  refine exists_congr fun c => and_congr_right fun _ => ?_
  by_cases hk : (t.get c).kind = .namespaceScope <;> simp [hk]

/-- The walk through a namespace is part of the walk through any scope that it stands in. -/
theorem ScopedIn.scopeMembers_subset (h : t.ScopedIn root scope)
    (hkind : (t.get scope).kind = .namespaceScope) :
    t.scopeMembers scope ⊆ t.scopeMembers root := by
  induction h with
  | child hc =>
    exact fun id hid => mem_scopeMembers_iff_exists.mpr ⟨_, hc, Or.inl ⟨hkind, hid⟩⟩
  | inside _ hk hc ih =>
    refine fun id hid => ih hk ?_
    exact mem_scopeMembers_iff_exists.mpr ⟨_, hc, Or.inl ⟨hkind, hid⟩⟩

/-- What the walk lists stands in the scope. -/
theorem scopedIn_of_mem_scopeMembers (h : id ∈ t.scopeMembers root) :
    t.ScopedIn root id ∧ (t.get id).kind ≠ .namespaceScope := by
  induction root using scopeMembers.induct t with
  | _ root ih =>
    obtain ⟨c, hc, ⟨hk, hid⟩ | ⟨hk, rfl⟩⟩ := mem_scopeMembers_iff_exists.mp h
    · obtain ⟨hin, hid⟩ := ih c hc hid
      exact ⟨ScopedIn.trans (.child hc) hk hin, hid⟩
    · exact ⟨.child hc, hk⟩

/-- **The walk lists what stands in the scope and is no namespace.** -/
theorem mem_scopeMembers :
    id ∈ t.scopeMembers root ↔ t.ScopedIn root id ∧ (t.get id).kind ≠ .namespaceScope := by
  refine ⟨scopedIn_of_mem_scopeMembers, ?_⟩
  rintro ⟨h, hid⟩
  cases h with
  | child hc => exact mem_scopeMembers_iff_exists.mpr ⟨id, hc, Or.inr ⟨hid, rfl⟩⟩
  | inside hscope hk hc =>
    refine hscope.scopeMembers_subset hk ?_
    exact mem_scopeMembers_iff_exists.mpr ⟨id, hc, Or.inr ⟨hid, rfl⟩⟩

/-! ## 3. The records of a unit -/

end DeclTree

end CppSurface
