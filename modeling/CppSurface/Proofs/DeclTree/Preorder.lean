import CppSurface.Proofs.DeclTree.Scope
import Mathlib.Data.List.Pairwise
import Mathlib.Data.List.Perm.Basic
import Mathlib.Logic.Relation

/-!
# The order of the walk

The declarations at namespace scope are listed by a walk through the namespaces.  Their indices do
not tell the order: a namespace may get children after its later siblings have been declared.  What
the order is can be said without the walk.  One declaration stands before another when some scope
has two children, the earlier of which holds the one, and the later of which holds the other
(`Precedes`).  The walk lists in this order (`scopeMembers_pairwise`).

Nothing else is in this order and holds the same declarations (`eq_of_precedes`).  For this the
order has to be one: what is before cannot also be after (`precedes_asymm`).  Of two scopes in which
two declarations part ways, one holds the other, unless they are the same; and then both
declarations lie below one child of it, and do not part ways there.
-/

namespace CppSurface

namespace DeclTree

variable {t : DeclTree} {scope c d i j : Nat}

/-! ## 1. What a declaration holds -/

/-- A declaration holds itself, its children, their children and so on. -/
def Holds (t : DeclTree) : Nat → Nat → Prop := Relation.ReflTransGen fun p i => i ∈ t.children p

theorem Holds.le (h : t.Holds c i) : c ≤ i := by
  induction h with
  | refl => exact Nat.le_refl c
  | tail _ hchild ih => exact Nat.le_trans ih (Nat.le_of_lt (mem_children.mp hchild).2.1)

/-- What stands in a scope is held by it. -/
theorem ScopedIn.holds (h : t.ScopedIn c i) : t.Holds c i := by
  induction h with
  | child hid => exact .single hid
  | inside _ _ hid ih => exact ih.tail hid

/-- **Of two declarations that hold a third, one holds the other.**  The induction goes up from the
third to its parent, which both of them hold as well. -/
theorem Holds.comparable (hc : t.Holds c i) (hd : t.Holds d i) : t.Holds c d ∨ t.Holds d c := by
  induction hc with
  | refl => exact Or.inr hd
  | @tail p i hcp hchild ih =>
    rcases Relation.ReflTransGen.cases_tail hd with rfl | ⟨p', hdp, hchild'⟩
    · exact Or.inl (hcp.tail hchild)
    · obtain rfl := parent_unique hchild hchild'
      exact ih hdp

/-- A child of a scope does not hold another. -/
theorem Holds.eq_of_children (hc : c ∈ t.children scope) (hd : d ∈ t.children scope)
    (h : t.Holds c d) : c = d := by
  rcases Relation.ReflTransGen.cases_tail h with rfl | ⟨p, hcp, hchild⟩
  · rfl
  · obtain rfl := parent_unique hchild hd
    have hle := Holds.le hcp
    have hlt := (mem_children.mp hc).2.1
    omega

/-- **What one child of a scope holds no other child of it does.** -/
theorem Holds.child_unique (hc : c ∈ t.children scope) (hd : d ∈ t.children scope)
    (hci : t.Holds c i) (hdi : t.Holds d i) : c = d := by
  rcases hci.comparable hdi with h | h
  · exact h.eq_of_children hc hd
  · exact (h.eq_of_children hd hc).symm

/-! ## 2. Before and after -/

/-- **A declaration stands before another**: they are held by two children of one scope, of which
the first is the earlier one.  This is the pre-order of declarations that do not hold each other. -/
def Precedes (t : DeclTree) (i j : Nat) : Prop :=
  ∃ scope c d, [c, d].Sublist (t.children scope) ∧ t.Holds c i ∧ t.Holds d j

/-- Earlier children have smaller indices. -/
theorem lt_of_sublist_children (h : [c, d].Sublist (t.children scope)) :
    c ∈ t.children scope ∧ d ∈ t.children scope ∧ c < d := by
  have hsorted : (t.children scope).Pairwise (· < ·) := List.pairwise_lt_range.filter _
  exact ⟨h.subset (by simp), h.subset (by simp), List.pairwise_iff_forall_sublist.mp hsorted h⟩

/-- What strictly holds a child of a scope also holds what its siblings hold. -/
theorem Holds.of_sibling {c' : Nat} (h : t.Holds c d) (hne : c ≠ d) (hd : d ∈ t.children scope)
    (hc' : c' ∈ t.children scope) (hj : t.Holds c' j) : t.Holds c j := by
  rcases Relation.ReflTransGen.cases_tail h with rfl | ⟨p, hcp, hchild⟩
  · exact absurd rfl hne
  · obtain rfl := parent_unique hchild hd
    exact (hcp.tail hc').trans hj

/-- **What stands before does not also stand after.**  The first declaration is held by `c` and by
`d'`, one of which holds the other.  If they are the same, the two scopes are, and their children
come in both orders; and if not, the outer one holds the second declaration too, next to its own
sibling. -/
theorem precedes_asymm (h : t.Precedes i j) : ¬ t.Precedes j i := by
  obtain ⟨scope, c, d, hcd, hci, hdj⟩ := h
  rintro ⟨scope', c', d', hcd', hcj', hdi'⟩
  obtain ⟨hc, hd, hlt⟩ := lt_of_sublist_children hcd
  obtain ⟨hc', hd', hlt'⟩ := lt_of_sublist_children hcd'
  by_cases heq : c = d'
  · subst heq
    obtain rfl := parent_unique hc hd'
    have := Holds.child_unique hd hc' hdj hcj'
    omega
  · rcases hci.comparable hdi' with hholds | hholds
    · have := Holds.child_unique hc hd (hholds.of_sibling heq hd' hc' hcj') hdj
      omega
    · have := Holds.child_unique hd' hc' (hholds.of_sibling (Ne.symm heq) hc hd hdj) hcj'
      omega

variable {l l' : List Nat}

/-- A list in this order holds nothing twice. -/
theorem nodup_of_precedes (h : l.Pairwise t.Precedes) : l.Nodup := by
  refine h.imp ?_
  rintro i _ hij rfl
  exact precedes_asymm hij hij

/-- **A list in this order is determined by what it holds.** -/
theorem eq_of_precedes (h : l.Pairwise t.Precedes) (h' : l'.Pairwise t.Precedes)
    (hmem : ∀ id, id ∈ l ↔ id ∈ l') : l = l' := by
  have hperm : l.Perm l' :=
    (List.perm_ext_iff_of_nodup (nodup_of_precedes h) (nodup_of_precedes h')).mpr hmem
  exact hperm.eq_of_pairwise (fun i j _ _ hij hji => absurd hji (precedes_asymm hij)) h h'

/-! ## 3. The walk -/

/-- **The walk lists declarations in their order.** -/
theorem scopeMembers_pairwise (t : DeclTree) (root : Nat) :
    (t.scopeMembers root).Pairwise t.Precedes := by
  induction root using scopeMembers.induct t with
  | _ root ih =>
    have hholds : ∀ c i, i ∈ (if (t.get c).kind == .namespaceScope then t.scopeMembers c else [c]) →
        t.Holds c i := by
      intro c i hi
      split at hi
      · exact (mem_scopeMembers.mp hi).1.holds
      · rw [List.mem_singleton.mp hi]
        exact .refl
    rw [scopeMembers_eq, List.pairwise_flatMap]
    refine ⟨fun c hc => ?_, List.pairwise_iff_forall_sublist.mpr fun {c d} hcd => ?_⟩
    · split
      · exact ih c hc
      · exact List.pairwise_singleton _ c
    · exact fun i hi j hj => ⟨root, c, d, hcd, hholds c i hi, hholds d j hj⟩

end DeclTree

end CppSurface
