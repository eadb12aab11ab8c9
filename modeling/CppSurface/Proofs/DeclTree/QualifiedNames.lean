import CppSurface.DeclTree
import Mathlib.Data.List.Perm.Subperm

/-!
# Qualified names follow the scopes to their end

A declaration belongs to a scope, which belongs to another, and so on up to the translation unit.
Since a scope can be recorded anywhere in the tree, these chains need not end, and the names of the
scopes are therefore listed with a bound on their number: the size of the tree.  Where the chain of
a declaration does end, the bound cuts nothing off (`scopeNames_eq`), and the qualified name is
made of all its scopes (`qualifiedName_eq`).

The reason is that the next scope is determined by the one before.  If a scope came up twice, the
chain would go on from the second place as it did from the first, and never end
(`ScopeChain.nodup`).  So the scopes of a chain that ends are different declarations of the tree, and
no more than it has.

A declaration has a full name just where its chain ends, and then it is the qualified name
(`fullName?_eq_some_iff`).
-/

namespace CppSurface

namespace DeclTree

variable {t : DeclTree} {id scope : Nat} {scopes scopes' : List Nat}

/-! ## 1. Chains of scopes -/

/-- **The scopes around a declaration**, innermost first, up to the translation unit or to a
declaration that belongs to no scope. -/
inductive ScopeChain (t : DeclTree) : Nat → List Nat → Prop
  | outermost {id : Nat} : t.semanticParent? id = none → ScopeChain t id []
  | unit {id scope : Nat} : t.semanticParent? id = some scope →
      (t.get scope).kind = .translationUnit → ScopeChain t id []
  | scope {id scope : Nat} {scopes : List Nat} : t.semanticParent? id = some scope →
      (t.get scope).kind ≠ .translationUnit → ScopeChain t scope scopes →
      ScopeChain t id (scope :: scopes)

/-- **Every chain of scopes ends.** -/
def ScopesEnd (t : DeclTree) : Prop := ∀ id, ∃ scopes, t.ScopeChain id scopes

/-- The name of a declaration with those of its scopes in front, as in `A::B::name`. -/
def nameWithin (t : DeclTree) (scopes : List Nat) (id : Nat) : String :=
  "::".intercalate ((scopes.reverse.map fun scope => (t.get scope).name) ++ [(t.get id).name])

namespace ScopeChain

/-- A declaration has one chain of scopes. -/
theorem unique (h : t.ScopeChain id scopes) (h' : t.ScopeChain id scopes') : scopes = scopes' := by
  induction h generalizing scopes' with
  | outermost hnone =>
    cases h' with
    | outermost => rfl
    | unit => rfl
    | scope hsome => exact absurd (hnone.symm.trans hsome) (by simp)
  | unit hsome hkind =>
    cases h' with
    | outermost => rfl
    | unit => rfl
    | scope hsome' hkind' =>
      obtain rfl := Option.some.inj (hsome.symm.trans hsome')
      exact absurd hkind hkind'
  | scope hsome hkind _ ih =>
    cases h' with
    | outermost hnone => exact absurd (hnone.symm.trans hsome) (by simp)
    | unit hsome' hkind' =>
      obtain rfl := Option.some.inj (hsome.symm.trans hsome')
      exact absurd hkind' hkind
    | scope hsome' _ hrest =>
      obtain rfl := Option.some.inj (hsome.symm.trans hsome')
      rw [ih hrest]

/-- A scope on a chain has a shorter chain. -/
theorem exists_shorter (h : t.ScopeChain id scopes) (hmem : scope ∈ scopes) :
    ∃ rest, t.ScopeChain scope rest ∧ rest.length < scopes.length := by
  induction h with
  | outermost => exact absurd hmem (by simp)
  | unit => exact absurd hmem (by simp)
  | @scope _ _ scopes _ _ hrest ih =>
    rcases List.mem_cons.mp hmem with rfl | hmem
    · exact ⟨scopes, hrest, by simp⟩
    · obtain ⟨rest, hchain, hlength⟩ := ih hmem
      exact ⟨rest, hchain, Nat.lt_succ_of_lt hlength⟩

/-- **No scope comes up twice on a chain that ends.** -/
theorem nodup (h : t.ScopeChain id scopes) : scopes.Nodup := by
  induction h with
  | outermost => exact List.nodup_nil
  | unit => exact List.nodup_nil
  | scope _ _ hrest ih =>
    refine List.nodup_cons.mpr ⟨fun hmem => ?_, ih⟩
    obtain ⟨rest, hchain, hlength⟩ := hrest.exists_shorter hmem
    rw [hchain.unique hrest] at hlength
    exact Nat.lt_irrefl _ hlength

/-- The scopes of a chain are declarations of the tree: outside of it there is nothing but a
translation unit. -/
theorem lt_size (h : t.ScopeChain id scopes) : ∀ scope ∈ scopes, scope < t.size := by
  induction h with
  | outermost => simp
  | unit => simp
  | @scope _ scope _ _ hkind _ ih =>
    refine List.forall_mem_cons.mpr ⟨?_, ih⟩
    by_contra hge
    refine hkind ?_
    rw [get, Array.getElem?_eq_none (Nat.le_of_not_lt hge), Option.getD_none]
    rfl

/-- **A chain that ends has no more scopes than the tree has declarations.** -/
theorem length_le (h : t.ScopeChain id scopes) : scopes.length ≤ t.size := by
  have hsubset : scopes ⊆ List.range t.size := fun scope hmem =>
    List.mem_range.mpr (h.lt_size scope hmem)
  have hle := (List.Nodup.subperm h.nodup hsubset).length_le
  rwa [List.length_range] at hle

end ScopeChain

/-- **Chains end where scopes come first.**  A tree in which every declaration belongs to an earlier
one has no chain that goes on for ever. -/
theorem scopesEnd_of_lt (h : ∀ id < t.size, ∀ scope ∈ t.semanticParent? id, scope < id) :
    t.ScopesEnd := by
  intro id
  induction id using Nat.strongRecOn with
  | _ id ih =>
    cases hscope : t.semanticParent? id with
    | none => exact ⟨[], .outermost hscope⟩
    | some scope =>
      by_cases hkind : (t.get scope).kind = .translationUnit
      · exact ⟨[], .unit hscope hkind⟩
      · have hid : id < t.size := by
          by_contra hge
          rw [semanticParent?, get, Array.getElem?_eq_none (Nat.le_of_not_lt hge)] at hscope
          exact absurd hscope (by simp [Decl.root])
        obtain ⟨scopes, hscopes⟩ := ih scope (h id hid scope hscope)
        exact ⟨scope :: scopes, .scope hscope hkind hscopes⟩

/-! ## 2. The names of scopes -/

/-- With enough steps the names on the whole chain are listed. -/
theorem ScopeChain.scopeNames_of_le (h : t.ScopeChain id scopes) {steps : Nat}
    (hsteps : scopes.length ≤ steps) :
    t.scopeNames steps id = scopes.map fun scope => (t.get scope).name := by
  induction h generalizing steps with
  | outermost hnone => cases steps <;> simp [scopeNames, hnone]
  | unit hsome hkind => cases steps <;> simp [scopeNames, hsome, hkind]
  | scope hsome hkind _ ih =>
    cases steps with
    | zero => exact absurd hsteps (by simp)
    | succ steps =>
      rw [List.length_cons, Nat.succ_le_succ_iff] at hsteps
      simp [scopeNames, hsome, hkind, ih hsteps]

/-- **The bound on the number of scopes cuts nothing off.** -/
theorem scopeNames_eq (h : t.ScopeChain id scopes) :
    t.scopeNames t.size id = scopes.map fun scope => (t.get scope).name :=
  h.scopeNames_of_le h.length_le

/-- Joining two names first, or all names at once. -/
theorem intercalate_concat (sep a b : String) (l : List String) :
    sep.intercalate (l ++ [a ++ sep ++ b]) = sep.intercalate (l ++ [a, b]) := by
  induction l with
  | nil =>
    rw [List.nil_append, List.nil_append, String.intercalate_cons_cons,
      String.intercalate_singleton, String.intercalate_singleton]
  | cons c l ih =>
    rw [List.cons_append, List.cons_append, String.intercalate_cons_of_ne_nil (by simp),
      String.intercalate_cons_of_ne_nil (by simp), ih]

/-- Scopes are put in front of a name one after the other, the outermost last. -/
theorem qualify_eq (name : String) (names : List String) :
    qualify name names = "::".intercalate (names.reverse ++ [name]) := by
  unfold qualify
  induction names generalizing name with
  | nil => exact String.intercalate_singleton.symm
  | cons scope names ih =>
    rw [List.foldl_cons, ih, intercalate_concat, List.reverse_cons, List.append_assoc,
      List.singleton_append]

/-- **The qualified name of a declaration names all its scopes**, outermost first. -/
theorem qualifiedName_eq (h : t.ScopeChain id scopes) :
    t.qualifiedName id = t.nameWithin scopes id := by
  rw [qualifiedName, scopeNames_eq h, qualify_eq, ← List.map_reverse]
  rfl

theorem ScopesEnd.qualifiedName (h : t.ScopesEnd) (id : Nat) :
    ∃ scopes, t.ScopeChain id scopes ∧ t.qualifiedName id = t.nameWithin scopes id := by
  obtain ⟨scopes, hscopes⟩ := h id
  exact ⟨scopes, hscopes, qualifiedName_eq hscopes⟩

/-! ## 3. Full names -/

theorem namedScope?_eq_some_iff :
    t.namedScope? id = some scope ↔
      t.semanticParent? id = some scope ∧ (t.get scope).kind ≠ .translationUnit := by
  simp [namedScope?, Option.filter_eq_some_iff]

/-- A chain without scopes is that of a declaration without a named one. -/
theorem scopeChain_nil_iff : t.ScopeChain id [] ↔ t.namedScope? id = none := by
  constructor
  · rintro (hnone | ⟨hsome, hkind⟩)
    · simp [namedScope?, hnone]
    · simp [namedScope?, hsome, hkind]
  · intro h
    cases hscope : t.semanticParent? id with
    | none => exact .outermost hscope
    | some scope =>
      refine .unit hscope (by_contra fun hkind => ?_)
      exact absurd (h.symm.trans (namedScope?_eq_some_iff.mpr ⟨hscope, hkind⟩)) (by simp)

theorem scopeChain_cons_iff :
    t.ScopeChain id (scope :: scopes) ↔
      t.namedScope? id = some scope ∧ t.ScopeChain scope scopes := by
  rw [namedScope?_eq_some_iff]
  constructor
  · rintro (_ | _ | ⟨hsome, hkind, hrest⟩)
    exact ⟨⟨hsome, hkind⟩, hrest⟩
  · rintro ⟨⟨hsome, hkind⟩, hrest⟩
    exact .scope hsome hkind hrest

/-- **Following the scopes gives a name if they come to an end in time**, with the names of all of
them in front. -/
theorem nameFrom_eq_some_iff {steps : Nat} {name full : String} :
    t.nameFrom steps name id = some full ↔
      ∃ scopes, t.ScopeChain id scopes ∧ scopes.length ≤ steps ∧
        full = qualify name (scopes.map fun scope => (t.get scope).name) := by
  induction steps generalizing name id with
  | zero =>
    cases hscope : t.namedScope? id with
    | none =>
      simp [nameFrom, hscope, scopeChain_nil_iff, qualify, eq_comm]
    | some scope => simp [nameFrom, hscope, scopeChain_nil_iff]
  | succ steps ih =>
    cases hscope : t.namedScope? id with
    | none =>
      have hnil : t.ScopeChain id [] := scopeChain_nil_iff.mpr hscope
      rw [nameFrom, hscope]
      constructor
      · intro h
        exact ⟨[], hnil, Nat.zero_le _, (Option.some.inj h).symm⟩
      · rintro ⟨scopes, hscopes, -, rfl⟩
        rw [hscopes.unique hnil]
        rfl
    | some scope =>
      rw [nameFrom, hscope]
      simp only
      rw [ih]
      constructor
      · rintro ⟨scopes, hscopes, hlength, rfl⟩
        exact ⟨scope :: scopes, scopeChain_cons_iff.mpr ⟨hscope, hscopes⟩,
          Nat.succ_le_succ hlength, rfl⟩
      · rintro ⟨scopes, hscopes, hlength, rfl⟩
        cases scopes with
        | nil => exact absurd ((scopeChain_nil_iff.mp hscopes).symm.trans hscope) (by simp)
        | cons scope' scopes =>
          obtain ⟨hscope', hrest⟩ := scopeChain_cons_iff.mp hscopes
          obtain rfl := Option.some.inj (hscope.symm.trans hscope')
          exact ⟨scopes, hrest, Nat.le_of_succ_le_succ hlength, rfl⟩

/-- **The full name is the qualified name**, and there is one just if the scopes come to an end. -/
theorem fullName?_eq_some_iff {name : String} :
    t.fullName? id = some name ↔ name = t.qualifiedName id ∧ ∃ scopes, t.ScopeChain id scopes := by
  have hqualified : ∀ {scopes}, t.ScopeChain id scopes →
      qualify (t.get id).name (scopes.map fun scope => (t.get scope).name) = t.qualifiedName id :=
    fun h => by rw [DeclTree.qualifiedName, scopeNames_eq h]
  rw [fullName?, nameFrom_eq_some_iff]
  constructor
  · rintro ⟨scopes, hscopes, -, rfl⟩
    exact ⟨hqualified hscopes, scopes, hscopes⟩
  · rintro ⟨rfl, scopes, hscopes⟩
    exact ⟨scopes, hscopes, hscopes.length_le, (hqualified hscopes).symm⟩

end DeclTree

end CppSurface
