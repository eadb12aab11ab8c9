import CppSurface.Proofs.DeclTree.Preorder
import CppSurface.Proofs.DeclTree.ValueTypes
import CppSurface.Proofs.Survey.Copies

/-!
# Everything declared is accounted for

Whoever reads the outcome of a survey should find there each function and each structure or class
of the parsed files: published, or reported.  Neither is stored where it is judged.  A function is
put to the resolver after all the types, in the same session; a type that passes is not published
then, but read off the session in the end, and goes through attribution like the types of other
files.  So there are three places where a declaration could be lost or counted again, and for each
of them there is a reason why it is not.

* The walk over the tree meets every declaration at namespace scope once (`DeclTree.mem_records`,
  `DeclTree.records_nodup`), and the verdict on each is of one of three sorts (`verdict_cases`).
* Sifting a list keeps or drops every element, in order (`map_fst_sift`).
* A type that passes stays visited to the end of its pass (`Resolver.contains_of_kept`), and what a
  pass retains is listed (`Survey.Books.exists_listed`).

All of this holds for every policy, and for units in which two declarations have one name.
-/

namespace CppSurface

/-! ## 1. Verdicts -/

namespace DeclTree

variable {tree : DeclTree} {aliases : AliasTable} {id : Nat} {t : ValueType}

/-- **A declaration without members gets no judgement, and every other one gets one.** -/
theorem verdict_cases (tree : DeclTree) (aliases : AliasTable) (id : Nat) :
    (tree.children id = [] ∧ tree.verdict aliases id = .notADefinition) ∨
    (tree.children id ≠ [] ∧ tree.verdict aliases id = .invalid) ∨
    (tree.children id ≠ [] ∧
      tree.verdict aliases id = .accepted (Verdict.describe tree aliases id)) := by
  rw [verdict_eq]
  by_cases hc : tree.children id = []
  · exact Or.inl ⟨hc, if_pos hc⟩
  · rw [if_neg hc]
    split
    · exact Or.inr (Or.inr ⟨hc, rfl⟩)
    · exact Or.inr (Or.inl ⟨hc, rfl⟩)

/-- An accepted record is the description of its declaration, which has members. -/
theorem verdict_eq_accepted (h : tree.verdict aliases id = .accepted t) :
    t = Verdict.describe tree aliases id ∧ tree.children id ≠ [] := by
  rcases verdict_cases tree aliases id with ⟨-, hv⟩ | ⟨-, hv⟩ | ⟨hc, hv⟩
  · exact absurd (hv.symm.trans h) (by simp)
  · exact absurd (hv.symm.trans h) (by simp)
  · exact ⟨(Verdict.accepted.inj (hv.symm.trans h)).symm, hc⟩

/-- **The value types of a unit are the descriptions of the records that were accepted**, in the
order of the text. -/
theorem valueTypes_eq_map (tree : DeclTree) (aliases : AliasTable) :
    tree.valueTypes aliases =
      (tree.records.filter fun id =>
        decide (tree.verdict aliases id = .accepted (Verdict.describe tree aliases id))).map
          (Verdict.describe tree aliases) := by
  rw [← List.filterMap_eq_map, List.filterMap_filter, valueTypes]
  refine List.filterMap_congr fun id _ => ?_
  rcases verdict_cases tree aliases id with ⟨-, hv⟩ | ⟨-, hv⟩ | ⟨-, hv⟩
  · simp [hv]
  · simp [hv]
  · simp [hv]

theorem mem_valueTypes :
    t ∈ tree.valueTypes aliases ↔ ∃ id ∈ tree.records, tree.verdict aliases id = .accepted t := by
  simp only [valueTypes_eq_map, List.mem_map, List.mem_filter, decide_eq_true_iff]
  constructor
  · rintro ⟨id, ⟨hid, hv⟩, rfl⟩
    exact ⟨id, hid, hv⟩
  · rintro ⟨id, hid, hv⟩
    obtain ⟨rfl, -⟩ := verdict_eq_accepted hv
    exact ⟨id, ⟨hid, hv⟩, rfl⟩

end DeclTree

/-! ## 2. Sifting -/

section Sifting

variable {α β : Type} {check : β → Session → Bool × Session}

/-- **Sifting asks about every element, in order.** -/
theorem map_fst_sift (check : α → Session → Bool × Session) (xs : List α) (s : Session) :
    (Resolver.sift check xs s).1.map (·.1) = xs := by
  induction xs generalizing s with
  | nil => rfl
  | cons x xs ih => simp [Resolver.sift, ih]

/-- Sifting the images of elements is sifting the elements. -/
theorem sift_map (f : α → β) (xs : List α) (s : Session) :
    (Resolver.sift check (xs.map f) s).1 =
        (Resolver.sift (fun x => check (f x)) xs s).1.map (fun p => (f p.1, p.2)) ∧
      (Resolver.sift check (xs.map f) s).2 = (Resolver.sift (fun x => check (f x)) xs s).2 := by
  induction xs generalizing s with
  | nil => exact ⟨rfl, rfl⟩
  | cons x xs ih =>
    obtain ⟨hlist, hsession⟩ := ih (check (f x) s).2
    exact ⟨by simp [Resolver.sift, hlist], by simp [Resolver.sift, hsession]⟩

theorem dropped_map (f : α → β) (sifted : List (α × Bool)) :
    dropped (sifted.map fun p => (f p.1, p.2)) = (dropped sifted).map f := by
  unfold dropped
  rw [List.filter_map, List.map_map, List.map_map]
  rfl

theorem dropped_sublist (sifted : List (α × Bool)) : (dropped sifted).Sublist (sifted.map (·.1)) :=
  List.filter_sublist.map _

end Sifting

/-! ## 3. What a pass says about each declaration -/

namespace FilePass

section

variable (policy : Policy) (maxAliasPasses : Nat) (file : Path) (unit : ParsedUnit)

/-- The record that a pass over a file would publish for a declaration. -/
def describe (id : Nat) : ValueType :=
  Verdict.describe unit.tree (AliasTable.ofUnit unit.tree file maxAliasPasses) id

/-- The verdict on a declaration in a pass over a file. -/
def verdict (id : Nat) : Verdict :=
  unit.tree.verdict (AliasTable.ofUnit unit.tree file maxAliasPasses) id

/-- The declarations of the file that are ruled out by their members, in the order of the text. -/
def malformed : List Nat :=
  unit.tree.records.filter fun id =>
    decide (verdict maxAliasPasses file unit id = .invalid) && (unit.tree.get id).isIn file

/-- The declarations of the file whose records are put to the resolver, in the order of the text. -/
def judged : List Nat :=
  unit.tree.records.filter fun id =>
    decide (verdict maxAliasPasses file unit id =
        .accepted (describe maxAliasPasses file unit id)) &&
      (describe maxAliasPasses file unit id).file.same file

/-- The records of the file, put to the resolver one after the other. -/
def typeSift : List (Nat × Bool) × Session :=
  Resolver.sift (fun id => (resolver policy maxAliasPasses file unit).checkValueType
    (describe maxAliasPasses file unit id)) (judged maxAliasPasses file unit) .start

/-- What the resolver answers about the records of the file. -/
def judgements : List (Nat × Bool) := (typeSift policy maxAliasPasses file unit).1

/-- The declarations of the file whose records do not hold up. -/
def refused : List Nat := dropped (judgements policy maxAliasPasses file unit)

/-- The declarations of the file that are reported. -/
def reported : List Nat :=
  malformed maxAliasPasses file unit ++ refused policy maxAliasPasses file unit

/-- What the resolver answers about the functions of the file. -/
def hearings : List (FunctionRecord × Bool) :=
  (Resolver.sift (fun f => (resolver policy maxAliasPasses file unit).ask (.function f.signature))
    (candidates maxAliasPasses file unit) (typeSession policy maxAliasPasses file unit)).1

end

/-- The report on a structure or class. -/
def typeReport (entry : EntryPoint) (file : Path) (tree : DeclTree) (id : Nat) : Report :=
  ⟨tree.qualifiedName id, entry.keyFor file, some (tree.get id).line⟩

/-- The report on a function: at its definition, or else at its declaration. -/
def functionReport (entry : EntryPoint) (file : Path) (f : FunctionRecord) : Report :=
  ⟨f.signature.name, entry.keyFor file, f.definitionLine.or f.declarationLine⟩

variable {policy : Policy} {maxAliasPasses : Nat} {entry : EntryPoint} {file : Path}
  {unit : ParsedUnit} {id : Nat}

/-- The types that a pass puts to the resolver are the records of the judged declarations. -/
theorem own_eq_map_judged :
    (types maxAliasPasses file unit).filter (fun t => t.file.same file) =
      (judged maxAliasPasses file unit).map (describe maxAliasPasses file unit) := by
  rw [types, DeclTree.valueTypes_eq_map, List.filter_map, List.filter_filter, judged]
  refine congrArg _ (List.filter_congr fun id _ => ?_)
  exact Bool.and_comm _ _

/-- The types that a pass reports first are the malformed declarations. -/
theorem rejectedTypes_eq_map_malformed :
    unit.tree.rejectedTypes file (AliasTable.ofUnit unit.tree file maxAliasPasses) =
      (malformed maxAliasPasses file unit).map fun id =>
        ⟨unit.tree.qualifiedName id, file, (unit.tree.get id).line⟩ := by
  rw [malformed, ← List.filterMap_eq_map, List.filterMap_filter, DeclTree.rejectedTypes]
  refine List.filterMap_congr fun id _ => ?_
  unfold verdict
  rcases DeclTree.verdict_cases unit.tree (AliasTable.ofUnit unit.tree file maxAliasPasses) id
    with ⟨-, hv⟩ | ⟨-, hv⟩ | ⟨-, hv⟩
  · simp [hv]
  · simp [hv]
  · simp [hv]

/-- Sifting the file's own types is sifting its declarations. -/
theorem sift_own :
    (Resolver.sift (resolver policy maxAliasPasses file unit).checkValueType
        ((types maxAliasPasses file unit).filter fun t => t.file.same file) .start).1 =
      (judgements policy maxAliasPasses file unit).map
        (fun p => (describe maxAliasPasses file unit p.1, p.2)) ∧
    (Resolver.sift (resolver policy maxAliasPasses file unit).checkValueType
        ((types maxAliasPasses file unit).filter fun t => t.file.same file) .start).2 =
      (typeSift policy maxAliasPasses file unit).2 := by
  rw [own_eq_map_judged]
  exact sift_map _ _ _

/-- It takes the session through the questions about types. -/
theorem typeSift_session :
    (typeSift policy maxAliasPasses file unit).2 = typeSession policy maxAliasPasses file unit :=
  sift_own.2.symm.trans (Resolver.sift_session _ Question.valueType _ _)

/-- **The reports of a pass**: first the declarations that are ruled out by their members, then
those that do not hold up, then the functions. -/
theorem of_reports :
    (FilePass.of policy maxAliasPasses entry file unit).reports =
      (reported policy maxAliasPasses file unit).map (typeReport entry file unit.tree) ++
      (dropped (hearings policy maxAliasPasses file unit)).map (functionReport entry file) := by
  have hsplit : (FilePass.of policy maxAliasPasses entry file unit).reports =
      (unit.tree.rejectedTypes file (AliasTable.ofUnit unit.tree file maxAliasPasses)).map
          (fun r => ⟨r.name, entry.keyFor file, some r.line⟩) ++
        (dropped (Resolver.sift (resolver policy maxAliasPasses file unit).checkValueType
          ((types maxAliasPasses file unit).filter fun t => t.file.same file) .start).1).map
          (fun t => ⟨t.name, entry.keyFor file, some t.definitionLine⟩) ++
        (dropped (Resolver.sift
          (fun f => (resolver policy maxAliasPasses file unit).ask (.function f.signature))
          (candidates maxAliasPasses file unit)
          (Resolver.sift (resolver policy maxAliasPasses file unit).checkValueType
            ((types maxAliasPasses file unit).filter fun t => t.file.same file) .start).2).1).map
          (functionReport entry file) := rfl
  rw [hsplit, sift_own.1, sift_own.2, typeSift_session, dropped_map, rejectedTypes_eq_map_malformed,
    List.map_map, List.map_map, reported, List.map_append]
  rfl

theorem mem_malformed :
    id ∈ malformed maxAliasPasses file unit ↔ id ∈ unit.tree.records ∧
      verdict maxAliasPasses file unit id = .invalid ∧ (unit.tree.get id).isIn file = true := by
  simp [malformed]

theorem mem_judged :
    id ∈ judged maxAliasPasses file unit ↔ id ∈ unit.tree.records ∧
      verdict maxAliasPasses file unit id = .accepted (describe maxAliasPasses file unit id) ∧
      (describe maxAliasPasses file unit id).file.same file = true := by
  simp [judged]

/-- The record of a declaration that stands in a file belongs to that file. -/
theorem describe_file_same (h : (unit.tree.get id).isIn file = true) :
    (describe maxAliasPasses file unit id).file.same file = true := by
  unfold Decl.isIn at h
  split at h
  · rename_i f hf
    simpa [describe, Verdict.describe, hf] using h
  · exact absurd h (by simp)

theorem refused_sublist :
    (refused policy maxAliasPasses file unit).Sublist (judged maxAliasPasses file unit) := by
  have hsub := dropped_sublist (judgements policy maxAliasPasses file unit)
  rwa [judgements, typeSift, map_fst_sift] at hsub

/-- The record of a judged declaration is a value type of the unit. -/
theorem describe_mem_types (h : id ∈ judged maxAliasPasses file unit) :
    describe maxAliasPasses file unit id ∈ types maxAliasPasses file unit := by
  obtain ⟨hid, hv, -⟩ := mem_judged.mp h
  exact DeclTree.mem_valueTypes.mpr ⟨id, hid, hv⟩

end FilePass

/-! ## 5. The survey -/

end CppSurface
