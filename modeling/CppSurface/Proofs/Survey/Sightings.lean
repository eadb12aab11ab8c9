import CppSurface.Proofs.DeclTree.Preorder
import CppSurface.Proofs.DeclTree.ValueTypes
import CppSurface.Proofs.Survey.Copies
import CppSurface.Sightings
import Mathlib.Data.List.Induction

/-!
# What the sightings of a file come to

The functions of a file are listed by joining one sighting after the other to the records so far.
Each record is changed by some of the later sightings and looked up by all of them, and its two
lines follow different rules: the first sighting has the line of the declaration, and the last one
with a body has that of the definition.

All of it can be read off the list of sightings at once (`grouped`): there is a record for every
first occurrence of a signature, and its lines are found by looking through the list from the front
and from the back.  One more sighting at the end of the list does to these records what joining does
(`join_grouped`), and so joining all of them gives them (`foldl_join`).

The sightings are those of the functions at namespace scope, in the order of the text
(`ListsFunctions`), which is again said without the walk that finds them.
-/

namespace CppSurface

theorem nodup_eraseDups {α : Type} [DecidableEq α] (as : List α) : as.eraseDups.Nodup := by
  induction as using List.reverseRecOn with
  | nil => exact List.nodup_nil
  | append_singleton as a ih =>
    rw [eraseDups_append_singleton]
    split
    · exact ih
    · rename_i ha
      rw [← List.concat_eq_append]
      exact ih.concat ha

namespace Sighting

variable {file : Path} {ss : List Sighting} {s : Sighting} {g : Signature}

/-! ## 1. The records of a list of sightings -/

/-- The record that a list of sightings has of one signature. -/
def record (file : Path) (ss : List Sighting) (g : Signature) : FunctionRecord where
  signature := g
  declarationLine := (ss.find? fun s => s.signature = g).map (·.line)
  definitionLine := (ss.reverse.find? fun s => s.signature = g && s.hasBody).map (·.line)
  file := file

/-- The records of all signatures, by first sighting. -/
def grouped (file : Path) (ss : List Sighting) : List FunctionRecord :=
  (ss.map (·.signature)).eraseDups.map (record file ss)

/-! ## 2. One more sighting -/

/-- It does not change the record of another function. -/
theorem record_append_of_ne (h : s.signature ≠ g) :
    record file (ss ++ [s]) g = record file ss g := by
  simp [record, List.find?_append, h]

/-- It changes the record of its own function as joining does. -/
theorem record_append_of_mem (h : s.signature ∈ ss.map (·.signature)) :
    record file (ss ++ [s]) s.signature = s.again (record file ss s.signature) := by
  obtain ⟨s', hs', heq⟩ := List.mem_map.mp h
  have hfound : (ss.find? fun x => decide (x.signature = s.signature)).isSome = true := by
    rw [List.find?_isSome]
    exact ⟨s', hs', by simpa using heq⟩
  unfold again
  cases hbody : s.hasBody <;> simp [record, List.find?_append, hbody, Option.or_of_isSome hfound]

/-- It makes the record of a function that has not been seen. -/
theorem record_append_of_not_mem (h : s.signature ∉ ss.map (·.signature)) :
    record file (ss ++ [s]) s.signature = s.first file := by
  have hnone : ∀ x ∈ ss, x.signature ≠ s.signature := fun x hx heq =>
    h (List.mem_map.mpr ⟨x, hx, heq⟩)
  have hfirst : (ss.find? fun x => decide (x.signature = s.signature)) = none := by
    simpa using hnone
  have hlast : (ss.reverse.find? fun x => decide (x.signature = s.signature) && x.hasBody) =
      none := by
    simpa using fun x hx heq => absurd heq (hnone x hx)
  cases hbody : s.hasBody <;> simp [record, first, List.find?_append, hfirst, hlast, hbody]

variable {gs : List Signature} {f : Signature → FunctionRecord}

/-- Joining a sighting of a function that has a record. -/
theorem join_of_mem (hf : ∀ g, (f g).signature = g) (hgs : gs.Nodup) (h : s.signature ∈ gs) :
    join file (gs.map f) s =
      gs.map fun g => if g = s.signature then s.again (f g) else f g := by
  induction gs with
  | nil => exact absurd h List.not_mem_nil
  | cons g gs ih =>
    obtain ⟨hg, hgs⟩ := List.nodup_cons.mp hgs
    rw [List.map_cons, List.map_cons, join, hf]
    by_cases heq : g = s.signature
    · rw [if_pos heq, if_pos heq]
      -- the other records have other signatures
      refine congrArg _ (List.map_congr_left fun g' hg' => (if_neg ?_).symm)
      rintro rfl
      exact hg (heq ▸ hg')
    · have hmem : s.signature ∈ gs := by
        rcases List.mem_cons.mp h with h | h
        · exact absurd h.symm heq
        · exact h
      rw [if_neg heq, if_neg heq, ih hgs hmem]

/-- Joining a sighting of a function that has none. -/
theorem join_of_not_mem (hf : ∀ g, (f g).signature = g) (h : s.signature ∉ gs) :
    join file (gs.map f) s = gs.map f ++ [s.first file] := by
  induction gs with
  | nil => rfl
  | cons g gs ih =>
    obtain ⟨hne, hgs⟩ := not_or.mp (mt List.mem_cons.mpr h)
    rw [List.map_cons, join, hf, if_neg (Ne.symm hne), ih hgs, List.cons_append]

/-- **The step: joining one more sighting.** -/
theorem join_grouped (file : Path) (ss : List Sighting) (s : Sighting) :
    join file (grouped file ss) s = grouped file (ss ++ [s]) := by
  unfold grouped
  rw [List.map_append, List.map_singleton, eraseDups_append_singleton]
  by_cases h : s.signature ∈ ss.map (·.signature)
  · rw [if_pos (List.mem_eraseDups.mpr h),
      join_of_mem (fun _ => rfl) (nodup_eraseDups _) (List.mem_eraseDups.mpr h)]
    refine List.map_congr_left fun g _ => ?_
    by_cases hg : g = s.signature
    · rw [if_pos hg, hg, record_append_of_mem h]
    · rw [if_neg hg, record_append_of_ne (Ne.symm hg)]
  · rw [if_neg (mt List.mem_eraseDups.mp h),
      join_of_not_mem (fun _ => rfl) (mt List.mem_eraseDups.mp h), List.map_append,
      List.map_singleton, record_append_of_not_mem h]
    congr 1
    refine List.map_congr_left fun g hg => (record_append_of_ne ?_).symm
    rintro rfl
    exact h (List.mem_eraseDups.mp hg)

/-- **The run: joining all sightings.** -/
theorem foldl_join (file : Path) (ss : List Sighting) :
    ss.foldl (join file) [] = grouped file ss := by
  induction ss using List.reverseRecOn with
  | nil => rfl
  | append_singleton ss s ih =>
    rw [List.foldl_append, List.foldl_cons, List.foldl_nil, ih, join_grouped]

end Sighting

namespace DeclTree

variable {tree : DeclTree} {file : Path} {aliases : AliasTable} {ids : List Nat}

/-! ## 3. The functions of a file -/

/-- **The functions of a file are the records of its sightings.** -/
theorem functions_eq_grouped (tree : DeclTree) (file : Path) (aliases : AliasTable) :
    tree.functions file aliases = Sighting.grouped file (tree.sightings file aliases) :=
  Sighting.foldl_join file _

/-- **The functions of a file have different signatures, and belong to it.** -/
theorem functions_distinct (tree : DeclTree) (file : Path) (aliases : AliasTable) :
    ((tree.functions file aliases).map (·.signature)).Nodup ∧
      ∀ f ∈ tree.functions file aliases, f.file = file := by
  rw [functions_eq_grouped]
  unfold Sighting.grouped
  refine ⟨?_, List.forall_mem_map.mpr fun _ _ => rfl⟩
  rw [List.map_map, show (·.signature) ∘ Sighting.record file _ = id from rfl, List.map_id]
  exact nodup_eraseDups _

/-! ## 4. What is to be listed -/

/-- **The functions of a file at namespace scope, in the order of the text.**  Functions do not hold
one another, so of any two of them one stands before the other. -/
structure ListsFunctions (tree : DeclTree) (file : Path) (ids : List Nat) : Prop where
  mem : ∀ id, id ∈ ids ↔
    tree.ScopedIn 0 id ∧ (tree.get id).kind = .function ∧ (tree.get id).isIn file = true
  order : ids.Pairwise tree.Precedes

/-- The six parts of a signature: the full name of a function, the resolved type that it returns,
with its simple spelling, and the three lists of its parameters. -/
structure DescribesSignature (tree : DeclTree) (aliases : AliasTable) (id : Nat) (g : Signature) :
    Prop where
  name : ∃ scopes, tree.ScopeChain id scopes ∧ g.name = tree.nameWithin scopes id
  rawReturnType : g.rawReturnType = aliases.resolve ((tree.get id).typeText.getD "")
  simpleReturnType : g.simpleReturnType = TypeText.simplify g.rawReturnType
  parameters : Verdict.DescribesVariables aliases (tree.parameters id)
    ((tree.parameters id).map (·.name)) g.parameters

/-- What is to be published of the functions with one signature: the line of the first of them, and
the line of the last that has a body. -/
def functionRecord (tree : DeclTree) (file : Path) (aliases : AliasTable) (ids : List Nat)
    (g : Signature) : FunctionRecord where
  signature := g
  declarationLine :=
    (ids.find? fun id => tree.signature aliases id = g).map fun id => (tree.get id).line
  definitionLine :=
    (ids.reverse.find? fun id => tree.signature aliases id = g && (tree.get id).hasBody).map
      fun id => (tree.get id).line
  file := file

/-! ## 5. What is listed -/

/-- The walk finds the functions of a file, in their order. -/
theorem listsFunctions_functionsIn (tree : DeclTree) (file : Path) :
    tree.ListsFunctions file (tree.functionsIn file) where
  mem id := by
    unfold functionsIn members
    rw [List.mem_filter, mem_scopeMembers, Bool.and_eq_true, beq_iff_eq, and_assoc]
    refine and_congr_right fun _ => ⟨And.right, fun h => ⟨?_, h⟩⟩
    rw [h.1]
    decide
  order := (tree.scopeMembers_pairwise 0).filter _

/-- There is one such list. -/
theorem ListsFunctions.eq_functionsIn (h : tree.ListsFunctions file ids) :
    ids = tree.functionsIn file := by
  have hwalk := tree.listsFunctions_functionsIn file
  exact eq_of_precedes h.order hwalk.order fun id => (h.mem id).trans (hwalk.mem id).symm

/-- The record of the sightings is that of the functions that have been seen. -/
theorem record_sightings (tree : DeclTree) (file : Path) (aliases : AliasTable) :
    Sighting.record file (tree.sightings file aliases) =
      tree.functionRecord file aliases (tree.functionsIn file) := by
  funext g
  simp [Sighting.record, sightings, functionRecord, ← List.map_reverse, List.find?_map,
    Function.comp_def]

/-- A signature is described by what it is made of, where the chains of scopes end. -/
theorem describesSignature (hends : tree.ScopesEnd) (aliases : AliasTable) (id : Nat) :
    tree.DescribesSignature aliases id (tree.signature aliases id) where
  name := hends.qualifiedName id
  rawReturnType := rfl
  simpleReturnType := rfl
  parameters := Verdict.describesVariables_ofDecls aliases (tree.parameters id)

/-- **The functions of a file are grouped by signature.**  The functions at namespace scope have an
order, and each has a signature of six parts.  What is listed are the records of these signatures,
one for each and by first occurrence, with the line of the first occurrence, the line of the last
that has a body and the file; the three lists of parameters are equally long. -/
theorem functions_grouped (tree : DeclTree) (hends : tree.ScopesEnd) (file : Path)
    (aliases : AliasTable) :
    (∃! ids, tree.ListsFunctions file ids) ∧
    ∀ ids, tree.ListsFunctions file ids →
      (∀ id ∈ ids, tree.DescribesSignature aliases id (tree.signature aliases id)) ∧
      tree.functions file aliases =
        (ids.map (tree.signature aliases)).eraseDups.map
          (tree.functionRecord file aliases ids) ∧
      ((tree.functions file aliases).map (·.signature)).Nodup ∧
      ∀ f ∈ tree.functions file aliases, f.declarationLine.isSome = true ∧ f.file = file ∧
        f.signature.parameters.names.length = f.signature.parameters.rawTypes.length ∧
        f.signature.parameters.names.length = f.signature.parameters.simpleTypes.length := by
  refine ⟨⟨_, tree.listsFunctions_functionsIn file, fun ids h => h.eq_functionsIn⟩, fun ids h => ?_⟩
  obtain rfl := h.eq_functionsIn
  have hfunctions : tree.functions file aliases =
      ((tree.functionsIn file).map (tree.signature aliases)).eraseDups.map
        (tree.functionRecord file aliases (tree.functionsIn file)) := by
    rw [functions_eq_grouped, Sighting.grouped, record_sightings, sightings, List.map_map]
    rfl
  refine ⟨fun id _ => describesSignature hends aliases id, hfunctions,
    (tree.functions_distinct file aliases).1, ?_⟩
  rw [hfunctions]
  refine List.forall_mem_map.mpr fun g hg => ?_
  obtain ⟨id, hid, rfl⟩ := List.mem_map.mp (List.mem_eraseDups.mp hg)
  have hparameters := (describesSignature hends aliases id).parameters
  refine ⟨?_, rfl, ?_, ?_⟩
  · simp only [functionRecord, Option.isSome_map, List.find?_isSome]
    exact ⟨id, hid, by simp⟩
  · exact hparameters.names_length.trans hparameters.rawTypes_length.symm
  · exact hparameters.names_length.trans hparameters.simpleTypes_length.symm

/-- A function that is declared in a namespace, defined outside of it and declared once more where
the namespace is opened again.  Between the first two stands another function of the namespace,
which was added to the tree last, and after them one of the same name outside the namespace. -/
def addTree : DeclTree :=
  (((((((((DeclTree.empty
    |>.push 0 { kind := .namespaceScope, name := "A" })
    |>.push 1 { kind := .function, name := "add", file := some ⟨"/a.cpp"⟩, line := 2
                typeText := some "int" })
    |>.push 2 { kind := .parameter, name := "n", typeText := some "Id" })
    |>.push 0 { kind := .function, name := "add", file := some ⟨"/a.cpp"⟩, line := 5
                typeText := some "int", hasBody := true, context := some 1 })
    |>.push 4 { kind := .parameter, name := "n", typeText := some "int" })
    |>.push 0 { kind := .function, name := "add", file := some ⟨"/a.cpp"⟩, line := 6
                typeText := some "int", hasBody := true })
    |>.push 0 { kind := .namespaceScope, name := "A" })
    |>.push 7 { kind := .function, name := "add", file := some ⟨"//a.cpp"⟩, line := 9
                typeText := some "int" })
    |>.push 8 { kind := .parameter, name := "n", typeText := some "int" })
    |>.push 1 { kind := .function, name := "late", file := some ⟨"/a.cpp"⟩, line := 3
                typeText := some "void" }

/-- **The functions of the sample**: three declarations of one function make one record. -/
theorem addTree_functions :
    addTree.ScopesEnd ∧ addTree.ListsFunctions ⟨"/a.cpp"⟩ [2, 10, 4, 6, 8] ∧
      addTree.functions ⟨"/a.cpp"⟩ ⟨[("Id", "int")], 1, false⟩ =
        [⟨⟨"A::add", "int", "int", ⟨["n"], ["int"], ["int"]⟩⟩, some 2, some 5, ⟨"/a.cpp"⟩⟩,
          ⟨⟨"A::late", "void", "void", ⟨[], [], []⟩⟩, some 3, none, ⟨"/a.cpp"⟩⟩,
          ⟨⟨"add", "int", "int", ⟨[], [], []⟩⟩, some 6, some 6, ⟨"/a.cpp"⟩⟩] := by
  have hends : addTree.ScopesEnd := scopesEnd_of_lt (by decide)
  have hlists : addTree.ListsFunctions ⟨"/a.cpp"⟩ [2, 10, 4, 6, 8] := by
    have hwalk : addTree.functionsIn ⟨"/a.cpp"⟩ = [2, 10, 4, 6, 8] := by decide +kernel
    exact hwalk ▸ addTree.listsFunctions_functionsIn ⟨"/a.cpp"⟩
  obtain ⟨-, hfunctions⟩ := functions_grouped addTree hends ⟨"/a.cpp"⟩ ⟨[("Id", "int")], 1, false⟩
  refine ⟨hends, hlists, ?_⟩
  rw [(hfunctions _ hlists).2.1]
  decide +kernel

end DeclTree

end CppSurface
