import CppSurface.Proofs.Survey.Tally

/-!
# When a reported type is listed all the same

What is reported is meant to be missing from the result.  One pass keeps to that: under an allow
list, and if its unit defines each type once, a pass does not publish what it reports, because what
it has once refused is not tenable and what it publishes is (`FilePass.not_contains_of_reported`).

A survey does not.  The pass over another file may have published the type, since it reads the type
through aliases of its own, under which it may hold up.  Attribution lets the declaring file replace
such a copy, but a file that reports the type has no copy to replace it with, and nothing takes back
what is listed.  So a reported type is listed just when the pass over another parsed file retains
it (`Survey.reported_listed_iff`), and this happens (`aliasSurvey_reported_listed`).
-/

namespace CppSurface

/-! ## 1. Units that define each type once -/

namespace DeclTree

variable {tree : DeclTree} {aliases : AliasTable} {i j : Nat}

/-- The key of a structure or class: its qualified name, and the file it stands in. -/
def keyOf (tree : DeclTree) (id : Nat) : TypeKey :=
  ⟨tree.qualifiedName id, (tree.get id).file.getD ⟨""⟩⟩

/-- The structures and classes with members. -/
def definitions (tree : DeclTree) : List Nat :=
  tree.records.filter fun id => !(tree.children id).isEmpty

/-- Definitions have different keys. -/
def DefinesOnce (tree : DeclTree) : Prop :=
  (tree.definitions.map fun id => (tree.keyOf id).identity).Nodup

instance (tree : DeclTree) : Decidable tree.DefinesOnce :=
  inferInstanceAs (Decidable (List.Nodup _))

theorem mem_definitions : i ∈ tree.definitions ↔ i ∈ tree.records ∧ tree.children i ≠ [] := by
  simp [definitions]

/-- **A key stands for one definition.** -/
theorem DefinesOnce.eq_of_same (h : tree.DefinesOnce) (hi : i ∈ tree.definitions)
    (hj : j ∈ tree.definitions) (hsame : (tree.keyOf i).same (tree.keyOf j) = true) : i = j :=
  List.inj_on_of_nodup_map h hi hj (TypeKey.same_iff_identity.mp hsame)

/-- The value types of a unit that defines each type once have different keys. -/
theorem DefinesOnce.distinctKeys (h : tree.DefinesOnce) (aliases : AliasTable) :
    DistinctKeys (tree.valueTypes aliases) := by
  have hmembers : ∀ id,
      decide (tree.verdict aliases id = .accepted (Verdict.describe tree aliases id)) = true →
        (!(tree.children id).isEmpty) = true := by
    intro id hid
    simpa using (verdict_eq_accepted (of_decide_eq_true hid)).2
  rw [valueTypes_eq_map, DistinctKeys]
  refine List.pairwise_map.mpr (List.pairwise_filter.mpr ?_)
  refine (List.pairwise_filter.mp (List.pairwise_map.mp h)).imp fun {i j} hij hi hj => ?_
  rw [← Bool.not_eq_true, TypeKey.same_iff_identity]
  exact hij (hmembers i hi) (hmembers j hj)

end DeclTree

/-! ## 2. One pass -/

/-- What is visited is a matter of the type, not of the spelling of its key. -/
theorem Visited.contains_of_same {visited : Visited} {k l : TypeKey} (hsame : k.same l = true)
    (h : visited.contains k = true) : visited.contains l = true := by
  simp only [Visited.contains, Bool.or_eq_true] at h ⊢
  exact h.imp (Resolver.within_of_same (TypeKey.same_symm hsame))
    (Resolver.within_of_same (TypeKey.same_symm hsame))

namespace FilePass

variable {a : AllowList} {policy : Policy} {maxAliasPasses : Nat} {entry : EntryPoint}
  {file : Path} {unit : ParsedUnit} {id : Nat} {k : TypeKey}

/-- What is reported is a definition of the file. -/
theorem reported_definition (h : id ∈ reported policy maxAliasPasses file unit) :
    id ∈ unit.tree.definitions ∧
      (unit.tree.keyOf id).same ⟨unit.tree.qualifiedName id, file⟩ = true := by
  rcases List.mem_append.mp h with h | h
  · obtain ⟨hid, hv, hfile⟩ := mem_malformed.mp h
    have hsame : (describe maxAliasPasses file unit id).file.same file = true :=
      describe_file_same hfile
    refine ⟨DeclTree.mem_definitions.mpr ⟨hid, fun hc => ?_⟩,
      TypeKey.same_iff.mpr ⟨rfl, Path.same_iff.mp hsame⟩⟩
    simp [verdict, DeclTree.verdict, hc] at hv
  · obtain ⟨hid, hv, hsame⟩ := mem_judged.mp (refused_sublist.subset h)
    exact ⟨DeclTree.mem_definitions.mpr ⟨hid, (DeclTree.verdict_eq_accepted hv).2⟩,
      TypeKey.same_iff.mpr ⟨rfl, Path.same_iff.mp hsame⟩⟩

/-- **What is refused is not tenable**, whatever was accepted by then. -/
theorem not_tenable_of_refused (hd : DistinctKeys (types maxAliasPasses file unit))
    (h : id ∈ refused a.policy maxAliasPasses file unit) :
    (describe maxAliasPasses file unit id).key ∉
      (resolver a.policy maxAliasPasses file unit).tenable a := by
  have hwithin : ∀ i ∈ judged maxAliasPasses file unit,
      (Question.valueType (describe maxAliasPasses file unit i)).Within
        (resolver a.policy maxAliasPasses file unit).types := fun i => describe_mem_types
  refine Resolver.of_dropped (I := fun s => s.visited.Sound)
    (P := fun i => (describe maxAliasPasses file unit i).key ∉
      (resolver a.policy maxAliasPasses file unit).tenable a)
    (fun i hi s hs => (Resolver.ask_extends (hwithin i hi) hs).sound)
    (fun i hi s hs hfalse => ?_) Visited.sound_empty h
  exact (Resolver.step_judges rfl hd (hwithin i hi) []).complete
    (Resolver.step_of_answer (hwithin i hi) hs hfalse)

/-- **Under an allow list a pass does not retain what it reports.** -/
theorem not_contains_of_reported (hd : unit.tree.DefinesOnce)
    (h : id ∈ reported a.policy maxAliasPasses file unit) :
    (session a.policy maxAliasPasses file unit).visited.contains
      ⟨unit.tree.qualifiedName id, file⟩ = false := by
  obtain ⟨hid, hkey⟩ := reported_definition h
  refine Bool.eq_false_iff.mpr fun hcontains => ?_
  -- the key would be that of an accepted record, and so of the same declaration
  obtain ⟨t, ht, hsame⟩ : ∃ t ∈ types maxAliasPasses file unit,
      TypeKey.same ⟨unit.tree.qualifiedName id, file⟩ t.key = true := by
    obtain ⟨hprog, hsound⟩ : (session a.policy maxAliasPasses file unit).visited.inProgress = [] ∧
        (session a.policy maxAliasPasses file unit).visited.Sound := session_quiet
    simp only [Visited.contains, hprog, hsound.accepted, TypeKey.within, List.any_nil,
      Bool.or_false, List.any_eq_true] at hcontains
    obtain ⟨l, hl, hsame⟩ := hcontains
    obtain ⟨t, ht, rfl⟩ := session_accounted l hl
    exact ⟨t, ht, hsame⟩
  have htenable := tenable_of_contains (hd.distinctKeys _) ht
    (Visited.contains_of_same hsame hcontains)
  obtain ⟨j, hj, hv⟩ := DeclTree.mem_valueTypes.mp ht
  obtain ⟨rfl, hc⟩ := DeclTree.verdict_eq_accepted hv
  obtain rfl : id = j := hd.eq_of_same hid (DeclTree.mem_definitions.mpr ⟨hj, hc⟩)
    (TypeKey.same_trans hkey hsame)
  rcases List.mem_append.mp h with h | h
  · exact absurd ((mem_malformed.mp h).2.1.symm.trans hv) (by simp)
  · exact not_tenable_of_refused (hd.distinctKeys _) h htenable

end FilePass

/-! ## 3. The survey -/

namespace Survey

/-- **A type that its file's own pass reports is listed just when the pass over another parsed file
retains it.**  The survey succeeds under an allow list, and the unit of the file defines each type
once. -/
theorem reported_listed_iff (v : Survey) {a : AllowList} (hpolicy : v.policy = a.policy)
    {bound : Nat} {o : Outcome} {x : Extraction} (ho : v.outcome bound = some o)
    (hx : o.result = .ok x) {file : Path} (hfile : file ∈ o.parsed) {unit : ParsedUnit}
    (hres : (v.provider file).result = .ok unit) (hd : unit.tree.DefinesOnce) {id : Nat}
    (hid : id ∈ FilePass.reported v.policy v.options.maxAliasPasses file unit) :
    FilePass.typeReport v.entry file unit.tree id ∈ o.reports ∧
      ∃ e, x.get? (v.entry.keyFor file) = some e ∧
        ((∃ t ∈ e.valueTypes, t.name = unit.tree.qualifiedName id) ↔
          ∃ other ∈ o.parsed, other.same file = false ∧
            v.Retains other ⟨unit.tree.qualifiedName id, file⟩) := by
  have h := outcome_books ho hx
  obtain ⟨e, he, hget, howner, -⟩ := h.exists_entry hfile
  refine ⟨?_, e, hget, ?_, ?_⟩
  · rw [h.reports]
    refine List.mem_flatMap.mpr ⟨file, hfile, ?_⟩
    rw [passOf_eq hres, pass, FilePass.of_reports]
    exact List.mem_append_left _ (List.mem_map_of_mem hid)
  · rintro ⟨t, ht, hname⟩
    have htfile : t.file.same file = true := by
      rw [← EntryPoint.same?_keyFor v.entry]
      exact Path.same?_trans (h.listed_under he ht) howner
    have hkey : t.key.same ⟨unit.tree.qualifiedName id, file⟩ = true :=
      TypeKey.same_iff.mpr ⟨hname, Path.same_iff.mp htfile⟩
    obtain ⟨other, hother, -, hretains⟩ := h.exists_retains he ht
    obtain ⟨unit', hres', hcontains⟩ := hretains
    have hcontains := Visited.contains_of_same hkey hcontains
    refine ⟨other, hother, Bool.eq_false_iff.mpr fun hsame => ?_, unit', hres', hcontains⟩
    -- the file's own pass does not retain what it reports
    obtain rfl := h.differ.eq_of_same hother hfile hsame
    obtain rfl : unit = unit' := Except.ok.inj (hres.symm.trans hres')
    rw [hpolicy] at hid hcontains
    exact absurd hcontains (by simp [FilePass.not_contains_of_reported hd hid])
  · rintro ⟨other, hother, -, hretains⟩
    obtain ⟨t, ht, hkey⟩ := h.exists_listed hother hretains he howner
    exact ⟨t, ht, (TypeKey.same_iff.mp hkey).1⟩

end Survey

/-! ## 4. Both happen

The header makes a listed word stand for a class that is no value type, so its own pass refuses the
type that uses the word.  The file that includes it knows nothing of the alias and has accepted the
type. -/

/-- **The header's type is reported by the header's own pass and listed under the header.** -/
theorem aliasSurvey_reported_listed :
    4 ∈ FilePass.reported AllowList.standard.policy 2 ⟨"/h.hpp"⟩ ⟨aliasHeader "Blob", [], []⟩ ∧
      ∃ o x, (aliasSurvey "Blob").outcome 2 = some o ∧ o.result = .ok x ∧
        ⟨"S", some ⟨"/h.hpp"⟩, some 3⟩ ∈ o.reports ∧
        x.get? (some ⟨"/h.hpp"⟩) = some (aliasEntry "string") ∧
        (aliasEntry "string").valueTypes.map ValueType.name = ["S"] :=
  ⟨by decide +kernel, _, _, rfl, rfl, by decide +kernel, by decide +kernel, by decide⟩

/-- **The class of the header is reported and not listed**, as no other pass retains it; its
structure is both, as the pass over the other file does. -/
theorem aliasSurvey_reported_listed_iff :
    ∃ o x, (aliasSurvey "Blob").outcome 2 = some o ∧ o.result = .ok x ∧
      ∃ e, x.get? (some ⟨"/h.hpp"⟩) = some e ∧ (¬ ∃ t ∈ e.valueTypes, t.name = "Blob") ∧
        ∃ t ∈ e.valueTypes, t.name = "S" := by
  obtain ⟨o, x, ho, hx, hparsed⟩ :
      ∃ o x, (aliasSurvey "Blob").outcome 2 = some o ∧ o.result = .ok x ∧
        o.parsed = [⟨"/main.cpp"⟩, ⟨"/h.hpp"⟩] :=
    ⟨_, _, rfl, rfl, by decide +kernel⟩
  have hheader : (⟨"/h.hpp"⟩ : Path) ∈ o.parsed := by simp [hparsed]
  have hmain : (⟨"/main.cpp"⟩ : Path) ∈ o.parsed := by simp [hparsed]
  have hres : ((aliasSurvey "Blob").provider ⟨"/h.hpp"⟩).result =
      .ok ⟨aliasHeader "Blob", [], []⟩ := rfl
  have hd : (aliasHeader "Blob").DefinesOnce := by decide +kernel
  have hreported : ∀ id ∈ [1, 4], id ∈ FilePass.reported (aliasSurvey "Blob").policy
      (aliasSurvey "Blob").options.maxAliasPasses ⟨"/h.hpp"⟩ ⟨aliasHeader "Blob", [], []⟩ := by
    decide +kernel
  obtain ⟨-, e, he, hclass⟩ := Survey.reported_listed_iff (aliasSurvey "Blob") rfl ho hx hheader
    hres hd (hreported 1 (by simp))
  obtain ⟨-, e', he', hstruct⟩ := Survey.reported_listed_iff (aliasSurvey "Blob") rfl ho hx hheader
    hres hd (hreported 4 (by simp))
  obtain rfl : e = e' := Option.some.inj (he.symm.trans he')
  refine ⟨o, x, ho, hx, e, he, fun hlisted => ?_, hstruct.mpr ⟨⟨"/main.cpp"⟩, hmain, by decide, ?_⟩⟩
  · obtain ⟨other, hother, hne, hretains⟩ := hclass.mp hlisted
    have hnone : (aliasSurvey "Blob").yields ⟨"/main.cpp"⟩ ⟨"Blob", ⟨"/h.hpp"⟩⟩ = none := by
      decide +kernel
    rw [hparsed, List.mem_cons, List.mem_singleton] at hother
    rcases hother with rfl | rfl
    · obtain ⟨t, ht⟩ := Survey.retains_iff_exists_yields.mp hretains
      exact absurd (hnone.symm.trans ht) (by simp)
    · exact absurd hne (by decide)
  · rw [Survey.retains_iff_exists_yields, ← Option.isSome_iff_exists]
    decide +kernel

end CppSurface
