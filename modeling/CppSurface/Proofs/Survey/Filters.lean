import CppSurface.Proofs.Survey.Representation

/-!
# Filters decide which files are visited, and nothing else

Two surveys of the same source may follow different includes.  They parse different files in
different orders, and so they make, overwrite and skip the entries that they share at different
times.  Still a file that both parse comes out of both alike.

What a survey does to a file is the pass over it and its attribution.  The pass depends on the unit,
the policy, the entry and the budget of alias passes, none of which is a filter, so it is the same
pass in both surveys.  What stands in the file's entry afterwards is determined by that pass alone
as far as functions, includes and the types that the pass accepts go: functions and includes of an
entry are written by no other pass, and the file's own copy of a type is listed whatever else was
attributed (`Books.yields_own`).

A file may have been met under two spellings.  The pass over it then differs in the spelling of the
file that its records carry, and in nothing else (`FilePass.of_respell`).
-/

namespace CppSurface

/-! ## 1. The pass over a file in another spelling -/

/-- The function with another spelling of its file. -/
def FunctionRecord.respell (file : Path) (f : FunctionRecord) : FunctionRecord :=
  { f with file := file }

@[simp] theorem FunctionRecord.respell_signature (file : Path) (f : FunctionRecord) :
    (f.respell file).signature = f.signature := rfl

/-- The report with another spelling of its file. -/
def Report.respell (key : Option Path) (r : Report) : Report := { r with file := key }

/-- The pass with another spelling of its file. -/
def FilePass.respell (key : Option Path) (file : Path) (pass : FilePass) : FilePass :=
  { pass with
    functions := pass.functions.map (FunctionRecord.respell file)
    reports := pass.reports.map (Report.respell key) }

theorem kept_map {α β : Type} (f : α → β) (sifted : List (α × Bool)) :
    kept (sifted.map fun p => (f p.1, p.2)) = (kept sifted).map f := by
  unfold kept
  rw [List.filter_map, List.map_map, List.map_map]
  rfl

section Spelling

variable {p q : Path} (h : p.same q = true)
include h

theorem Decl.isIn_congr (d : Decl) : d.isIn q = d.isIn p := by
  unfold isIn
  split
  · rw [Path.same_congr h]
  · rfl

theorem AliasTable.ofUnit_congr (tree : DeclTree) (maxPasses : Nat) :
    ofUnit tree q maxPasses = ofUnit tree p maxPasses := by
  have hentry : isEntry q = isEntry p := by
    funext d
    simp only [isEntry, d.isIn_congr h]
  simp only [ofUnit, hentry]

theorem DeclTree.functionsIn_congr (tree : DeclTree) : tree.functionsIn q = tree.functionsIn p := by
  simp only [functionsIn, Decl.isIn_congr h]

/-- The functions of a file are the same in every spelling of it. -/
theorem DeclTree.functions_respell (tree : DeclTree) (aliases : AliasTable) :
    tree.functions q aliases = (tree.functions p aliases).map (FunctionRecord.respell q) := by
  have hsightings : tree.sightings q aliases = tree.sightings p aliases := by
    rw [sightings, sightings, functionsIn_congr h]
  rw [functions_eq_grouped, functions_eq_grouped, hsightings, Sighting.grouped, Sighting.grouped,
    List.map_map]
  rfl

namespace FilePass

variable (policy : Policy) (maxAliasPasses : Nat) (entry : EntryPoint) (unit : ParsedUnit)

theorem types_congr : types maxAliasPasses q unit = types maxAliasPasses p unit := by
  simp only [types, AliasTable.ofUnit_congr h]

theorem candidates_respell :
    candidates maxAliasPasses q unit =
      (candidates maxAliasPasses p unit).map (FunctionRecord.respell q) := by
  simp only [candidates, AliasTable.ofUnit_congr h]
  exact unit.tree.functions_respell h _

/-- The questions of a pass do not depend on the spelling of its file. -/
theorem questions_congr :
    typeQuestions maxAliasPasses q unit = typeQuestions maxAliasPasses p unit ∧
      functionQuestions maxAliasPasses q unit = functionQuestions maxAliasPasses p unit := by
  constructor
  · simp only [typeQuestions, types_congr h, Path.same_congr h]
  · simp only [functionQuestions, candidates_respell h, List.map_map]
    rfl

/-- So its sessions do not either. -/
theorem sessions_congr :
    typeSession policy maxAliasPasses q unit = typeSession policy maxAliasPasses p unit ∧
      session policy maxAliasPasses q unit = session policy maxAliasPasses p unit := by
  obtain ⟨htypes, hfunctions⟩ := questions_congr h maxAliasPasses unit
  constructor
  · simp only [typeSession, resolver, types_congr h, htypes]
  · simp only [session, resolver, types_congr h, htypes, hfunctions]

/-- The answers about functions are the same in the same order. -/
theorem hearings_respell :
    hearings policy maxAliasPasses q unit =
      (hearings policy maxAliasPasses p unit).map fun a => (a.1.respell q, a.2) := by
  unfold hearings
  rw [candidates_respell h, (sessions_congr h policy maxAliasPasses unit).1, (sift_map _ _ _).1]
  simp only [resolver, types_congr h, FunctionRecord.respell_signature]

/-- The declarations that are judged are the same. -/
theorem judged_congr : judged maxAliasPasses q unit = judged maxAliasPasses p unit := by
  refine List.filter_congr fun id _ => ?_
  unfold verdict describe
  rw [AliasTable.ofUnit_congr h, Path.same_congr h]

/-- The reported types are the same. -/
theorem reported_congr :
    reported policy maxAliasPasses q unit = reported policy maxAliasPasses p unit := by
  have hmalformed : malformed maxAliasPasses q unit = malformed maxAliasPasses p unit := by
    refine List.filter_congr fun id _ => ?_
    unfold verdict
    rw [AliasTable.ofUnit_congr h, Decl.isIn_congr h]
  have hrefused : refused policy maxAliasPasses q unit = refused policy maxAliasPasses p unit := by
    unfold refused judgements typeSift resolver describe
    rw [judged_congr h, types_congr h, AliasTable.ofUnit_congr h]
  rw [reported, reported, hmalformed, hrefused]

/-- **The pass over a file is the same in every spelling of it**, but for the spelling that its
functions and reports carry. -/
theorem of_respell :
    FilePass.of policy maxAliasPasses entry q unit =
      (FilePass.of policy maxAliasPasses entry p unit).respell (entry.keyFor q) q := by
  have hfunctions : (FilePass.of policy maxAliasPasses entry q unit).functions =
      ((FilePass.of policy maxAliasPasses entry p unit).functions.map
        (FunctionRecord.respell q)) := by
    have hkept : ∀ file, (FilePass.of policy maxAliasPasses entry file unit).functions =
        kept (hearings policy maxAliasPasses file unit) := fun _ => of_functions
    rw [hkept, hkept, hearings_respell h, kept_map]
  have hreports : (FilePass.of policy maxAliasPasses entry q unit).reports =
      ((FilePass.of policy maxAliasPasses entry p unit).reports.map
        (Report.respell (entry.keyFor q))) := by
    rw [of_reports, of_reports, reported_congr h, hearings_respell h, dropped_map, List.map_append,
      List.map_map, List.map_map, List.map_map]
    rfl
  have hrequired : (FilePass.of policy maxAliasPasses entry q unit).required =
      (FilePass.of policy maxAliasPasses entry p unit).required := by
    rw [of_required, of_required, (sessions_congr h policy maxAliasPasses unit).2]
    simp only [resolver, types_congr h]
  have hnotices : (FilePass.of policy maxAliasPasses entry q unit).notices =
      (FilePass.of policy maxAliasPasses entry p unit).notices := by
    simp only [FilePass.of, DeclTree.functionTexts, AliasTable.ofUnit_congr h,
      DeclTree.functionsIn_congr h]
  rw [FilePass.mk.injEq]
  exact ⟨(unit.directIncludes_congr h).symm, hfunctions, hrequired, hreports, hnotices⟩

end FilePass

end Spelling

/-! ## 2. Two surveys -/

namespace Survey

variable {v w : Survey} {F F' : Path} {files : List Path} {x : Extraction} {reports : List Report}
  {e : FileEntry} {t : ValueType}

/-- **Surveys of the same source that may differ in what they follow**: whether includes are
followed at all, the patterns, and whether headers of the system are skipped. -/
structure AlikeUpToFilters (v w : Survey) : Prop where
  entry : w.entry = v.entry
  provider : w.provider = v.provider
  policy : w.policy = v.policy
  maxAliasPasses : w.options.maxAliasPasses = v.options.maxAliasPasses

/-- The pass over a file is no matter of filters. -/
theorem AlikeUpToFilters.passOf_eq (h : v.AlikeUpToFilters w) (F : Path) :
    w.passOf F = v.passOf F := by
  simp only [passOf, pass, h.entry, h.provider, h.policy, h.maxAliasPasses]

/-- The passes over two spellings of a file for which the provider has one unit. -/
theorem passOf_respell (hsame : F.same F' = true)
    (hunit : (v.provider F').result = (v.provider F).result) :
    v.passOf F' = (v.passOf F).respell (v.entry.keyFor F') F' := by
  unfold passOf
  rw [hunit]
  split
  · exact FilePass.of_respell hsame _ _ _ _
  · rfl

/-- **What the pass over a parsed file accepts of the file's own types is listed as it is.** -/
theorem Books.own_listed (h : v.Books files x reports) (hF : F ∈ files)
    (ht : t ∈ (v.passOf F).required) (hfile : t.file.same F = true) (he : e ∈ x.entries)
    (howner : Path.same? e.file (v.entry.keyFor F) = true) : t ∈ e.valueTypes := by
  have hyields : v.yields F t.key = some t :=
    (distinctKeys_passOf v F).find?_eq ht (TypeKey.same_self _)
  have hretains : v.Retains F t.key := retains_iff_exists_yields.mpr ⟨t, hyields⟩
  have hkey : Path.same? (v.entry.keyFor F) (v.entry.keyFor t.key.file) = true := by
    rw [EntryPoint.same?_keyFor]
    exact Path.same_symm hfile
  obtain ⟨u, hu, hut⟩ := h.exists_listed hF hretains he (Path.same?_trans howner hkey)
  -- the listed record is the one that the file's own pass yields for the key
  have huF : F.same u.file = true :=
    Path.same_symm (Path.same_trans (Path.same_iff.mpr (TypeKey.same_iff.mp hut).2) hfile)
  have hyields' : v.yields F u.key = some t :=
    (distinctKeys_passOf v F).find?_eq ht (TypeKey.same_symm hut)
  have hlisted := h.yields_own he hu hF huF (retains_iff_exists_yields.mpr ⟨t, hyields'⟩)
  rw [Option.some.inj (hyields'.symm.trans hlisted)]
  exact hu

/-- **Filters decide which files are visited, never what a visited file yields.**  Two surveys that
differ in their filters only both succeed, and both parse a file, perhaps in two spellings for which
the provider has the same unit.  Then the file has an entry in both extractions.

* The functions are the same, and so are the includes.
* The reports of a survey are those of its passes one after the other, and the reports of the pass
  over this file are the same.
* In both of these the file of a record is spelled as it was met.  If it was met in one spelling,
  they are equal.
* Every value type of the file that its own pass accepts is listed in both entries, with the same
  record. -/
theorem parsed_in_both (v w : Survey) (hvw : v.AlikeUpToFilters w) {bound bound' : Nat}
    {o o' : Outcome} {x x' : Extraction} (ho : v.outcome bound = some o) (hx : o.result = .ok x)
    (ho' : w.outcome bound' = some o') (hx' : o'.result = .ok x') {F F' : Path}
    (hF : F ∈ o.parsed) (hF' : F' ∈ o'.parsed) (hsame : F.same F' = true)
    (hunit : (v.provider F').result = (v.provider F).result) :
    ∃ e e', x.get? (v.entry.keyFor F) = some e ∧ x'.get? (v.entry.keyFor F') = some e' ∧
      (e'.functions = e.functions.map (FunctionRecord.respell F') ∧ e'.includes = e.includes) ∧
      (o.reports = o.parsed.flatMap (fun G => (v.passOf G).reports) ∧
        o'.reports = o'.parsed.flatMap (fun G => (w.passOf G).reports) ∧
        (w.passOf F').reports =
          (v.passOf F).reports.map (Report.respell (v.entry.keyFor F'))) ∧
      (F = F' → e'.functions = e.functions ∧ (w.passOf F').reports = (v.passOf F).reports) ∧
      ∀ t ∈ (v.passOf F).required, t.file.same F = true → t ∈ e.valueTypes ∧ t ∈ e'.valueTypes := by
  have h := outcome_books ho hx
  have h' := outcome_books ho' hx'
  obtain ⟨e, he, hget, howner, hfunctions⟩ := h.exists_entry hF
  obtain ⟨e', he', hget', howner', hfunctions'⟩ := h'.exists_entry hF'
  have hpass : w.passOf F' = (v.passOf F).respell (v.entry.keyFor F') F' :=
    (hvw.passOf_eq F').trans (passOf_respell hsame hunit)
  obtain ⟨unit, hres, -⟩ := failure?_eq_none_iff.mp (h.usable F hF)
  have hres' : (w.provider F').result = .ok unit := by rw [hvw.provider, hunit, hres]
  refine ⟨e, e', hget, hvw.entry ▸ hget', ⟨?_, ?_⟩, ⟨h.reports, h'.reports, ?_⟩, ?_, ?_⟩
  · rw [hfunctions', hfunctions, hpass]
    rfl
  · rw [(outcome_origins ho hx).includes_eq h hF hres he howner,
      (outcome_origins ho' hx').includes_eq h' hF' hres' he' howner',
      unit.directIncludes_congr hsame]
  · rw [hpass]
    rfl
  · rintro rfl
    rw [hfunctions', hfunctions, hvw.passOf_eq]
    exact ⟨rfl, rfl⟩
  · intro t ht hfile
    refine ⟨h.own_listed hF ht hfile he howner, h'.own_listed hF' ?_ ?_ he' howner'⟩
    · rw [hpass]
      exact ht
    · exact Path.same_trans hfile hsame

end Survey

/-! ## 3. Non-vacuity

A header that can be reached in two ways, in two spellings.  One survey follows everything and meets
it first as an include of the entry; the other one has a pattern that excludes this spelling, and
meets it through another header. -/

/-- The header: a class that is reported, an alias, a type that uses it, and a function. -/
def sharedHeader : DeclTree :=
  (aliasHeader "std::vector<char>").push 0
    { kind := .function, name := "make", file := some ⟨"/h.hpp"⟩, line := 4, typeText := some "S" }

/-- The survey with these exclusions. -/
def twoRoutes (exclusions : List Pattern) : Survey where
  options := ⟨true, [], exclusions, false, 2⟩
  provider := fun file =>
    if file.same ⟨"/main.cpp"⟩ then
      ⟨[], .ok ⟨.empty, [⟨⟨"/main.cpp"⟩, ⟨"/h.hpp"⟩⟩, ⟨⟨"/main.cpp"⟩, ⟨"/k.hpp"⟩⟩], []⟩⟩
    else if file.same ⟨"/k.hpp"⟩ then
      ⟨[], .ok ⟨.empty, [⟨⟨"/k.hpp"⟩, ⟨"//h.hpp"⟩⟩], []⟩⟩
    else ⟨[], .ok ⟨sharedHeader, [], []⟩⟩
  policy := AllowList.standard.policy
  files := ⟨[], []⟩
  entry := ⟨⟨"/main.cpp"⟩, false⟩

/-- Matches what starts with `/h`. -/
def slashH : Pattern := ⟨"/h", .seq (.chars [⟨47, 47⟩]) (.chars [⟨104, 104⟩])⟩

/-- **The header comes out of both surveys alike**, with a function, a report and a type. -/
theorem twoRoutes_parsed_in_both :
    ∃ o x o' x', (twoRoutes []).outcome 3 = some o ∧ o.result = .ok x ∧
      (twoRoutes [slashH]).outcome 3 = some o' ∧ o'.result = .ok x' ∧
      o.parsed = [⟨"/main.cpp"⟩, ⟨"/h.hpp"⟩, ⟨"/k.hpp"⟩] ∧
      o'.parsed = [⟨"/main.cpp"⟩, ⟨"/k.hpp"⟩, ⟨"//h.hpp"⟩] ∧
      ∃ e e', x.get? (some ⟨"/h.hpp"⟩) = some e ∧ x'.get? (some ⟨"//h.hpp"⟩) = some e' ∧
        e'.functions = e.functions.map (FunctionRecord.respell ⟨"//h.hpp"⟩) ∧
        aliasRecord "std::vector<char>" ∈ e.valueTypes ∧
        aliasRecord "std::vector<char>" ∈ e'.valueTypes := by
  obtain ⟨o, x, ho, hx, hparsed⟩ : ∃ o x, (twoRoutes []).outcome 3 = some o ∧ o.result = .ok x ∧
      o.parsed = [⟨"/main.cpp"⟩, ⟨"/h.hpp"⟩, ⟨"/k.hpp"⟩] := ⟨_, _, rfl, rfl, by decide +kernel⟩
  obtain ⟨o', x', ho', hx', hparsed'⟩ : ∃ o x, (twoRoutes [slashH]).outcome 3 = some o ∧
      o.result = .ok x ∧ o.parsed = [⟨"/main.cpp"⟩, ⟨"/k.hpp"⟩, ⟨"//h.hpp"⟩] :=
    ⟨_, _, rfl, rfl, by decide +kernel⟩
  have hF : (⟨"/h.hpp"⟩ : Path) ∈ o.parsed := by simp [hparsed]
  have hF' : (⟨"//h.hpp"⟩ : Path) ∈ o'.parsed := by simp [hparsed']
  obtain ⟨e, e', hget, hget', ⟨hfunctions, -⟩, -, -, htypes⟩ :=
    Survey.parsed_in_both (twoRoutes []) (twoRoutes [slashH]) ⟨rfl, rfl, rfl, rfl⟩ ho hx ho' hx'
      hF hF' (by decide) rfl
  obtain ⟨ht, ht'⟩ := htypes (aliasRecord "std::vector<char>") (by decide +kernel) (by decide)
  exact ⟨o, x, o', x', ho, hx, ho', hx', hparsed, hparsed', e, e', hget, hget', hfunctions, ht, ht'⟩

end CppSurface
