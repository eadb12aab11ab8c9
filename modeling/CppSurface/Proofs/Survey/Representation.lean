import CppSurface.Proofs.Survey.Sightings
import CppSurface.Proofs.Survey.Tally

/-!
# The shape of an extraction at every stage of a survey

Entries come about in three ways: by the pass over their own file, by a function of that file, and
by a value type that another file's pass attributes to them.  Which comes first depends on the
includes and on the filters, and a later pass overwrites some fields and must leave the others.
What an extraction looks like does not depend on any of this, and it is the same after the last file
as after each one before it.

The books of a survey (`Books`) say what is listed under each file.  Two things are missing from
them, and both are a matter of who came first.

* The first entry is that of the first parsed file, because every change either keeps the entries
  that are there or appends one (`firstKey_update`).
* The includes of an entry are set by the pass over its own file, whenever that is, and before it
  only by the pass that creates the entry (`includesOf_absorb`).  So an entry without such a pass
  still has the includes that its creator saw (`Origins`).

`Represents` collects the properties of an extraction, and `stage_represents` says that they hold at
every stage.
-/

namespace CppSurface

/-! ## 1. The functions of one file -/

theorem kept_sublist {α : Type} (sifted : List (α × Bool)) :
    (kept sifted).Sublist (sifted.map (·.1)) :=
  List.filter_sublist.map _

/-- The functions that a pass publishes are among those of its file, in the same order. -/
theorem FilePass.functions_sublist {policy : Policy} {maxAliasPasses : Nat} {entry : EntryPoint}
    {file : Path} {unit : ParsedUnit} :
    (FilePass.of policy maxAliasPasses entry file unit).functions.Sublist
      (FilePass.candidates maxAliasPasses file unit) := by
  rw [of_functions]
  have hsub := kept_sublist (hearings policy maxAliasPasses file unit)
  rwa [hearings, map_fst_sift] at hsub

/-! ## 2. The first entry -/

namespace Extraction

variable {x : Extraction} {owner : Option Path} {entry : EntryPoint} {source : Path}
  {unit : ParsedUnit} {t : ValueType} {pass : FilePass}

/-- The file of the first entry. -/
def firstKey (x : Extraction) : Option (Option Path) := x.entries.head?.map FileEntry.file

/-- **A change leaves the first entry first**; where there is none, it makes one. -/
theorem firstKey_update {g : FileEntry → FileEntry} (hg : ∀ e, (g e).file = e.file)
    (x : Extraction) (file : Option Path) :
    (x.update file g).firstKey = some (x.firstKey.getD file) := by
  unfold firstKey
  rcases update_cases x file g with ⟨before, e, after, hx, -, -, hup⟩ | ⟨-, hup⟩
  · rw [hup, hx]
    cases before <;> simp [hg]
  · rw [hup]
    cases hx : x.entries <;> simp [hg, FileEntry.blank]

theorem firstKey_attribute :
    (x.attribute entry source unit t).firstKey = some (x.firstKey.getD (entry.keyFor t.file)) := by
  unfold Extraction.attribute
  rw [firstKey_update (g := FileEntry.addValueType _ t) fun _ => rfl]
  split
  · rfl
  · rw [firstKey_update (g := FileEntry.setIncludes _) fun _ => rfl, Option.getD_some]

/-- **After a pass the first entry is the one that was first, or else that of the file.** -/
theorem firstKey_absorb :
    (x.absorb entry source unit pass).firstKey = some (x.firstKey.getD (entry.keyFor source)) := by
  refine List.foldlRecOn (motive := fun y => firstKey y =
    some (x.firstKey.getD (entry.keyFor source))) pass.required _ ?_ fun y hy t _ => ?_
  · refine List.foldlRecOn (motive := fun y => firstKey y =
      some (x.firstKey.getD (entry.keyFor source))) pass.functions _ ?_ fun y hy f _ => ?_
    · exact firstKey_update (g := FileEntry.setIncludes pass.includes) (fun _ => rfl) _ _
    · rw [firstKey_update (g := FileEntry.addFunction f) fun _ => rfl, hy, Option.getD_some]
  · rw [firstKey_attribute, hy, Option.getD_some]

/-! ## 3. The includes of an entry -/

theorem contains_congr {p q : Option Path} (h : Path.same? p q = true) (x : Extraction) :
    x.contains p = x.contains q := by
  have hfind : (fun e : FileEntry => Path.same? e.file p) = fun e => Path.same? e.file q := by
    funext e
    exact Bool.eq_iff_iff.mpr
      ⟨fun he => Path.same?_trans he h, fun he => Path.same?_trans he (Path.same?_symm h)⟩
  unfold contains get?
  rw [hfind]

/-- The includes of the entry of a file. -/
def includesOf (x : Extraction) (owner : Option Path) : List Path :=
  x.read FileEntry.includes owner

theorem includesOf_setIncludes (file : Option Path) (includes : List Path) :
    (x.update file (FileEntry.setIncludes includes)).includesOf owner =
      if Path.same? file owner then includes else x.includesOf owner :=
  read_update (g := FileEntry.setIncludes includes) (p := FileEntry.includes)
    (F := fun _ => includes) (fun _ => rfl) (fun _ => rfl) (fun _ => rfl) x file owner

@[simp] theorem includesOf_addFunction (file : Option Path) (f : FunctionRecord) :
    (x.update file (FileEntry.addFunction f)).includesOf owner = x.includesOf owner :=
  (read_update (g := FileEntry.addFunction f) (p := FileEntry.includes) (F := id)
    (fun _ => rfl) (fun _ => rfl) (fun _ => rfl) x file owner).trans (ite_self _)

@[simp] theorem includesOf_addValueType (file : Option Path) (overwrite : Bool) (t : ValueType) :
    (x.update file (FileEntry.addValueType overwrite t)).includesOf owner = x.includesOf owner :=
  (read_update (g := FileEntry.addValueType overwrite t) (p := FileEntry.includes) (F := id)
    (fun _ => rfl) (fun _ => rfl) (fun _ => rfl) x file owner).trans (ite_self _)

/-- **Attributing a type sets the includes of an entry only when it makes the entry.** -/
theorem includesOf_attribute :
    (x.attribute entry source unit t).includesOf owner =
      if Path.same? (entry.keyFor t.file) owner && !x.contains owner then
        unit.directIncludes t.file
      else x.includesOf owner := by
  unfold Extraction.attribute
  rw [includesOf_addValueType]
  by_cases hsame : Path.same? (entry.keyFor t.file) owner = true
  · rw [contains_congr hsame]
    by_cases hc : x.contains owner = true
    · simp [hc]
    · simp [hc, hsame, includesOf_setIncludes]
  · split <;> simp [hsame, includesOf_setIncludes]

theorem includesOf_absorbOwn (key : Option Path) :
    (x.absorbOwn key pass).includesOf owner =
      if Path.same? key owner then pass.includes else x.includesOf owner :=
  List.foldlRecOn (motive := fun y => includesOf y owner =
    if Path.same? key owner then pass.includes else x.includesOf owner) pass.functions _
    (includesOf_setIncludes _ _) fun _ hy f _ => (includesOf_addFunction _ f).trans hy

/-- The includes that attributing types leaves under a file: those that were there if it has an
entry, and otherwise those that the unit has for the first type of that file. -/
theorem includesOf_foldl_attribute (ts : List ValueType) (x : Extraction) :
    (ts.foldl (Extraction.attribute entry source unit) x).includesOf owner =
      if x.contains owner then x.includesOf owner
      else ((ts.find? fun t => Path.same? (entry.keyFor t.file) owner).map
        fun t => unit.directIncludes t.file).getD (x.includesOf owner) := by
  induction ts generalizing x with
  | nil => simp
  | cons t ts ih =>
    rw [List.foldl_cons, ih, contains_attribute, includesOf_attribute, List.find?_cons]
    by_cases hsame : Path.same? (entry.keyFor t.file) owner = true
    · by_cases hc : x.contains owner = true <;> simp [hsame, hc]
    · simp [hsame]

/-- **A pass sets the includes of its own file**, and leaves those of every other entry that was
there.  An entry that it makes gets the includes that its unit has for the first type it
attributes to it. -/
theorem includesOf_absorb :
    (x.absorb entry source unit pass).includesOf owner =
      if Path.same? (entry.keyFor source) owner then pass.includes
      else if x.contains owner then x.includesOf owner
      else ((pass.required.find? fun t => Path.same? (entry.keyFor t.file) owner).map
        fun t => unit.directIncludes t.file).getD (x.includesOf owner) := by
  rw [absorb_eq, includesOf_foldl_attribute, contains_absorbOwn, includesOf_absorbOwn]
  by_cases hsame : Path.same? (entry.keyFor source) owner = true <;> simp [hsame]

end Extraction

/-! ## 4. Where entries come from -/

/-- Two spellings of a path have the same includes. -/
theorem ParsedUnit.directIncludes_congr {p q : Path} (h : p.same q = true) (unit : ParsedUnit) :
    unit.directIncludes p = unit.directIncludes q := by
  simp only [directIncludes, Path.same_congr h]

namespace Survey

variable {v : Survey} {file : Path} {files : List Path} {unit : ParsedUnit} {x : Extraction}
  {reports : List Report} {e : FileEntry} {owner : Option Path} {s : SurveyState}

/-- The pass over a file attributes a value type to an owner. -/
def Attributes (v : Survey) (file : Path) (owner : Option Path) : Prop :=
  ∃ t ∈ (v.passOf file).required, Path.same? (v.entry.keyFor t.file) owner = true

/-- **Where the entries come from when these files have been parsed.** -/
structure Origins (v : Survey) (files : List Path) (x : Extraction) : Prop where
  /-- The first entry is that of the first file. -/
  first : x.firstKey = files.head?.map v.entry.keyFor
  /-- A parsed file has the includes that its own unit gives it. -/
  own : ∀ file ∈ files, ∀ unit, (v.provider file).result = .ok unit →
    x.includesOf (v.entry.keyFor file) = unit.directIncludes file
  /-- What a pass attributes a type to has an entry. -/
  attributed : ∀ file ∈ files, ∀ owner, v.Attributes file owner → x.contains owner = true
  /-- An entry without a pass of its own has the includes that were seen by the first pass that
  attributed a type to it. -/
  foreign : ∀ owner, x.contains owner = true →
    (∀ file ∈ files, Path.same? (v.entry.keyFor file) owner = false) →
      ∃ before file after unit t, files = before ++ file :: after ∧
        (v.provider file).result = .ok unit ∧ (∀ F ∈ before, ¬ v.Attributes F owner) ∧
        t ∈ (v.passOf file).required ∧ Path.same? (v.entry.keyFor t.file) owner = true ∧
        x.includesOf owner = unit.directIncludes t.file

theorem origins_start (v : Survey) : v.Origins [] .empty where
  first := rfl
  own := by simp
  attributed := by simp
  foreign owner h := absurd h (by simp [Extraction.contains, Extraction.get?, Extraction.empty])

/-- **Absorbing the pass over one more file keeps the account of where entries come from.** -/
theorem Origins.absorb (h : v.Origins files x) (hbooks : v.Books files x reports)
    (hres : (v.provider file).result = .ok unit) (hdiffer : Path.Differ (files ++ [file])) :
    v.Origins (files ++ [file]) (x.absorb v.entry file unit (v.pass file unit)) where
  first := by
    rw [Extraction.firstKey_absorb, h.first]
    cases files <;> simp
  own F hF u hu := by
    rw [Extraction.includesOf_absorb, EntryPoint.same?_keyFor]
    rcases List.mem_append.mp hF with hF | hF
    · have hne : file.same F = false := by
        have hcross := (List.pairwise_append.mp hdiffer).2.2 F hF file List.mem_cons_self
        exact Bool.eq_false_iff.mpr fun h => absurd (Path.same_symm h) (by simp [hcross])
      simp [hne, hbooks.contains F hF, h.own F hF u hu]
    · obtain rfl := List.mem_singleton.mp hF
      obtain rfl : unit = u := Except.ok.inj (hres.symm.trans hu)
      simp [pass, FilePass.of]
  attributed F hF owner hattr := by
    rw [Extraction.contains_absorb]
    rcases List.mem_append.mp hF with hF | hF
    · simp [h.attributed F hF owner hattr]
    · obtain rfl := List.mem_singleton.mp hF
      obtain ⟨t, ht, hsame⟩ := hattr
      rw [passOf_eq hres] at ht
      have hany : ((v.pass F unit).required.any fun t =>
          Path.same? (v.entry.keyFor t.file) owner) = true := List.any_eq_true.mpr ⟨t, ht, hsame⟩
      simp [hany]
  foreign owner hcontains hforeign := by
    have hfile : Path.same? (v.entry.keyFor file) owner = false := hforeign file (by simp)
    rw [Extraction.contains_absorb, hfile, Bool.false_or, Bool.or_eq_true] at hcontains
    rw [Extraction.includesOf_absorb, hfile]
    by_cases hx : x.contains owner = true
    · obtain ⟨before, F, after, u, t, hfiles, hu, hbefore, ht, hsame, hincludes⟩ :=
        h.foreign owner hx fun F hF => hforeign F (List.mem_append_left _ hF)
      refine ⟨before, F, after ++ [file], u, t, by simp [hfiles], hu, hbefore, ht, hsame, ?_⟩
      simp [hx, hincludes]
    · -- the entry is made by this pass, so no pass before has attributed anything to it
      obtain ⟨t, ht⟩ : ∃ t, (v.pass file unit).required.find?
          (fun t => Path.same? (v.entry.keyFor t.file) owner) = some t := by
        rw [← Option.isSome_iff_exists, List.find?_isSome, ← List.any_eq_true]
        exact hcontains.resolve_left hx
      refine ⟨files, file, [], unit, t, rfl, hres, fun F hF hattr =>
        hx (h.attributed F hF owner hattr), ?_, by simpa using List.find?_some ht, ?_⟩
      · rw [passOf_eq hres]
        exact List.mem_of_find?_eq_some ht
      · simp [hx, ht]

/-- Where entries come from is accounted for at every stage. -/
theorem Stage.origins (hs : v.Stage s) : v.Origins s.parsed s.extraction := by
  induction hs with
  | start => exact origins_start v
  | @step file rest s s' hs hq hprocess ih =>
    have hdiffer : Path.Differ s'.parsed := (hs.step hq hprocess).books.1.differ
    obtain ⟨unit, hres, -, rfl⟩ := process_eq_ok hprocess
    rw [advance_parsed] at hdiffer ⊢
    rw [advance_extraction]
    exact ih.absorb hs.books.1 hres hdiffer

theorem outcome_origins {bound : Nat} {o : Outcome} (ho : v.outcome bound = some o)
    (hx : o.result = .ok x) : v.Origins o.parsed x := by
  obtain ⟨s, hs, -, rfl, hparsed, -⟩ := outcome_stage ho hx
  rw [← hparsed]
  exact hs.origins

/-! ## 5. The shape of an extraction -/

/-- **What an extraction looks like when these files have been parsed.** -/
structure Represents (v : Survey) (files : List Path) (x : Extraction) : Prop where
  /-- No two entries belong to the same file. -/
  keysDiffer : x.KeysDiffer
  /-- The first entry is that of the survey's entry.  It has no file just when the source is inline
  text, and all the others have one. -/
  first : ∃ e rest, x.entries = e :: rest ∧ e.file = v.entry.keyFor v.entry.path ∧
    (e.file = none ↔ v.entry.isInline = true) ∧ ∀ e' ∈ rest, e'.file ≠ none
  /-- Every function and value type stands under its own file. -/
  belongs : ∀ e ∈ x.entries,
    (∀ f ∈ e.functions, Path.same? (v.entry.keyFor f.file) e.file = true) ∧
      ∀ t ∈ e.valueTypes, Path.same? (v.entry.keyFor t.file) e.file = true
  /-- No entry has two value types of one name and file, or two functions of one signature. -/
  distinct : ∀ e ∈ x.entries,
    DistinctKeys e.valueTypes ∧ (e.functions.map (·.signature)).Nodup
  /-- The entry of a parsed file has the includes that the file's own unit gives it. -/
  parsed : ∀ file ∈ files, ∃ unit e, (v.provider file).result = .ok unit ∧
    x.get? (v.entry.keyFor file) = some e ∧ e.includes = unit.directIncludes file
  /-- The entry of any other file has value types and no functions, and the includes that were seen
  by the unit of the first file whose pass attributed a value type to it. -/
  unparsed : ∀ e ∈ x.entries,
    (∀ file ∈ files, Path.same? (v.entry.keyFor file) e.file = false) →
      e.functions = [] ∧ e.valueTypes ≠ [] ∧
        ∃ p before file after unit, e.file = some p ∧ files = before ++ file :: after ∧
          (v.provider file).result = .ok unit ∧ (∀ F ∈ before, ¬ v.Attributes F e.file) ∧
          v.Attributes file e.file ∧ e.includes = unit.directIncludes p

/-- Entries are found under their files, with the includes that are read there. -/
theorem Books.includes_eq (h : v.Books files x reports) (he : e ∈ x.entries)
    (howner : Path.same? e.file owner = true) :
    x.contains owner = true ∧ e.includes = x.includesOf owner := by
  have hget := h.keysDiffer.get?_eq he howner
  exact ⟨by simp [Extraction.contains, hget],
    by simp [Extraction.includesOf, Extraction.read, hget]⟩

/-- The entry of a parsed file has the includes that the file's own unit gives it. -/
theorem Origins.includes_eq (h : v.Origins files x) (hbooks : v.Books files x reports)
    (hfile : file ∈ files) (hres : (v.provider file).result = .ok unit) (he : e ∈ x.entries)
    (howner : Path.same? e.file (v.entry.keyFor file) = true) :
    e.includes = unit.directIncludes file :=
  (hbooks.includes_eq he howner).2.trans (h.own file hfile unit hres)

/-- The functions of an entry come from the pass over its file. -/
theorem Books.functions_eq (h : v.Books files x reports) (he : e ∈ x.entries) :
    e.functions = files.flatMap fun file =>
      if Path.same? (v.entry.keyFor file) e.file then (v.passOf file).functions else [] := by
  have hget := h.keysDiffer.get?_eq he (Path.same?_self _)
  rw [← h.functions, Extraction.functionsOf, Extraction.read, hget]
  rfl

theorem passOf_functions (v : Survey) (file : Path) :
    ((v.passOf file).functions.map (·.signature)).Nodup ∧
      ∀ f ∈ (v.passOf file).functions, f.file = file := by
  unfold passOf
  split
  · rename_i unit hres
    have hsub : (v.pass file unit).functions.Sublist
        (FilePass.candidates v.options.maxAliasPasses file unit) := FilePass.functions_sublist
    obtain ⟨hnodup, hfile⟩ := DeclTree.functions_distinct unit.tree file
      (AliasTable.ofUnit unit.tree file v.options.maxAliasPasses)
    exact ⟨hnodup.sublist (hsub.map _), fun f hf => hfile f (hsub.subset hf)⟩
  · exact ⟨List.nodup_nil, by simp⟩

/-- The first known file is the entry. -/
theorem head?_wave (v : Survey) (n : Nat) : (v.wave n).head? = some v.entry.path := by
  rw [wave_eq, Path.firsts_cons]
  obtain ⟨ps, hps⟩ := Path.prefix_foldl_addNew (((v.wave n).take n).flatMap v.next) [v.entry.path]
  rw [← hps]
  rfl

/-- The first parsed file is the entry. -/
theorem Abreast.head?_parsed {n : Nat} (hs : v.Abreast n s) (hne : s.parsed ≠ []) :
    s.parsed.head? = some v.entry.path := by
  have hhead := head?_wave v n
  rw [← hs.known, hs.split] at hhead
  cases hp : s.parsed with
  | nil => exact absurd hp hne
  | cons p ps => simpa [hp] using hhead

/-- A key without a file is that of the entry, if it is inline text. -/
theorem isInline_of_same?_none {entry : EntryPoint} {p : Path}
    (h : Path.same? (entry.keyFor p) none = true) : entry.isInline = true := by
  unfold EntryPoint.keyFor at h
  split at h
  · rename_i hp
    exact (Bool.and_eq_true_iff.mp hp).1
  · exact absurd h (by simp [Path.same?])

/-- A key with a file is that of the file. -/
theorem same_of_same?_some {entry : EntryPoint} {p q : Path}
    (h : Path.same? (entry.keyFor q) (some p) = true) : q.same p = true := by
  unfold EntryPoint.keyFor at h
  split at h
  · exact absurd h (by simp [Path.same?])
  · exact h

/-- **An entry without a file is there only if the source is inline text.** -/
theorem Origins.isInline (h : v.Origins files x) (hcontains : x.contains none = true) :
    v.entry.isInline = true := by
  by_cases hparsed : ∀ file ∈ files, Path.same? (v.entry.keyFor file) none = false
  · obtain ⟨-, -, -, -, t, -, -, -, -, hsame, -⟩ := h.foreign none hcontains hparsed
    exact isInline_of_same?_none hsame
  · push Not at hparsed
    obtain ⟨file, -, hsame⟩ := hparsed
    exact isInline_of_same?_none (by simpa using hsame)

/-- The first entry, given that the first parsed file is the survey's entry. -/
theorem Origins.first_entry (h : v.Origins files x) (hbooks : v.Books files x reports)
    (hhead : files.head? = some v.entry.path) :
    ∃ e rest, x.entries = e :: rest ∧ e.file = v.entry.keyFor v.entry.path ∧
      (e.file = none ↔ v.entry.isInline = true) ∧ ∀ e' ∈ rest, e'.file ≠ none := by
  have hkey := h.first
  rw [hhead, Extraction.firstKey] at hkey
  have hnone : v.entry.keyFor v.entry.path = none ↔ v.entry.isInline = true := by
    simp [EntryPoint.keyFor]
  cases hx : x.entries with
  | nil => exact absurd hkey (by simp [hx])
  | cons e rest =>
    have hfile : e.file = v.entry.keyFor v.entry.path := by simpa [hx] using hkey
    refine ⟨e, rest, rfl, hfile, by rw [hfile, hnone], fun e' he' hfile' => ?_⟩
    -- the source is inline text, so the first entry has no file either
    have hmem : e' ∈ x.entries := by rw [hx]; exact List.mem_cons_of_mem _ he'
    have hcontains := (hbooks.includes_eq hmem (Path.same?_self _)).1
    rw [hfile'] at hcontains
    have hdiffer := hbooks.keysDiffer
    unfold Extraction.KeysDiffer at hdiffer
    rw [hx] at hdiffer
    have hne := (List.pairwise_cons.mp hdiffer).1 e' he'
    rw [hfile', hfile, hnone.mpr (h.isInline hcontains)] at hne
    exact absurd hne (by simp [Path.same?])

/-- The functions of an entry, each under its own file and each once. -/
theorem Books.functions_distinct (h : v.Books files x reports) (he : e ∈ x.entries) :
    (∀ f ∈ e.functions, Path.same? (v.entry.keyFor f.file) e.file = true) ∧
      (e.functions.map (·.signature)).Nodup := by
  constructor
  · intro f hf
    rw [h.functions_eq he] at hf
    obtain ⟨file, -, hf⟩ := List.mem_flatMap.mp hf
    split at hf
    · rename_i hsame
      rwa [(passOf_functions v file).2 f hf]
    · exact absurd hf (by simp)
  · by_cases hparsed : ∃ file ∈ files, Path.same? (v.entry.keyFor file) e.file = true
    · obtain ⟨file, hfile, hsame⟩ := hparsed
      obtain ⟨e', -, hget, -, hfunctions⟩ := h.exists_entry hfile
      rw [h.keysDiffer.get?_eq he (Path.same?_symm hsame)] at hget
      rw [Option.some.inj hget, hfunctions]
      exact (passOf_functions v file).1
    · have hnil : e.functions = [] := by
        rw [h.functions_eq he]
        refine List.flatMap_eq_nil_iff.mpr fun file hfile => if_neg fun hsame => ?_
        exact hparsed ⟨file, hfile, hsame⟩
      simp [hnil]

/-- **The entry of a file that was not parsed.** -/
theorem Origins.unparsed_entry (h : v.Origins files x) (hbooks : v.Books files x reports)
    (hentry : v.entry.path ∈ files) (he : e ∈ x.entries)
    (hforeign : ∀ file ∈ files, Path.same? (v.entry.keyFor file) e.file = false) :
    e.functions = [] ∧ e.valueTypes ≠ [] ∧
      ∃ p before file after unit, e.file = some p ∧ files = before ++ file :: after ∧
        (v.provider file).result = .ok unit ∧ (∀ F ∈ before, ¬ v.Attributes F e.file) ∧
        v.Attributes file e.file ∧ e.includes = unit.directIncludes p := by
  obtain ⟨hcontains, hincludes⟩ := hbooks.includes_eq he (Path.same?_self _)
  obtain ⟨before, file, after, unit, t, hfiles, hres, hbefore, ht, hsame, hseen⟩ :=
    h.foreign e.file hcontains hforeign
  refine ⟨?_, ?_, ?_⟩
  · rw [hbooks.functions_eq he]
    exact List.flatMap_eq_nil_iff.mpr fun F hF => by simp [hforeign F hF]
  · have hretains : v.Retains file t.key := retains_iff_exists_yields.mpr
      ⟨t, (distinctKeys_passOf v file).find?_eq ht (TypeKey.same_self _)⟩
    obtain ⟨u, hu, -⟩ := hbooks.exists_listed (by simp [hfiles]) hretains he (Path.same?_symm hsame)
    exact List.ne_nil_of_mem hu
  · cases hfile : e.file with
    | none =>
      -- only the survey's entry has no file, and that was parsed
      rw [hfile] at hsame
      have hinline := isInline_of_same?_none hsame
      have hparsed := hforeign v.entry.path hentry
      simp [hfile, EntryPoint.keyFor, hinline, Path.same?] at hparsed
    | some p =>
      rw [hfile] at hsame hbefore
      refine ⟨p, before, file, after, unit, rfl, hfiles, hres, hbefore, ⟨t, ht, hsame⟩, ?_⟩
      rw [hincludes, hseen, ParsedUnit.directIncludes_congr (same_of_same?_some hsame)]

/-- An extraction that is accounted for has the right shape. -/
theorem Books.represents (hbooks : v.Books files x reports) (h : v.Origins files x)
    (hhead : files.head? = some v.entry.path) : v.Represents files x where
  keysDiffer := hbooks.keysDiffer
  first := h.first_entry hbooks hhead
  belongs e he := ⟨(hbooks.functions_distinct he).1, fun _ ht => hbooks.listed_under he ht⟩
  distinct e he := ⟨hbooks.distinctKeys he, (hbooks.functions_distinct he).2⟩
  parsed file hfile := by
    obtain ⟨unit, hres, -⟩ := failure?_eq_none_iff.mp (hbooks.usable file hfile)
    obtain ⟨e, he, hget, howner, -⟩ := hbooks.exists_entry hfile
    exact ⟨unit, e, hres, hget, h.includes_eq hbooks hfile hres he howner⟩
  unparsed _ he hforeign :=
    h.unparsed_entry hbooks (List.mem_of_mem_head? (by simp [hhead])) he hforeign

/-- **The shape of an extraction is kept along every survey.**  At every stage after the first file,
and so in the outcome of a survey that succeeds: no two entries belong to the same file; the first
is the survey's entry, and it alone may lack a file; functions and value types stand under their own
files, and no two of an entry are the same; the includes of a parsed file are those of its own unit;
and the entry of a file that was not parsed has value types only, and the includes that were seen by
the first to attribute one to it. -/
theorem stage_represents (v : Survey) :
    (∀ s, v.Stage s → s.parsed ≠ [] → v.Represents s.parsed s.extraction) ∧
      ∀ bound o x, v.outcome bound = some o → o.result = .ok x → v.Represents o.parsed x := by
  have hstage : ∀ s, v.Stage s → s.parsed ≠ [] → v.Represents s.parsed s.extraction := by
    intro s hs hne
    obtain ⟨hbooks, n, habreast⟩ := hs.books
    exact hbooks.represents hs.origins (habreast.head?_parsed hne)
  refine ⟨hstage, fun bound o x ho hx => ?_⟩
  obtain ⟨s, hs, hqueue, rfl, hparsed, -⟩ := outcome_stage ho hx
  rw [← hparsed]
  refine hstage s hs fun hnil => ?_
  -- the entry is known from the start, so it is parsed when the queue is empty
  obtain ⟨-, n, habreast⟩ := hs.books
  have hhead := head?_wave v n
  rw [← habreast.known, habreast.split, hnil, hqueue] at hhead
  exact absurd hhead (by simp)

end Survey

/-! ## 6. Non-vacuity

The survey of a header and the file that includes it, with the file given as inline text.  After the
first file there is an entry for the header, which is not parsed yet. -/

/-- The survey of both files, with the including one as inline text. -/
def inlineSurvey : Survey :=
  { aliasSurvey "std::vector<char>" with entry := ⟨⟨"/main.cpp"⟩, true⟩ }

/-- The survey after its first file. -/
def inlineStage : SurveyState :=
  (inlineSurvey.process ⟨"/main.cpp"⟩ ⟨[], [⟨"/main.cpp"⟩], [], .empty, [], []⟩).2

/-- **Both stages have the shape**: the one with the header still to come, and the outcome. -/
theorem inlineSurvey_represents :
    (inlineSurvey.Stage inlineStage ∧ inlineStage.parsed = [⟨"/main.cpp"⟩] ∧
      inlineStage.queue = [⟨"/h.hpp"⟩] ∧
      inlineStage.extraction.entries.map FileEntry.file = [none, some ⟨"/h.hpp"⟩] ∧
      inlineSurvey.Represents inlineStage.parsed inlineStage.extraction) ∧
    ∃ o x, inlineSurvey.outcome 2 = some o ∧ o.result = .ok x ∧
      o.parsed = [⟨"/main.cpp"⟩, ⟨"/h.hpp"⟩] ∧ inlineSurvey.Represents o.parsed x := by
  obtain ⟨hstages, houtcome⟩ := Survey.stage_represents inlineSurvey
  constructor
  · have hstage : inlineSurvey.Stage inlineStage := Survey.Stage.start.step rfl rfl
    have hparsed : inlineStage.parsed = [⟨"/main.cpp"⟩] := by decide +kernel
    exact ⟨hstage, hparsed, by decide +kernel, by decide +kernel,
      hstages _ hstage (by rw [hparsed]; simp)⟩
  · obtain ⟨o, x, ho, hx, hparsed⟩ : ∃ o x, inlineSurvey.outcome 2 = some o ∧ o.result = .ok x ∧
        o.parsed = [⟨"/main.cpp"⟩, ⟨"/h.hpp"⟩] := ⟨_, _, rfl, rfl, by decide +kernel⟩
    exact ⟨o, x, ho, hx, hparsed, houtcome 2 o x ho hx⟩

end CppSurface
