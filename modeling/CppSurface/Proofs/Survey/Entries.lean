import CppSurface.Proofs.Survey.Attribution
import CppSurface.Proofs.Survey.BreadthFirst

/-!
# What a survey writes under each file

An extraction is a list of entries, found by their files up to `Path.same`.  Passes write to many of
them: a pass over one file adds functions to that file's entry and value types to the entries of
all the files that declare them.  To follow one entry through a survey, look at the extraction
through the file it belongs to: `functionsOf` and `typesOf` read the two lists of an entry, and are
empty where there is none.

* A change to one entry shows in the lists of that file and in no others (`read_update`).  So
  absorbing a pass appends its functions under its own file, and puts its copies of value types into
  the lists of the files that they belong to (`functionsOf_absorb`, `typesOf_absorb`).
* Along a survey these add up (`Books`).  What stands under a file in the end is determined by the
  passes over the parsed files, in the order in which they were parsed, and neither by what was
  queued when nor by how the entries came about (`outcome_books`).
-/

namespace CppSurface

/-! ## 1. The keys of entries -/

namespace Path

/-- Two optional paths are the same when their components agree. -/
theorem same?_iff {p q : Option Path} :
    same? p q = true ↔ p.map components = q.map components := by
  cases p <;> cases q <;> simp [same?, same_iff]

@[simp] theorem same?_self (p : Option Path) : same? p p = true := same?_iff.mpr rfl

theorem same?_symm {p q : Option Path} (h : same? p q = true) : same? q p = true :=
  same?_iff.mpr (same?_iff.mp h).symm

theorem same?_trans {p q r : Option Path} (h : same? p q = true) (h' : same? q r = true) :
    same? p r = true :=
  same?_iff.mpr ((same?_iff.mp h).trans (same?_iff.mp h'))

/-- Spellings of one key are the same as the same keys. -/
theorem same?_congr {p q : Option Path} (h : same? p q = true) (r : Option Path) :
    same? p r = same? q r :=
  Bool.eq_iff_iff.mpr ⟨same?_trans (same?_symm h), same?_trans h⟩

end Path

/-- **Files have the same key just when they are the same file**, whether or not one of them is the
entry with inline text. -/
theorem EntryPoint.same?_keyFor (entry : EntryPoint) (p q : Path) :
    Path.same? (entry.keyFor p) (entry.keyFor q) = p.same q := by
  unfold keyFor
  by_cases hp : (entry.isInline && p.same entry.path) = true
  · by_cases hq : (entry.isInline && q.same entry.path) = true
    · simp only [Bool.and_eq_true] at hp hq
      have hpq : p.same q = true := Path.same_trans hp.2 (Path.same_symm hq.2)
      simp [hp, hq, hpq, Path.same?]
    · have hpq : p.same q = false := by
        refine Bool.eq_false_iff.mpr fun h => hq ?_
        simp only [Bool.and_eq_true] at hp ⊢
        exact ⟨hp.1, Path.same_trans (Path.same_symm h) hp.2⟩
      rw [if_pos hp, if_neg hq, hpq]
      rfl
  · by_cases hq : (entry.isInline && q.same entry.path) = true
    · have hpq : p.same q = false := by
        refine Bool.eq_false_iff.mpr fun h => hp ?_
        simp only [Bool.and_eq_true] at hq ⊢
        exact ⟨hq.1, Path.same_trans h hq.2⟩
      rw [if_neg hp, if_pos hq, hpq]
      rfl
    · rw [if_neg hp, if_neg hq]
      rfl

namespace Extraction

variable {x : Extraction} {file owner : Option Path} {g : FileEntry → FileEntry} {e : FileEntry}

/-! ## 2. Looking up an entry after a change -/

/-- **A change to the entry of a file is seen under that file only.**  An entry that was not there
is there now. -/
theorem get?_update (hg : ∀ e, (g e).file = e.file) (x : Extraction) (file owner : Option Path) :
    (x.update file g).get? owner =
      if Path.same? file owner then some (g ((x.get? owner).getD (.blank file)))
      else x.get? owner := by
  obtain ⟨es⟩ := x
  change (updateEntries file g es).find? (fun e => Path.same? e.file owner) =
    if Path.same? file owner then
      some (g ((es.find? fun e => Path.same? e.file owner).getD (.blank file)))
    else es.find? fun e => Path.same? e.file owner
  induction es with
  | nil =>
    by_cases h : Path.same? file owner = true <;> simp [updateEntries, hg, FileEntry.blank, h]
  | cons e es ih =>
    unfold updateEntries
    by_cases he : Path.same? e.file file = true
    · rw [if_pos he, List.find?_cons, List.find?_cons, hg, Path.same?_congr he]
      by_cases h : Path.same? file owner = true <;> simp [h]
    · rw [if_neg he, List.find?_cons, List.find?_cons]
      by_cases h : Path.same? e.file owner = true
      · have hfile : ¬ Path.same? file owner = true := fun h' =>
          he (Path.same?_trans h (Path.same?_symm h'))
        simp [h, hfile]
      · simp only [h, ih]

/-- After a change there are the entries that were there, and that of the file. -/
theorem contains_update (hg : ∀ e, (g e).file = e.file) (x : Extraction)
    (file owner : Option Path) :
    (x.update file g).contains owner = (Path.same? file owner || x.contains owner) := by
  unfold contains
  rw [get?_update hg]
  by_cases h : Path.same? file owner = true <;> simp [h]

/-- One of the lists of the entry of a file; empty if there is no entry. -/
def read {α : Type} (p : FileEntry → List α) (x : Extraction) (owner : Option Path) : List α :=
  ((x.get? owner).map p).getD []

/-- The functions listed under a file. -/
def functionsOf (x : Extraction) (owner : Option Path) : List FunctionRecord :=
  x.read FileEntry.functions owner

/-- The value types listed under a file. -/
def typesOf (x : Extraction) (owner : Option Path) : List ValueType :=
  x.read FileEntry.valueTypes owner

/-- **A change that does `F` to one of the lists does it under its file**, and nothing elsewhere. -/
theorem read_update {α : Type} {p : FileEntry → List α} {F : List α → List α}
    (hg : ∀ e, (g e).file = e.file) (hblank : ∀ f, p (.blank f) = [])
    (hF : ∀ e, p (g e) = F (p e)) (x : Extraction) (file owner : Option Path) :
    (x.update file g).read p owner =
      if Path.same? file owner then F (x.read p owner) else x.read p owner := by
  unfold read
  rw [get?_update hg]
  by_cases h : Path.same? file owner = true
  · cases x.get? owner <;> simp [h, hF, hblank]
  · simp [h]

@[simp] theorem functionsOf_setIncludes (includes : List Path) :
    (x.update file (FileEntry.setIncludes includes)).functionsOf owner = x.functionsOf owner :=
  (read_update (g := FileEntry.setIncludes includes) (p := FileEntry.functions) (F := id)
    (fun _ => rfl) (fun _ => rfl) (fun _ => rfl) x file owner).trans (ite_self _)

@[simp] theorem typesOf_setIncludes (includes : List Path) :
    (x.update file (FileEntry.setIncludes includes)).typesOf owner = x.typesOf owner :=
  (read_update (g := FileEntry.setIncludes includes) (p := FileEntry.valueTypes) (F := id)
    (fun _ => rfl) (fun _ => rfl) (fun _ => rfl) x file owner).trans (ite_self _)

theorem functionsOf_addFunction (f : FunctionRecord) :
    (x.update file (FileEntry.addFunction f)).functionsOf owner =
      if Path.same? file owner then x.functionsOf owner ++ [f] else x.functionsOf owner :=
  read_update (g := FileEntry.addFunction f) (p := FileEntry.functions) (F := (· ++ [f]))
    (fun _ => rfl) (fun _ => rfl) (fun _ => rfl) x file owner

@[simp] theorem typesOf_addFunction (f : FunctionRecord) :
    (x.update file (FileEntry.addFunction f)).typesOf owner = x.typesOf owner :=
  (read_update (g := FileEntry.addFunction f) (p := FileEntry.valueTypes) (F := id)
    (fun _ => rfl) (fun _ => rfl) (fun _ => rfl) x file owner).trans (ite_self _)

@[simp] theorem functionsOf_addValueType (overwrite : Bool) (t : ValueType) :
    (x.update file (FileEntry.addValueType overwrite t)).functionsOf owner = x.functionsOf owner :=
  (read_update (g := FileEntry.addValueType overwrite t) (p := FileEntry.functions) (F := id)
    (fun _ => rfl) (fun _ => rfl) (fun _ => rfl) x file owner).trans (ite_self _)

theorem typesOf_addValueType (overwrite : Bool) (t : ValueType) :
    (x.update file (FileEntry.addValueType overwrite t)).typesOf owner =
      if Path.same? file owner then FileEntry.placeType overwrite t (x.typesOf owner)
      else x.typesOf owner :=
  read_update (g := FileEntry.addValueType overwrite t) (p := FileEntry.valueTypes)
    (F := FileEntry.placeType overwrite t) (fun _ => rfl) (fun _ => rfl) (fun _ => rfl) x file owner

/-- What is listed under a file that has an entry is what stands in the entry. -/
theorem exists_get?_of_contains (h : x.contains owner = true) :
    ∃ e, x.get? owner = some e ∧ e.functions = x.functionsOf owner ∧
      e.valueTypes = x.typesOf owner := by
  obtain ⟨e, he⟩ := Option.isSome_iff_exists.mp h
  exact ⟨e, he, by simp [functionsOf, read, he], by simp [typesOf, read, he]⟩

end Extraction

/-! ## 3. Absorbing a pass -/

/-- A value type as the pass over one file has it. -/
structure Copy where
  source : Path
  record : ValueType

/-- Whether the file that the copy comes from is that of the type. -/
def Copy.isOwn (c : Copy) : Bool := c.record.file.same c.source

/-- Put copies into a list of value types, one after the other. -/
def FileEntry.placeAll (ts : List ValueType) (copies : List Copy) : List ValueType :=
  copies.foldl (fun ts c => placeType c.isOwn c.record ts) ts

/-- The copies that the pass over a file attributes to one owner. -/
def FilePass.copies (pass : FilePass) (entry : EntryPoint) (source : Path)
    (owner : Option Path) : List Copy :=
  (pass.required.filter fun t => Path.same? (entry.keyFor t.file) owner).map (Copy.mk source)

namespace Extraction

variable {x : Extraction} {owner : Option Path} {entry : EntryPoint} {source : Path}
  {unit : ParsedUnit} {t : ValueType} {pass : FilePass}

/-- What a pass writes under its own file: its includes, and then its functions. -/
def absorbOwn (x : Extraction) (key : Option Path) (pass : FilePass) : Extraction :=
  pass.functions.foldl (fun x f => x.update key (FileEntry.addFunction f))
    (x.update key (FileEntry.setIncludes pass.includes))

/-- Absorbing a pass is writing under its own file, and then attributing its types. -/
theorem absorb_eq :
    x.absorb entry source unit pass =
      pass.required.foldl (Extraction.attribute entry source unit)
        (x.absorbOwn (entry.keyFor source) pass) := rfl

theorem functionsOf_absorbOwn (key : Option Path) :
    (x.absorbOwn key pass).functionsOf owner =
      x.functionsOf owner ++ if Path.same? key owner then pass.functions else [] := by
  have hadd : ∀ (fs : List FunctionRecord) (y : Extraction),
      (fs.foldl (fun y f => y.update key (FileEntry.addFunction f)) y).functionsOf owner =
        y.functionsOf owner ++ if Path.same? key owner then fs else [] := by
    intro fs y
    induction fs generalizing y with
    | nil => simp
    | cons f fs ih =>
      rw [List.foldl_cons, ih, functionsOf_addFunction]
      by_cases h : Path.same? key owner = true <;> simp [h]
  rw [absorbOwn, hadd, functionsOf_setIncludes]

theorem typesOf_absorbOwn (key : Option Path) :
    (x.absorbOwn key pass).typesOf owner = x.typesOf owner :=
  List.foldlRecOn (motive := fun y => typesOf y owner = x.typesOf owner) pass.functions _
    (typesOf_setIncludes _) fun _ hy f _ => (typesOf_addFunction f).trans hy

theorem contains_absorbOwn (key : Option Path) :
    (x.absorbOwn key pass).contains owner = (Path.same? key owner || x.contains owner) := by
  refine List.foldlRecOn (motive := fun y => contains y owner =
    (Path.same? key owner || x.contains owner)) pass.functions _ ?_ fun y hy f _ => ?_
  · exact contains_update (g := FileEntry.setIncludes pass.includes) (fun _ => rfl) _ _ _
  · rw [contains_update (g := FileEntry.addFunction f) fun _ => rfl, hy, ← Bool.or_assoc,
      Bool.or_self]

@[simp] theorem functionsOf_attribute :
    (x.attribute entry source unit t).functionsOf owner = x.functionsOf owner := by
  unfold Extraction.attribute
  rw [functionsOf_addValueType]
  by_cases h : x.contains (entry.keyFor t.file) = true <;> simp [h]

theorem typesOf_attribute :
    (x.attribute entry source unit t).typesOf owner =
      if Path.same? (entry.keyFor t.file) owner then
        FileEntry.placeType (t.file.same source) t (x.typesOf owner)
      else x.typesOf owner := by
  unfold Extraction.attribute
  rw [typesOf_addValueType]
  by_cases h : x.contains (entry.keyFor t.file) = true <;> simp [h]

theorem contains_attribute :
    (x.attribute entry source unit t).contains owner =
      (Path.same? (entry.keyFor t.file) owner || x.contains owner) := by
  unfold Extraction.attribute
  rw [contains_update (g := FileEntry.addValueType _ t) fun _ => rfl]
  by_cases h : x.contains (entry.keyFor t.file) = true
  · rw [if_pos h]
  · rw [if_neg h, contains_update (g := FileEntry.setIncludes _) fun _ => rfl, ← Bool.or_assoc,
      Bool.or_self]

/-- **A pass adds its functions under its own file**, behind those that are there. -/
theorem functionsOf_absorb :
    (x.absorb entry source unit pass).functionsOf owner =
      x.functionsOf owner ++
        if Path.same? (entry.keyFor source) owner then pass.functions else [] := by
  rw [absorb_eq, ← functionsOf_absorbOwn]
  exact List.foldlRecOn (motive := fun y => functionsOf y owner =
    (x.absorbOwn (entry.keyFor source) pass).functionsOf owner) pass.required _ rfl
    fun _ hy _ _ => functionsOf_attribute.trans hy

/-- **A pass puts under each file its copies of the types of that file.** -/
theorem typesOf_absorb :
    (x.absorb entry source unit pass).typesOf owner =
      FileEntry.placeAll (x.typesOf owner) (pass.copies entry source owner) := by
  have hattr : ∀ (ts : List ValueType) (y : Extraction),
      (ts.foldl (Extraction.attribute entry source unit) y).typesOf owner =
        FileEntry.placeAll (y.typesOf owner)
          ((ts.filter fun t => Path.same? (entry.keyFor t.file) owner).map (Copy.mk source)) := by
    intro ts y
    induction ts generalizing y with
    | nil => rfl
    | cons t ts ih =>
      rw [List.foldl_cons, ih, typesOf_attribute, List.filter_cons]
      by_cases h : Path.same? (entry.keyFor t.file) owner = true
      · simp [h, FileEntry.placeAll, Copy.isOwn]
      · simp [h]
  rw [absorb_eq, hattr, typesOf_absorbOwn]
  rfl

/-- **After a pass the entries are there that were there, that of its file, and those of the files
that it attributes types to.** -/
theorem contains_absorb :
    (x.absorb entry source unit pass).contains owner =
      (Path.same? (entry.keyFor source) owner || x.contains owner ||
        pass.required.any fun t => Path.same? (entry.keyFor t.file) owner) := by
  have hattr : ∀ (ts : List ValueType) (y : Extraction),
      (ts.foldl (Extraction.attribute entry source unit) y).contains owner =
        (y.contains owner || ts.any fun t => Path.same? (entry.keyFor t.file) owner) := by
    intro ts y
    induction ts generalizing y with
    | nil => simp
    | cons t ts ih =>
      rw [List.foldl_cons, ih, contains_attribute, List.any_cons,
        Bool.or_comm (Path.same? (entry.keyFor t.file) owner), Bool.or_assoc]
  rw [absorb_eq, hattr, contains_absorbOwn]

/-! ## 4. No file has two entries -/

/-- No two entries belong to the same file. -/
def KeysDiffer (x : Extraction) : Prop :=
  x.entries.Pairwise fun e e' => Path.same? e.file e'.file = false

theorem keysDiffer_empty : Extraction.empty.KeysDiffer := List.Pairwise.nil

/-- A change that leaves the files of entries alone gives no file a second entry. -/
theorem KeysDiffer.update {file : Option Path} {g : FileEntry → FileEntry}
    (hg : ∀ e, (g e).file = e.file) (h : x.KeysDiffer) : (x.update file g).KeysDiffer := by
  unfold KeysDiffer at h ⊢
  rcases update_cases x file g with ⟨before, e, after, hx, -, -, hup⟩ | ⟨hnone, hup⟩
  · rw [hup]
    rw [hx] at h
    simpa [List.pairwise_append, List.pairwise_cons, hg] using h
  · rw [hup]
    refine List.pairwise_append.mpr ⟨h, List.pairwise_singleton _ _, fun e he e' he' => ?_⟩
    rw [List.mem_singleton.mp he', hg]
    exact hnone e he

theorem KeysDiffer.absorb (h : x.KeysDiffer) : (x.absorb entry source unit pass).KeysDiffer :=
  absorb_invariant (I := KeysDiffer) (fun _ _ _ hx => hx.update fun _ => rfl)
    (fun _ _ _ _ hx => hx.update fun _ => rfl) (fun _ _ _ _ _ hx => hx.update fun _ => rfl) h

/-- **An entry is the one that is found under its file.** -/
theorem KeysDiffer.get?_eq {e : FileEntry} (h : x.KeysDiffer) (he : e ∈ x.entries)
    (howner : Path.same? e.file owner = true) : x.get? owner = some e := by
  obtain ⟨before, after, hx⟩ := List.append_of_mem he
  unfold KeysDiffer at h
  unfold get?
  rw [hx] at h ⊢
  refine List.find?_eq_some_iff_append.mpr ⟨howner, before, after, rfl, fun e' he' => ?_⟩
  have hdiff := (List.pairwise_append.mp h).2.2 e' he' e List.mem_cons_self
  refine Bool.not_eq_true' _ ▸ Bool.eq_false_iff.mpr fun h' => ?_
  exact absurd (Path.same?_trans h' (Path.same?_symm howner)) (by simp [hdiff])

end Extraction

/-! ## 5. The books of a survey -/

namespace Survey

variable {v : Survey} {file : Path} {unit : ParsedUnit}

/-- The pass over a file, as far as its provider has a unit for it. -/
def passOf (v : Survey) (file : Path) : FilePass :=
  match (v.provider file).result with
  | .ok unit => v.pass file unit
  | .error _ => ⟨[], [], [], [], []⟩

theorem passOf_eq (h : (v.provider file).result = .ok unit) : v.passOf file = v.pass file unit := by
  unfold passOf
  rw [h]

/-- The copies that the passes over some files attribute to one owner, in the order in which they
are attributed. -/
def copies (v : Survey) (files : List Path) (owner : Option Path) : List Copy :=
  files.flatMap fun file => (v.passOf file).copies v.entry file owner

/-- **What a survey has written when it has parsed these files**: reports and functions of their
passes one after the other, and under each file what its copies come to. -/
structure Books (v : Survey) (files : List Path) (x : Extraction) (reports : List Report) :
    Prop where
  usable : ∀ file ∈ files, v.failure? file = none
  differ : Path.Differ files
  reports : reports = files.flatMap fun file => (v.passOf file).reports
  functions : ∀ owner, x.functionsOf owner = files.flatMap fun file =>
    if Path.same? (v.entry.keyFor file) owner then (v.passOf file).functions else []
  types : ∀ owner, x.typesOf owner = FileEntry.placeAll [] (v.copies files owner)
  contains : ∀ file ∈ files, x.contains (v.entry.keyFor file) = true
  keysDiffer : x.KeysDiffer

theorem books_start (v : Survey) : v.Books [] .empty [] where
  usable := by simp
  differ := List.Pairwise.nil
  reports := rfl
  functions _ := rfl
  types _ := rfl
  contains := by simp
  keysDiffer := Extraction.keysDiffer_empty

/-- **Absorbing the pass over one more file keeps the books.** -/
theorem Books.absorb {files : List Path} {x : Extraction} {reports : List Report}
    (h : v.Books files x reports) (hres : (v.provider file).result = .ok unit)
    (he : unit.hasErrors = false) (hdiffer : Path.Differ (files ++ [file])) :
    v.Books (files ++ [file]) (x.absorb v.entry file unit (v.pass file unit))
      (reports ++ (v.pass file unit).reports) where
  usable := by
    intro f hf
    rcases List.mem_append.mp hf with hf | hf
    · exact h.usable f hf
    · rw [List.mem_singleton.mp hf]
      exact failure?_eq_none_iff.mpr ⟨unit, hres, he⟩
  differ := hdiffer
  reports := by simp [h.reports, passOf_eq hres]
  functions owner := by
    rw [Extraction.functionsOf_absorb, h.functions, List.flatMap_append, List.flatMap_singleton,
      passOf_eq hres]
  types owner := by
    rw [Extraction.typesOf_absorb, h.types, copies, copies, List.flatMap_append,
      List.flatMap_singleton, passOf_eq hres, FileEntry.placeAll, FileEntry.placeAll,
      FileEntry.placeAll, List.foldl_append]
  contains := by
    intro f hf
    rw [Extraction.contains_absorb]
    rcases List.mem_append.mp hf with hf | hf
    · simp [h.contains f hf]
    · simp [List.mem_singleton.mp hf]
  keysDiffer := h.keysDiffer.absorb

/-- **A parsed file has an entry, and the functions listed in it are those of its pass.** -/
theorem Books.exists_entry {files : List Path} {x : Extraction} {reports : List Report}
    (h : v.Books files x reports) (hfile : file ∈ files) :
    ∃ e ∈ x.entries, x.get? (v.entry.keyFor file) = some e ∧
      Path.same? e.file (v.entry.keyFor file) = true ∧
      e.functions = (v.passOf file).functions := by
  obtain ⟨e, hget, hfunctions, -⟩ := Extraction.exists_get?_of_contains (h.contains file hfile)
  refine ⟨e, List.mem_of_find?_eq_some hget, hget, by simpa using List.find?_some hget, ?_⟩
  obtain ⟨before, after, hfiles⟩ := List.append_of_mem hfile
  have hdiffer := h.differ
  unfold Path.Differ at hdiffer
  rw [hfiles] at hdiffer
  obtain ⟨-, hafter, hcross⟩ := List.pairwise_append.mp hdiffer
  -- no other file has the same key
  have hb : before.flatMap (fun f => if f.same file then (v.passOf f).functions else []) = [] :=
    List.flatMap_eq_nil_iff.mpr fun f hf => by simp [hcross f hf file List.mem_cons_self]
  have ha : after.flatMap (fun f => if f.same file then (v.passOf f).functions else []) = [] := by
    refine List.flatMap_eq_nil_iff.mpr fun f hf => if_neg fun hsame => ?_
    exact absurd (Path.same_symm hsame) (by simp [(List.pairwise_cons.mp hafter).1 f hf])
  simp only [hfunctions, h.functions, EntryPoint.same?_keyFor]
  rw [hfiles, List.flatMap_append, List.flatMap_cons, hb, ha]
  simp

/-- The files that a survey has parsed differ. -/
theorem Abreast.differ_parsed {n : Nat} {s : SurveyState} (hs : v.Abreast n s) :
    Path.Differ s.parsed := by
  have hknown : Path.Differ s.known := hs.known ▸ wave_differ v n
  rw [hs.split] at hknown
  exact (List.pairwise_append.mp hknown).1

/-- **The books are kept at every stage.** -/
theorem Stage.books {s : SurveyState} (hs : v.Stage s) :
    v.Books s.parsed s.extraction s.reports ∧ ∃ n, v.Abreast n s := by
  refine hs.invariant (I := fun s => v.Books s.parsed s.extraction s.reports ∧ ∃ n, v.Abreast n s)
    (fun file rest unit s hq hres he hs => ?_) ⟨books_start v, 0, abreast_start v⟩
  obtain ⟨hbooks, n, habreast⟩ := hs
  have hnext := habreast.advance hq hres
  have hdiffer := hnext.differ_parsed
  rw [advance_parsed] at hdiffer
  refine ⟨?_, n + 1, hnext⟩
  rw [advance_parsed, advance_extraction, advance_reports]
  exact hbooks.absorb hres he hdiffer

/-- **The outcome of a survey that succeeds is what its books say.** -/
theorem outcome_books {bound : Nat} {o : Outcome} {x : Extraction}
    (ho : v.outcome bound = some o) (hx : o.result = .ok x) : v.Books o.parsed x o.reports := by
  obtain ⟨s, hs, -, rfl, hparsed, hreports⟩ := outcome_stage ho hx
  rw [← hparsed, ← hreports]
  exact hs.books.1

end Survey

end CppSurface
