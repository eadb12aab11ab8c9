import CppSurface.Proofs.Survey.Entries
import CppSurface.Proofs.Survey.Passes
import Mathlib.Data.List.Induction

/-!
# Which copy of a value type is listed

A type of a header is seen by the pass over every file that includes the header, each time through
the aliases of that file, and so the passes may have different records of it.  One of them is
listed.  Which one it is does not depend on the order in which the files are parsed, as far as the
header's own pass goes: its copy is listed whenever it has one, be the header parsed first, last or
in between.  Otherwise the copy is listed that came first.

The argument is about lists only.  What is listed under a file is what its copies come to when they
are placed one after the other (`Survey.Books`), and a copy gives way only to one of the type's own
file.  So looking a type up after all have been placed finds the last own copy, or else the first
copy (`find?_placeAll`); the place in the list is that of the first copy in either case
(`identities_placeAll`).  A pass has at most one copy of a type, and a file has one pass, so there
is at most one own copy.
-/

namespace CppSurface

/-! ## 1. Keys -/

namespace TypeKey

variable {k l : TypeKey}

/-- Spellings of one key are the same as the same keys. -/
theorem same_congr (h : k.same l = true) (m : TypeKey) : k.same m = l.same m :=
  Bool.eq_iff_iff.mpr ⟨same_trans (same_symm h), same_trans h⟩

end TypeKey

namespace DistinctKeys

variable {ts : List ValueType} {t : ValueType} {k : TypeKey}

/-- Among types with different keys, a type is the only one with its key. -/
theorem filter_eq_singleton (hd : DistinctKeys ts) (ht : t ∈ ts) :
    ts.filter (fun u => u.key.same t.key) = [t] := by
  obtain ⟨before, after, rfl⟩ := List.append_of_mem ht
  obtain ⟨-, hafter, hcross⟩ := List.pairwise_append.mp hd
  have hb : before.filter (fun u => u.key.same t.key) = [] :=
    List.filter_eq_nil_iff.mpr fun u hu => by simp [hcross u hu t List.mem_cons_self]
  have ha : after.filter (fun u => u.key.same t.key) = [] := by
    refine List.filter_eq_nil_iff.mpr fun u hu hsame => ?_
    exact absurd (TypeKey.same_symm hsame) (by simp [(List.pairwise_cons.mp hafter).1 u hu])
  simp [List.filter_append, hb, ha]

end DistinctKeys

theorem distinctKeys_iff_nodup {ts : List ValueType} :
    DistinctKeys ts ↔ (ts.map (·.key.identity)).Nodup := by
  have hkey : ∀ t u : ValueType,
      t.key.same u.key = false ↔ t.key.identity ≠ u.key.identity := by
    intro t u
    rw [← Bool.not_eq_true, Ne, TypeKey.same_iff_identity]
  simp only [DistinctKeys, List.Nodup, List.pairwise_map, hkey]

/-- First occurrences in a list with one more element at the end. -/
theorem eraseDups_append_singleton {α : Type} [BEq α] [LawfulBEq α] [DecidableEq α]
    (as : List α) (a : α) :
    (as ++ [a]).eraseDups = if a ∈ as.eraseDups then as.eraseDups else as.eraseDups ++ [a] := by
  rw [List.eraseDups_append, List.removeAll, List.filter_singleton]
  by_cases ha : a ∈ as <;> simp [ha, List.eraseDups_cons]

/-! ## 2. Placing copies -/

namespace FileEntry

variable {ts : List ValueType} {t : ValueType} {copies : List Copy} {overwrite : Bool}

/-- **What is found after a type was placed**: under its key the type itself, or the one that was
there if it may stay; under another key what was found before. -/
theorem find?_placeType (overwrite : Bool) (t : ValueType) (ts : List ValueType) (k : TypeKey) :
    (placeType overwrite t ts).find? (fun u => u.key.same k) =
      if t.key.same k then
        some (if overwrite then t else (ts.find? fun u => u.key.same k).getD t)
      else ts.find? fun u => u.key.same k := by
  induction ts with
  | nil => by_cases hk : t.key.same k = true <;> simp [placeType, hk]
  | cons w ts ih =>
    unfold placeType
    by_cases hw : w.key.same t.key = true
    · have hwk := TypeKey.same_congr hw k
      rw [if_pos hw]
      by_cases hk : t.key.same k = true <;> cases overwrite <;> simp [hwk, hk]
    · rw [if_neg hw]
      by_cases hwk : w.key.same k = true
      · have hk : ¬ t.key.same k = true := fun hk =>
          hw (TypeKey.same_trans hwk (TypeKey.same_symm hk))
        simp [hwk, hk]
      · simp [hwk, ih]

theorem placeAll_append_singleton (ts : List ValueType) (copies : List Copy) (c : Copy) :
    placeAll ts (copies ++ [c]) = placeType c.isOwn c.record (placeAll ts copies) := by
  simp [placeAll]

/-- Placing a type appends its key, unless it is there. -/
theorem identities_placeType (overwrite : Bool) (t : ValueType) (ts : List ValueType) :
    (placeType overwrite t ts).map (·.key.identity) =
      if t.key.identity ∈ ts.map (·.key.identity) then ts.map (·.key.identity)
      else ts.map (·.key.identity) ++ [t.key.identity] := by
  rcases placeType_cases overwrite t ts with
    ⟨before, w, after, rfl, hw, -, hplace⟩ | ⟨hnone, hplace⟩
  · have hid : w.key.identity = t.key.identity := TypeKey.same_iff_identity.mp hw
    have hchosen : (if overwrite then t else w).key.identity = t.key.identity := by
      cases overwrite
      · exact hid
      · rfl
    have hmem : t.key.identity ∈ (before ++ w :: after).map (·.key.identity) := by simp [hid]
    rw [hplace, if_pos hmem, List.map_append, List.map_append, List.map_cons, List.map_cons,
      hchosen, hid]
  · rw [hplace, if_neg, List.map_append, List.map_singleton]
    intro hmem
    obtain ⟨u, hu, hid⟩ := List.mem_map.mp hmem
    exact absurd (TypeKey.same_iff_identity.mpr hid) (by simp [hnone u hu])

/-- **Placing copies lists each type once, at the place of its first copy.** -/
theorem identities_placeAll (copies : List Copy) :
    (placeAll [] copies).map (·.key.identity) =
      (copies.map (·.record.key.identity)).eraseDups := by
  induction copies using List.reverseRecOn with
  | nil => rfl
  | append_singleton copies c ih =>
    rw [placeAll_append_singleton, identities_placeType, ih, List.map_append, List.map_singleton,
      eraseDups_append_singleton]

/-- The types that copies come to have different keys. -/
theorem distinctKeys_placeAll (copies : List Copy) : DistinctKeys (placeAll [] copies) := by
  rw [distinctKeys_iff_nodup]
  induction copies using List.reverseRecOn with
  | nil => exact List.nodup_nil
  | append_singleton copies c ih =>
    rw [placeAll_append_singleton, identities_placeType]
    split
    · exact ih
    · rename_i hc
      rw [← List.concat_eq_append]
      exact ih.concat hc

/-- **What is found after copies were placed is the last own copy, or else the first copy.** -/
theorem find?_placeAll (copies : List Copy) (k : TypeKey) :
    (placeAll [] copies).find? (fun u => u.key.same k) =
      ((copies.reverse.find? fun c => c.isOwn && c.record.key.same k).or
        (copies.find? fun c => c.record.key.same k)).map Copy.record := by
  induction copies using List.reverseRecOn with
  | nil => rfl
  | append_singleton copies c ih =>
    rw [placeAll_append_singleton, find?_placeType, ih, List.reverse_concat, List.find?_cons,
      List.find?_append]
    by_cases hk : c.record.key.same k = true
    · cases hown : c.isOwn with
      | true => simp [hk]
      | false =>
        cases copies.reverse.find? fun c => c.isOwn && c.record.key.same k with
        | some own => simp [hk]
        | none => cases copies.find? fun c => c.record.key.same k <;> simp [hk]
    · simp [hk]

/-- Every listed type is the record of a copy. -/
theorem exists_copy_of_mem_placeAll (h : t ∈ placeAll [] copies) : ∃ c ∈ copies, c.record = t := by
  have hfind := (distinctKeys_placeAll copies).find?_eq h (TypeKey.same_self t.key)
  rw [find?_placeAll, Option.map_eq_some_iff] at hfind
  obtain ⟨c, hc, rfl⟩ := hfind
  rcases Option.or_eq_some_iff.mp hc with hc | ⟨-, hc⟩
  · exact ⟨c, List.mem_reverse.mp (List.mem_of_find?_eq_some hc), rfl⟩
  · exact ⟨c, List.mem_of_find?_eq_some hc, rfl⟩

end FileEntry

/-! ## 3. What a pass retains -/

namespace Resolver

variable {r : Resolver} {s : Session} {k : TypeKey} {t : ValueType}

theorem key_same_of_get? (h : r.get? k = some t) : t.key.same k = true := by
  simpa using List.find?_some h

/-- The accepted types have different keys. -/
theorem distinctKeys_required (hs : s.visited.Sound) : DistinctKeys (r.required s) := by
  refine List.Pairwise.filterMap _ (fun k l hkl t ht u hu => ?_) hs.distinct
  rw [TypeKey.same_congr (key_same_of_get? ht)]
  refine Bool.eq_false_iff.mpr fun hku => ?_
  exact absurd (TypeKey.same_trans hku (key_same_of_get? hu)) (by simp [hkl])

/-- **A key that was accepted has a record to publish, and no other has.** -/
theorem isSome_find?_required (hs : r.Accounted s) (k : TypeKey) :
    ((r.required s).find? fun t => t.key.same k).isSome = k.within s.visited.order := by
  rw [Bool.eq_iff_iff, List.find?_isSome, TypeKey.within, List.any_eq_true]
  constructor
  · rintro ⟨t, ht, hk⟩
    obtain ⟨l, hl, hget⟩ := List.mem_filterMap.mp ht
    exact ⟨l, hl, TypeKey.same_trans (TypeKey.same_symm hk) (key_same_of_get? hget)⟩
  · rintro ⟨l, hl, hk⟩
    obtain ⟨u, hu, rfl⟩ := hs l hl
    obtain ⟨t, ht⟩ : ∃ t, r.get? u.key = some t :=
      Option.isSome_iff_exists.mp (List.find?_isSome.mpr ⟨u, hu, TypeKey.same_self _⟩)
    exact ⟨t, List.mem_filterMap.mpr ⟨u.key, hl, ht⟩,
      TypeKey.same_trans (key_same_of_get? ht) (TypeKey.same_symm hk)⟩

end Resolver

namespace Survey

variable {v : Survey} {file F : Path} {files : List Path} {owner : Option Path} {k : TypeKey}
  {t : ValueType} {c : Copy}

/-- **The pass over a file ends with a type among those that it has visited.** -/
def Retains (v : Survey) (file : Path) (k : TypeKey) : Prop :=
  ∃ unit, (v.provider file).result = .ok unit ∧
    (FilePass.session v.policy v.options.maxAliasPasses file unit).visited.contains k = true

/-- The record that the pass over a file has to publish for a type. -/
def yields (v : Survey) (file : Path) (k : TypeKey) : Option ValueType :=
  (v.passOf file).required.find? fun t => t.key.same k

theorem distinctKeys_passOf (v : Survey) (file : Path) :
    DistinctKeys (v.passOf file).required := by
  unfold passOf
  split
  · rw [pass, FilePass.of_required]
    exact Resolver.distinctKeys_required FilePass.session_quiet.2
  · exact List.Pairwise.nil

/-- **A pass yields a record for the types that it retains, and for no others.** -/
theorem retains_iff_exists_yields : v.Retains file k ↔ ∃ t, v.yields file k = some t := by
  rw [← Option.isSome_iff_exists]
  unfold Retains yields
  cases hres : (v.provider file).result with
  | error reason => simp [passOf, hres]
  | ok unit =>
    have hquiet : (FilePass.session v.policy v.options.maxAliasPasses file unit).visited.inProgress
        = [] ∧ (FilePass.session v.policy v.options.maxAliasPasses file unit).visited.Sound :=
      FilePass.session_quiet
    rw [passOf_eq hres, pass, FilePass.of_required,
      Resolver.isSome_find?_required FilePass.session_accounted]
    simp [Visited.contains, hquiet.1, hquiet.2.accepted, TypeKey.within]

/-! ## 4. The copies of a survey -/

theorem mem_copies :
    c ∈ v.copies files owner ↔ c.source ∈ files ∧ c.record ∈ (v.passOf c.source).required ∧
      Path.same? (v.entry.keyFor c.record.file) owner = true := by
  simp only [copies, FilePass.copies, List.mem_flatMap, List.mem_map, List.mem_filter]
  constructor
  · rintro ⟨F, hF, t, ⟨ht, howner⟩, rfl⟩
    exact ⟨hF, ht, howner⟩
  · rintro ⟨hF, ht, howner⟩
    exact ⟨c.source, hF, c.record, ⟨ht, howner⟩, rfl⟩

/-- A type belongs to the entry of its key, however that is spelled. -/
theorem same?_keyFor_of_same (h : t.key.same k = true) :
    Path.same? (v.entry.keyFor t.file) (v.entry.keyFor k.file) = true := by
  have hfile : t.file.same k.file = true := Path.same_iff.mpr (TypeKey.same_iff.mp h).2
  rw [EntryPoint.same?_keyFor, hfile]

/-- **The first copy of a type is that of the first file whose pass retains it.** -/
theorem find?_copies (hk : Path.same? (v.entry.keyFor k.file) owner = true) :
    (v.copies files owner).find? (fun c => c.record.key.same k) =
      files.findSome? fun F => (v.yields F k).map (Copy.mk F) := by
  have howner : (fun t : ValueType => decide (Path.same? (v.entry.keyFor t.file) owner = true ∧
      t.key.same k = true)) = fun t => t.key.same k := by
    funext t
    rw [Bool.eq_iff_iff, decide_eq_true_iff]
    exact ⟨And.right, fun h => ⟨Path.same?_trans (same?_keyFor_of_same h) hk, h⟩⟩
  rw [copies, List.find?_flatMap]
  congr 1
  funext F
  rw [FilePass.copies, List.find?_map, yields, ← howner, ← List.find?_filter]
  rfl

/-- **Passes over different files have at most one copy of a type from its own file.** -/
theorem yields_of_own (hdiffer : Path.Differ files) (hc : c ∈ v.copies files owner)
    (hown : c.isOwn = true) (hk : c.record.key.same k = true) (hF : F ∈ files)
    (hfile : F.same k.file = true) : v.yields F k = some c.record := by
  obtain ⟨hsource, hrecord, -⟩ := mem_copies.mp hc
  have hsame : F.same c.source = true :=
    Path.same_trans hfile (Path.same_trans
      (Path.same_iff.mpr (TypeKey.same_iff.mp hk).2.symm) hown)
  obtain rfl : F = c.source := hdiffer.eq_of_same hF hsource hsame
  exact (distinctKeys_passOf v _).find?_eq hrecord hk

/-! ## 5. What is listed -/

namespace Books

variable {x : Extraction} {reports : List Report} {e : FileEntry}

/-- The types of an entry are what its copies come to. -/
theorem valueTypes_eq (h : v.Books files x reports) (he : e ∈ x.entries) :
    e.valueTypes = FileEntry.placeAll [] (v.copies files e.file) := by
  have hget := h.keysDiffer.get?_eq he (Path.same?_self _)
  rw [← h.types, Extraction.typesOf, Extraction.read, hget]
  rfl

/-- The types of an entry have different keys. -/
theorem distinctKeys (h : v.Books files x reports) (he : e ∈ x.entries) :
    DistinctKeys e.valueTypes := by
  rw [h.valueTypes_eq he]
  exact FileEntry.distinctKeys_placeAll _

/-- A type is listed under its own file. -/
theorem listed_under (h : v.Books files x reports) (he : e ∈ x.entries) (ht : t ∈ e.valueTypes) :
    Path.same? (v.entry.keyFor t.file) e.file = true := by
  rw [h.valueTypes_eq he] at ht
  obtain ⟨c, hc, rfl⟩ := FileEntry.exists_copy_of_mem_placeAll ht
  exact (mem_copies.mp hc).2.2

/-- **A listed type is its last own copy, or else its first copy.** -/
theorem find?_copy (h : v.Books files x reports) (he : e ∈ x.entries) (ht : t ∈ e.valueTypes) :
    (((v.copies files e.file).reverse.find? fun c => c.isOwn && c.record.key.same t.key).or
      (files.findSome? fun F => (v.yields F t.key).map (Copy.mk F))).map Copy.record = some t := by
  have hfind := (h.distinctKeys he).find?_eq ht (TypeKey.same_self t.key)
  rw [h.valueTypes_eq he, FileEntry.find?_placeAll, find?_copies (k := t.key)
    (h.listed_under he ht)] at hfind
  exact hfind

/-- **The copy of the declaring file's own pass is listed**, whenever that file was parsed. -/
theorem yields_own (h : v.Books files x reports) (he : e ∈ x.entries) (ht : t ∈ e.valueTypes)
    (hF : F ∈ files) (hfile : F.same t.file = true) (hretains : v.Retains F t.key) :
    v.yields F t.key = some t := by
  obtain ⟨u, hu⟩ := retains_iff_exists_yields.mp hretains
  have hkey : u.key.same t.key = true := by simpa using List.find?_some hu
  have hufile : u.file.same t.file = true := Path.same_iff.mpr (TypeKey.same_iff.mp hkey).2
  have hcopy : ⟨F, u⟩ ∈ v.copies files e.file :=
    mem_copies.mpr ⟨hF, List.mem_of_find?_eq_some hu,
      Path.same?_trans (same?_keyFor_of_same hkey) (h.listed_under he ht)⟩
  have hown : (Copy.mk F u).isOwn = true := Path.same_trans hufile (Path.same_symm hfile)
  obtain ⟨c, hc⟩ : ∃ c, (v.copies files e.file).reverse.find?
      (fun c => c.isOwn && c.record.key.same t.key) = some c :=
    Option.isSome_iff_exists.mp (List.find?_isSome.mpr
      ⟨⟨F, u⟩, List.mem_reverse.mpr hcopy, by simp [hown, hkey]⟩)
  have hfind := h.find?_copy he ht
  rw [hc, Option.some_or, Option.map_some, Option.some.injEq] at hfind
  have hprops : c.isOwn = true ∧ c.record.key.same t.key = true := by
    simpa using List.find?_some hc
  rw [yields_of_own h.differ (List.mem_reverse.mp (List.mem_of_find?_eq_some hc)) hprops.1 hprops.2
    hF hfile, hfind]

/-- **Without such a copy the first one is listed.** -/
theorem yields_first (h : v.Books files x reports) (he : e ∈ x.entries) (ht : t ∈ e.valueTypes)
    (hnone : ∀ F ∈ files, F.same t.file = true → ¬ v.Retains F t.key) :
    ∃ before F after, files = before ++ F :: after ∧ (∀ G ∈ before, ¬ v.Retains G t.key) ∧
      v.yields F t.key = some t := by
  have hown : (v.copies files e.file).reverse.find?
      (fun c => c.isOwn && c.record.key.same t.key) = none := by
    refine List.find?_eq_none.mpr fun c hc hprops => ?_
    rw [Bool.and_eq_true] at hprops
    obtain ⟨hsource, hrecord, -⟩ := mem_copies.mp (List.mem_reverse.mp hc)
    have hfile : c.source.same t.file = true :=
      Path.same_trans (Path.same_symm hprops.1)
        (Path.same_iff.mpr (TypeKey.same_iff.mp hprops.2).2)
    refine hnone c.source hsource hfile (retains_iff_exists_yields.mpr ⟨c.record, ?_⟩)
    exact (distinctKeys_passOf v _).find?_eq hrecord hprops.2
  have hfind := h.find?_copy he ht
  rw [hown, Option.none_or, Option.map_eq_some_iff] at hfind
  obtain ⟨c, hc, rfl⟩ := hfind
  obtain ⟨before, F, after, hfiles, hF, hbefore⟩ := List.findSome?_eq_some_iff.mp hc
  obtain ⟨u, hu, rfl⟩ := Option.map_eq_some_iff.mp hF
  refine ⟨before, F, after, hfiles, fun G hG hretains => ?_, hu⟩
  obtain ⟨w, hw⟩ := retains_iff_exists_yields.mp hretains
  exact absurd (hbefore G hG) (by simp [hw])

/-- **What the pass over a parsed file retains is listed**, under the file that declares it. -/
theorem exists_listed (h : v.Books files x reports) (hF : F ∈ files) (hretains : v.Retains F k)
    (he : e ∈ x.entries) (howner : Path.same? e.file (v.entry.keyFor k.file) = true) :
    ∃ t ∈ e.valueTypes, t.key.same k = true := by
  obtain ⟨u, hu⟩ := retains_iff_exists_yields.mp hretains
  have hkey : u.key.same k = true := by simpa using List.find?_some hu
  have hcopy : ⟨F, u⟩ ∈ v.copies files e.file :=
    mem_copies.mpr ⟨hF, List.mem_of_find?_eq_some hu,
      Path.same?_trans (same?_keyFor_of_same hkey) (Path.same?_symm howner)⟩
  obtain ⟨c, hc⟩ : ∃ c, (v.copies files e.file).find? (fun c => c.record.key.same k) = some c :=
    Option.isSome_iff_exists.mp (List.find?_isSome.mpr ⟨⟨F, u⟩, hcopy, hkey⟩)
  have hfound : (e.valueTypes.find? fun t => t.key.same k).isSome = true := by
    rw [h.valueTypes_eq he, FileEntry.find?_placeAll, hc]
    simp
  simpa using hfound

/-- **What is listed was retained by the pass over a parsed file.** -/
theorem exists_retains (h : v.Books files x reports) (he : e ∈ x.entries)
    (ht : t ∈ e.valueTypes) : ∃ F ∈ files, t ∈ (v.passOf F).required ∧ v.Retains F t.key := by
  rw [h.valueTypes_eq he] at ht
  obtain ⟨c, hc, rfl⟩ := FileEntry.exists_copy_of_mem_placeAll ht
  obtain ⟨hsource, hrecord, -⟩ := mem_copies.mp hc
  refine ⟨c.source, hsource, hrecord, retains_iff_exists_yields.mpr ⟨c.record, ?_⟩⟩
  exact (distinctKeys_passOf v _).find?_eq hrecord (TypeKey.same_self _)

/-- **No two listed types have the same key**, be it in one entry or in two. -/
theorem distinctKeys_listed (h : v.Books files x reports) :
    DistinctKeys (x.entries.flatMap FileEntry.valueTypes) := by
  unfold DistinctKeys
  rw [List.pairwise_flatMap]
  refine ⟨fun e he => h.distinctKeys he,
    h.keysDiffer.imp_of_mem fun {e e'} he he' hne t ht u hu => ?_⟩
  refine Bool.eq_false_iff.mpr fun hkey => ?_
  have howner : Path.same? e.file e'.file = true :=
    Path.same?_trans (Path.same?_symm (h.listed_under he ht))
      (Path.same?_trans (same?_keyFor_of_same hkey) (h.listed_under he' hu))
  exact absurd howner (by simp [hne])

/-- **A type is listed once in the whole extraction.** -/
theorem listed_once (h : v.Books files x reports) (he : e ∈ x.entries) (ht : t ∈ e.valueTypes) :
    (x.entries.flatMap FileEntry.valueTypes).filter (fun u => u.key.same t.key) = [t] :=
  h.distinctKeys_listed.filter_eq_singleton (List.mem_flatMap.mpr ⟨e, he, ht⟩)

end Books

/-- **The declaring file's own copy is listed, whatever the order of parsing.**  If a survey
succeeds, then for every value type that it lists:

* if the declaring file was parsed and its pass retains the type, the listed record is the one which
  that pass yields;
* otherwise it is the one that is yielded by the first parsed file whose pass retains the type, and
  there is such a file;
* the type stands under its own file, and nowhere in the extraction a second time;
* the entry lists its types in the order in which they were first attributed to it. -/
theorem listed_copy (v : Survey) {bound : Nat} {o : Outcome} {x : Extraction}
    (ho : v.outcome bound = some o) (hx : o.result = .ok x) {e : FileEntry} (he : e ∈ x.entries)
    {t : ValueType} (ht : t ∈ e.valueTypes) :
    (∀ F ∈ o.parsed, F.same t.file = true → v.Retains F t.key → v.yields F t.key = some t) ∧
      ((∀ F ∈ o.parsed, F.same t.file = true → ¬ v.Retains F t.key) →
        ∃ before F after, o.parsed = before ++ F :: after ∧ (∀ G ∈ before, ¬ v.Retains G t.key) ∧
          v.Retains F t.key ∧ v.yields F t.key = some t) ∧
      (Path.same? (v.entry.keyFor t.file) e.file = true ∧
        (x.entries.flatMap FileEntry.valueTypes).filter (fun u => u.key.same t.key) = [t]) ∧
      e.valueTypes.map (·.key.identity) =
        ((v.copies o.parsed e.file).map (·.record.key.identity)).eraseDups := by
  have h := outcome_books ho hx
  refine ⟨fun F hF hfile => h.yields_own he ht hF hfile, fun hnone => ?_,
    ⟨h.listed_under he ht, h.listed_once he ht⟩, ?_⟩
  · obtain ⟨before, F, after, hfiles, hbefore, hyields⟩ := h.yields_first he ht hnone
    exact ⟨before, F, after, hfiles, hbefore, retains_iff_exists_yields.mpr ⟨t, hyields⟩, hyields⟩
  · rw [h.valueTypes_eq he, FileEntry.identities_placeAll]

end Survey

/-! ## 6. Non-vacuity

A header gives a word of the standard list a meaning of its own.  The file that includes it does not
know of this alias, so its pass has another record of the type that uses the word, and attributes it
to the header before the header is parsed. -/

/-- A class that is no value type, an alias of a listed word, and a type that uses the alias. -/
def aliasHeader (target : String) : DeclTree :=
  (((((((DeclTree.empty
    |>.push 0 { kind := .classType, name := "Blob", file := some ⟨"/h.hpp"⟩, line := 1 })
    |>.push 1 { kind := .field, name := "bytes", typeText := some "int"
                access := some .isPrivate })
    |>.push 0 { kind := .typeAlias, name := "string", file := some ⟨"/h.hpp"⟩, line := 2
                typeText := some target })
    |>.push 0 { kind := .structType, name := "S", file := some ⟨"/h.hpp"⟩, line := 3 })
    |>.push 4 { kind := .field, name := "text", typeText := some "string"
                access := some .isPublic })
    |>.push 4 { kind := .constructor, name := "S", access := some .isPublic
                special := some .move, isDefaulted := true })
    |>.push 6 { kind := .parameter, name := "", typeText := some "S &&" })

/-- The header, and two functions of the file that includes it. -/
def aliasMain (target : String) : DeclTree :=
  ((aliasHeader target)
    |>.push 0 { kind := .function, name := "make", file := some ⟨"/main.cpp"⟩, line := 2
                typeText := some "S" })
    |>.push 0 { kind := .function, name := "leak", file := some ⟨"/main.cpp"⟩, line := 3
                typeText := some "Blob" }

/-- The survey of both files. -/
def aliasSurvey (target : String) : Survey where
  options := ⟨true, [], [], false, 2⟩
  provider := fun file =>
    if file = ⟨"/main.cpp"⟩ then
      ⟨[], .ok ⟨aliasMain target, [⟨⟨"/main.cpp"⟩, ⟨"/h.hpp"⟩⟩], []⟩⟩
    else ⟨[], .ok ⟨aliasHeader target, [], []⟩⟩
  policy := AllowList.standard.policy
  files := ⟨[], []⟩
  entry := ⟨⟨"/main.cpp"⟩, false⟩

/-- The record of the type that uses the alias, with what the alias is read as. -/
def aliasRecord (member : String) : ValueType :=
  ⟨"S", ⟨["text"], [member], [member]⟩, 3, [⟨⟨["other"], ["S &&"], ["S"]⟩, 0⟩], [], ⟨"/h.hpp"⟩⟩

/-- The entry of the header that lists it. -/
def aliasEntry (member : String) : FileEntry := ⟨some ⟨"/h.hpp"⟩, [], [aliasRecord member], []⟩

/-- **The header's own record replaces the one that came before it.** -/
theorem aliasSurvey_listed_copy :
    ∃ o x, (aliasSurvey "std::vector<char>").outcome 2 = some o ∧ o.result = .ok x ∧
      o.parsed = [⟨"/main.cpp"⟩, ⟨"/h.hpp"⟩] ∧ aliasEntry "std::vector<char>" ∈ x.entries ∧
      (aliasSurvey "std::vector<char>").yields ⟨"/main.cpp"⟩ ⟨"S", ⟨"/h.hpp"⟩⟩ =
        some (aliasRecord "string") ∧
      (aliasSurvey "std::vector<char>").yields ⟨"/h.hpp"⟩ ⟨"S", ⟨"/h.hpp"⟩⟩ =
        some (aliasRecord "std::vector<char>") ∧
      (x.entries.flatMap FileEntry.valueTypes).filter (fun u => u.key.same ⟨"S", ⟨"/h.hpp"⟩⟩) =
        [aliasRecord "std::vector<char>"] := by
  obtain ⟨o, x, ho, hx, hparsed, he⟩ :
      ∃ o x, (aliasSurvey "std::vector<char>").outcome 2 = some o ∧ o.result = .ok x ∧
        o.parsed = [⟨"/main.cpp"⟩, ⟨"/h.hpp"⟩] ∧ aliasEntry "std::vector<char>" ∈ x.entries :=
    ⟨_, _, rfl, rfl, by decide +kernel, by decide +kernel⟩
  obtain ⟨hown, -, ⟨-, honce⟩, -⟩ := Survey.listed_copy _ ho hx he
    (t := aliasRecord "std::vector<char>") (List.mem_singleton.mpr rfl)
  have hretains : (aliasSurvey "std::vector<char>").Retains ⟨"/h.hpp"⟩ ⟨"S", ⟨"/h.hpp"⟩⟩ := by
    rw [Survey.retains_iff_exists_yields, ← Option.isSome_iff_exists]
    decide +kernel
  exact ⟨o, x, ho, hx, hparsed, he, by decide +kernel,
    hown ⟨"/h.hpp"⟩ (by simp [hparsed]) (by decide) hretains, honce⟩

end CppSurface
