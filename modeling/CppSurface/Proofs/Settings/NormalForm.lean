import CppSurface.Compiler
import CppSurface.Proofs.Text.Trim
import CppSurface.Settings.Overrides
import Mathlib.Data.List.Basic

/-!
# Settings that are normalized twice

Settings that come from a document are in normal form before the overrides are laid over them, and
they are brought into normal form once more afterwards.  Does the first time make a difference?

For all settings but one it does not.  A text that was trimmed is not changed by trimming, and a
fallback that took the place of an empty text is itself in normal form.  A list may grow between the
two times, by items that it already has; but of equal items the first one stays, so what the first
time takes out would go in any case (`firstOccurrences_append_firstOccurrences`).

The exception is the language standard.  It is trimmed first, and then the option that it may be
written as is taken off.  White space between the two, as in `-std= c++20`, is left at the beginning
of the name, and only the next time removes it.  This is the only way in which the first time can
show, and it always does, unless the standard is replaced (`normalize_early_iff`).
-/

namespace CppSurface

open CppSurface.Text

/-! ## 1. Lists of texts -/

section Lists

variable {ss ts : List String}

theorem mem_firstOccurrences {s : String} : s ∈ firstOccurrences ss ↔ s ∈ ss := by
  induction ss with
  | nil => simp [firstOccurrences]
  | cons t ss ih =>
    simp only [firstOccurrences, List.mem_cons, List.mem_filter, ih]
    by_cases hs : s = t <;> simp [hs]

/-- Taking items out changes nothing about which occurrence is the first one. -/
theorem firstOccurrences_filter (p : String → Bool) (ss : List String) :
    firstOccurrences (ss.filter p) = (firstOccurrences ss).filter p := by
  induction ss with
  | nil => rfl
  | cons s ss ih =>
    cases hp : p s with
    | true =>
      rw [List.filter_cons_of_pos hp, firstOccurrences, firstOccurrences,
        List.filter_cons_of_pos hp, ih, List.filter_comm]
    | false =>
      have hne : ∀ t ∈ (firstOccurrences ss).filter p, decide (t ≠ s) = true := by
        intro t ht
        refine decide_eq_true fun heq => ?_
        rw [heq, List.mem_filter, hp] at ht
        exact Bool.false_ne_true ht.2
      rw [List.filter_cons_of_neg (by simp [hp]), firstOccurrences,
        List.filter_cons_of_neg (by simp [hp]), ih, List.filter_comm, List.filter_eq_self.mpr hne]

theorem firstOccurrences_append (ss ts : List String) :
    firstOccurrences (ss ++ ts) =
      firstOccurrences ss ++ (firstOccurrences ts).filter (· ∉ ss) := by
  induction ss with
  | nil =>
    rw [List.nil_append]
    exact (List.filter_eq_self.mpr (by simp)).symm
  | cons s ss ih =>
    rw [List.cons_append, firstOccurrences, firstOccurrences, ih, List.filter_append,
      List.filter_filter, List.cons_append]
    simp [not_or]

theorem firstOccurrences_firstOccurrences (ss : List String) :
    firstOccurrences (firstOccurrences ss) = firstOccurrences ss := by
  induction ss with
  | nil => rfl
  | cons s ss ih =>
    rw [firstOccurrences, firstOccurrences, firstOccurrences_filter, ih, List.filter_filter]
    simp

/-- **Repetitions may be taken out of the front part first.** -/
theorem firstOccurrences_append_firstOccurrences (ss ts : List String) :
    firstOccurrences (firstOccurrences ss ++ ts) = firstOccurrences (ss ++ ts) := by
  rw [firstOccurrences_append, firstOccurrences_append, firstOccurrences_firstOccurrences]
  simp only [mem_firstOccurrences]

theorem trimmedTexts_append (ss ts : List String) :
    trimmedTexts (ss ++ ts) = trimmedTexts ss ++ trimmedTexts ts := by
  simp [trimmedTexts]

/-- Texts that were trimmed and are not empty stay as they are. -/
theorem trimmedTexts_of_subset (h : ts ⊆ trimmedTexts ss) : trimmedTexts ts = ts := by
  have hmem : ∀ t ∈ ts, trimmed t = t ∧ t ≠ "" := by
    intro t ht
    obtain ⟨hmap, hne⟩ := List.mem_filter.mp (h ht)
    obtain ⟨s, -, rfl⟩ := List.mem_map.mp hmap
    exact ⟨trimmed_trimmed s, by simpa using hne⟩
  have hmap : ts.map trimmed = ts := by
    rw [List.map_congr_left fun t ht => (hmem t ht).1, List.map_id']
  rw [trimmedTexts, hmap]
  exact List.filter_eq_self.mpr fun t ht => by simpa using (hmem t ht).2

/-- **A list that grows may be trimmed before.** -/
theorem trimmedTexts_trimmedTexts_append (ss ts : List String) :
    trimmedTexts (trimmedTexts ss ++ ts) = trimmedTexts (ss ++ ts) := by
  rw [trimmedTexts_append, trimmedTexts_append, trimmedTexts_of_subset (List.Subset.refl _)]

/-- **A list that grows may be brought into normal form before.** -/
theorem firstOccurrences_trimmedTexts_append (ss ts : List String) :
    firstOccurrences (trimmedTexts (firstOccurrences (trimmedTexts ss) ++ ts)) =
      firstOccurrences (trimmedTexts (ss ++ ts)) := by
  have hsubset : firstOccurrences (trimmedTexts ss) ⊆ trimmedTexts ss :=
    fun _ => mem_firstOccurrences.mp
  rw [trimmedTexts_append, trimmedTexts_of_subset hsubset, trimmedTexts_append,
    firstOccurrences_append_firstOccurrences]

end Lists

/-! ## 2. Texts with a fallback, and bounds -/

/-- A text that was trimmed, or its fallback, is trimmed. -/
theorem orElseIfEmpty_trimmed {fallback : String} (hfallback : trimmed fallback = fallback)
    (s : String) :
    orElseIfEmpty (trimmed (orElseIfEmpty (trimmed s) fallback)) fallback =
      orElseIfEmpty (trimmed s) fallback := by
  unfold orElseIfEmpty
  split
  · rw [hfallback, ite_self]
  · rename_i hne
    rw [trimmed_trimmed, if_neg hne]

theorem clampPasses_clampPasses (n : Nat) : clampPasses (clampPasses n) = clampPasses n := by
  unfold clampPasses
  omega

/-! ## 3. Marks at the beginning -/

section Leading

variable {mark cs rest : List Char} {n fuel : Nat}

/-- What is taken off is the mark, some number of times. -/
theorem exists_dropLeading (mark : List Char) (fuel : Nat) (cs : List Char) :
    ∃ n, cs = (List.replicate n mark).flatten ++ dropLeading mark fuel cs := by
  induction fuel generalizing cs with
  | zero => exact ⟨0, rfl⟩
  | succ fuel ih =>
    rw [dropLeading]
    split
    · rename_i hmark
      obtain ⟨rest, rfl⟩ := List.isPrefixOf_iff_prefix.mp hmark
      obtain ⟨n, hn⟩ := ih rest
      refine ⟨n + 1, ?_⟩
      rw [List.drop_left, List.replicate_succ, List.flatten_cons, List.append_assoc, ← hn]
    · exact ⟨0, rfl⟩

theorem dropLeading_eq_self (h : ¬ mark <+: cs) : dropLeading mark fuel cs = cs := by
  cases fuel with
  | zero => rfl
  | succ fuel => rw [dropLeading, if_neg (mt List.isPrefixOf_iff_prefix.mp h)]

/-- The mark is taken off as often as it is written. -/
theorem dropLeading_replicate (h : ¬ mark <+: rest) (hfuel : n ≤ fuel) :
    dropLeading mark fuel ((List.replicate n mark).flatten ++ rest) = rest := by
  induction n generalizing fuel with
  | zero => exact dropLeading_eq_self h
  | succ n ih =>
    obtain ⟨fuel, rfl⟩ := Nat.exists_eq_add_one.mpr (Nat.lt_of_lt_of_le n.succ_pos hfuel)
    have hmark : mark.isPrefixOf (mark ++ ((List.replicate n mark).flatten ++ rest)) = true :=
      List.isPrefixOf_iff_prefix.mpr (List.prefix_append _ _)
    rw [List.replicate_succ, List.flatten_cons, List.append_assoc, dropLeading, if_pos hmark,
      List.drop_left]
    exact ih (Nat.le_of_succ_le_succ hfuel)

/-- No mark is left, if there is fuel for each character. -/
theorem not_isPrefix_dropLeading (hmark : mark ≠ []) (hfuel : cs.length ≤ fuel) :
    ¬ mark <+: dropLeading mark fuel cs := by
  induction fuel generalizing cs with
  | zero =>
    rw [dropLeading, List.length_eq_zero_iff.mp (Nat.le_zero.mp hfuel), List.prefix_nil]
    exact hmark
  | succ fuel ih =>
    rw [dropLeading]
    split
    · refine ih ?_
      have hpos := List.length_pos_iff.mpr hmark
      rw [List.length_drop]
      omega
    · rename_i hnone
      exact mt List.isPrefixOf_iff_prefix.mpr hnone

end Leading

/-! ## 4. The language standard -/

/-- The option that a standard may be written as. -/
def standardOption : List Char := ['-', 's', 't', 'd', '=']

/-- **A standard is detached from its option**: the option is written, once or more often, and white
space follows it. -/
def DetachedStandard (std : String) : Prop :=
  ∃ (n : Nat) (c : Char) (name : List Char), isBlank c = true ∧
    trim std.toList = (List.replicate n standardOption).flatten ++ c :: name

section Standard

variable {std : String}

theorem toList_standardName (std : String) :
    (standardName std).toList = dropLeading standardOption std.length (trim std.toList) := by
  have hoption : "-std=".toList = standardOption := by decide
  rw [standardName, String.toList_ofList, hoption]

/-- **The name of a detached standard begins with white space**, and no other does. -/
theorem detachedStandard_iff :
    DetachedStandard std ↔ ∃ c ∈ (standardName std).toList.head?, isBlank c = true := by
  rw [toList_standardName]
  constructor
  · rintro ⟨n, c, name, hblank, htrim⟩
    have hother : ¬ standardOption <+: c :: name := by
      rintro ⟨rest, heq⟩
      rw [← (List.cons.inj heq).1] at hblank
      exact absurd hblank (by decide)
    have hfuel : n ≤ std.length := by
      have hle := length_trim_toList_le std
      have hmarks : (List.replicate n standardOption).flatten.length = n * 5 := by
        simp [standardOption]
      have hlength := congrArg List.length htrim
      rw [List.length_append, hmarks] at hlength
      omega
    refine ⟨c, ?_, hblank⟩
    rw [htrim, dropLeading_replicate hother hfuel]
    rfl
  · rintro ⟨c, hc, hblank⟩
    obtain ⟨name, hname⟩ := List.head?_eq_some_iff.mp hc
    obtain ⟨n, hn⟩ := exists_dropLeading standardOption std.length (trim std.toList)
    exact ⟨n, c, name, hblank, by rw [hn, hname]⟩

/-- The end of a name is that of the trimmed text. -/
theorem ends_standardName (std : String) :
    ∀ c ∈ (standardName std).toList.getLast?, isBlank c = false := by
  intro c hc
  obtain ⟨n, hn⟩ := exists_dropLeading standardOption std.length (trim std.toList)
  refine ends_trim std.toList c ?_
  rw [toList_standardName] at hc
  rw [hn, List.getLast?_append, Option.mem_def.mp hc]
  rfl

/-- **A name that is not detached is its own name.** -/
theorem standardName_standardName (h : ¬ DetachedStandard std) :
    standardName (standardName std) = standardName std := by
  have hstarts : ∀ c ∈ (standardName std).toList.head?, isBlank c = false := by
    intro c hc
    by_contra hblank
    exact h (detachedStandard_iff.mpr ⟨c, hc, by simpa using hblank⟩)
  have hoption : ¬ standardOption <+: (standardName std).toList := by
    rw [toList_standardName]
    exact not_isPrefix_dropLeading (by decide) (length_trim_toList_le std)
  apply String.toList_inj.mp
  rw [toList_standardName (standardName std), trim_eq_self hstarts (ends_standardName std),
    dropLeading_eq_self hoption]

/-- Of a text that begins with white space, the name is shorter. -/
theorem length_standardName_lt (h : ∃ c ∈ std.toList.head?, isBlank c = true) :
    (standardName std).length < std.length := by
  obtain ⟨c, hc, hblank⟩ := h
  obtain ⟨rest, hstd⟩ := List.head?_eq_some_iff.mp hc
  have htrim : trim std.toList = trim rest := by
    rw [hstd]
    exact trim_cons_of_blank hblank rest
  obtain ⟨n, hn⟩ := exists_dropLeading standardOption std.length (trim std.toList)
  have hparts := congrArg List.length hn
  rw [List.length_append, ← toList_standardName, String.length_toList, htrim] at hparts
  have hle := length_trim_le rest
  have hlength := congrArg List.length hstd
  rw [String.length_toList, List.length_cons] at hlength
  omega

/-- **The standard is settled after the first time, unless it is detached.** -/
theorem orElseIfEmpty_standardName_iff :
    orElseIfEmpty (standardName (orElseIfEmpty (standardName std) "c++17")) "c++17" =
      orElseIfEmpty (standardName std) "c++17" ↔ ¬ DetachedStandard std := by
  constructor
  · intro heq hdetached
    obtain ⟨c, hc, hblank⟩ := detachedStandard_iff.mp hdetached
    have hne : standardName std ≠ "" := by
      intro hempty
      rw [hempty] at hc
      exact absurd hc (by simp)
    rw [orElseIfEmpty, orElseIfEmpty, if_neg hne] at heq
    split at heq
    · -- The fallback does not begin with white space.
      rw [← heq] at hc
      obtain rfl : 'c' = c := Option.some.inj hc
      exact absurd hblank (by decide)
    · have hlt := length_standardName_lt ⟨c, hc, hblank⟩
      rw [heq] at hlt
      exact Nat.lt_irrefl _ hlt
  · intro hplain
    by_cases hempty : standardName std = ""
    · rw [hempty]
      decide
    · rw [orElseIfEmpty, orElseIfEmpty, if_neg hempty, standardName_standardName hplain,
        if_neg hempty]

end Standard

/-! ## 5. The settings -/

/-- The settings with another standard. -/
def Settings.withStandard (s : Settings) (std : String) : Settings :=
  { s with compiler := { s.compiler with std := std } }

@[simp] theorem Settings.withStandard_self (s : Settings) :
    s.withStandard s.compiler.std = s := rfl

namespace Overrides

theorem normalize_onCompiler (o : Overrides) (c : CompilerSettings) :
    (o.onCompiler c.normalize).normalize =
      { (o.onCompiler c).normalize with std := (o.onCompiler c.normalize).normalize.std } := by
  have hclang : orElseIfEmpty (trimmed (o.clang.getD (orElseIfEmpty (trimmed c.clang) "clang++")))
      "clang++" = orElseIfEmpty (trimmed (o.clang.getD c.clang)) "clang++" := by
    cases o.clang with
    | none =>
      rw [Option.getD_none, Option.getD_none]
      exact orElseIfEmpty_trimmed (by decide) c.clang
    | some clang => rw [Option.getD_some, Option.getD_some]
  simp only [CompilerSettings.normalize, onCompiler, hclang, firstOccurrences_trimmedTexts_append,
    trimmedTexts_trimmedTexts_append]

theorem normalize_onTraversal (o : Overrides) (t : TraversalSettings) :
    (o.onTraversal t.normalize).normalize = (o.onTraversal t).normalize := by
  have hpasses : clampPasses (o.maxAliasPasses.getD (clampPasses t.maxAliasPasses)) =
      clampPasses (o.maxAliasPasses.getD t.maxAliasPasses) := by
    cases o.maxAliasPasses with
    | none => exact clampPasses_clampPasses t.maxAliasPasses
    | some passes => rfl
  simp only [TraversalSettings.normalize, onTraversal, hpasses,
    firstOccurrences_trimmedTexts_append]

theorem std_normalize_onCompiler_iff (o : Overrides) (c : CompilerSettings) :
    (o.onCompiler c.normalize).normalize.std = (o.onCompiler c).normalize.std ↔
      o.std.isSome = true ∨ ¬ DetachedStandard c.std := by
  simp only [CompilerSettings.normalize, onCompiler]
  cases o.std with
  | none => simpa using orElseIfEmpty_standardName_iff
  | some std => simp

/-- Without overrides the settings stay as they are. -/
theorem onSettings_default (s : Settings) : ({} : Overrides).onSettings s = s := by
  simp [onSettings, onCompiler, onTraversal, onLevel]

end Overrides

/-- The first time shows in the standard at most. -/
theorem override_normalize (s : Settings) (o : Overrides) :
    s.normalize.override o =
      (s.override o).withStandard (s.normalize.override o).compiler.std := by
  simp only [Settings.override, Settings.normalize, Overrides.onSettings, Settings.withStandard,
    o.normalize_onTraversal, ← o.normalize_onCompiler]

theorem override_normalize_eq_iff (s : Settings) (o : Overrides) :
    s.normalize.override o = s.override o ↔
      o.std.isSome = true ∨ ¬ DetachedStandard s.compiler.std := by
  rw [← o.std_normalize_onCompiler_iff]
  constructor
  · intro heq
    exact congrArg (fun s => s.compiler.std) heq
  · intro hstd
    have hsame : (s.normalize.override o).compiler.std = (s.override o).compiler.std := hstd
    rw [override_normalize, hsame, Settings.withStandard_self]

/-- **Whether settings were in normal form before the overrides came can be seen only from a
detached standard.**  The standard is all that can differ, and it differs just when it is detached
from its option and not replaced.  So a second time without overrides changes a detached standard,
and nothing else. -/
theorem normalize_early_iff (s : Settings) (o : Overrides) :
    (∃ std, s.normalize.override o = (s.override o).withStandard std) ∧
      (s.normalize.override o = s.override o ↔
        o.std.isSome = true ∨ ¬ DetachedStandard s.compiler.std) ∧
      (s.normalize.normalize = s.normalize ↔ ¬ DetachedStandard s.compiler.std) := by
  refine ⟨⟨_, override_normalize s o⟩, override_normalize_eq_iff s o, ?_⟩
  have hempty := override_normalize_eq_iff s {}
  rw [Settings.override, Settings.override, Overrides.onSettings_default,
    Overrides.onSettings_default] at hempty
  simpa using hempty

/-- **A detached standard takes two times.**  The compiler is told another one after the first. -/
theorem normalize_detached_twice :
    let s : Settings := { compiler := { std := "-std= c++20" } }
    s.normalize.compiler.std = " c++20" ∧ s.normalize.normalize.compiler.std = "c++20" ∧
      s.normalize.override {} ≠ s.override {} ∧
      Compiler.arguments s.normalize.compiler none ⟨"a.cpp"⟩ ≠
        Compiler.arguments (s.normalize.override {}).compiler none ⟨"a.cpp"⟩ := by
  decide

end CppSurface
