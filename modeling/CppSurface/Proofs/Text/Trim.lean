import CppSurface.Text.Trim
import Mathlib.Data.List.TakeWhile

/-!
# Trimmed texts and the ends of texts

Trimming takes white space off both ends.  A text that neither begins nor ends with white space is
left as it is (`trim_eq_self`), and what is left of any text is of this sort, so a second trimming
changes nothing (`trim_trim`).  White space that is added at an end makes no difference.

A search for the last occurrence of a pattern gives what follows it.  The part of the text in front
of an occurrence has no say in this (`afterLast?_append`).
-/

namespace CppSurface.Text

variable {cs pat base rest blanks : List Char}

/-! ## 1. Texts that need no trimming -/

/-- Nothing is taken off a text that does not begin with white space. -/
theorem trimStart_of_starts (h : ∀ c ∈ cs.head?, isBlank c = false) : trimStart cs = cs := by
  cases cs with
  | nil => rfl
  | cons c cs =>
    have hc := h c rfl
    exact List.dropWhile_cons_of_neg (by simp [hc])

theorem trimEnd_of_ends (h : ∀ c ∈ cs.getLast?, isBlank c = false) : trimEnd cs = cs := by
  have hreverse : trimStart cs.reverse = cs.reverse := by
    refine trimStart_of_starts fun c hc => h c ?_
    rwa [List.head?_reverse] at hc
  rw [trimEnd, ← trimStart, hreverse, List.reverse_reverse]

/-- **A text without white space at its ends is left as it is.** -/
theorem trim_eq_self (hstarts : ∀ c ∈ cs.head?, isBlank c = false)
    (hends : ∀ c ∈ cs.getLast?, isBlank c = false) : trim cs = cs := by
  rw [trim, trimStart_of_starts hstarts, trimEnd_of_ends hends]

/-! ## 2. What is left -/

theorem starts_trimStart (cs : List Char) : ∀ c ∈ (trimStart cs).head?, isBlank c = false := by
  intro c hc
  have hnot := List.head?_dropWhile_not isBlank cs
  rw [← trimStart, Option.mem_def.mp hc] at hnot
  simpa using hnot

theorem trimEnd_isPrefix (cs : List Char) : trimEnd cs <+: cs := by
  have hsuffix := List.dropWhile_suffix (l := cs.reverse) isBlank
  rw [trimEnd, ← List.reverse_suffix, List.reverse_reverse]
  exact hsuffix

/-- What is left does not begin with white space. -/
theorem starts_trim (cs : List Char) : ∀ c ∈ (trim cs).head?, isBlank c = false := by
  intro c hc
  obtain ⟨tail, htrim⟩ := List.head?_eq_some_iff.mp hc
  obtain ⟨rest, hrest⟩ := trimEnd_isPrefix (trimStart cs)
  rw [← trim, htrim, List.cons_append] at hrest
  exact starts_trimStart cs c (by rw [← hrest]; rfl)

/-- What is left does not end with white space. -/
theorem ends_trim (cs : List Char) : ∀ c ∈ (trim cs).getLast?, isBlank c = false := by
  intro c hc
  rw [trim, trimEnd, List.getLast?_reverse] at hc
  exact starts_trimStart _ c hc

/-- **A second trimming changes nothing.** -/
@[simp] theorem trim_trim (cs : List Char) : trim (trim cs) = trim cs :=
  trim_eq_self (starts_trim cs) (ends_trim cs)

@[simp] theorem trimmed_trimmed (s : String) : trimmed (trimmed s) = trimmed s := by
  rw [trimmed, trimmed, String.toList_ofList, trim_trim]

theorem length_trim_le (cs : List Char) : (trim cs).length ≤ cs.length :=
  Nat.le_trans (trimEnd_isPrefix _).length_le (List.dropWhile_suffix isBlank).length_le

theorem length_trim_toList_le (s : String) : (trim s.toList).length ≤ s.length := by
  rw [← String.length_toList]
  exact length_trim_le s.toList

theorem length_trimmed_le (s : String) : (trimmed s).length ≤ s.length := by
  rw [trimmed, String.length_ofList]
  exact length_trim_toList_le s

/-! ## 3. White space at the ends -/

/-- White space in front of a text makes no difference. -/
theorem trim_blank_append (h : ∀ c ∈ blanks, isBlank c = true) : trim (blanks ++ cs) = trim cs := by
  rw [trim, trim, trimStart, trimStart, List.dropWhile_append_of_pos h]

theorem trim_cons_of_blank {c : Char} (h : isBlank c = true) (cs : List Char) :
    trim (c :: cs) = trim cs := by
  rw [trim, trim, trimStart, trimStart, List.dropWhile_cons_of_pos h]

/-- White space behind a text makes no difference. -/
theorem trim_append_blank (h : ∀ c ∈ blanks, isBlank c = true) : trim (cs ++ blanks) = trim cs := by
  have hreverse : ∀ c ∈ blanks.reverse, isBlank c = true := by simpa using h
  have hnone : blanks.dropWhile isBlank = [] := List.dropWhile_eq_nil_iff.mpr h
  rw [trim, trim, trimStart, trimStart, List.dropWhile_append, hnone]
  split
  · rename_i hempty
    rw [List.isEmpty_iff.mp hempty]
  · rw [trimEnd, trimEnd, List.reverse_append, List.dropWhile_append_of_pos hreverse]

theorem trim_concat_of_blank {c : Char} (h : isBlank c = true) (cs : List Char) :
    trim (cs ++ [c]) = trim cs :=
  trim_append_blank (by simpa using h)

/-- White space around a text is taken off. -/
theorem trim_padded {before after : List Char} (hbefore : ∀ c ∈ before, isBlank c = true)
    (hafter : ∀ c ∈ after, isBlank c = true) : trim (before ++ cs ++ after) = trim cs := by
  rw [trim_append_blank hafter, trim_blank_append hbefore]

/-! ## 4. Searching from the end -/

theorem dropEnd?_eq_some (h : dropEnd? pat cs = some base) : cs = base ++ pat := by
  unfold dropEnd? at h
  split at h
  · rename_i hsuffix
    obtain ⟨before, rfl⟩ := List.isSuffixOf_iff_suffix.mp hsuffix
    have hbase : before = base := by simpa using h
    rw [hbase]
  · exact absurd h (by simp)

theorem afterLast?_eq_some (h : afterLast? pat cs = some rest) :
    ∃ before, cs = before ++ pat ++ rest := by
  induction cs with
  | nil =>
    rw [afterLast?] at h
    split at h
    · rename_i hpat
      obtain rfl : [] = rest := Option.some.inj h
      exact ⟨[], by simpa using hpat⟩
    · exact absurd h (by simp)
  | cons c cs ih =>
    rw [afterLast?] at h
    split at h
    · rename_i rest' hrest
      obtain rfl : rest' = rest := Option.some.inj h
      obtain ⟨before, hbefore⟩ := ih hrest
      exact ⟨c :: before, by rw [hbefore]; simp⟩
    · split at h
      · rename_i hprefix
        obtain ⟨rest', hrest'⟩ := List.isPrefixOf_iff_prefix.mp hprefix
        refine ⟨[], ?_⟩
        rw [← hrest', List.drop_left] at h
        rw [← hrest', Option.some.inj h, List.nil_append]
      · exact absurd h (by simp)

/-- A text that does not hold the pattern has no last occurrence of it. -/
theorem afterLast?_eq_none (h : ¬ pat <:+: cs) : afterLast? pat cs = none := by
  cases hlast : afterLast? pat cs with
  | none => rfl
  | some rest =>
    obtain ⟨before, hcs⟩ := afterLast?_eq_some hlast
    exact absurd ⟨before, rest, hcs.symm⟩ h

/-- What stands in front of an occurrence has no say in which is the last one. -/
theorem afterLast?_append (before : List Char) (h : afterLast? pat cs = some rest) :
    afterLast? pat (before ++ cs) = some rest := by
  induction before with
  | nil => exact h
  | cons c before ih => rw [List.cons_append, afterLast?, ih]

end CppSurface.Text
