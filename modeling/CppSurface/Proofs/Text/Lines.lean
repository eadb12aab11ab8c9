import CppSurface.Text.Trim

/-!
# Texts made of lines

A program that prints line after line ends each of them with a line feed, or with a carriage return
and a line feed, and may leave the last one open.  `Prints` says so without saying how the text is
cut again, and `lines` is the cut.

The cut does not give back every line as it was printed: of a line that itself ends with a carriage
return, that character is taken for a part of the line end.  So a reader sees the printed lines
only if it does not care about a carriage return at the end (`filterMap_lines`).
-/

namespace CppSurface.Text

variable {sep : Char} {line text : List Char} {printed : List (List Char)}

/-! ## 1. Printing -/

/-- **A text consists of these lines**, each with its end; the last one may be open. -/
inductive Prints : List (List Char) → List Char → Prop
  | nothing : Prints [] []
  | unended {line : List Char} : line ≠ [] → Prints [line] line
  | ended {line : List Char} {rest : List (List Char)} {text : List Char} :
      Prints rest text → Prints (line :: rest) (line ++ '\n' :: text)
  | returned {line : List Char} {rest : List (List Char)} {text : List Char} :
      Prints rest text → Prints (line :: rest) (line ++ '\r' :: '\n' :: text)

/-! ## 2. Cutting at a separator -/

theorem splitAt_of_notMem (h : sep ∉ line) : splitAt sep line = [line] := by
  induction line with
  | nil => rfl
  | cons c line ih =>
    obtain ⟨hc, hline⟩ := not_or.mp (mt List.mem_cons.mpr h)
    rw [splitAt, if_neg (Ne.symm hc), ih hline, consPart]

theorem splitAt_append_cons (h : sep ∉ line) :
    splitAt sep (line ++ sep :: text) = line :: splitAt sep text := by
  induction line with
  | nil => rw [List.nil_append, splitAt, if_pos rfl]
  | cons c line ih =>
    obtain ⟨hc, hline⟩ := not_or.mp (mt List.mem_cons.mpr h)
    rw [List.cons_append, splitAt, if_neg (Ne.symm hc), ih hline, consPart]

/-! ## 3. Lines -/

@[simp] theorem dropReturn_append_return (line : List Char) :
    dropReturn (line ++ ['\r']) = line := by
  simp [dropReturn]

/-- A line without a carriage return at its end is left alone. -/
theorem dropReturn_of_getLast?_ne (h : line.getLast? ≠ some '\r') : dropReturn line = line :=
  if_neg h

/-- What is dropped from a line is a carriage return at its end. -/
theorem eq_or_append_return (line : List Char) :
    dropReturn line = line ∨ line = dropReturn line ++ ['\r'] := by
  unfold dropReturn
  split
  · rename_i h
    obtain ⟨body, rfl⟩ := List.getLast?_eq_some_iff.mp h
    exact Or.inr (by rw [List.dropLast_concat])
  · exact Or.inl rfl

theorem lines_unended (hne : line ≠ []) (h : '\n' ∉ line) : lines line = [line] := by
  rw [lines, splitAt_of_notMem h, closeLines, if_neg (by simpa using hne)]

theorem lines_ended (h : '\n' ∉ line) (text : List Char) :
    lines (line ++ '\n' :: text) = dropReturn line :: lines text := by
  rw [lines, lines, splitAt_append_cons h]
  cases hs : splitAt '\n' text with
  | nil => exact absurd hs (splitAt_ne_nil '\n' text)
  | cons part rest => rfl

/-- **A reader of lines that does not care about carriage returns reads what was printed.** -/
theorem filterMap_lines {α : Type} {f : List Char → Option α} (h : Prints printed text)
    (hone : ∀ line ∈ printed, '\n' ∉ line)
    (hf : ∀ line ∈ printed, f (dropReturn line) = f line) :
    (lines text).filterMap f = printed.filterMap f := by
  induction h with
  | nothing => rfl
  | unended hne => rw [lines_unended hne (hone _ List.mem_cons_self)]
  | ended _ ih =>
    obtain ⟨hline, hrest⟩ := List.forall_mem_cons.mp hone
    obtain ⟨hfline, hfrest⟩ := List.forall_mem_cons.mp hf
    rw [lines_ended hline, List.filterMap_cons, List.filterMap_cons, hfline, ih hrest hfrest]
  | @returned line rest text _ ih =>
    obtain ⟨hline, hrest⟩ := List.forall_mem_cons.mp hone
    obtain ⟨-, hfrest⟩ := List.forall_mem_cons.mp hf
    have hsplit : line ++ '\r' :: '\n' :: text = (line ++ ['\r']) ++ '\n' :: text := by simp
    have hreturn : '\n' ∉ line ++ ['\r'] := by simpa using hline
    rw [hsplit, lines_ended hreturn, dropReturn_append_return, List.filterMap_cons,
      List.filterMap_cons, ih hrest hfrest]

end CppSurface.Text
