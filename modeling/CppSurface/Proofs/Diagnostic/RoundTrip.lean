import CppSurface.Diagnostic
import CppSurface.Proofs.Text.Lines
import CppSurface.Proofs.Text.Trim
import Mathlib.Data.List.Basic

/-!
# Printed diagnostics are read back

A message is free text.  It may hold a place and a severity of its own, as in
`a.cpp:1:2: error: note: b.cpp:3:4: error: x`, and then a line can be cut in more than one way.  The
reader takes the shortest file name that it can, and so the first colon of the line decides: in
front of it stands the file's name, which has none, and behind it the place and the severity are
read as they were printed.  So the message is never looked into (`readLocated?_text`).

Without a place there is nothing to stop the reader from looking for one in the message, or from
taking the severity for the name of a program.  Both need a second colon, and this is why a message
without a place must not have any (`readLocated?_unplaced`, `readProgram?_unplaced`).

The printed lines are told apart by their line feeds.  A carriage return at the end of a message
would be taken for a part of the line end.
-/

namespace CppSurface

open CppSurface.Text

namespace Diagnostic

variable {severity : Severity} {cs name message rest : List Char}

/-! ## 1. What can be printed and read back -/

/-- **A diagnostic that can be read back.**  Its message stands on one line, does not begin with
white space and does not end with a carriage return.  If it has a place, there is no colon in the
file's name; and if it has none, there is no colon in the message. -/
structure Printable (d : Diagnostic) : Prop where
  one_line : '\n' ∉ d.message.toList
  starts : ∀ c ∈ d.message.toList.head?, isBlank c = false
  ends : d.message.toList.getLast? ≠ some '\r'
  located : ∀ file ∈ d.file, ':' ∉ file.toList ∧ '\n' ∉ file.toList
  unlocated : d.file = none → d.line = 0 ∧ d.column = 0 ∧ ':' ∉ d.message.toList

theorem printable_iff {d : Diagnostic} : Printable d ↔ '\n' ∉ d.message.toList ∧
    d.message.toList.head?.all (fun c => !isBlank c) = true ∧
    d.message.toList.getLast? ≠ some '\r' ∧
    d.file.all (fun file => !file.toList.contains ':' && !file.toList.contains '\n') = true ∧
    (d.file = none → d.line = 0 ∧ d.column = 0 ∧ ':' ∉ d.message.toList) := by
  have hfile : d.file.all (fun file => !file.toList.contains ':' && !file.toList.contains '\n')
      = true ↔ ∀ file ∈ d.file, ':' ∉ file.toList ∧ '\n' ∉ file.toList := by
    cases d.file <;> simp
  have hhead : d.message.toList.head?.all (fun c => !isBlank c) = true ↔
      ∀ c ∈ d.message.toList.head?, isBlank c = false := by
    cases d.message.toList.head? <;> simp
  rw [hfile, hhead]
  exact ⟨fun h => ⟨h.1, h.2, h.3, h.4, h.5⟩, fun h => ⟨h.1, h.2.1, h.2.2.1, h.2.2.2.1, h.2.2.2.2⟩⟩

instance : DecidablePred Printable := fun _ => decidable_of_iff' _ printable_iff

/-- The severity and the message, as they are printed behind a place or alone. -/
def tail (severity : Severity) (message : List Char) : List Char :=
  severity.spelling.toList ++ ':' :: ' ' :: message

/-- The characters of a diagnostic with a place. -/
theorem text_located (file : String) (line column : UInt32) (severity : Severity)
    (message : String) :
    (text ⟨some file, line, column, severity, message⟩).toList =
      file.toList ++ ':' :: (Nat.toDigits 10 line.toNat ++ ':' ::
        (Nat.toDigits 10 column.toNat ++ ':' :: ' ' :: tail severity message.toList)) := by
  simp [text, tail]

/-- The characters of a diagnostic without a place. -/
theorem text_unlocated (line column : UInt32) (severity : Severity) (message : String) :
    (text ⟨none, line, column, severity, message⟩).toList = tail severity message.toList := by
  simp [text, tail]

/-! ## 2. Numbers and places -/

theorem isDecimal_of_isDigit {c : Char} (h : c.isDigit = true) : isDecimal c = true := by
  simp only [Char.isDigit, Bool.and_eq_true, decide_eq_true_eq] at h
  have hlo : 48 ≤ c.toNat := h.1
  have hhi : c.toNat ≤ 57 := h.2
  unfold isDecimal decimalRanges inRanges
  rw [if_neg (by omega), if_pos (by omega)]

/-- A number of 32 bits is read from its digits. -/
theorem number_toDigits (n : UInt32) : number (Nat.toDigits 10 n.toNat) = n := by
  have hall : (Nat.toDigits 10 n.toNat).all isAsciiDigit = true := by
    refine List.all_eq_true.mpr fun c hc => ?_
    have hdigit := Nat.isDigit_of_mem_toDigits (by decide) (by decide) hc
    simpa [isAsciiDigit, Char.isDigit, Char.le_def] using hdigit
  have hvalue : (Nat.toDigits 10 n.toNat).foldl (fun m c => m * 10 + (c.toNat - 48)) 0
      = n.toNat := by
    have h : Nat.ofDigitChars 10 (Nat.toDigits 10 n.toNat) 0 = n.toNat :=
      Nat.ofDigitChars_ten_toDigits
    simp only [Nat.ofDigitChars_eq_foldl, Nat.mul_comm 10] at h
    exact h
  unfold number
  rw [if_pos hall]
  dsimp only
  rw [hvalue, if_pos n.toNat_lt, UInt32.ofNat_toNat]

theorem readNumber?_toDigits (n : UInt32) (rest : List Char) :
    readNumber? (Nat.toDigits 10 n.toNat ++ ':' :: rest) = some (n, rest) := by
  have hdigits : ∀ c ∈ Nat.toDigits 10 n.toNat, isDecimal c = true := by
    intro c hc
    exact isDecimal_of_isDigit (Nat.isDigit_of_mem_toDigits (by decide) (by decide) hc)
  have hnumber := number_toDigits n
  unfold readNumber?
  rw [List.takeWhile_append_of_pos hdigits, List.dropWhile_append_of_pos hdigits,
    List.takeWhile_cons_of_neg (by decide), List.dropWhile_cons_of_neg (by decide),
    List.append_nil]
  obtain ⟨d, digits, hcons⟩ := List.exists_cons_of_ne_nil (Nat.toDigits_ne_nil (b := 10)
    (n := n.toNat))
  rw [hcons] at hnumber ⊢
  simp only [hnumber]

/-- **A place is read back**, whatever follows it. -/
theorem readPlace?_toDigits (line column : UInt32) (rest : List Char) :
    readPlace? (':' :: (Nat.toDigits 10 line.toNat ++ ':' ::
      (Nat.toDigits 10 column.toNat ++ ':' :: rest))) = some (line, column, rest) := by
  simp only [readPlace?, readNumber?_toDigits]

/-- A place begins with a colon. -/
theorem readPlace?_of_ne {c : Char} (h : c ≠ ':') (cs : List Char) :
    readPlace? (c :: cs) = none := by
  unfold readPlace?
  split
  · rename_i heq
    exact absurd (List.cons.inj heq).1 h
  · rfl

/-! ## 3. Severities and messages -/

/-- **A severity and a message are read back.**  No severity is the beginning of another, so the
order in which they are tried does not matter. -/
theorem readSeverity?_tail (h : ∀ c ∈ message.head?, isBlank c = false) :
    readSeverity? (tail severity message) = some (severity, message) := by
  have hblank : trimStart (' ' :: message) = message := by
    rw [trimStart, List.dropWhile_cons_of_pos (by decide)]
    exact trimStart_of_starts h
  have hread : readSeverity? (tail severity message) =
      some (severity, trimStart (' ' :: message)) := by
    cases severity <;> rfl
  rw [hread, hblank]

theorem readMessage?_tail (h : ∀ c ∈ message.head?, isBlank c = false) :
    readMessage? (tail severity message) = some (severity, message) := by
  have hstarts : ∀ c ∈ (tail severity message).head?, isBlank c = false := by
    cases severity <;> simp [tail, Severity.spelling] <;> decide
  rw [readMessage?, trimStart_of_starts hstarts]
  exact readSeverity?_tail h

/-- Between a place and a severity there is a space. -/
theorem readMessage?_space (cs : List Char) : readMessage? (' ' :: cs) = readMessage? cs := by
  rw [readMessage?, readMessage?, trimStart, List.dropWhile_cons_of_pos (by decide), trimStart]

/-- A severity ends with a colon. -/
theorem readSeverity?_eq_none (h : ':' ∉ cs) : readSeverity? cs = none := by
  refine List.findSome?_eq_none_iff.mpr fun s _ => ?_
  dsimp only
  split
  · rename_i hword
    obtain ⟨rest, rfl⟩ := List.isPrefixOf_iff_prefix.mp hword
    exact absurd (by simp) h
  · rfl

theorem readMessage?_eq_none (h : ':' ∉ cs) : readMessage? cs = none :=
  readSeverity?_eq_none fun hmem => h ((List.dropWhile_sublist _).subset hmem)

/-! ## 4. One line -/

/-- **No place begins where there is no colon**, so the reader goes on to the next one. -/
theorem readLocated?_append (h : ':' ∉ name) (before rest : List Char) :
    readLocated? before (name ++ rest) = readLocated? (name.reverse ++ before) rest := by
  induction name generalizing before with
  | nil => rfl
  | cons c name ih =>
    obtain ⟨hc, hname⟩ := not_or.mp (mt List.mem_cons.mpr h)
    rw [List.cons_append, readLocated?, readPlace?_of_ne (Ne.symm hc), Option.bind_none, ih hname,
      List.reverse_cons, List.append_assoc, List.singleton_append]

/-- **With a place, the first colon decides**, and the message is not looked into. -/
theorem readLocated?_text (h : ':' ∉ name) (line column : UInt32)
    (hmessage : ∀ c ∈ message.head?, isBlank c = false) :
    readLocated? [] (name ++ ':' :: (Nat.toDigits 10 line.toNat ++ ':' ::
      (Nat.toDigits 10 column.toNat ++ ':' :: ' ' :: tail severity message))) =
      some ⟨some (String.ofList name), line, column, severity, String.ofList message⟩ := by
  have hread : readMessage? (' ' :: tail severity message) = some (severity, message) := by
    rw [readMessage?_space]
    exact readMessage?_tail hmessage
  rw [readLocated?_append h, List.append_nil]
  simp only [readLocated?, readPlace?_toDigits, Option.bind_some, hread, Option.map_some,
    List.reverse_reverse]

theorem notMem_spelling (severity : Severity) :
    ':' ∉ severity.spelling.toList ∧ '\n' ∉ severity.spelling.toList := by
  cases severity <;> decide

/-- **Without a place and without a colon in the message, no place is found.** -/
theorem readLocated?_unplaced (h : ':' ∉ message) (before : List Char) :
    readLocated? before (tail severity message) = none := by
  have hplace : readPlace? (':' :: ' ' :: message) = none := rfl
  have hspace : ':' ∉ ' ' :: message := by simpa using h
  rw [tail, readLocated?_append (notMem_spelling severity).1, readLocated?, hplace,
    Option.bind_none, ← List.append_nil (' ' :: message), readLocated?_append hspace]
  rfl

/-- **Without a colon in the message, the severity is not taken for a program.**  A fatal error is
two words, of which the first has no colon after it. -/
theorem readProgram?_unplaced (h : ':' ∉ message) :
    readProgram? (tail severity message) = none := by
  have hmessage : readMessage? (' ' :: message) = none := readMessage?_eq_none (by simpa using h)
  cases severity with
  | fatal => rfl
  | error | warning | note =>
    change (readMessage? (' ' :: message)).map _ = none
    rw [hmessage, Option.map_none]

/-- **A printed diagnostic is read back from its line.** -/
theorem ofLine?_text {d : Diagnostic} (h : Printable d) : ofLine? d.text.toList = some d := by
  obtain ⟨file, line, column, severity, message⟩ := d
  cases file with
  | some file =>
    rw [text_located, ofLine?, readLocated?_text (h.located file rfl).1 line column h.starts,
      Option.some_or, String.ofList_toList, String.ofList_toList]
  | none =>
    obtain ⟨hline, hcolumn, hcolon⟩ := h.unlocated rfl
    dsimp only at hline hcolumn hcolon
    rw [text_unlocated, ofLine?, readLocated?_unplaced hcolon, Option.none_or,
      readProgram?_unplaced hcolon, Option.none_or, readMessage?_tail h.starts, Option.map_some,
      hline, hcolumn]
    simp only [Diagnostic.unlocated, String.ofList_toList]

/-! ## 5. Many lines -/

/-- A printed diagnostic ends with its severity and its message. -/
theorem exists_append_tail (d : Diagnostic) :
    ∃ before, d.text.toList = before ++ tail d.severity d.message.toList := by
  obtain ⟨file, line, column, severity, message⟩ := d
  cases file with
  | some file =>
    refine ⟨file.toList ++ ':' :: (Nat.toDigits 10 line.toNat ++ ':' ::
      (Nat.toDigits 10 column.toNat ++ [':', ' '])), ?_⟩
    rw [text_located]
    simp
  | none => exact ⟨[], text_unlocated line column severity message⟩

theorem tail_ne_nil (severity : Severity) (message : List Char) : tail severity message ≠ [] := by
  simp [tail]

theorem text_ne_nil (d : Diagnostic) : d.text.toList ≠ [] := by
  obtain ⟨before, hbefore⟩ := d.exists_append_tail
  rw [hbefore]
  exact List.append_ne_nil_of_right_ne_nil before (tail_ne_nil _ _)

/-- It does not end with a carriage return: an empty message leaves the space in front of it. -/
theorem dropReturn_text {d : Diagnostic} (h : Printable d) :
    dropReturn d.text.toList = d.text.toList := by
  have htail : (tail d.severity d.message.toList).getLast? ≠ some '\r' := by
    have hends := h.ends
    cases hmessage : d.message.toList with
    | nil => simp [tail]
    | cons c cs =>
      rw [hmessage] at hends
      simpa [tail, List.getLast?_append, List.getLast?_cons_cons] using hends
  obtain ⟨before, hbefore⟩ := d.exists_append_tail
  refine dropReturn_of_getLast?_ne ?_
  rwa [hbefore, List.getLast?_append_of_ne_nil before (tail_ne_nil _ _)]

theorem notMem_text {d : Diagnostic} (h : Printable d) : '\n' ∉ d.text.toList := by
  obtain ⟨file, line, column, severity, message⟩ := d
  have htail : '\n' ∉ tail severity message.toList := by
    simpa [tail, (notMem_spelling severity).2] using h.one_line
  have hdigits : ∀ n : Nat, '\n' ∉ Nat.toDigits 10 n := by
    intro n hmem
    exact absurd (Nat.isDigit_of_mem_toDigits (by decide) (by decide) hmem) (by decide)
  cases file with
  | some file =>
    rw [text_located]
    simpa [hdigits, htail] using (h.located file rfl).2
  | none => rwa [text_unlocated]

/-- Texts with line feeds between them are printed lines, the last of which is open. -/
theorem prints_join {texts : List (List Char)} (h : ∀ t ∈ texts, t ≠ []) :
    Prints texts (List.intercalate ['\n'] texts) := by
  induction texts with
  | nil => exact .nothing
  | cons t texts ih =>
    obtain ⟨ht, hrest⟩ := List.forall_mem_cons.mp h
    cases texts with
    | nil =>
      rw [List.intercalate_singleton]
      exact .unended ht
    | cons t' texts =>
      rw [List.intercalate_cons_cons, List.append_assoc, List.singleton_append]
      exact .ended (ih hrest)

/-- **Printed diagnostics are read back**, in their order and with nothing added, whatever their
messages say. -/
theorem ofOutput_printed {ds : List Diagnostic} (h : ∀ d ∈ ds, Printable d) :
    ofOutput ("\n".intercalate (ds.map text)).toList = ds := by
  have hjoin : ("\n".intercalate (ds.map text)).toList =
      List.intercalate ['\n'] (ds.map fun d => d.text.toList) := by
    rw [String.toList_intercalate, List.map_map]
    rfl
  have hne : ∀ line ∈ ds.map fun d => d.text.toList, line ≠ [] := by
    intro line hline
    obtain ⟨d, -, rfl⟩ := List.mem_map.mp hline
    exact d.text_ne_nil
  rw [ofOutput, hjoin, filterMap_lines (prints_join hne)]
  · rw [List.filterMap_map]
    have hread : ds.filterMap (ofLine? ∘ fun d => d.text.toList) = ds.filterMap some :=
      List.filterMap_congr fun d hd => ofLine?_text (h d hd)
    rw [hread, List.filterMap_some]
  · intro line hline
    obtain ⟨d, hd, rfl⟩ := List.mem_map.mp hline
    exact notMem_text (h d hd)
  · intro line hline
    obtain ⟨d, hd, rfl⟩ := List.mem_map.mp hline
    rw [dropReturn_text (h d hd)]

/-- **The theorem at three diagnostics**: the first message reads like a diagnostic of its own, the
second one is empty and has an empty file name, and the third has no place. -/
theorem ofOutput_misleading :
    ofOutput "a b:4294967295:0: error: c:1:2: note: d\n:0:7: fatal error: \nerror: no input".toList
      = [⟨some "a b", 4294967295, 0, .error, "c:1:2: note: d"⟩, ⟨some "", 0, 7, .fatal, ""⟩,
        ⟨none, 0, 0, .error, "no input"⟩] :=
  @ofOutput_printed [⟨some "a b", 4294967295, 0, .error, "c:1:2: note: d"⟩,
    ⟨some "", 0, 7, .fatal, ""⟩, ⟨none, 0, 0, .error, "no input"⟩] (by decide)

end Diagnostic

end CppSurface
