import CppSurface.Json.Reader
import CppSurface.Json.Writer

/-!
# The reader reads what the writer writes

The two layouts differ in white space only, and the reader skips white space.  So the argument is
made once for both.  A text *spells* a value when the reader, put in front of it, reads the value
and stops behind it, whatever comes next, except for what would go on with a number
(`Reader.Spells`).  White space in front does not matter, each scalar is spelled as it is written,
and a list or an object is spelled by the spellings of its parts, with commas between them and any
white space before the closing bracket.

The reader counts its turns.  A text has at least as many characters as the reading of it takes
turns, because a turn that hands the rest on to another has gone past a bracket or a comma first.

Not every value comes back.  A number with a fraction is kept as it was written, and a string
without a text is written as an empty one.  The values that do come back are those made of texts
and of natural numbers up to 64 bits (`Plain`).
-/

namespace CppSurface.Json

namespace Reader

variable {cs ds rest gap : List Char} {c : Char} {v : Json} {turns n : Nat}

/-! ## 1. White space -/

/-- A text of white space. -/
def Blank (gap : List Char) : Prop := ∀ c ∈ gap, isSpace c = true

theorem blank_nil : Blank [] := fun _ h => absurd h (by simp)

theorem skip_append (h : Blank gap) (cs : List Char) : skip (gap ++ cs) = skip cs :=
  List.dropWhile_append_of_pos h

/-- What stands behind white space is found. -/
theorem skip_append_cons (hgap : Blank gap) (h : isSpace c = false) (cs : List Char) :
    skip (gap ++ c :: cs) = c :: cs := by
  rw [skip_append hgap]
  exact List.dropWhile_cons_of_neg (by simp [h])

theorem skip_cons (h : isSpace c = false) (cs : List Char) : skip (c :: cs) = c :: cs :=
  skip_append_cons blank_nil h cs

/-! ## 2. String literals -/

/-- The characters that are escaped by a letter. -/
def lettered : List Char := ['"', '\\', '\x08', '\x0c', '\n', '\r', '\t']

/-- **The letters of the writer are those of the reader.** -/
theorem escape_of_mem_lettered :
    ∀ c ∈ lettered, ∃ l, Writer.escape c = ['\\', l] ∧ escaped? l = some c := by
  simp [lettered, Writer.escape, escaped?]

theorem escape_of_not_mem_lettered (h : c ∉ lettered) :
    Writer.escape c = if c.toNat < 0x20 then
      ['\\', 'u', '0', '0', Writer.hexDigit (c.toNat / 16), Writer.hexDigit (c.toNat % 16)]
      else [c] := by
  simp only [lettered, List.mem_cons, List.not_mem_nil, or_false, not_or] at h
  simp [Writer.escape, h]

theorem readParts_letter {l : Char} (h : escaped? l = some c) (cs : List Char) :
    readParts ('\\' :: l :: cs) = consPart (.char c) (readParts cs) := by
  unfold escaped? at h
  split at h <;> cases h <;> simp [readParts, escaped?]

theorem readParts_char (hquote : c ≠ '"') (hslash : c ≠ '\\') (hlt : ¬ c.toNat < 0x20)
    (cs : List Char) : readParts (c :: cs) = consPart (.char c) (readParts cs) := by
  rw [readParts]
  · simp [hslash, hlt]
  · exact hquote
  · exact fun _ _ _ _ _ h => absurd h hslash
  · exact fun _ _ h => absurd h hslash

/-- The hexadecimal digits of the writer are those of the reader. -/
theorem unit?_hexDigit (h : n < 0x20) :
    unit? '0' '0' (Writer.hexDigit (n / 16)) (Writer.hexDigit (n % 16)) = some n := by
  revert n
  decide

/-- The unit of a control character is not half of a pair. -/
theorem textOf_unit (h : n < 0x20) (ps : List Part) :
    textOf (.unit n :: ps) = (textOf ps).map (Char.ofNat n :: ·) := by
  have hhigh : ¬ (0xD800 ≤ n ∧ n ≤ 0xDBFF) := by omega
  have hlow : ¬ (0xDC00 ≤ n ∧ n ≤ 0xDFFF) := by omega
  have hhalf : ¬ (0xD800 ≤ n ∧ n ≤ 0xDFFF) := by omega
  rcases ps with _ | ⟨_ | m, ps⟩
  · simp [textOf, hhalf]
  · simp [textOf, hhalf]
  · simp [textOf, hhigh, hlow]

/-- **Every character is written as one part, and the part spells it.** -/
theorem exists_part (c : Char) :
    ∃ p : Part, (∀ cs, readParts (Writer.escape c ++ cs) = consPart p (readParts cs)) ∧
      ∀ ps, textOf (p :: ps) = (textOf ps).map (c :: ·) := by
  by_cases hc : c ∈ lettered
  · obtain ⟨l, hescape, hl⟩ := escape_of_mem_lettered c hc
    exact ⟨.char c, fun cs => hescape ▸ readParts_letter hl cs, fun _ => rfl⟩
  rw [escape_of_not_mem_lettered hc]
  split
  · rename_i hlt
    refine ⟨.unit c.toNat, fun cs => by simp [readParts, unit?_hexDigit hlt], fun ps => ?_⟩
    rw [textOf_unit hlt, Char.ofNat_toNat]
  · rename_i hlt
    have hquote : c ≠ '"' := fun h => hc (h ▸ by decide)
    have hslash : c ≠ '\\' := fun h => hc (h ▸ by decide)
    exact ⟨.char c, readParts_char hquote hslash hlt, fun _ => rfl⟩

theorem exists_parts (s : List Char) :
    ∃ ps : List Part, textOf ps = some s ∧
      ∀ rest, readParts (s.flatMap Writer.escape ++ '"' :: rest) = some (ps, rest) := by
  induction s with
  | nil => exact ⟨[], rfl, fun _ => by simp [readParts]⟩
  | cons c s ih =>
    obtain ⟨p, hread, htext⟩ := exists_part c
    obtain ⟨ps, htexts, hreads⟩ := ih
    refine ⟨p :: ps, by rw [htext, htexts]; rfl, fun rest => ?_⟩
    rw [List.flatMap_cons, List.append_assoc, hread, hreads]
    rfl

/-- **A string literal is read back**, whatever characters its text has. -/
theorem readString_literal (s : String) (rest : List Char) :
    readString (s.toList.flatMap Writer.escape ++ '"' :: rest) = some (some s, rest) := by
  obtain ⟨ps, htext, hread⟩ := exists_parts s.toList
  simp [readString, hread, htext]

/-! ## 3. Numbers -/

/-- A text that does not go on with a number: it is empty, or starts with white space, a comma or a
closing bracket. -/
def endsNumber : List Char → Bool
  | [] => true
  | c :: _ => isSpace c || c == ',' || c == ']' || c == '}'

theorem endsNumber_append_cons (hgap : Blank gap) (hc : endsNumber [c] = true) (cs : List Char) :
    endsNumber (gap ++ c :: cs) = true := by
  cases gap with
  | nil => exact hc
  | cons d gap => simp [endsNumber, hgap d List.mem_cons_self]

theorem not_continued (h : endsNumber rest = true) :
    rest.takeWhile isDigit = [] ∧ rest.dropWhile isDigit = rest ∧
      readFraction rest = some ([], rest) ∧ readExponent rest = some ([], rest) := by
  cases rest with
  | nil => exact ⟨rfl, rfl, rfl, rfl⟩
  | cons c cs =>
    simp only [endsNumber, isSpace, Bool.or_eq_true, beq_iff_eq] at h
    rcases h with ((((((rfl | rfl) | rfl) | rfl) | rfl) | rfl) | rfl) <;>
      exact ⟨rfl, rfl, rfl, rfl⟩

theorem isDigit_eq (c : Char) : isDigit c = c.isDigit := by
  rw [Bool.eq_iff_iff]
  simp [isDigit, Char.isDigit, Char.le_def]

/-- A number is written with a digit in front, which is zero only for zero. -/
theorem toDigits_eq_cons (n : Nat) :
    ∃ c cs, Nat.toDigits 10 n = c :: cs ∧ isDigit c = true ∧ (c = '0' → n = 0) := by
  induction n using Nat.base_induction 10 (by decide) with
  | single m hm =>
    exact ⟨_, _, Nat.toDigits_of_lt_base hm, by simpa [isDigit_eq] using hm, by simp⟩
  | digit m k hk hm ih =>
    obtain ⟨c, cs, hcs, hdigit, hzero⟩ := ih
    refine ⟨c, cs ++ Nat.toDigits 10 k, ?_, hdigit, fun hc => absurd (hzero hc) (by omega)⟩
    rw [← Nat.toDigits_append_toDigits (by decide) hm hk, hcs]
    rfl

theorem decimal_toDigits (n : Nat) : decimal (Nat.toDigits 10 n) = n := by
  have h : Nat.ofDigitChars 10 (Nat.toDigits 10 n) 0 = n := Nat.ofDigitChars_ten_toDigits
  simp only [Nat.ofDigitChars_eq_foldl, Nat.mul_comm 10] at h
  exact h

theorem readInteger_toDigits (n : Nat) (h : endsNumber rest = true) :
    readInteger (Nat.toDigits 10 n ++ rest) = some (Nat.toDigits 10 n, rest) := by
  obtain ⟨c, cs, hcs, -, hzero⟩ := toDigits_eq_cons n
  by_cases hc : c = '0'
  · rw [hzero hc, Nat.toDigits_zero]
    rfl
  have hdigits : ∀ d ∈ Nat.toDigits 10 n, isDigit d = true := fun d hd =>
    (isDigit_eq d).trans (Nat.isDigit_of_mem_toDigits (by decide) (by decide) hd)
  have hread : readInteger (Nat.toDigits 10 n ++ rest)
      = readDigits (Nat.toDigits 10 n ++ rest) := by
    rw [hcs, List.cons_append, readInteger]
    simp [hc]
  obtain ⟨htake, hdrop, -, -⟩ := not_continued h
  rw [hread, readDigits, List.takeWhile_append_of_pos hdigits,
    List.dropWhile_append_of_pos hdigits, htake, hdrop, List.append_nil, hcs]

/-- **A natural number up to 64 bits is read back.** -/
theorem readNumber_toDigits (hn : n ≤ maxNatural) (h : endsNumber rest = true) :
    readNumber (Nat.toDigits 10 n ++ rest) = some (.natural n, rest) := by
  obtain ⟨-, -, hfraction, hexponent⟩ := not_continued h
  have hunsigned : readUnsigned (Nat.toDigits 10 n ++ rest)
      = some (Nat.toDigits 10 n, true, rest) := by
    simp [readUnsigned, readInteger_toDigits n h, hfraction, hexponent]
  obtain ⟨c, cs, hcs, hdigit, -⟩ := toDigits_eq_cons n
  have hsign : c ≠ '-' := by
    rintro rfl
    exact absurd hdigit (by decide)
  have hdecimal := decimal_toDigits n
  rw [hcs, List.cons_append] at hunsigned ⊢
  rw [hcs] at hdecimal
  rw [readNumber]
  · simp [hunsigned, hdecimal, hn]
  · exact fun _ h => hsign (List.cons.inj h).1

/-! ## 4. Spelling -/

/-- **A text spells a value**: the reader takes no more turns than the text has characters, and
stops behind it. -/
def Spells (cs : List Char) (v : Json) : Prop :=
  ∀ turns rest, cs.length ≤ turns → endsNumber rest = true →
    readValue turns (cs ++ rest) = some (v, rest)

/-- It is enough to look at the first turn. -/
theorem spells_cons
    (h : ∀ turns rest, cs.length ≤ turns → endsNumber rest = true →
      readValue (turns + 1) (c :: cs ++ rest) = some (v, rest)) : Spells (c :: cs) v := by
  intro turns rest hturns hrest
  cases turns with
  | zero => exact absurd hturns (by simp)
  | succ turns => exact h turns rest (by simpa using hturns) hrest

/-- White space in front of a value does not matter. -/
theorem Spells.indent (hgap : Blank gap) (h : Spells cs v) : Spells (gap ++ cs) v := by
  intro turns rest hturns hrest
  have hread : readValue turns (gap ++ (cs ++ rest)) = readValue turns (cs ++ rest) := by
    cases turns with
    | zero => rfl
    | succ turns => simp only [readValue, skip_append hgap]
  rw [List.append_assoc, hread]
  exact h turns rest (by rw [List.length_append] at hturns; omega) hrest

theorem spells_null : Spells (Writer.scalar .null) .null := spells_cons fun _ _ _ _ => rfl

theorem spells_bool (b : Bool) : Spells (Writer.scalar (.bool b)) (.bool b) := by
  cases b with
  | false => exact spells_cons fun _ _ _ _ => rfl
  | true => exact spells_cons fun _ _ _ _ => rfl

theorem spells_text (s : String) : Spells (Writer.literal s) (text s) := by
  refine spells_cons fun turns rest _ _ => ?_
  have hread := readString_literal s rest
  simp [readValue, skip_cons (c := '"') rfl, hread, text]

theorem spells_natural (hn : n ≤ maxNatural) : Spells (Nat.toDigits 10 n) (.natural n) := by
  obtain ⟨c, cs, hcs, hdigit, -⟩ := toDigits_eq_cons n
  have hread : ∀ rest, endsNumber rest = true →
      readNumber (Nat.toDigits 10 n ++ rest) = some (.natural n, rest) :=
    fun rest => readNumber_toDigits hn
  rw [hcs] at hread ⊢
  refine spells_cons fun turns rest _ hrest => ?_
  have hne : ∀ d, isDigit d = false → c ≠ d := by
    rintro d hd rfl
    exact absurd hdigit (by simp [hd])
  have hspace : isSpace c = false := by
    simp [isSpace, hne ' ' rfl, hne '\n' rfl, hne '\t' rfl, hne '\r' rfl]
  rw [← hread rest hrest, readValue, List.cons_append, skip_cons hspace]
  simp [hne '"' rfl, hne '[' rfl, hne '{' rfl, hne 't' rfl, hne 'f' rfl, hne 'n' rfl]

/-! ## 5. Lists and objects -/

/-- **One turn of reading a sequence**, at an element written so: it is the last one when the
closing bracket follows, and the first of more when a comma does. -/
structure ReadsElement {α : Type} (read : Nat → List Char → Option (List α × List Char))
    (close : Char) (x : α) (cs : List Char) : Prop where
  last : ∀ {turns more rest}, cs.length ≤ turns → endsNumber more = true →
    skip more = close :: rest → read (turns + 1) (cs ++ more) = some ([x], rest)
  next : ∀ {turns more xs rest}, cs.length ≤ turns → read turns more = some (xs, rest) →
    read (turns + 1) (cs ++ ',' :: more) = some (x :: xs, rest)

/-- **Elements with commas between them are read back** up to the closing bracket. -/
theorem read_join {α : Type} {read : Nat → List Char → Option (List α × List Char)}
    {close : Char} {write : α → List Char} {xs : List α} (hne : xs ≠ [])
    (h : ∀ x ∈ xs, ReadsElement read close x (write x)) (hclose : endsNumber [close] = true)
    (hspace : isSpace close = false) (hgap : Blank gap)
    (hturns : ([','].intercalate (xs.map write)).length < turns) :
    read turns ([','].intercalate (xs.map write) ++ (gap ++ close :: rest)) = some (xs, rest) := by
  induction xs generalizing turns with
  | nil => exact absurd rfl hne
  | cons x xs ih =>
    obtain ⟨turns, rfl⟩ : ∃ t, turns = t + 1 := ⟨turns - 1, by omega⟩
    have hx := h x List.mem_cons_self
    cases xs with
    | nil =>
      simp only [List.map_cons, List.map_nil, List.intercalate_singleton] at hturns ⊢
      exact hx.last (by omega) (endsNumber_append_cons hgap hclose rest)
        (skip_append_cons hgap hspace rest)
    | cons y ys =>
      have hrest := @ih turns (by simp) fun z hz => h z (List.mem_cons_of_mem _ hz)
      simp only [List.map_cons, List.intercalate_cons_cons, List.append_assoc, List.cons_append,
        List.nil_append, List.length_append, List.length_cons] at hturns hrest ⊢
      exact hx.next (by omega) (hrest (by omega))

/-- **A sequence between brackets is spelled by its elements**, if the reader tells an empty one
from the others. -/
theorem spells_sequence {α : Type} {read : Nat → List Char → Option (List α × List Char)}
    {make : List α → Json} {opening closing : Char} {write : α → List Char} {xs : List α}
    (hempty : ∀ {turns cs rest}, skip cs = closing :: rest →
      readValue (turns + 1) (opening :: cs) = some (make [], rest))
    (hmore : ∀ {turns cs xs rest}, read turns cs = some (xs, rest) →
      readValue (turns + 1) (opening :: cs) = some (make xs, rest))
    (h : ∀ x ∈ xs, ReadsElement read closing x (write x)) (hclose : endsNumber [closing] = true)
    (hspace : isSpace closing = false) (hgap : Blank gap) :
    Spells (opening :: ([','].intercalate (xs.map write) ++ (gap ++ [closing]))) (make xs) := by
  refine spells_cons fun turns rest hturns _ => ?_
  simp only [List.cons_append, List.append_assoc, List.nil_append, List.length_append,
    List.length_cons] at hturns ⊢
  by_cases hne : xs = []
  · subst hne
    exact hempty (skip_append_cons hgap hspace rest)
  · exact hmore (read_join hne h hclose hspace hgap (by omega))

variable {items : List Json} {members : List (Option String × Json)} {f : Json → List Char}
  {indent : List Char}

theorem readsElement_item (hv : Spells cs v) : ReadsElement readItems ']' v cs where
  last hturns hmore hskip := by simp [readItems, hv _ _ hturns hmore, hskip]
  next {_ more _ _} hturns hread := by
    simp [readItems, hv _ (',' :: more) hturns rfl, skip_cons (c := ',') rfl, hread]

/-- No value starts with a closing bracket. -/
theorem skip_ne_of_readItems (h : readItems turns cs = some (items, rest)) :
    skip cs ≠ ']' :: ds := by
  intro hskip
  rcases turns with _ | _ | turns
  · exact absurd h (by simp [readItems])
  · exact absurd h (by simp [readItems, readValue])
  · have hnumber : readNumber (']' :: ds) = none := rfl
    exact absurd h (by simp [readItems, readValue, hskip, hnumber])

theorem readValue_array (h : readItems turns cs = some (items, rest)) :
    readValue (turns + 1) ('[' :: cs) = some (.array items, rest) := by
  rw [readValue, skip_cons rfl]
  simp only
  split
  · rename_i hskip
    exact absurd hskip (skip_ne_of_readItems h)
  · rw [h]
    rfl

/-- **A list is spelled by the spellings of its items.** -/
theorem spells_array (h : ∀ v ∈ items, Spells (f v) v) (hgap : Blank gap) :
    Spells ('[' :: ([','].intercalate (items.map f) ++ (gap ++ [']']))) (.array items) :=
  spells_sequence (fun hskip => by simp [readValue, skip_cons (c := '[') rfl, hskip])
    readValue_array (fun v hv => readsElement_item (h v hv)) rfl rfl hgap

/-- A member as it is written: its key, a colon and its value, behind an indent. -/
def memberChars (indent : List Char) (f : Json → List Char) (m : Option String × Json) :
    List Char :=
  indent ++ (Writer.literal (m.1.getD "") ++ ':' :: f m.2)

/-- A member with a key and a spelled value is read as one. -/
theorem readsElement_member (key : String) (hindent : Blank indent) (hv : Spells (f v) v) :
    ReadsElement readMembers '}' (some key, v) (memberChars indent f (some key, v)) := by
  have hlength : (f v).length ≤ (memberChars indent f (some key, v)).length := by
    simp only [memberChars, List.length_append, List.length_cons]
    omega
  have hstart : ∀ more, skip (memberChars indent f (some key, v) ++ more)
      = '"' :: (key.toList.flatMap Writer.escape ++ '"' :: ':' :: (f v ++ more)) := fun more => by
    simp only [memberChars, Writer.literal, List.append_assoc, List.cons_append, List.nil_append,
      Option.getD_some, skip_append_cons (c := '"') hindent rfl]
  constructor
  · intro turns more rest hturns hmore hskip
    simp [readMembers, hstart, readString_literal, skip_cons (c := ':') rfl,
      hv turns more (by omega) hmore, hskip]
  · intro turns more ms rest hturns hread
    simp [readMembers, hstart, readString_literal, skip_cons (c := ':') rfl,
      hv turns (',' :: more) (by omega) rfl, skip_cons (c := ',') rfl, hread]

/-- No member starts with a closing brace. -/
theorem skip_ne_of_readMembers (h : readMembers turns cs = some (members, rest)) :
    skip cs ≠ '}' :: ds := by
  intro hskip
  cases turns with
  | zero => exact absurd h (by simp [readMembers])
  | succ turns => exact absurd h (by simp [readMembers, hskip])

theorem readValue_object (h : readMembers turns cs = some (members, rest)) :
    readValue (turns + 1) ('{' :: cs) = some (.object members, rest) := by
  rw [readValue, skip_cons rfl]
  simp only
  split
  · rename_i hskip
    exact absurd hskip (skip_ne_of_readMembers h)
  · rw [h]
    rfl

/-- **An object is spelled by its keys and the spellings of its values.** -/
theorem spells_object (hkeys : ∀ m ∈ members, m.1.isSome = true)
    (h : ∀ m ∈ members, Spells (f m.2) m.2) (hindent : Blank indent) (hgap : Blank gap) :
    Spells ('{' :: ([','].intercalate (members.map (memberChars indent f)) ++ (gap ++ ['}'])))
      (.object members) := by
  have hmember : ∀ m ∈ members, ReadsElement readMembers '}' m (memberChars indent f m) := by
    rintro ⟨key, v⟩ hm
    obtain ⟨key, rfl⟩ := Option.isSome_iff_exists.mp (hkeys _ hm)
    exact readsElement_member key hindent (h _ hm)
  exact spells_sequence (fun hskip => by simp [readValue, skip_cons (c := '{') rfl, hskip])
    readValue_object hmember rfl rfl hgap

end Reader

/-! ## 6. What is written is read back -/

/-- **The values that can be written and read back**: they are made of texts and of natural numbers
up to 64 bits. -/
inductive Plain : Json → Prop
  | null : Plain .null
  | bool (b : Bool) : Plain (.bool b)
  | natural {n : Nat} (h : n ≤ Reader.maxNatural) : Plain (.natural n)
  | text (s : String) : Plain (text s)
  | array {items : List Json} (h : ∀ v ∈ items, Plain v) : Plain (.array items)
  | object {members : List (Option String × Json)} (hkeys : ∀ m ∈ members, m.1.isSome = true)
      (h : ∀ m ∈ members, Plain m.2) : Plain (.object members)

open Reader Writer

variable {v : Json}

/-- What is written element by element, with commas between, is joined by commas. -/
theorem eq_intercalate {α : Type} {writeAll : List α → List Char} {write : α → List Char}
    (hnil : writeAll [] = []) (hone : ∀ x, writeAll [x] = write x)
    (hcons : ∀ x y zs, writeAll (x :: y :: zs) = write x ++ ',' :: writeAll (y :: zs))
    (xs : List α) : writeAll xs = [','].intercalate (xs.map write) := by
  induction xs with
  | nil => exact hnil
  | cons x xs ih =>
    cases xs with
    | nil => simp [hone]
    | cons y ys => simp [hcons, ih]

theorem compactItems_eq (items : List Json) :
    compactItems items = [','].intercalate (items.map compactChars) :=
  eq_intercalate (by rw [compactItems]) (fun _ => by rw [compactItems])
    (fun _ _ _ => by rw [compactItems]; simp) items

theorem compactMembers_eq (members : List (Option String × Json)) :
    compactMembers members = [','].intercalate (members.map (memberChars [] compactChars)) := by
  have hmember : ∀ m, compactMember m = memberChars [] compactChars m := fun ⟨key, v⟩ => by
    rw [compactMember]
    rfl
  exact eq_intercalate (by rw [compactMembers]) (fun m => by rw [compactMembers, hmember])
    (fun m _ _ => by rw [compactMembers, hmember]; simp) members

theorem prettyItems_eq (level : Nat) (items : List Json) :
    prettyItems level items
      = [','].intercalate (items.map fun v => newline level ++ prettyChars level v) :=
  eq_intercalate (by rw [prettyItems]) (fun _ => by rw [prettyItems])
    (fun _ _ _ => by rw [prettyItems]; simp) items

theorem prettyMembers_eq (level : Nat) (members : List (Option String × Json)) :
    prettyMembers level members
      = [','].intercalate
          (members.map (memberChars (newline level) fun v => ' ' :: prettyChars level v)) := by
  have hmember : ∀ m, newline level ++ prettyMember level m
      = memberChars (newline level) (fun v => ' ' :: prettyChars level v) m := fun ⟨key, v⟩ => by
    rw [prettyMember]
    rfl
  exact eq_intercalate (by rw [prettyMembers]) (fun m => by rw [prettyMembers, hmember])
    (fun m _ _ => by rw [prettyMembers, hmember]; simp) members

/-- **The compact layout spells every plain value.** -/
theorem Plain.spells_compact (h : Plain v) : Spells (compactChars v) v := by
  induction h with
  | null => exact spells_null
  | bool b => exact spells_bool b
  | natural h => exact spells_natural h
  | text s => exact spells_text s
  | array _ ih =>
    have hspells := spells_array ih blank_nil
    simpa [compactChars, compactItems_eq] using hspells
  | object hkeys _ ih =>
    have hspells := spells_object hkeys ih blank_nil blank_nil
    simpa [compactChars, compactMembers_eq] using hspells

theorem blank_newline (level : Nat) : Blank (newline level) := by
  intro c hc
  rcases List.mem_cons.mp hc with rfl | hc
  · rfl
  · rw [(List.mem_replicate.mp hc).2]
    rfl

theorem blank_space : Blank [' '] := fun c hc => by
  rw [List.mem_singleton.mp hc]
  rfl

/-- **The indented layout spells every plain value**, at every level. -/
theorem Plain.spells_pretty (h : Plain v) (level : Nat) : Spells (prettyChars level v) v := by
  induction h generalizing level with
  | null => exact spells_null
  | bool b => exact spells_bool b
  | natural h => exact spells_natural h
  | text s => exact spells_text s
  | @array items _ ih =>
    cases items with
    | nil => exact spells_array (fun u hu => ih u hu level) blank_nil
    | cons v vs =>
      have hspells := spells_array
        (fun u hu => (ih u hu (level + 1)).indent (blank_newline (level + 1)))
        (blank_newline level)
      simpa [prettyChars, prettyItems_eq] using hspells
  | @object members hkeys _ ih =>
    cases members with
    | nil => exact spells_object hkeys (fun u hu => ih u hu level) blank_nil blank_nil
    | cons m ms =>
      have hspells := spells_object (f := fun v => ' ' :: prettyChars (level + 1) v) hkeys
        (fun u hu => (ih u hu (level + 1)).indent blank_space) (blank_newline (level + 1))
        (blank_newline level)
      simpa [prettyChars, prettyMembers_eq] using hspells

theorem read_of_spells {cs : List Char} (h : Spells cs v) : read cs = some v := by
  have hread : readValue (2 * cs.length + 2) cs = some (v, []) := by
    simpa using h (2 * cs.length + 2) [] (by omega) rfl
  simp [Json.read, hread, skip]

/-- **Reading undoes writing**, in both layouts. -/
theorem Plain.read_compact (h : Plain v) : read v.compact.toList = some v := by
  simpa [compact] using read_of_spells h.spells_compact

theorem Plain.read_pretty (h : Plain v) : read v.pretty.toList = some v := by
  simpa [pretty] using read_of_spells (h.spells_pretty 0)

end CppSurface.Json
