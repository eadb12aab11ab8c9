import CppSurface.Proofs.Text.Trim
import CppSurface.Proofs.Text.Words
import CppSurface.TypeText
import Mathlib.Data.List.Infix

/-!
# The words of a simple spelling

The simple spelling of a type is what is left after three deletions: the word `const` goes, then
every pointer or reference mark, then the white space at the ends.  Its words should be those of the
type, apart from `const`, since it is by its words that the type is looked up.

What could go wrong is that a deletion brings two words together.  The first one cannot do this
alone: next to a word there is no other word.  But it may leave a mark behind that is now all that
stands between two words, and the second deletion would join them.  So the reason to give is about
the type as written, where the marks are still next to the deleted word (`MarksApart`): marks that
follow a word directly are not directly followed by another one.  Then something else stands between
any two words that stay, be it in front of a deleted `const` or behind it, and it is kept
(`stops_strip`).

The compiler writes a blank in front of the marks, or none behind them, so its types are of this
sort.  In `con*st` the mark holds a keyword apart, and taking it out makes one.
-/

namespace CppSurface.TypeText

open CppSurface.Text

variable {cs rest marks w : List Char} {c : Char}

/-! ## 1. Marks between words -/

/-- **No run of marks has words directly on both sides.**  After a word character come all the marks
that follow it directly, and after these no word goes on. -/
def MarksApart (cs : List Char) : Prop :=
  ∀ a rest, a :: rest <:+ cs → isWord a = true → rest.takeWhile isIndirection ≠ [] →
    Stops (rest.dropWhile isIndirection)

instance : ∀ rest : List Char, Decidable (Stops rest)
  | [] => .isTrue (by simp [Stops])
  | c :: _ => decidable_of_iff (isWord c = false) (by simp [Stops])

/-- What `MarksApart` says about the beginning of a text. -/
def marksApartAt : List Char → Bool
  | [] => true
  | a :: rest => !isWord a || (rest.takeWhile isIndirection).isEmpty ||
      decide (Stops (rest.dropWhile isIndirection))

instance (cs : List Char) : Decidable (MarksApart cs) :=
  decidable_of_iff (cs.tails.all marksApartAt = true) <| by
    simp only [List.all_eq_true, List.mem_tails]
    constructor
    · intro h a rest hs hword hmarks
      simpa [marksApartAt, hword, hmarks] using h (a :: rest) hs
    · rintro h (_ | ⟨a, rest⟩) hs
      · rfl
      · by_cases hword : isWord a = true
        · by_cases hmarks : rest.takeWhile isIndirection = []
          · simp [marksApartAt, hmarks]
          · simp [marksApartAt, h a rest hs hword hmarks]
        · simp [marksApartAt, hword]

theorem MarksApart.of_suffix (h : MarksApart cs) (hrest : rest <:+ cs) : MarksApart rest :=
  fun a s hs => h a s (hs.trans hrest)

/-- Marks belong to no word. -/
theorem isWord_of_isIndirection (h : isIndirection c = true) : isWord c = false := by
  rcases (by simpa [isIndirection] using h : c = '*' ∨ c = '&') with rfl | rfl <;> decide

theorem isIndirection_of_isWord (h : isWord c = true) : isIndirection c = false :=
  Bool.eq_false_iff.mpr fun hmark => absurd h (by simp [isWord_of_isIndirection hmark])

/-! ## 2. The deletions, word by word -/

theorem dropConst_cons (h : isWord c = false) : dropConst (c :: rest) = c :: dropConst rest := by
  rw [dropConst, pieces_cons_of_not_word h, List.filter_cons_of_pos (by simp), unpieces_cons]
  rfl

theorem dropConst_append (h : MaximalWord w rest) :
    dropConst (w ++ rest) = (if w = constWord then [] else w) ++ dropConst rest := by
  rw [dropConst, h.pieces_append]
  split
  · rename_i hw
    rw [List.filter_cons_of_neg (by simp [hw]), List.nil_append]
    rfl
  · rename_i hw
    rw [List.filter_cons_of_pos (by simp [hw]), unpieces_cons]
    rfl

/-- A text in which the word `const` does not come up is left as it is. -/
theorem dropConst_eq_self (h : constWord ∉ words cs) : dropConst cs = cs := by
  rw [dropConst, List.filter_eq_self.mpr, unpieces_pieces]
  intro p hp
  refine decide_eq_true fun hconst => h ?_
  exact List.mem_filterMap.mpr ⟨p, hp, by rw [hconst]; rfl⟩

/-- The text without `const`, pointers and references, before it is trimmed. -/
def strip (cs : List Char) : List Char := (dropConst cs).filter fun c => !isIndirection c

theorem simplifyChars_eq (cs : List Char) : simplifyChars cs = trim (strip cs) := rfl

@[simp] theorem strip_nil : strip [] = [] := rfl

theorem strip_mark (h : isIndirection c = true) : strip (c :: rest) = strip rest := by
  rw [strip, dropConst_cons (isWord_of_isIndirection h), List.filter_cons_of_neg (by simp [h])]
  rfl

theorem strip_cons (hword : isWord c = false) (hmark : isIndirection c = false) :
    strip (c :: rest) = c :: strip rest := by
  rw [strip, dropConst_cons hword, List.filter_cons_of_pos (by simp [hmark])]
  rfl

theorem strip_marks (h : ∀ c ∈ marks, isIndirection c = true) (rest : List Char) :
    strip (marks ++ rest) = strip rest := by
  induction marks with
  | nil => rfl
  | cons c marks ih =>
    obtain ⟨hc, hmarks⟩ := List.forall_mem_cons.mp h
    rw [List.cons_append, strip_mark hc, ih hmarks]

theorem strip_word (h : MaximalWord w rest) :
    strip (w ++ rest) = (if w = constWord then [] else w) ++ strip rest := by
  have hw : w.filter (fun c => !isIndirection c) = w :=
    List.filter_eq_self.mpr fun c hc => by simp [isIndirection_of_isWord (h.chars c hc)]
  rw [strip, dropConst_append h, List.filter_append, ← strip]
  split
  · rfl
  · rw [hw]

/-! ## 3. The words that stay -/

/-- **Behind a word that stays, no word comes up in what is left.**  Behind its marks, if it has
any, stands something that no deletion takes away. -/
theorem stops_strip (hw : MaximalWord w rest) (hapart : MarksApart (w ++ rest)) :
    Stops (strip rest) := by
  have hstops : Stops (rest.dropWhile isIndirection) := by
    by_cases hmarks : rest.takeWhile isIndirection = []
    · have hself : rest.dropWhile isIndirection = rest := by
        simpa [hmarks] using @List.takeWhile_append_dropWhile _ isIndirection rest
      rw [hself]
      exact hw.stops
    · obtain ⟨front, a, rfl⟩ := (List.eq_nil_or_concat w).resolve_left hw.nonempty
      refine hapart a rest ⟨front, by simp⟩ (hw.chars a (by simp)) hmarks
  rw [← @List.takeWhile_append_dropWhile _ isIndirection rest,
    strip_marks fun c hc => List.mem_takeWhile_imp hc]
  cases hrest : rest.dropWhile isIndirection with
  | nil => exact stops_nil
  | cons c kept =>
    have hmark := List.head?_dropWhile_not isIndirection rest
    rw [hrest] at hmark hstops
    rw [strip_cons (stops_cons.mp hstops) (by simpa using hmark)]
    exact hstops

/-- **The words that stay are all words but `const`**, in their order. -/
theorem words_strip (h : MarksApart cs) :
    words (strip cs) = (words cs).filter (· ≠ constWord) := by
  induction cs using wordInduction with
  | nil => rfl
  | other c rest hc ih =>
    have hrest := ih (h.of_suffix (List.suffix_cons c rest))
    rw [words_cons_of_not_word hc, ← hrest]
    cases hmark : isIndirection c with
    | true => rw [strip_mark hmark]
    | false => rw [strip_cons hc hmark, words_cons_of_not_word hc]
  | word w rest hw ih =>
    have hrest := ih rest List.suffix_rfl (h.of_suffix (List.suffix_append w rest))
    rw [strip_word hw, hw.words_append]
    by_cases hconst : w = constWord
    · rw [if_pos hconst, List.nil_append, List.filter_cons_of_neg (by simp [hconst]), hrest]
    · rw [if_neg hconst, (hw.congr_rest (stops_strip hw h)).words_append, hrest,
        List.filter_cons_of_pos (by simp [hconst])]

/-! ## 4. White space at the ends -/

theorem words_blank_append {blanks : List Char} (h : ∀ c ∈ blanks, isBlank c = true)
    (cs : List Char) : words (blanks ++ cs) = words cs := by
  induction blanks with
  | nil => rfl
  | cons c blanks ih =>
    obtain ⟨hc, hblanks⟩ := List.forall_mem_cons.mp h
    have hword : isWord c = false :=
      Bool.eq_false_iff.mpr fun hword => absurd hc (by simp [isBlank_of_isWord hword])
    rw [List.cons_append, words_cons_of_not_word hword, ih hblanks]

theorem stops_of_blank {blanks : List Char} (h : ∀ c ∈ blanks, isBlank c = true) :
    Stops blanks := fun c hc => Bool.eq_false_iff.mpr fun hword =>
  absurd (h c (List.mem_of_mem_head? hc)) (by simp [isBlank_of_isWord hword])

/-- **Trimming keeps the words.** -/
theorem words_trim (cs : List Char) : words (trim cs) = words cs := by
  have hstart : words (trimStart cs) = words cs := by
    conv => rhs; rw [← @List.takeWhile_append_dropWhile _ isBlank cs]
    rw [words_blank_append fun c hc => List.mem_takeWhile_imp hc]
    rfl
  rw [trim, ← hstart]
  generalize trimStart cs = ds
  have hends : trimEnd ds ++ (ds.reverse.takeWhile isBlank).reverse = ds := by
    rw [trimEnd, ← List.reverse_append, List.takeWhile_append_dropWhile, List.reverse_reverse]
  have hblanks : ∀ c ∈ (ds.reverse.takeWhile isBlank).reverse, isBlank c = true := fun c hc =>
    List.mem_takeWhile_imp (List.mem_reverse.mp hc)
  have hnone : words (ds.reverse.takeWhile isBlank).reverse = [] := by
    simpa using words_blank_append hblanks []
  conv => rhs; rw [← hends]
  rw [words_append _ (stops_of_blank hblanks), hnone, List.append_nil]

/-! ## 5. The simple spelling -/

/-- No mark is left, whatever the text. -/
theorem isIndirection_of_mem_simplifyChars (h : c ∈ simplifyChars cs) : isIndirection c = false := by
  have hstart : c ∈ trimStart (strip cs) := (trimEnd_isPrefix _).subset h
  have hstrip : c ∈ strip cs := (List.dropWhile_suffix isBlank).subset hstart
  simpa using (List.mem_filter.mp hstrip).2

theorem words_simplifyChars (h : MarksApart cs) :
    words (simplifyChars cs) = (words cs).filter (· ≠ constWord) := by
  rw [simplifyChars_eq, words_trim, words_strip h]

/-- What needs no simplification is left as it is. -/
theorem simplifyChars_eq_self (hconst : constWord ∉ words cs)
    (hmarks : ∀ c ∈ cs, isIndirection c = false) (htrim : trim cs = cs) :
    simplifyChars cs = cs := by
  rw [simplifyChars, dropConst_eq_self hconst,
    List.filter_eq_self.mpr fun c hc => by simp [hmarks c hc], htrim]

/-- **The simple spelling keeps exactly the words of the type.**  If no run of marks has words
directly on both sides, the words of the simple spelling are those of the type without `const`, in
their order; it holds no mark and does not begin or end with white space, and it is its own simple
spelling. -/
theorem simplify_keeps_words (raw : String) (h : MarksApart raw.toList) :
    words (simplify raw).toList = (words raw.toList).filter (· ≠ constWord) ∧
      (∀ c ∈ (simplify raw).toList, c ≠ '*' ∧ c ≠ '&') ∧
      (∀ c ∈ (simplify raw).toList.head?, isBlank c = false) ∧
      (∀ c ∈ (simplify raw).toList.getLast?, isBlank c = false) ∧
      simplify (simplify raw) = simplify raw := by
  have hlist : (simplify raw).toList = simplifyChars raw.toList := String.toList_ofList
  have hwords := words_simplifyChars h
  have hmarks : ∀ c ∈ simplifyChars raw.toList, isIndirection c = false := fun _ =>
    isIndirection_of_mem_simplifyChars
  have hconst : constWord ∉ words (simplifyChars raw.toList) := by
    rw [hwords]
    exact fun hmem => absurd rfl (of_decide_eq_true (List.mem_filter.mp hmem).2)
  refine ⟨by rw [hlist, hwords], fun c hc => ?_, ?_, ?_, ?_⟩
  · simpa [isIndirection] using hmarks c (hlist ▸ hc)
  · rw [hlist]
    exact starts_trim _
  · rw [hlist]
    exact ends_trim _
  · rw [simplify, hlist, simplifyChars_eq_self hconst hmarks (trim_trim _)]
    rfl

/-- **The theorem at a type of many marks**: `const` goes three times, between a blank and a mark,
between a mark and a blank, and between two blanks. -/
theorem simplify_keeps_words_nested :
    MarksApart "map<const char *const *, const Point &>".toList ∧
      words (simplify "map<const char *const *, const Point &>").toList =
        ["map".toList, "char".toList, "Point".toList] := by
  have hapart : MarksApart "map<const char *const *, const Point &>".toList := by decide +kernel
  obtain ⟨hwords, -⟩ := simplify_keeps_words _ hapart
  exact ⟨hapart, hwords.trans (by decide +kernel)⟩

-- The condition is needed: the mark between two words holds a keyword apart.
example : simplify "con*st int" = "const int" := by decide +kernel

end CppSurface.TypeText
