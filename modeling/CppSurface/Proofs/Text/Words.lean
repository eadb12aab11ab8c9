import CppSurface.Text.Runs

/-!
# Words

The words of a text are its maximal runs of word characters.  `pieces` finds them from the right,
one character after the other, while a proof about words wants to take them whole, from the left.
Here is the passage between the two: a text is empty, or begins with a character outside words, or
begins with a word that ends where it should (`MaximalWord`), and this is an induction principle
(`wordInduction`).  On each of the three the cut has an equation.

Two texts that are put together keep their words if no word goes on from the first into the second
(`words_append`).
-/

namespace CppSurface.Text

variable {w rest cs ds : List Char} {c : Char}

/-! ## 1. Where a word ends -/

/-- No word goes on in `rest`: it is empty, or begins with a character outside words. -/
def Stops (rest : List Char) : Prop := ∀ c ∈ rest.head?, isWord c = false

@[simp] theorem stops_nil : Stops [] := by simp [Stops]

@[simp] theorem stops_cons : Stops (c :: rest) ↔ isWord c = false := by simp [Stops]

theorem Stops.append (hrest : Stops rest) (hcs : Stops cs) : Stops (rest ++ cs) := by
  cases rest with
  | nil => exact hcs
  | cons c rest => exact stops_cons.mpr (stops_cons.mp hrest)

/-- **A whole word at the beginning of a text**: `w` consists of word characters, and `rest`, which
follows it, begins with none. -/
structure MaximalWord (w rest : List Char) : Prop where
  nonempty : w ≠ []
  chars : ∀ c ∈ w, isWord c = true
  stops : Stops rest

namespace MaximalWord

theorem congr_rest (h : MaximalWord w rest) (hcs : Stops cs) : MaximalWord w cs :=
  ⟨h.nonempty, h.chars, hcs⟩

/-- A text that begins with a word does not stop one. -/
theorem not_stops (h : MaximalWord w rest) : ¬ Stops (w ++ cs) := by
  obtain ⟨c, w, rfl⟩ := List.exists_cons_of_ne_nil h.nonempty
  intro hstops
  have hc := h.chars c List.mem_cons_self
  rw [List.cons_append, stops_cons, hc] at hstops
  exact absurd hstops (by decide)

end MaximalWord

/-! ## 2. Induction over words -/

/-- A text that begins with a word character begins with a word. -/
theorem exists_maximalWord (h : isWord c = true) (cs : List Char) :
    ∃ w rest, c :: cs = w ++ rest ∧ MaximalWord w rest := by
  refine ⟨(c :: cs).takeWhile isWord, (c :: cs).dropWhile isWord,
    List.takeWhile_append_dropWhile.symm, ?_, ?_, ?_⟩
  · rw [List.takeWhile_cons_of_pos h]
    exact List.cons_ne_nil _ _
  · exact List.all_eq_true.mp List.all_takeWhile
  · intro d hd
    have := List.head?_dropWhile_not isWord (c :: cs)
    rw [Option.mem_def.mp hd] at this
    simpa using this

/-- **Induction over the words of a text.**  For a word the hypothesis is about every end of what
follows it, since an edit may swallow some of that. -/
@[elab_as_elim]
theorem wordInduction {motive : List Char → Prop} (text : List Char) (nil : motive [])
    (other : ∀ c rest, isWord c = false → motive rest → motive (c :: rest))
    (word : ∀ w rest, MaximalWord w rest → (∀ s, s <:+ rest → motive s) → motive (w ++ rest)) :
    motive text := by
  induction hn : text.length using Nat.strongRecOn generalizing text with
  | _ n ih =>
    cases text with
    | nil => exact nil
    | cons c cs =>
      cases hc : isWord c with
      | false => exact other c cs hc (ih cs.length (by simp [← hn]) cs rfl)
      | true =>
        obtain ⟨w, rest, heq, hw⟩ := exists_maximalWord hc cs
        rw [heq]
        refine word w rest hw fun s hs => ih s.length ?_ s rfl
        have hpos := List.length_pos_iff.mpr hw.nonempty
        have hlength := congrArg List.length heq
        have hle := hs.length_le
        rw [List.length_append] at hlength
        omega

/-! ## 3. The cut of a text into words -/

theorem pieces_cons_of_not_word (h : isWord c = false) :
    pieces isWord (c :: rest) = .gap c :: pieces isWord rest := by
  simp [pieces, h]

/-- What stops a word is not joined to it. -/
theorem consRun_pieces_of_stops (h : Stops rest) (c : Char) :
    consRun c (pieces isWord rest) = .run [c] :: pieces isWord rest := by
  cases rest with
  | nil => rfl
  | cons d rest => rw [pieces_cons_of_not_word (stops_cons.mp h), consRun]; simp

/-- **The cut takes a whole word as one piece.** -/
theorem MaximalWord.pieces_append (h : MaximalWord w rest) :
    pieces isWord (w ++ rest) = .run w :: pieces isWord rest := by
  obtain ⟨hne, hchars, hstops⟩ := h
  induction w with
  | nil => exact absurd rfl hne
  | cons c w ih =>
    obtain ⟨hc, hw⟩ := List.forall_mem_cons.mp hchars
    rw [List.cons_append, pieces, if_pos hc]
    cases w with
    | nil => exact consRun_pieces_of_stops hstops c
    | cons d w => rw [ih (List.cons_ne_nil d w) hw, consRun]

/-! ## 4. The words of a text -/

@[simp] theorem words_nil : words [] = [] := rfl

theorem words_cons_of_not_word (h : isWord c = false) : words (c :: rest) = words rest := by
  unfold words runs
  rw [pieces_cons_of_not_word h]
  rfl

theorem MaximalWord.words_append (h : MaximalWord w rest) :
    words (w ++ rest) = w :: words rest := by
  unfold words runs
  rw [h.pieces_append]
  rfl

/-- **No word is joined or cut where the second text stops.** -/
theorem words_append (cs : List Char) (h : Stops ds) : words (cs ++ ds) = words cs ++ words ds := by
  induction cs using wordInduction with
  | nil => rfl
  | other c rest hc ih =>
    rw [List.cons_append, words_cons_of_not_word hc, words_cons_of_not_word hc, ih]
  | word w rest hw ih =>
    rw [List.append_assoc, (hw.congr_rest (hw.stops.append h)).words_append, hw.words_append,
      ih rest (List.suffix_refl rest), List.cons_append]

/-! ## 5. White space -/

/-- **White space belongs to no word.**  There are few such characters, and each is looked up in the
table of word characters. -/
theorem isBlank_of_isWord (h : isWord c = true) : isBlank c = false := by
  have hnone : ∀ r ∈ blankRanges, ∀ n ∈ List.range' r.1 (r.2 - r.1 + 1),
      isWord (Char.ofNat n) = false := by
    decide +kernel
  refine Bool.eq_false_iff.mpr fun hblank => ?_
  obtain ⟨r, hr, hlow, hhigh⟩ := exists_range_of_inRanges hblank
  have hmem : c.toNat ∈ List.range' r.1 (r.2 - r.1 + 1) := List.mem_range'_1.mpr (by omega)
  have hc := hnone r hr c.toNat hmem
  rw [Char.ofNat_toNat, h] at hc
  exact absurd hc (by decide)

end CppSurface.Text
