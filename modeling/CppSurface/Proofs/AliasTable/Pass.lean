import CppSurface.AliasTable
import CppSurface.Proofs.Text.Words

/-!
# One pass of substitution

A pass goes through a text character by character.  At each place it asks which of the names stands
there between two word boundaries, and it keeps count of the characters that belong to a name it has
replaced.  If all names are words, none of this can be seen from outside: a pass takes the maximal
words of the text, puts the target in place of each word that is a name, and leaves everything else
as it is (`pass_eq`).  Likewise a name stands somewhere in a text just when one of its words is a
name (`anyMatch_eq`).

The reason is that a place is then of one of three sorts.  Where no word begins, no name stands
(`match?_of_stops`).  Inside a word there is no boundary (`match?_inside`).  And where a word
begins, a name that stands there ends where the word ends, so it is that word (`standsAt_iff`); the
order of preference among the names plays no part.
-/

namespace CppSurface

open CppSurface.Text

namespace AliasTable

variable {t : AliasTable} {w rest name : List Char} {before : Option Char} {b c : Char}

/-! ## 1. Names that are words -/

/-- **Every name is a word**: not empty, and made of word characters. -/
def WordNames (t : AliasTable) : Prop :=
  ∀ e ∈ t.entries, e.1.toList ≠ [] ∧ ∀ c ∈ e.1.toList, isWord c = true

instance : DecidablePred WordNames := fun t =>
  decidable_of_iff (t.entries.all fun e => !e.1.toList.isEmpty && e.1.toList.all isWord)
    (by simp [WordNames])

/-- What a word stands for, if it is a name. -/
def target? (t : AliasTable) (w : List Char) : Option (List Char) :=
  (t.get? (String.ofList w)).map String.toList

/-- What a pass puts in place of a piece of the text. -/
def replacement (t : AliasTable) : Piece → List Char
  | .run w => (t.target? w).getD w
  | .gap c => [c]

theorem WordNames.mem_spelled (h : t.WordNames) {e : List Char × List Char} (he : e ∈ t.spelled) :
    e.1 ≠ [] ∧ ∀ c ∈ e.1, isWord c = true := by
  obtain ⟨e', he', rfl⟩ := List.mem_map.mp he
  exact h e' he'

/-! ## 2. Where a name stands -/

/-- **Where no word begins, no name stands.** -/
theorem match?_of_stops (h : t.WordNames) (hrest : Stops rest) :
    match? t.spelled before rest = none := by
  unfold match?
  split
  · refine List.find?_eq_none.mpr fun e he hstands => ?_
    obtain ⟨hne, hchars⟩ := h.mem_spelled he
    obtain ⟨c, cs, hname⟩ := List.exists_cons_of_ne_nil hne
    rw [standsAt, Bool.and_eq_true, List.isPrefixOf_iff_prefix, hname] at hstands
    obtain ⟨tail, rfl⟩ := hstands.1
    have hc : isWord c = true := hchars c (by rw [hname]; exact List.mem_cons_self)
    rw [List.cons_append, stops_cons, hc] at hrest
    exact absurd hrest (by decide)
  · rfl

/-- **Inside a word no name stands.** -/
theorem match?_inside {entries : List (List Char × List Char)} (hb : isWord b = true)
    (hc : isWord c = true) : match? entries (some b) (c :: rest) = none := by
  simp [match?, isBoundary, hb, hc]

/-- **A name that stands where a word begins is that word.**  It cannot be longer, because the word
is maximal, nor shorter, because then no word ends behind it. -/
theorem standsAt_iff (before : Option Char) (hne : name ≠ []) (hchars : ∀ c ∈ name, isWord c = true)
    (hw : MaximalWord w rest) : standsAt before (w ++ rest) name = true ↔ name = w := by
  obtain ⟨last, hlast⟩ := Option.ne_none_iff_exists'.mp (mt List.getLast?_eq_none_iff.mp hne)
  have hbefore : (lastBefore before name).any isWord = true := by
    simp [lastBefore, hlast, hchars last (List.mem_of_getLast? hlast)]
  rw [standsAt, Bool.and_eq_true, List.isPrefixOf_iff_prefix, isBoundary, hbefore]
  constructor
  · rintro ⟨⟨tail, heq⟩, hend⟩
    rcases List.append_eq_append_iff.mp heq with ⟨more, rfl, -⟩ | ⟨more, rfl, rfl⟩
    · cases more with
      | nil => rw [List.append_nil]
      | cons c more =>
        have hc : isWord c = true := hw.chars c (by simp)
        simp [hc] at hend
    · cases more with
      | nil => rw [List.append_nil]
      | cons c more =>
        have hc : isWord c = true := hchars c (by simp)
        exact absurd (stops_cons.mp hw.stops) (by simp [hc])
  · rintro rfl
    refine ⟨List.prefix_append _ _, ?_⟩
    rw [List.drop_left]
    cases rest with
    | nil => rfl
    | cons c rest => simp [stops_cons.mp hw.stops]

/-- **Where a word begins, the entry of that name is found.** -/
theorem match?_word (h : t.WordNames) (hbefore : ∀ b ∈ before, isWord b = false)
    (hw : MaximalWord w rest) :
    match? t.spelled before (w ++ rest) = (t.target? w).map fun target => (w, target) := by
  have hboundary : isBoundary before (w ++ rest).head? = true := by
    obtain ⟨c, cs, rfl⟩ := List.exists_cons_of_ne_nil hw.nonempty
    have hany : before.any isWord = false := by
      cases before with
      | none => rfl
      | some b => exact hbefore b rfl
    simp [isBoundary, hany, hw.chars c List.mem_cons_self]
  rw [match?, if_pos hboundary]
  unfold target? get? spelled
  unfold WordNames at h
  generalize t.entries = entries at h ⊢
  induction entries with
  | nil => rfl
  | cons e entries ih =>
    obtain ⟨he, hentries⟩ := List.forall_mem_cons.mp h
    have hstands := standsAt_iff before he.1 he.2 hw
    rw [List.map_cons, List.find?_cons, List.lookup_cons]
    by_cases hname : e.1.toList = w
    · have hkey : (String.ofList w == e.1) = true := by
        rw [← hname, String.ofList_toList, beq_self_eq_true]
      rw [hstands.mpr hname, hkey, hname]
      rfl
    · have hkey : (String.ofList w == e.1) = false := by
        refine beq_eq_false_iff_ne.mpr fun heq => hname ?_
        rw [← heq, String.toList_ofList]
      rw [Bool.eq_false_iff.mpr (mt hstands.mp hname), hkey]
      exact ih hentries

/-! ## 3. The pass -/

/-- The rest of a word that was not replaced is copied. -/
theorem substitute_inside (entries : List (List Char × List Char)) (rest : List Char)
    (hb : isWord b = true) (hchars : ∀ c ∈ w, isWord c = true) (fresh : Bool) :
    ∃ b' fresh', substitute entries (some b) 0 fresh (w ++ rest) =
      w ++ substitute entries (some b') 0 fresh' rest := by
  induction w generalizing b fresh with
  | nil => exact ⟨b, fresh, rfl⟩
  | cons c w ih =>
    obtain ⟨hc, hw⟩ := List.forall_mem_cons.mp hchars
    obtain ⟨b', fresh', ih⟩ := ih hc hw true
    refine ⟨b', fresh', ?_⟩
    rw [List.cons_append, substitute, match?_inside hb hc]
    exact congrArg (c :: ·) ih

/-- The rest of a word that was replaced is passed over. -/
theorem substitute_skip (entries : List (List Char × List Char)) (before : Option Char)
    (fresh : Bool) (w rest : List Char) :
    ∃ before' fresh', substitute entries before w.length fresh (w ++ rest) =
      substitute entries before' 0 fresh' rest := by
  induction w generalizing before fresh with
  | nil => exact ⟨before, fresh, rfl⟩
  | cons c w ih => exact ih (some c) false

/-- A pass that starts at a place where no word is under way.  The induction is over the words of
the text; what came before it, and whether a name ended there, makes no difference. -/
theorem substitute_eq (h : t.WordNames) (text : List Char) (fresh : Bool)
    (hfree : (∀ b ∈ before, isWord b = false) ∨ Stops text) :
    substitute t.spelled before 0 fresh text =
      (pieces isWord text).flatMap t.replacement := by
  induction text using wordInduction generalizing before fresh with
  | nil =>
    rw [substitute, match?_of_stops h stops_nil]
    rfl
  | other c rest hc ih =>
    have hnext : ∀ b ∈ some c, isWord b = false := by simpa using hc
    rw [substitute, match?_of_stops h (stops_cons.mpr hc), pieces_cons_of_not_word hc,
      List.flatMap_cons]
    exact congrArg (c :: ·) (ih true (Or.inl hnext))
  | word w rest hw ih =>
    have hbefore := hfree.resolve_right hw.not_stops
    have hmatch := match?_word h hbefore hw
    obtain ⟨c, w, rfl⟩ := List.exists_cons_of_ne_nil hw.nonempty
    obtain ⟨hc, hchars⟩ := List.forall_mem_cons.mp hw.chars
    have hrest : ∀ before' fresh', substitute t.spelled before' 0 fresh' rest =
        (pieces isWord rest).flatMap t.replacement :=
      fun before' fresh' => ih rest (List.suffix_refl rest) fresh' (Or.inr hw.stops)
    rw [List.cons_append] at hmatch
    rw [hw.pieces_append, List.flatMap_cons, replacement, List.cons_append, substitute, hmatch]
    cases t.target? (c :: w) with
    | none =>
      obtain ⟨b', fresh', hinside⟩ := substitute_inside t.spelled rest hc hchars true
      rw [hrest] at hinside
      exact congrArg (c :: ·) hinside
    | some target =>
      obtain ⟨before', fresh', hskip⟩ := substitute_skip t.spelled (some c) false w rest
      rw [hrest] at hskip
      exact congrArg (target ++ ·) hskip

/-- **A pass replaces every word that is a name, and nothing else.** -/
theorem pass_eq (h : t.WordNames) (text : List Char) :
    pass t.spelled text = (pieces isWord text).flatMap t.replacement :=
  substitute_eq h text true (Or.inl (by simp))

/-! ## 4. Whether there is a name left -/

/-- The rest of a word holds no further name. -/
theorem anyMatch_inside (entries : List (List Char × List Char)) (rest : List Char)
    (hb : isWord b = true) (hchars : ∀ c ∈ w, isWord c = true) :
    ∃ b', anyMatch entries (some b) (w ++ rest) = anyMatch entries (some b') rest := by
  induction w generalizing b with
  | nil => exact ⟨b, rfl⟩
  | cons c w ih =>
    obtain ⟨hc, hw⟩ := List.forall_mem_cons.mp hchars
    obtain ⟨b', ih⟩ := ih hc hw
    refine ⟨b', ?_⟩
    rw [List.cons_append, anyMatch, match?_inside hb hc, Option.isSome_none, Bool.false_or, ih]

theorem anyMatch_eq_of_free (h : t.WordNames) (text : List Char)
    (hfree : (∀ b ∈ before, isWord b = false) ∨ Stops text) :
    anyMatch t.spelled before text = (words text).any fun w => (t.target? w).isSome := by
  induction text using wordInduction generalizing before with
  | nil =>
    rw [anyMatch, match?_of_stops h stops_nil]
    rfl
  | other c rest hc ih =>
    have hnext : ∀ b ∈ some c, isWord b = false := by simpa using hc
    rw [anyMatch, match?_of_stops h (stops_cons.mpr hc), words_cons_of_not_word hc,
      ih (Or.inl hnext), Option.isSome_none, Bool.false_or]
  | word w rest hw ih =>
    have hmatch := match?_word h (hfree.resolve_right hw.not_stops) hw
    obtain ⟨c, w, rfl⟩ := List.exists_cons_of_ne_nil hw.nonempty
    obtain ⟨hc, hchars⟩ := List.forall_mem_cons.mp hw.chars
    obtain ⟨b', hinside⟩ := anyMatch_inside t.spelled rest hc hchars
    rw [List.cons_append] at hmatch
    rw [hw.words_append, List.any_cons, List.cons_append, anyMatch, hmatch, hinside,
      ih rest (List.suffix_refl rest) (Or.inr hw.stops), Option.isSome_map]

/-- **A name stands in a text just when one of its words is a name.** -/
theorem anyMatch_eq (h : t.WordNames) (text : List Char) :
    anyMatch t.spelled none text = (words text).any fun w => (t.target? w).isSome :=
  anyMatch_eq_of_free h text (Or.inl (by simp))

end AliasTable

end CppSurface
