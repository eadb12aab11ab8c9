import CppSurface.Proofs.AliasTable.Pass
import CppSurface.Proofs.Pattern.Literals
import Mathlib.Data.List.Chain
import Mathlib.Data.List.Nodup
import Mathlib.Data.List.Perm.Subperm
import Mathlib.Logic.Relation

/-!
# Resolution expands every alias

The targets of aliases may mention aliases.  The full expansion of a text follows them: each word
that is a name gives way to the full expansion of its target (`Expansion`).  Resolution does not
recur.  It makes one pass after the other over the whole text, and each pass replaces the names that
the one before has brought in, in the middle of text that is done.

Both come to the same because a pass keeps words apart.  A word is replaced between two characters
that belong to no word, so its target's words are words of the new text, an empty target included,
and nothing is joined (`words_pass`).  Hence a pass leaves the full expansion as it is
(`Expansion.pass`), and it takes one name off every chain of references that starts in the text
(`SettlesIn.pass`).  When the chains are used up the text is its own expansion.  A chain of `n`
names is gone after `n` passes, so a budget as long as the longest chain is enough, and the loop ends
because no name is left and not because the budget is.

The keywords `struct` and `class` go in the end, each with the white space behind it (`Stripped`).
This too joins no words: what stands in front of a keyword belongs to none.
-/

namespace CppSurface

open CppSurface.Text

namespace AliasTable

variable {t : AliasTable} {text rest out w : List Char} {n : Nat}

/-! ## 1. What resolution is to compute -/

/-- **The full expansion of a text**: every word that is a name is replaced by the full expansion of
its target, and all other characters stay. -/
inductive Expansion (t : AliasTable) : List Char → List Char → Prop
  | nil : Expansion t [] []
  | other {c : Char} {rest out : List Char} :
      isWord c = false → Expansion t rest out → Expansion t (c :: rest) (c :: out)
  | word {w rest out : List Char} : MaximalWord w rest → t.get? (String.ofList w) = none →
      Expansion t rest out → Expansion t (w ++ rest) (w ++ out)
  | name {w rest inner out : List Char} {target : String} : MaximalWord w rest →
      t.get? (String.ofList w) = some target → Expansion t target.toList inner →
      Expansion t rest out → Expansion t (w ++ rest) (inner ++ out)

/-- **A text without its keywords**: each word `struct` or `class` that a white-space character
follows directly is deleted together with that character, and all other characters stay. -/
inductive Stripped : List Char → List Char → Prop
  | nil : Stripped [] []
  | other {c : Char} {rest out : List Char} :
      isWord c = false → Stripped rest out → Stripped (c :: rest) (c :: out)
  | keyword {w rest out : List Char} {c : Char} : MaximalWord w (c :: rest) →
      w ∈ TypeText.elaboratedWords → isBlank c = true → Stripped rest out →
      Stripped (w ++ c :: rest) out
  | word {w rest out : List Char} : MaximalWord w rest →
      ¬ (w ∈ TypeText.elaboratedWords ∧ ∃ c ∈ rest.head?, isBlank c = true) →
      Stripped rest out → Stripped (w ++ rest) (w ++ out)

/-- A name refers to the names among the words of its target. -/
def Refers (t : AliasTable) (a b : String) : Prop :=
  ∃ target, t.get? a = some target ∧ b.toList ∈ words target.toList ∧ (t.get? b).isSome = true

/-- No name refers to itself, directly or through others. -/
def Acyclic (t : AliasTable) : Prop := ∀ name, ¬ Relation.TransGen t.Refers name name

/-- Different names, each of which refers to the next. -/
structure RefersInTurn (t : AliasTable) (names : List String) : Prop where
  chain : names.IsChain t.Refers
  nodup : names.Nodup
  listed : ∀ name ∈ names, (t.get? name).isSome = true

/-! ## 2. What a pass does to words -/

theorem target?_eq_none : t.target? w = none ↔ t.get? (String.ofList w) = none := by
  simp [target?]

theorem target?_of_get? {target : String} (h : t.get? (String.ofList w) = some target) :
    t.target? w = some target.toList := by
  simp [target?, h]

theorem pass_nil (h : t.WordNames) : pass t.spelled [] = [] := by
  rw [pass_eq h]
  rfl

theorem pass_cons (h : t.WordNames) {c : Char} (hc : isWord c = false) (rest : List Char) :
    pass t.spelled (c :: rest) = c :: pass t.spelled rest := by
  rw [pass_eq h, pass_eq h, pieces_cons_of_not_word hc]
  rfl

theorem pass_append (h : t.WordNames) (hw : MaximalWord w rest) :
    pass t.spelled (w ++ rest) = (t.target? w).getD w ++ pass t.spelled rest := by
  rw [pass_eq h, pass_eq h, hw.pieces_append]
  rfl

/-- A pass brings no word to the beginning of a text that begins with none. -/
theorem stops_pass (h : t.WordNames) (hrest : Stops rest) : Stops (pass t.spelled rest) := by
  cases rest with
  | nil =>
    rw [pass_nil h]
    exact stops_nil
  | cons c rest =>
    have hc := stops_cons.mp hrest
    rw [pass_cons h hc]
    exact stops_cons.mpr hc

/-- **The words after a pass** are the words that are no names, and the words of the targets of
those that are. -/
theorem words_pass (h : t.WordNames) (text : List Char) :
    words (pass t.spelled text) =
      (words text).flatMap fun w => ((t.target? w).map words).getD [w] := by
  induction text using wordInduction with
  | nil => rw [pass_nil h]; rfl
  | other c rest hc ih =>
    rw [pass_cons h hc, words_cons_of_not_word hc, words_cons_of_not_word hc, ih]
  | word w rest hw ih =>
    have hstops := stops_pass h hw.stops
    rw [pass_append h hw, hw.words_append, List.flatMap_cons, ← ih rest (List.suffix_refl rest)]
    cases t.target? w with
    | none => exact (hw.congr_rest hstops).words_append
    | some target => exact words_append target hstops

/-! ## 3. Expansion -/

/-- Two texts are expanded one by one if no word goes on from the first into the second. -/
theorem Expansion.append {text' out' : List Char} (h : t.Expansion text out)
    (h' : t.Expansion text' out') (hstops : Stops text') :
    t.Expansion (text ++ text') (out ++ out') := by
  induction h with
  | nil => exact h'
  | other hc _ ih => exact .other hc ih
  | word hw hnone _ ih =>
    rw [List.append_assoc, List.append_assoc]
    exact .word (hw.congr_rest (hw.stops.append hstops)) hnone ih
  | name hw hsome hinner _ _ ih =>
    rw [List.append_assoc, List.append_assoc]
    exact .name (hw.congr_rest (hw.stops.append hstops)) hsome hinner ih

/-- **A pass leaves the full expansion as it is.** -/
theorem Expansion.pass (hnames : t.WordNames) (h : t.Expansion text out) :
    t.Expansion (pass t.spelled text) out := by
  induction h with
  | nil => rw [pass_nil hnames]; exact .nil
  | other hc _ ih => rw [pass_cons hnames hc]; exact .other hc ih
  | word hw hnone _ ih =>
    rw [pass_append hnames hw, target?_eq_none.mpr hnone]
    exact .word (hw.congr_rest (stops_pass hnames hw.stops)) hnone ih
  | name hw hsome hinner _ _ ih =>
    rw [pass_append hnames hw, target?_of_get? hsome]
    exact hinner.append ih (stops_pass hnames hw.stops)

/-- Expansion brings no word to the beginning of a text that begins with none. -/
theorem Expansion.stops (h : t.Expansion rest out) (hrest : Stops rest) : Stops out := by
  cases h with
  | nil => exact stops_nil
  | other hc _ => exact stops_cons.mpr hc
  | word hw => exact absurd hrest hw.not_stops
  | name hw => exact absurd hrest hw.not_stops

/-- **No name is left in an expansion.** -/
theorem Expansion.words_eq_none (h : t.Expansion text out) :
    ∀ w ∈ words out, t.get? (String.ofList w) = none := by
  induction h with
  | nil => simp
  | other hc _ ih => rwa [words_cons_of_not_word hc]
  | word hw hnone hrest ih =>
    rw [(hw.congr_rest (hrest.stops hw.stops)).words_append]
    exact List.forall_mem_cons.mpr ⟨hnone, ih⟩
  | name hw _ _ hrest ihInner ih =>
    rw [words_append _ (hrest.stops hw.stops)]
    exact List.forall_mem_append.mpr ⟨ihInner, ih⟩

/-- A text without names is its own expansion, and has no other. -/
theorem Expansion.eq_self (h : t.Expansion text out)
    (hwords : ∀ w ∈ words text, t.get? (String.ofList w) = none) : out = text := by
  induction h with
  | nil => rfl
  | other hc _ ih => rw [ih (by rwa [words_cons_of_not_word hc] at hwords)]
  | word hw _ _ ih =>
    rw [hw.words_append] at hwords
    rw [ih (List.forall_mem_cons.mp hwords).2]
  | name hw hsome =>
    rw [hw.words_append] at hwords
    rw [(List.forall_mem_cons.mp hwords).1] at hsome
    exact absurd hsome (by simp)

/-! ## 4. How many passes it takes -/

/-- No chain of references that starts in the text has more than `n` names. -/
def SettlesIn (t : AliasTable) : Nat → List Char → Prop
  | 0, text => ∀ w ∈ words text, t.get? (String.ofList w) = none
  | n + 1, text => ∀ w ∈ words text, ∀ target, t.get? (String.ofList w) = some target →
      SettlesIn t n target.toList

/-- A text has an expansion if the targets of its names have. -/
theorem exists_expansion (h : ∀ w ∈ words text, ∀ target, t.get? (String.ofList w) = some target →
    ∃ inner, t.Expansion target.toList inner) : ∃ out, t.Expansion text out := by
  induction text using wordInduction with
  | nil => exact ⟨[], .nil⟩
  | other c rest hc ih =>
    rw [words_cons_of_not_word hc] at h
    obtain ⟨out, hout⟩ := ih h
    exact ⟨c :: out, .other hc hout⟩
  | word w rest hw ih =>
    rw [hw.words_append] at h
    obtain ⟨htarget, hrest⟩ := List.forall_mem_cons.mp h
    obtain ⟨out, hout⟩ := ih rest (List.suffix_refl rest) hrest
    cases hget : t.get? (String.ofList w) with
    | none => exact ⟨w ++ out, .word hw hget hout⟩
    | some target =>
      obtain ⟨inner, hinner⟩ := htarget target hget
      exact ⟨inner ++ out, .name hw hget hinner hout⟩

/-- A text that settles has an expansion. -/
theorem SettlesIn.exists_expansion (h : t.SettlesIn n text) : ∃ out, t.Expansion text out := by
  induction n generalizing text with
  | zero =>
    refine AliasTable.exists_expansion fun w hw target hget => ?_
    rw [h w hw] at hget
    exact absurd hget (by simp)
  | succ n ih => exact AliasTable.exists_expansion fun w hw target hget => ih (h w hw target hget)

/-- **A pass takes one name off every chain.** -/
theorem SettlesIn.pass (hnames : t.WordNames) (h : t.SettlesIn (n + 1) text) :
    t.SettlesIn n (pass t.spelled text) := by
  have hword : ∀ w ∈ words (AliasTable.pass t.spelled text),
      t.get? (String.ofList w) = none ∨ ∃ target : String, t.SettlesIn n target.toList ∧
        w ∈ words target.toList := by
    intro w hw
    rw [words_pass hnames, List.mem_flatMap] at hw
    obtain ⟨v, hv, hw⟩ := hw
    cases hget : t.get? (String.ofList v) with
    | none =>
      rw [target?_eq_none.mpr hget] at hw
      rw [List.mem_singleton.mp hw]
      exact Or.inl hget
    | some target =>
      rw [target?_of_get? hget] at hw
      exact Or.inr ⟨target, h v hv target hget, hw⟩
  cases n with
  | zero =>
    intro w hw
    rcases hword w hw with hnone | ⟨target, hsettles, hmem⟩
    · exact hnone
    · exact hsettles w hmem
  | succ n =>
    intro w hw target' hget
    rcases hword w hw with hnone | ⟨target, hsettles, hmem⟩
    · rw [hnone] at hget
      exact absurd hget (by simp)
    · exact hsettles w hmem target' hget

theorem anyMatch_eq_false (hnames : t.WordNames) :
    anyMatch t.spelled none text = false ↔
      ∀ w ∈ words text, t.get? (String.ofList w) = none := by
  simp [anyMatch_eq hnames, target?]

/-- **The loop ends with the full expansion, and within the budget.**  The induction is on the
budget; a text whose names are used up earlier is left alone. -/
theorem Expansion.expand_eq (hnames : t.WordNames) (h : t.Expansion text out)
    (hn : t.SettlesIn n text) : expand t.spelled n text = (out, false) := by
  induction n generalizing text with
  | zero =>
    rw [expand, (anyMatch_eq_false hnames).mpr hn, h.eq_self hn]
  | succ n ih =>
    rw [expand]
    split
    · exact ih (h.pass hnames) (hn.pass hnames)
    · rename_i hany
      rw [h.eq_self ((anyMatch_eq_false hnames).mp (Bool.eq_false_iff.mpr hany))]

/-! ## 5. Chains of references -/

/-- Without circles, names that refer to each other in turn are different. -/
theorem Acyclic.nodup (h : t.Acyclic) {names : List String} (hchain : names.IsChain t.Refers) :
    names.Nodup := by
  have htrans : names.IsChain (Relation.TransGen t.Refers) :=
    hchain.imp fun _ _ => Relation.TransGen.single
  refine htrans.pairwise.imp fun {a b} hab heq => ?_
  exact h a (heq ▸ hab)

/-- A chain goes on with a name among the words of its last target. -/
theorem RefersInTurn.concat (hacyclic : t.Acyclic) {names : List String} {last target : String}
    (h : t.RefersInTurn (names ++ [last])) (hlast : t.get? last = some target)
    (hw : w ∈ words target.toList) (hname : (t.get? (String.ofList w)).isSome = true) :
    t.RefersInTurn (names ++ [last] ++ [String.ofList w]) := by
  have hrefers : t.Refers last (String.ofList w) :=
    ⟨target, hlast, by rwa [String.toList_ofList], hname⟩
  have hchain : (names ++ [last] ++ [String.ofList w]).IsChain t.Refers := by
    refine List.isChain_append.mpr ⟨h.chain, List.isChain_singleton _, ?_⟩
    simpa using hrefers
  refine ⟨hchain, hacyclic.nodup hchain, List.forall_mem_append.mpr ⟨h.listed, ?_⟩⟩
  simpa using hname

/-- **The target at the end of a chain settles in the passes that the chain leaves over.**  Where it
leaves none, the chain cannot go on. -/
theorem RefersInTurn.settlesIn (hacyclic : t.Acyclic)
    (hchains : ∀ names, t.RefersInTurn names → names.length ≤ t.maxPasses)
    {names : List String} {last target : String} (h : t.RefersInTurn (names ++ [last]))
    (hlast : t.get? last = some target)
    (hn : t.maxPasses ≤ (names ++ [last]).length + n) : t.SettlesIn n target.toList := by
  induction n generalizing names last target with
  | zero =>
    intro w hw
    cases hget : t.get? (String.ofList w) with
    | none => rfl
    | some next =>
      have hlonger := hchains _ (h.concat hacyclic hlast hw (by rw [hget]; rfl))
      rw [List.length_append, List.length_singleton] at hlonger
      omega
  | succ n ih =>
    intro w hw next hget
    refine ih (h.concat hacyclic hlast hw (by rw [hget]; rfl)) hget ?_
    rw [List.length_append, List.length_singleton]
    omega

/-- **Every text settles within the budget**, if no chain is longer than the budget. -/
theorem settlesIn_maxPasses (hacyclic : t.Acyclic)
    (hchains : ∀ names, t.RefersInTurn names → names.length ≤ t.maxPasses) (text : List Char) :
    t.SettlesIn t.maxPasses text := by
  have hsingle : ∀ {w target}, t.get? (String.ofList w) = some target →
      t.RefersInTurn ([] ++ [String.ofList w]) := fun hget =>
    ⟨List.isChain_singleton _, List.nodup_singleton _, by simp [hget]⟩
  cases hm : t.maxPasses with
  | zero =>
    intro w _
    cases hget : t.get? (String.ofList w) with
    | none => rfl
    | some target =>
      have hlength := hchains _ (hsingle hget)
      rw [hm] at hlength
      exact absurd hlength (by simp)
  | succ m =>
    intro w _ target hget
    exact (hsingle hget).settlesIn hacyclic hchains hget (by simp [hm, Nat.add_comm])

/-! ## 6. Keywords -/

section Keywords

open TypeText

theorem dropElaboratedChars_cons {c : Char} (hc : isWord c = false) (rest : List Char) :
    dropElaboratedChars (c :: rest) = c :: dropElaboratedChars rest := by
  unfold dropElaboratedChars
  rw [pieces_cons_of_not_word hc, dropElaboratedPieces]
  · rfl
  · simp

theorem dropElaboratedChars_keyword {c : Char} (hw : MaximalWord w (c :: rest))
    (hkeyword : w ∈ elaboratedWords) (hblank : isBlank c = true) :
    dropElaboratedChars (w ++ c :: rest) = dropElaboratedChars rest := by
  unfold dropElaboratedChars
  rw [hw.pieces_append, pieces_cons_of_not_word (stops_cons.mp hw.stops), dropElaboratedPieces,
    if_pos ⟨hkeyword, hblank⟩]

theorem dropElaboratedChars_word (hw : MaximalWord w rest)
    (hkept : ¬ (w ∈ elaboratedWords ∧ ∃ c ∈ rest.head?, isBlank c = true)) :
    dropElaboratedChars (w ++ rest) = w ++ dropElaboratedChars rest := by
  cases rest with
  | nil =>
    have hpieces := hw.pieces_append
    unfold dropElaboratedChars
    rw [hpieces]
    rfl
  | cons c rest =>
    have hc := stops_cons.mp hw.stops
    have hkept' : ¬ (w ∈ elaboratedWords ∧ isBlank c = true) := by simpa using hkept
    rw [dropElaboratedChars_cons hc]
    unfold dropElaboratedChars
    rw [hw.pieces_append, pieces_cons_of_not_word hc, dropElaboratedPieces, if_neg hkept']
    rfl

/-- **Dropping keywords is what `Stripped` says.** -/
theorem stripped_iff : Stripped text out ↔ out = dropElaboratedChars text := by
  constructor
  · intro h
    induction h with
    | nil => rfl
    | other hc _ ih => rw [dropElaboratedChars_cons hc, ih]
    | keyword hw hkeyword hblank _ ih => rw [dropElaboratedChars_keyword hw hkeyword hblank, ih]
    | word hw hkept _ ih => rw [dropElaboratedChars_word hw hkept, ih]
  · rintro rfl
    induction text using wordInduction with
    | nil => exact .nil
    | other c rest hc ih => rw [dropElaboratedChars_cons hc]; exact .other hc ih
    | word w rest hw ih =>
      by_cases hkept : w ∈ elaboratedWords ∧ ∃ c ∈ rest.head?, isBlank c = true
      · obtain ⟨hkeyword, c, hc, hblank⟩ := hkept
        obtain ⟨tail, rfl⟩ := List.head?_eq_some_iff.mp hc
        rw [dropElaboratedChars_keyword hw hkeyword hblank]
        exact .keyword hw hkeyword hblank (ih tail (List.suffix_cons c tail))
      · rw [dropElaboratedChars_word hw hkept]
        exact .word hw hkept (ih rest (List.suffix_refl rest))

/-- What follows a word stays in its place. -/
theorem Stripped.head?_eq (h : Stripped rest out) (hrest : Stops rest) :
    out.head? = rest.head? := by
  cases h with
  | nil => rfl
  | other => rfl
  | keyword hw => exact absurd hrest hw.not_stops
  | word hw => exact absurd hrest hw.not_stops

theorem Stripped.stops (h : Stripped rest out) (hrest : Stops rest) : Stops out := by
  rw [Stops, h.head?_eq hrest]
  exact hrest

/-- **Dropping keywords brings no new words.** -/
theorem Stripped.words_subset (h : Stripped text out) : words out ⊆ words text := by
  induction h with
  | nil => exact List.Subset.refl _
  | other hc _ ih => rwa [words_cons_of_not_word hc, words_cons_of_not_word hc]
  | keyword hw _ _ _ ih =>
    rw [hw.words_append, words_cons_of_not_word (stops_cons.mp hw.stops)]
    exact List.subset_cons_of_subset _ ih
  | word hw _ hrest ih =>
    rw [hw.words_append, (hw.congr_rest (hrest.stops hw.stops)).words_append]
    exact List.cons_subset_cons _ ih

/-- **No keyword is left to drop.** -/
theorem Stripped.again (h : Stripped text out) : Stripped out out := by
  induction h with
  | nil => exact .nil
  | other hc _ ih => exact .other hc ih
  | keyword _ _ _ _ ih => exact ih
  | word hw hkept hrest ih =>
    refine .word (hw.congr_rest (hrest.stops hw.stops)) ?_ ih
    rwa [hrest.head?_eq hw.stops]

end Keywords

/-! ## 7. Resolution -/

/-- A text without names is left alone by every number of passes. -/
theorem expand_of_no_names (hnames : t.WordNames)
    (h : ∀ w ∈ words text, t.get? (String.ofList w) = none) (n : Nat) :
    expand t.spelled n text = (text, false) := by
  have hany := (anyMatch_eq_false hnames).mpr h
  cases n with
  | zero => rw [expand, hany]
  | succ n => rw [expand, hany, if_neg Bool.false_ne_true]

theorem toList_resolve (t : AliasTable) (text : String) :
    (t.resolve text).toList = TypeText.dropElaboratedChars (t.substituted text.toList).1 := by
  rw [resolve, TypeText.dropElaborated, String.toList_ofList, String.toList_ofList]

theorem substituted_eq (hfits : t.oversized = false) (text : List Char) :
    t.substituted text = expand t.spelled t.maxPasses text := by
  rw [substituted, hfits, if_neg Bool.false_ne_true]

/-- Without a pattern a text keeps its names, and no budget is used up. -/
theorem substituted_of_oversized (h : t.oversized = true) (text : List Char) :
    t.substituted text = (text, false) := by
  rw [substituted, h, if_pos rfl]

theorem oversized_insert (t : AliasTable) (name target : String) :
    (t.insert name target).oversized =
      !Pattern.Literals.fits ((t.insert name target).entries.map Prod.fst) := rfl

/-- **Names of 131000 bytes in all are not too long for a pattern.** -/
theorem oversized_rebuild (hnames : t.WordNames)
    (hsum : (t.entries.map fun e => e.1.utf8ByteSize).sum ≤ 131000) :
    t.rebuild.oversized = false := by
  have hne : "" ∉ t.entries.map Prod.fst := by
    intro hmem
    obtain ⟨e, he, hname⟩ := List.mem_map.mp hmem
    exact (hnames e he).1 (by rw [hname]; rfl)
  have hfits := Pattern.Literals.fits_of_sum_le hne (by rwa [List.map_map])
  rw [rebuild, hfits]
  rfl

/-- **Resolution computes the full expansion and drops the keywords.**  The names are words and not
too long for a pattern, they refer to each other without circles, and no chain of references has
more names than there are passes; then the expansion and the text without keywords are determined,
no name is left, a second resolution changes nothing, and the budget is not exhausted. -/
theorem resolve_expands (t : AliasTable) (hnames : t.WordNames) (hfits : t.oversized = false)
    (hacyclic : t.Acyclic)
    (hchains : ∀ names, t.RefersInTurn names → names.length ≤ t.maxPasses) (text : String) :
    (∃ full, (∀ out, t.Expansion text.toList out ↔ out = full) ∧
        ∀ out, Stripped full out ↔ out = (t.resolve text).toList) ∧
      (∀ w ∈ words (t.resolve text).toList, t.get? (String.ofList w) = none) ∧
      t.resolve (t.resolve text) = t.resolve text ∧
      t.exhausted text = false := by
  have hsettles := settlesIn_maxPasses hacyclic hchains text.toList
  obtain ⟨full, hfull⟩ := hsettles.exists_expansion
  have hexpand : ∀ {out}, t.Expansion text.toList out → t.substituted text.toList = (out, false) :=
    fun h => (substituted_eq hfits _).trans (h.expand_eq hnames hsettles)
  have hresolve : (t.resolve text).toList = TypeText.dropElaboratedChars full := by
    rw [toList_resolve, hexpand hfull]
  have hstripped : Stripped full (t.resolve text).toList := stripped_iff.mpr hresolve
  have hnone : ∀ w ∈ words (t.resolve text).toList, t.get? (String.ofList w) = none :=
    fun w hw => hfull.words_eq_none w (hstripped.words_subset hw)
  refine ⟨⟨full, fun out => ⟨fun h => ?_, ?_⟩, fun out => ?_⟩, hnone, ?_, ?_⟩
  · exact congrArg Prod.fst ((hexpand h).symm.trans (hexpand hfull))
  · rintro rfl
    exact hfull
  · rw [stripped_iff, hresolve]
  · rw [← String.toList_inj, toList_resolve, substituted_eq hfits, expand_of_no_names hnames hnone,
      ← stripped_iff.mp hstripped.again]
  · rw [exhausted, hexpand hfull]

/-! ## 8. Non-vacuity: a chain as long as the budget

`A` stands for `B *`, `B` for `struct E C`, and `E` for nothing at all.  The three names form a
chain, and there are three passes. -/

theorem mem_entries_of_get? {name target : String} (h : t.get? name = some target) :
    (name, target) ∈ t.entries := by
  obtain ⟨before, after, hentries, -⟩ := List.lookup_eq_some_iff.mp h
  rw [hentries]
  simp

/-- The names on a chain are different names of the table. -/
theorem RefersInTurn.length_le {names : List String} (h : t.RefersInTurn names) :
    names.length ≤ t.size := by
  have hsubset : names ⊆ t.entries.map (·.1) := by
    intro name hname
    obtain ⟨target, hget⟩ := Option.isSome_iff_exists.mp (h.listed name hname)
    exact List.mem_map_of_mem (mem_entries_of_get? hget)
  have hle := (List.Nodup.subperm h.nodup hsubset).length_le
  rwa [List.length_map] at hle

/-- A table in which every reference goes down in rank has no circles. -/
theorem acyclic_of_rank (rank : String → Nat)
    (h : ∀ e ∈ t.entries, ∀ w ∈ words e.2.toList, (t.get? (String.ofList w)).isSome = true →
      rank (String.ofList w) < rank e.1) : t.Acyclic := by
  have hstep : ∀ {a b}, t.Refers a b → rank b < rank a := by
    rintro a b ⟨target, hget, hmem, hb⟩
    have hb' := h (a, target) (mem_entries_of_get? hget) b.toList hmem
    rw [String.ofList_toList] at hb'
    exact hb' hb
  have hless : ∀ {a b}, Relation.TransGen t.Refers a b → rank b < rank a := by
    intro a b hab
    induction hab with
    | single hab => exact hstep hab
    | tail _ hbc ih => exact (hstep hbc).trans ih
  exact fun name hname => Nat.lt_irrefl _ (hless hname)

/-- The table of the example. -/
def sampleAliases : AliasTable :=
  (((empty 3).insert "A" "B *").insert "B" "struct E C").insert "E" ""

/-- **The theorem at the table**, and the resolved text. -/
theorem resolve_expands_sampleAliases :
    sampleAliases.RefersInTurn ["A", "B", "E"] ∧
      sampleAliases.resolve "class A&E AB" = " C *& AB" ∧
      sampleAliases.resolve (sampleAliases.resolve "class A&E AB") =
        sampleAliases.resolve "class A&E AB" := by
  have hacyclic : sampleAliases.Acyclic :=
    acyclic_of_rank (fun name => if name = "A" then 2 else if name = "B" then 1 else 0) (by decide)
  have hresolve := resolve_expands sampleAliases (by decide)
    (oversized_rebuild (by decide) (by decide)) hacyclic (fun _ h => h.length_le) "class A&E AB"
  refine ⟨⟨?_, by decide, by decide⟩, by decide, hresolve.2.2.1⟩
  have hrefers : sampleAliases.Refers "A" "B" ∧ sampleAliases.Refers "B" "E" :=
    ⟨⟨"B *", by decide, by decide, by decide⟩, ⟨"struct E C", by decide, by decide, by decide⟩⟩
  simpa using hrefers

/-! ## 9. A name that is too long

A pattern of one name takes 32 bytes for each byte of it.  A name of 340000 letters that stands for
`int` is put into the table, but there is no pattern, so the name is never found. -/

/-- A name of `n` letters. -/
def longName (n : Nat) : String := String.ofList (List.replicate n 'a')

/-- The table in which it stands for `int`. -/
def longAliases (n : Nat) : AliasTable := (empty 64).insert (longName n) "int"

theorem entries_longAliases (n : Nat) : (longAliases n).entries = [(longName n, "int")] := rfl

theorem maximalWord_longName (hn : n ≠ 0) : MaximalWord (longName n).toList [] where
  nonempty := by simp [longName, hn]
  chars := by
    intro c hc
    rw [longName, String.toList_ofList] at hc
    rw [List.eq_of_mem_replicate hc]
    rfl
  stops := stops_nil

theorem maximalWord_int : MaximalWord "int".toList [] :=
  ⟨by decide, List.all_eq_true.mp (by decide), stops_nil⟩

/-- A word by itself is no keyword in front of white space. -/
theorem dropElaboratedChars_word_nil (hw : MaximalWord w []) :
    TypeText.dropElaboratedChars w = w := by
  have hdrop := dropElaboratedChars_word hw (by simp)
  have hnil : TypeText.dropElaboratedChars [] = [] := rfl
  rwa [List.append_nil, hnil, List.append_nil] at hdrop

theorem longName_ne_int (hn : 3 < n) : longName n ≠ "int" := by
  intro heq
  have hlength := congrArg (fun s => s.toList.length) heq
  rw [longName, String.toList_ofList, List.length_replicate] at hlength
  exact absurd hlength (Nat.ne_of_gt hn)

/-- The name is found, and `int` is not. -/
theorem get?_longAliases (hn : 3 < n) :
    (longAliases n).get? (longName n) = some "int" ∧ (longAliases n).get? "int" = none := by
  have hne : ("int" == longName n) = false := beq_false_of_ne (longName_ne_int hn).symm
  rw [get?, get?, entries_longAliases]
  exact ⟨List.lookup_cons_self, by rw [List.lookup_cons, hne]; rfl⟩

theorem oversized_longAliases (hn : 327671 < n) : (longAliases n).oversized = true := by
  have hlength : (Pattern.Literals.bytes (longName n)).length = n := by
    rw [Pattern.Literals.bytes, longName, String.toList_ofList, List.length_flatMap,
      List.map_replicate, List.sum_replicate_nat]
    exact Nat.mul_one n
  have hfits := Pattern.Literals.fits_singleton (longName n)
  rw [hlength, decide_eq_false (Nat.not_le.mpr hn)] at hfits
  rw [longAliases, oversized_insert, ← longAliases, entries_longAliases, List.map_singleton, hfits]
  rfl

theorem acyclic_longAliases (hn : 3 < n) : (longAliases n).Acyclic := by
  refine acyclic_of_rank (fun _ => 0) fun e he w hw hname => ?_
  rw [entries_longAliases, List.mem_singleton] at he
  rw [he, show words "int".toList = ["int".toList] from by decide, List.mem_singleton] at hw
  rw [hw, String.ofList_toList, (get?_longAliases hn).2] at hname
  exact absurd hname Bool.false_ne_true

/-- A name that stands for `int` is expanded to it. -/
theorem expansion_longAliases (hn : 3 < n) :
    (longAliases n).Expansion (longName n).toList "int".toList := by
  have hword := maximalWord_longName (n := n) (Nat.ne_zero_of_lt hn)
  obtain ⟨hname, hint⟩ := get?_longAliases hn
  have hend : (longAliases n).Expansion [] [] := .nil
  have hinner := Expansion.word maximalWord_int (by rwa [String.ofList_toList]) hend
  have houter := Expansion.name hword (by rwa [String.ofList_toList]) hinner hend
  rwa [List.append_nil, List.append_nil, List.append_nil] at houter

/-- Nothing but the length is wrong with a name, and it stays. -/
theorem unexpanded_of_long (hn : 327671 < n) :
    (longAliases n).WordNames ∧ (longAliases n).Acyclic ∧
      (∀ names, (longAliases n).RefersInTurn names → names.length ≤ (longAliases n).maxPasses) ∧
      (longAliases n).Expansion (longName n).toList "int".toList ∧
      ¬ Stripped "int".toList ((longAliases n).resolve (longName n)).toList := by
  have hn' : 3 < n := by omega
  have hword := maximalWord_longName (n := n) (Nat.ne_zero_of_lt hn')
  refine ⟨?_, acyclic_longAliases hn', fun _ h => h.length_le.trans (show 1 ≤ 64 by decide),
    expansion_longAliases hn', ?_⟩
  · intro e he
    rw [List.mem_singleton.mp he]
    exact ⟨hword.nonempty, hword.chars⟩
  · rw [toList_resolve, substituted_of_oversized (oversized_longAliases hn), stripped_iff,
      dropElaboratedChars_word_nil hword, dropElaboratedChars_word_nil maximalWord_int,
      String.toList_inj]
    exact longName_ne_int hn'

/-- **A name that is too long is not expanded**, although nothing else is wrong with its table. -/
theorem longName_unexpanded :
    (longAliases 340000).WordNames ∧ (longAliases 340000).Acyclic ∧
      (∀ names, (longAliases 340000).RefersInTurn names →
        names.length ≤ (longAliases 340000).maxPasses) ∧
      (longAliases 340000).Expansion (longName 340000).toList "int".toList ∧
      ¬ Stripped "int".toList ((longAliases 340000).resolve (longName 340000)).toList :=
  unexpanded_of_long (by decide)

end AliasTable

end CppSurface
