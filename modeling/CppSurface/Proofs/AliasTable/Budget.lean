import CppSurface.Proofs.AliasTable.Expansion
import CppSurface.Proofs.Text.Trim
import Mathlib.Algebra.Ring.Nat
import Mathlib.Order.Monotone.Basic

/-!
# When the budget of passes matters

A budget is needed because aliases may refer to each other in a circle.  The smallest circle is an
alias whose target mentions the alias itself, and the collection leaves out one form of it: a target
that is nothing but the name, apart from white space and the keywords `struct` and `class`.  Others
are kept, such as `string` for `std::string`, and then every pass puts one more `std::` in front.

Take aliases that mention no name but perhaps their own.  After one pass all names that are left
mention themselves (`refers_self_of_mem_words_pass`).  If there are none, further passes change
nothing.  If there is one, it stays for good, and no two budgets give the same text.  The latter
needs something that grows with every pass and that the removal of keywords at the end does not
touch.  The length will not do: in front of `struct foo` it grows, and all of it goes with the
keyword.  What grows is the *weight*, the number of characters that are neither white space nor in a
keyword.  A target that mentions its own name and is no heavier than it is just what the collection
leaves out (`weight_lt_weight_target`); so of two budgets the larger one gives the heavier text
(`strictMono_weight`).
-/

namespace CppSurface

open CppSurface.Text

namespace AliasTable

open TypeText

variable {t : AliasTable} {text rest out w ds : List Char} {n : Nat}

/-! ## 1. Aliases as they are printed -/

/-- A text does not end with the keyword `struct` or `class`. -/
def EndsPlain (text : List Char) : Prop :=
  ∀ w ∈ elaboratedWords, (pieces isWord text).getLast? ≠ some (.run w)

/-- **Aliases as a compiler prints them**: a name is a word and no keyword, and no target ends with
a keyword. -/
structure Printed (t : AliasTable) : Prop where
  names : t.WordNames
  plain : ∀ e ∈ t.entries, e.1.toList ∉ elaboratedWords
  ends : ∀ e ∈ t.entries, EndsPlain e.2.toList

/-- **An alias repeats its name**: without white space and keywords its target is the name alone.
Such an alias is none. -/
def RepeatsName (name target : String) : Prop :=
  trim (dropElaboratedChars target.toList) = name.toList

instance : DecidablePred EndsPlain := fun _ => inferInstanceAs (Decidable (∀ _ ∈ _, _))

instance : DecidablePred Printed := fun t =>
  decidable_of_iff (t.WordNames ∧
      (∀ e ∈ t.entries, ¬ elaboratedWords.contains e.1.toList = true) ∧
      ∀ e ∈ t.entries, EndsPlain e.2.toList) (by
    simp only [List.contains_iff_mem]
    exact ⟨fun h => ⟨h.1, h.2.1, h.2.2⟩, fun h => ⟨h.names, h.plain, h.ends⟩⟩)

instance (a b : String) : Decidable (t.Refers a b) :=
  decidable_of_iff (∃ target ∈ t.get? a, (words target.toList).contains b.toList = true ∧
      (t.get? b).isSome = true)
    (by simp only [Refers, Option.mem_def, List.contains_iff_mem])

theorem EndsPlain.of_cons {q : Piece} {ps : List Piece} (hpieces : pieces isWord text = q :: ps)
    (hrest : pieces isWord rest = ps) (h : EndsPlain text) : EndsPlain rest := by
  intro w hw hlast
  refine h w hw ?_
  rw [hpieces, List.getLast?_cons, ← hrest, hlast]
  rfl

theorem EndsPlain.tail {c : Char} (hc : isWord c = false) (h : EndsPlain (c :: rest)) :
    EndsPlain rest :=
  h.of_cons (pieces_cons_of_not_word hc) rfl

theorem EndsPlain.afterWord (hw : MaximalWord w rest) (h : EndsPlain (w ++ rest)) :
    EndsPlain rest :=
  h.of_cons hw.pieces_append rfl

/-- Something follows a keyword. -/
theorem EndsPlain.exists_cons (hw : MaximalWord w rest) (hkeyword : w ∈ elaboratedWords)
    (h : EndsPlain (w ++ rest)) : ∃ c rest', rest = c :: rest' := by
  refine List.exists_cons_of_ne_nil fun hnil => h w hkeyword ?_
  rw [hw.pieces_append, hnil]
  rfl

/-! ## 2. Weight -/

/-- The weight of a piece of a text: keywords and white space have none. -/
def weightOf : Piece → Nat
  | .run w => if elaboratedWords.contains w then 0 else w.length
  | .gap c => if isBlank c then 0 else 1

/-- **The weight of a text**: the number of its characters that are neither white space nor in a
keyword. -/
def weight (text : List Char) : Nat := ((pieces isWord text).map weightOf).sum

@[simp] theorem weight_nil : weight [] = 0 := rfl

theorem weight_cons {c : Char} (hc : isWord c = false) (rest : List Char) :
    weight (c :: rest) = weightOf (.gap c) + weight rest := by
  rw [weight, pieces_cons_of_not_word hc, List.map_cons, List.sum_cons, weight]

theorem weight_word (hw : MaximalWord w rest) :
    weight (w ++ rest) = weightOf (.run w) + weight rest := by
  rw [weight, hw.pieces_append, List.map_cons, List.sum_cons, weight]

theorem weight_append (cs : List Char) (h : Stops ds) :
    weight (cs ++ ds) = weight cs + weight ds := by
  induction cs using wordInduction with
  | nil => rw [List.nil_append, weight_nil, Nat.zero_add]
  | other c rest hc ih => rw [List.cons_append, weight_cons hc, weight_cons hc, ih, Nat.add_assoc]
  | word w rest hw ih =>
    rw [List.append_assoc, weight_word (hw.congr_rest (hw.stops.append h)), weight_word hw,
      ih rest (List.suffix_refl rest), Nat.add_assoc]

theorem weightOf_keyword (h : w ∈ elaboratedWords) : weightOf (.run w) = 0 :=
  if_pos (List.contains_iff_mem.mpr h)

theorem weightOf_run (h : w ∉ elaboratedWords) : weightOf (.run w) = w.length :=
  if_neg (mt List.contains_iff_mem.mp h)

/-- A word without weight is a keyword. -/
theorem mem_elaboratedWords_of_weightOf (hw : MaximalWord w rest) (h : weightOf (.run w) = 0) :
    w ∈ elaboratedWords := by
  by_contra hplain
  rw [weightOf_run hplain] at h
  exact hw.nonempty (List.length_eq_zero_iff.mp h)

/-- A character without weight is white space. -/
theorem isBlank_of_weightOf {c : Char} (h : weightOf (.gap c) = 0) : isBlank c = true := by
  by_contra hblank
  rw [weightOf, if_neg hblank] at h
  exact Nat.one_ne_zero h

/-- **Dropping keywords keeps the weight.** -/
theorem Stripped.weight_eq (h : Stripped text out) : weight out = weight text := by
  induction h with
  | nil => rfl
  | other hc _ ih => rw [weight_cons hc, weight_cons hc, ih]
  | keyword hw hkeyword hblank _ ih =>
    rw [weight_word hw, weight_cons (stops_cons.mp hw.stops), weightOf_keyword hkeyword, weightOf,
      if_pos hblank, ih, Nat.zero_add, Nat.zero_add]
  | word hw _ hrest ih =>
    rw [weight_word hw, weight_word (hw.congr_rest (hrest.stops hw.stops)), ih]

theorem weight_dropElaboratedChars (text : List Char) :
    weight (dropElaboratedChars text) = weight text :=
  (stripped_iff.mpr rfl).weight_eq

/-- A text weighs no less than each of its words. -/
theorem length_le_weight (hplain : w ∉ elaboratedWords) (hw : w ∈ words text) :
    w.length ≤ weight text := by
  induction text using wordInduction with
  | nil => exact absurd hw (by simp)
  | other c rest hc ih =>
    rw [words_cons_of_not_word hc] at hw
    rw [weight_cons hc]
    exact Nat.le_add_left_of_le (ih hw)
  | word v rest hv ih =>
    rw [hv.words_append, List.mem_cons] at hw
    rw [weight_word hv]
    rcases hw with rfl | hw
    · rw [weightOf_run hplain]
      exact Nat.le_add_right _ _
    · exact Nat.le_add_left_of_le (ih rest (List.suffix_refl rest) hw)

/-! ## 3. Targets that are no heavier than a name in them -/

/-- Of a text without weight nothing but white space is left. -/
theorem isBlank_of_weight_eq_zero (hends : EndsPlain text) (h : weight text = 0) :
    ∀ c ∈ dropElaboratedChars text, isBlank c = true := by
  induction text using wordInduction with
  | nil => simp [dropElaboratedChars, pieces, dropElaboratedPieces]
  | other c rest hc ih =>
    rw [weight_cons hc] at h
    rw [dropElaboratedChars_cons hc]
    exact List.forall_mem_cons.mpr ⟨isBlank_of_weightOf (by omega), ih (hends.tail hc) (by omega)⟩
  | word w rest hw ih =>
    rw [weight_word hw] at h
    have hkeyword := mem_elaboratedWords_of_weightOf hw (by omega)
    obtain ⟨c, rest, rfl⟩ := hends.exists_cons hw hkeyword
    have hc := stops_cons.mp hw.stops
    rw [weight_cons hc] at h
    rw [dropElaboratedChars_keyword hw hkeyword (isBlank_of_weightOf (by omega))]
    exact ih rest (List.suffix_cons c rest) ((hends.afterWord hw).tail hc) (by omega)

/-- **Of a text that is no heavier than one of its words, only this word is left**, with white space
around it.  The cases are those of the text: what is not the word itself has no weight, so it is
white space, or a keyword with white space behind it. -/
theorem exists_padded (hends : EndsPlain text) (hplain : w ∉ elaboratedWords)
    (hw : w ∈ words text) (h : weight text ≤ w.length) :
    ∃ before after, dropElaboratedChars text = before ++ w ++ after ∧
      (∀ c ∈ before, isBlank c = true) ∧ ∀ c ∈ after, isBlank c = true := by
  induction text using wordInduction with
  | nil => exact absurd hw (by simp)
  | other c rest hc ih =>
    rw [words_cons_of_not_word hc] at hw
    rw [weight_cons hc] at h
    have hle := length_le_weight hplain hw
    obtain ⟨before, after, hrest, hbefore, hafter⟩ := ih (hends.tail hc) hw (by omega)
    refine ⟨c :: before, after, ?_, ?_, hafter⟩
    · rw [dropElaboratedChars_cons hc, hrest, List.cons_append, List.cons_append]
    · exact List.forall_mem_cons.mpr ⟨isBlank_of_weightOf (by omega), hbefore⟩
  | word v rest hv ih =>
    rw [hv.words_append, List.mem_cons] at hw
    rw [weight_word hv] at h
    rcases hw with rfl | hw
    · rw [weightOf_run hplain] at h
      refine ⟨[], dropElaboratedChars rest, ?_, by simp, ?_⟩
      · exact dropElaboratedChars_word hv fun hkeyword => hplain hkeyword.1
      · exact isBlank_of_weight_eq_zero (hends.afterWord hv) (by omega)
    · have hle := length_le_weight hplain hw
      have hkeyword := mem_elaboratedWords_of_weightOf hv (by omega)
      obtain ⟨c, rest, rfl⟩ := hends.exists_cons hv hkeyword
      have hc := stops_cons.mp hv.stops
      rw [words_cons_of_not_word hc] at hw
      rw [weight_cons hc] at h hle
      have hle' := length_le_weight hplain hw
      rw [dropElaboratedChars_keyword hv hkeyword (isBlank_of_weightOf (by omega))]
      exact ih rest (List.suffix_cons c rest) ((hends.afterWord hv).tail hc) hw (by omega)

/-- **A target that mentions its own name is heavier than the name**, unless it only repeats it. -/
theorem weight_lt_weight_target (hprinted : t.Printed) {name target : String}
    (he : (name, target) ∈ t.entries) (hkept : ¬ RepeatsName name target)
    (hself : name.toList ∈ words target.toList) : name.toList.length < weight target.toList := by
  by_contra hle
  obtain ⟨before, after, hdrop, hbefore, hafter⟩ := exists_padded (hprinted.ends _ he)
    (hprinted.plain _ he) hself (Nat.le_of_not_lt hle)
  have hchars : ∀ c ∈ name.toList, isWord c = true := (hprinted.names _ he).2
  have hname : trim name.toList = name.toList :=
    trim_eq_self (fun c hc => isBlank_of_isWord (hchars c (List.mem_of_mem_head? hc)))
      (fun c hc => isBlank_of_isWord (hchars c (List.mem_of_getLast? hc)))
  exact hkept (by rw [RepeatsName, hdrop, trim_padded hbefore hafter, hname])

/-- **A name that mentions itself is lighter than its target**, if no alias merely repeats its
name. -/
theorem length_lt_weight_of_refers (hprinted : t.Printed)
    (hkept : ∀ e ∈ t.entries, ¬ RepeatsName e.1 e.2)
    (hself : t.Refers (String.ofList w) (String.ofList w)) {target : String}
    (hget : t.get? (String.ofList w) = some target) :
    w ∉ elaboratedWords ∧ w.length < weight target.toList := by
  obtain ⟨target', hget', hmem, -⟩ := hself
  obtain rfl : target' = target := Option.some.inj (hget'.symm.trans hget)
  have he := mem_entries_of_get? hget
  have hplain := hprinted.plain (String.ofList w, target') he
  have hlt := weight_lt_weight_target hprinted he (hkept (String.ofList w, target') he) hmem
  rw [String.toList_ofList] at hplain hlt
  exact ⟨hplain, hlt⟩

/-! ## 4. What one pass does -/

theorem Refers.get?_eq {a b : String} (h : t.Refers a b) : ∃ target, t.get? a = some target := by
  obtain ⟨target, hget, -⟩ := h
  exact ⟨target, hget⟩

/-- **After a pass, every name that is left mentions itself**, and it was there before. -/
theorem refers_self_of_mem_words_pass (hnames : t.WordNames)
    (honly : ∀ a b, t.Refers a b → a = b) (hw : w ∈ words (pass t.spelled text))
    (hname : (t.get? (String.ofList w)).isSome = true) :
    w ∈ words text ∧ t.Refers (String.ofList w) (String.ofList w) := by
  rw [words_pass hnames, List.mem_flatMap] at hw
  obtain ⟨v, hv, hw⟩ := hw
  cases hget : t.get? (String.ofList v) with
  | none =>
    rw [target?_eq_none.mpr hget, Option.map_none, Option.getD_none, List.mem_singleton] at hw
    rw [hw, hget] at hname
    exact absurd hname (by simp)
  | some target =>
    rw [target?_of_get? hget, Option.map_some, Option.getD_some] at hw
    have hrefers : t.Refers (String.ofList v) (String.ofList w) :=
      ⟨target, hget, by rwa [String.toList_ofList], hname⟩
    have heq := honly _ _ hrefers
    rw [String.ofList_inj.mp heq] at hv hrefers
    exact ⟨hv, hrefers⟩

/-- A name that mentions itself is still there after a pass. -/
theorem mem_words_pass_of_refers_self (hnames : t.WordNames) (hw : w ∈ words text)
    (hself : t.Refers (String.ofList w) (String.ofList w)) : w ∈ words (pass t.spelled text) := by
  obtain ⟨target, hget, hmem, -⟩ := hself
  rw [String.toList_ofList] at hmem
  rw [words_pass hnames, List.mem_flatMap]
  exact ⟨w, hw, by rw [target?_of_get? hget]; exact hmem⟩

/-- A pass leaves a text without names alone. -/
theorem pass_of_no_names (hnames : t.WordNames)
    (h : ∀ w ∈ words text, t.get? (String.ofList w) = none) : pass t.spelled text = text := by
  induction text using wordInduction with
  | nil => exact pass_nil hnames
  | other c rest hc ih =>
    rw [words_cons_of_not_word hc] at h
    rw [pass_cons hnames hc, ih h]
  | word w rest hw ih =>
    rw [hw.words_append] at h
    obtain ⟨hnone, hrest⟩ := List.forall_mem_cons.mp h
    rw [pass_append hnames hw, target?_eq_none.mpr hnone, ih rest (List.suffix_refl rest) hrest]
    rfl

/-- **A pass adds weight for every name**, if all of them mention themselves. -/
theorem weight_add_le_weight_pass (hprinted : t.Printed)
    (hkept : ∀ e ∈ t.entries, ¬ RepeatsName e.1 e.2)
    (h : ∀ w ∈ words text, (t.get? (String.ofList w)).isSome = true →
      t.Refers (String.ofList w) (String.ofList w)) :
    weight text + (words text).countP (fun w => (t.get? (String.ofList w)).isSome) ≤
      weight (pass t.spelled text) := by
  have hnames := hprinted.names
  induction text using wordInduction with
  | nil => rw [pass_nil hnames]; exact Nat.le_refl _
  | other c rest hc ih =>
    rw [words_cons_of_not_word hc] at h
    rw [pass_cons hnames hc, weight_cons hc, weight_cons hc, words_cons_of_not_word hc,
      Nat.add_assoc]
    exact Nat.add_le_add_left (ih h) _
  | word w rest hw ih =>
    rw [hw.words_append] at h
    obtain ⟨hself, hrest⟩ := List.forall_mem_cons.mp h
    have hle := ih rest (List.suffix_refl rest) hrest
    have hstops := stops_pass hnames hw.stops
    rw [pass_append hnames hw, weight_word hw, hw.words_append, List.countP_cons]
    cases hget : t.get? (String.ofList w) with
    | none =>
      rw [target?_eq_none.mpr hget, Option.getD_none, weight_word (hw.congr_rest hstops)]
      simp only [Option.isSome_none, Bool.false_eq_true, if_false]
      omega
    | some target =>
      have hrefers := hself (by rw [hget, Option.isSome_some])
      obtain ⟨hplain, hlt⟩ := length_lt_weight_of_refers hprinted hkept hrefers hget
      rw [target?_of_get? hget, Option.getD_some, weight_append _ hstops, weightOf_run hplain]
      simp only [Option.isSome_some, if_true]
      omega

/-! ## 5. Budgets -/

/-- **A budget of `n` is worth `n` passes.**  Where the loop ends earlier, further passes would
change nothing. -/
theorem expand_eq_iterate (hnames : t.WordNames) (n : Nat) (text : List Char) :
    (expand t.spelled n text).1 = (pass t.spelled)^[n] text := by
  induction n generalizing text with
  | zero => rfl
  | succ n ih =>
    rw [expand]
    split
    · rw [ih, Function.iterate_succ_apply]
    · rename_i hany
      have hnone := (anyMatch_eq_false hnames).mp (Bool.eq_false_iff.mpr hany)
      exact (Function.iterate_fixed (pass_of_no_names hnames hnone) _).symm

/-- Without names that mention themselves the first pass is the last that changes something. -/
theorem iterate_pass_of_no_self (hnames : t.WordNames) (honly : ∀ a b, t.Refers a b → a = b)
    (h : ∀ w ∈ words text, ¬ t.Refers (String.ofList w) (String.ofList w)) (n : Nat) :
    (pass t.spelled)^[n + 1] text = pass t.spelled text := by
  have hnone : ∀ w ∈ words (pass t.spelled text), t.get? (String.ofList w) = none := by
    intro w hw
    by_contra hsome
    have hname := Option.isSome_iff_ne_none.mpr hsome
    obtain ⟨hmem, hself⟩ := refers_self_of_mem_words_pass hnames honly hw hname
    exact h w hmem hself
  rw [Function.iterate_succ_apply]
  exact Function.iterate_fixed (pass_of_no_names hnames hnone) n

/-- **With a name that mentions itself every pass after the first adds weight.** -/
theorem strictMono_weight (hprinted : t.Printed) (hkept : ∀ e ∈ t.entries, ¬ RepeatsName e.1 e.2)
    (honly : ∀ a b, t.Refers a b → a = b) (hw : w ∈ words text)
    (hself : t.Refers (String.ofList w) (String.ofList w)) :
    StrictMono fun n => weight ((pass t.spelled)^[n + 1] text) := by
  have hnames := hprinted.names
  have hstays : ∀ n, w ∈ words ((pass t.spelled)^[n] text) := by
    intro n
    induction n with
    | zero => exact hw
    | succ n ih =>
      rw [Function.iterate_succ_apply']
      exact mem_words_pass_of_refers_self hnames ih hself
  refine strictMono_nat_of_lt_succ fun n => ?_
  have hall : ∀ v ∈ words ((pass t.spelled)^[n + 1] text),
      (t.get? (String.ofList v)).isSome = true →
        t.Refers (String.ofList v) (String.ofList v) := by
    intro v hv hname
    rw [Function.iterate_succ_apply'] at hv
    exact (refers_self_of_mem_words_pass hnames honly hv hname).2
  have hle := weight_add_le_weight_pass hprinted hkept hall
  have hpos : 0 < (words ((pass t.spelled)^[n + 1] text)).countP
      (fun v => (t.get? (String.ofList v)).isSome) := by
    obtain ⟨target, hget⟩ := hself.get?_eq
    exact List.countP_pos_iff.mpr ⟨w, hstays (n + 1), by rw [hget]; rfl⟩
  rw [Function.iterate_succ_apply' (pass t.spelled) (n + 1)]
  omega

/-! ## 6. The aliases of a file -/

theorem foldl_put_maxPasses (ds : List Decl) (t : AliasTable) (m : Nat) :
    ds.foldl (fun t d => t.put d.name (d.typeText.getD "")) { t with maxPasses := m } =
      { ds.foldl (fun t d => t.put d.name (d.typeText.getD "")) t with maxPasses := m } := by
  induction ds generalizing t with
  | nil => rfl
  | cons d ds ih => exact ih (t.put d.name (d.typeText.getD ""))

/-- The budget has no say in which aliases are collected, nor in whether there is a pattern. -/
theorem ofUnit_eq (tree : DeclTree) (file : Path) (n m : Nat) :
    ofUnit tree file n = { ofUnit tree file m with maxPasses := max n 1 } :=
  congrArg rebuild (foldl_put_maxPasses _ (empty m) (max n 1))

theorem mem_place {name target : String} {entries : List (String × String)} {e : String × String}
    (h : e ∈ place name target entries) : e = (name, target) ∨ e ∈ entries := by
  induction entries with
  | nil => exact Or.inl (List.mem_singleton.mp h)
  | cons d entries ih =>
    rw [place] at h
    split at h
    · exact List.mem_cons.mp h
    · rcases List.mem_cons.mp h with rfl | h
      · exact Or.inr List.mem_cons_self
      · exact (ih h).imp_right (List.mem_cons_of_mem d)

theorem mem_put {name target : String} {e : String × String}
    (h : e ∈ (t.put name target).entries) : e = (name, target) ∨ e ∈ t.entries :=
  (mem_place h).imp_right List.mem_of_mem_filter

/-- **No alias of a file merely repeats its name.** -/
theorem not_repeatsName_of_mem_ofUnit {tree : DeclTree} {file : Path} :
    ∀ e ∈ (ofUnit tree file n).entries, ¬ RepeatsName e.1 e.2 := by
  have hdecls : ∀ d ∈ ((tree.children 0).map tree.get).filter (isEntry file),
      ¬ RepeatsName d.name (d.typeText.getD "") := by
    intro d hd hrepeats
    have hentry := (List.mem_filter.mp hd).2
    rw [isEntry, dropElaborated, String.toList_ofList, hrepeats, String.ofList_toList] at hentry
    simp at hentry
  unfold ofUnit
  generalize ((tree.children 0).map tree.get).filter (isEntry file) = ds at hdecls
  -- The run over the declarations, with the entries so far.
  have hrun : ∀ t : AliasTable, (∀ e ∈ t.entries, ¬ RepeatsName e.1 e.2) →
      ∀ e ∈ (ds.foldl (fun t d => t.put d.name (d.typeText.getD "")) t).entries,
        ¬ RepeatsName e.1 e.2 := by
    induction ds with
    | nil => exact fun t ht => ht
    | cons d ds ih =>
      obtain ⟨hd, hds⟩ := List.forall_mem_cons.mp hdecls
      intro t ht
      refine ih hds _ fun e he => ?_
      rcases mem_put he with rfl | he
      · exact hd
      · exact ht e he
  exact hrun (empty n) (by simp [empty])

theorem resolve_ofUnit {tree : DeclTree} {file : Path}
    (hnames : (ofUnit tree file 1).WordNames) (hfits : (ofUnit tree file 1).oversized = false)
    (hn : 1 ≤ n) (text : String) :
    ((ofUnit tree file n).resolve text).toList = dropElaboratedChars
      ((pass (ofUnit tree file 1).spelled)^[n] text.toList) := by
  have heq := ofUnit_eq tree file n 1
  have hfits' : (ofUnit tree file n).oversized = false := by rw [heq]; exact hfits
  rw [toList_resolve, substituted_eq hfits', heq, Nat.max_eq_left hn, ← expand_eq_iterate hnames]
  rfl

/-- **The budget matters exactly for texts that mention an alias which mentions itself.**  The
aliases of the file are printed as a compiler prints them, there is a pattern of their names, and
none mentions another.  Then two budgets resolve a text alike if no word of it names an alias with
its own name in the target; and otherwise no two budgets do. -/
theorem resolve_budgets_iff (tree : DeclTree) (file : Path)
    (hprinted : (ofUnit tree file 1).Printed) (hfits : (ofUnit tree file 1).oversized = false)
    (honly : ∀ a b, (ofUnit tree file 1).Refers a b → a = b) (text : String) {n m : Nat}
    (hn : 1 ≤ n) (hm : 1 ≤ m) (hne : n ≠ m) :
    (ofUnit tree file n).resolve text = (ofUnit tree file m).resolve text ↔
      ∀ w ∈ words text.toList,
        ¬ (ofUnit tree file 1).Refers (String.ofList w) (String.ofList w) := by
  have hnames := hprinted.names
  rw [← String.toList_inj, resolve_ofUnit hnames hfits hn, resolve_ofUnit hnames hfits hm]
  obtain ⟨n, rfl⟩ := Nat.exists_eq_add_one.mpr hn
  obtain ⟨m, rfl⟩ := Nat.exists_eq_add_one.mpr hm
  constructor
  · intro heq w hw hself
    have hmono := strictMono_weight hprinted not_repeatsName_of_mem_ofUnit honly hw hself
    have hweight := congrArg weight heq
    rw [weight_dropElaboratedChars, weight_dropElaboratedChars] at hweight
    exact hne (congrArg (· + 1) (hmono.injective hweight))
  · intro hnone
    rw [iterate_pass_of_no_self hnames honly hnone, iterate_pass_of_no_self hnames honly hnone]

/-! ## 7. Non-vacuity: a name and the same name in a scope

The file declares `using string = std::string` and `typedef long Index`. -/

/-- The file of the example. -/
def typesFile : Path := ⟨"/types.hpp"⟩

/-- The tree of the example. -/
def stringTree : DeclTree :=
  (DeclTree.empty.push 0
    { kind := .typeAlias, name := "string", file := some typesFile, line := 1,
      typeText := some "std::string" }).push 0
    { kind := .typedefName, name := "Index", file := some typesFile, line := 2,
      typeText := some "long" }

/-- No alias mentions the other one. -/
theorem stringTree_refers : ∀ a b, (ofUnit stringTree typesFile 1).Refers a b → a = b := by
  rintro a b ⟨target, hget, hmem, hname⟩
  obtain ⟨target', hget'⟩ := Option.isSome_iff_exists.mp hname
  have hentries : ∀ e ∈ (ofUnit stringTree typesFile 1).entries,
      ∀ e' ∈ (ofUnit stringTree typesFile 1).entries,
        e'.1.toList ∈ words e.2.toList → e.1 = e'.1 := by
    decide
  exact hentries _ (mem_entries_of_get? hget) _ (mem_entries_of_get? hget') hmem

/-- **The theorem at the file**: of `Index` all budgets make the same, of `string` no two. -/
theorem stringTree_budgets :
    (ofUnit stringTree typesFile 3).resolve "Index &" =
        (ofUnit stringTree typesFile 7).resolve "Index &" ∧
      (ofUnit stringTree typesFile 3).resolve "string &" ≠
        (ofUnit stringTree typesFile 7).resolve "string &" := by
  have hprinted : (ofUnit stringTree typesFile 1).Printed := by decide
  have hfits : (ofUnit stringTree typesFile 1).oversized = false :=
    oversized_rebuild hprinted.names (by decide)
  have hindex := resolve_budgets_iff stringTree typesFile hprinted hfits stringTree_refers
    "Index &" (n := 3) (m := 7) (by decide) (by decide) (by decide)
  have hstring := resolve_budgets_iff stringTree typesFile hprinted hfits stringTree_refers
    "string &" (n := 3) (m := 7) (by decide) (by decide) (by decide)
  exact ⟨hindex.mpr (by decide), mt hstring.mp (by decide)⟩

/-- **A name that mentions itself makes the budget show**, although it mentions no other. -/
theorem stringTree_grows :
    (∀ a b, (ofUnit stringTree typesFile 1).Refers a b → a = b) ∧
      (ofUnit stringTree typesFile 1).resolve "string" = "std::string" ∧
      (ofUnit stringTree typesFile 2).resolve "string" = "std::std::string" :=
  ⟨stringTree_refers, by decide, by decide⟩

end AliasTable

end CppSurface
