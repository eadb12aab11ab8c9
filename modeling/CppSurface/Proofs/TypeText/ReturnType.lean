import CppSurface.Dump.Tree
import CppSurface.Proofs.Text.Trim
import Mathlib.Data.List.Infix

/-!
# The return type of a function type

The spelling of a function type is cut before its first parenthesis that no bracket encloses.  The
scan knows of brackets only how many are open, and it counts angle and square ones together.  This
is enough where both are balanced: the number of open brackets is then the sum of the two excesses
of opening over closing ones (`depthAfter`), it never runs into the bottom of the counter, and it is
back at zero at the end of the text.  So the scan passes over a whole return type, with every
parenthesis in its template arguments, and stops at the parenthesis behind it
(`splitParameters?_append`).

What follows this parenthesis is not looked at, unless the text in front is `auto`.  So the return
type of an ordinary function type comes out whatever its parameters are (`returnType_recovers`).  A
function that returns a pointer to a function is not of this form: its parameters stand inside the
declarator, behind the parenthesis of the declarator, and the scan takes this one for theirs.  What
comes out is the return type of the function pointed to, and the declaration is the same as that of
a function that returns this type itself (`returnType_of_declarator`).
-/

namespace CppSurface.TypeText

open CppSurface.Text

variable {cs : List Char} {c : Char}

/-! ## 1. Balanced brackets -/

/-- The beginning of a text leaves a bracket of a kind open. -/
def LeavesOpen (opening closing : Char) (before : List Char) : Prop :=
  before.count closing < before.count opening

/-- **The brackets of a kind are balanced**: no beginning of the text closes more of them than it
opens, and the whole text closes them all. -/
def Balanced (opening closing : Char) (cs : List Char) : Prop :=
  (∀ before, before <+: cs → before.count closing ≤ before.count opening) ∧
    cs.count opening = cs.count closing

/-- **A text with balanced angle and square brackets, in which every opening parenthesis lies
inside brackets.** -/
structure Bracketed (cs : List Char) : Prop where
  angles : Balanced '<' '>' cs
  squares : Balanced '[' ']' cs
  enclosed : ∀ before, before ++ ['('] <+: cs →
    LeavesOpen '<' '>' before ∨ LeavesOpen '[' ']' before

instance (opening closing : Char) (before : List Char) :
    Decidable (LeavesOpen opening closing before) :=
  inferInstanceAs (Decidable (_ < _))

instance (opening closing : Char) (cs : List Char) : Decidable (Balanced opening closing cs) :=
  decidable_of_iff ((∀ before ∈ cs.inits, before.count closing ≤ before.count opening) ∧
      cs.count opening = cs.count closing)
    (by simp only [List.mem_inits, Balanced])

theorem bracketed_iff : Bracketed cs ↔ Balanced '<' '>' cs ∧ Balanced '[' ']' cs ∧
    ∀ before ∈ cs.inits, before ++ ['('] <+: cs →
      LeavesOpen '<' '>' before ∨ LeavesOpen '[' ']' before := by
  simp only [List.mem_inits]
  constructor
  · rintro ⟨hangles, hsquares, henclosed⟩
    exact ⟨hangles, hsquares, fun before _ => henclosed before⟩
  · rintro ⟨hangles, hsquares, henclosed⟩
    refine ⟨hangles, hsquares, fun before hbefore => ?_⟩
    exact henclosed before ((List.prefix_append before ['(']).trans hbefore) hbefore

instance : DecidablePred Bracketed := fun _ => decidable_of_iff' _ bracketed_iff

/-- A character that is neither a bracket nor a parenthesis may be added. -/
theorem Bracketed.concat (h : Bracketed cs) (hc : c ∉ ['<', '>', '[', ']', '(']) :
    Bracketed (cs ++ [c]) := by
  simp only [List.mem_cons, List.not_mem_nil, or_false, not_or] at hc
  obtain ⟨hless, hgreater, hopen, hclose, hparen⟩ := hc
  have hcount : ∀ x, c ≠ x → (cs ++ [c]).count x = cs.count x := by
    intro x hx
    simp [hx]
  have hbalanced : ∀ {o cl}, c ≠ o → c ≠ cl → Balanced o cl cs → Balanced o cl (cs ++ [c]) := by
    intro o cl ho hcl hb
    refine ⟨fun before hbefore => ?_, by rw [hcount o ho, hcount cl hcl, hb.2]⟩
    rcases List.prefix_concat_iff.mp hbefore with rfl | hbefore
    · rw [hcount o ho, hcount cl hcl]
      exact hb.1 cs (List.prefix_refl cs)
    · exact hb.1 before hbefore
  refine ⟨hbalanced hless hgreater h.angles, hbalanced hopen hclose h.squares, ?_⟩
  intro before hbefore
  rcases List.prefix_concat_iff.mp hbefore with heq | hbefore
  · have hlast := congrArg List.getLast? heq
    rw [List.getLast?_concat, List.getLast?_concat] at hlast
    exact absurd (Option.some.inj hlast).symm hparen
  · exact h.enclosed before hbefore

/-! ## 2. The scan -/

/-- The number of brackets that the beginning of a text leaves open. -/
def depthAfter (before : List Char) : Nat :=
  (before.count '<' - before.count '>') + (before.count '[' - before.count ']')

section Step

variable {before : List Char} (h : Bracketed (before ++ c :: cs))

include h

theorem Bracketed.depthAfter_opening (hc : c = '<' ∨ c = '[') :
    depthAfter (before ++ [c]) = depthAfter before + 1 := by
  have hangles := h.angles.1 before (List.prefix_append _ _)
  have hsquares := h.squares.1 before (List.prefix_append _ _)
  rcases hc with rfl | rfl
  · simp [depthAfter]
    omega
  · simp [depthAfter]
    omega

/-- A closing bracket closes one that is open, so that the counter does not stop at zero. -/
theorem Bracketed.depthAfter_closing (hc : c = '>' ∨ c = ']') :
    depthAfter (before ++ [c]) = depthAfter before - 1 := by
  have hangles := h.angles.1 (before ++ [c]) ⟨cs, by simp⟩
  have hsquares := h.squares.1 (before ++ [c]) ⟨cs, by simp⟩
  rcases hc with rfl | rfl
  · simp [depthAfter] at hangles ⊢
    omega
  · simp [depthAfter] at hsquares ⊢
    omega

omit h in
theorem depthAfter_other (hopening : ¬ (c = '<' ∨ c = '[')) (hclosing : ¬ (c = '>' ∨ c = ']')) :
    depthAfter (before ++ [c]) = depthAfter before := by
  rw [not_or] at hopening hclosing
  simp [depthAfter, hopening, hclosing]

theorem Bracketed.depthAfter_ne_zero (hc : c = '(') : depthAfter before ≠ 0 := by
  have henclosed := h.enclosed before ⟨cs, by simp [hc]⟩
  simp only [LeavesOpen] at henclosed
  rw [depthAfter]
  omega

end Step

/-- **The scan passes over a bracketed text.**  The induction is over what is left of it; what has
been passed over is kept, because the counter tells of the text only through it. -/
theorem splitParameters?_from (before rest : List Char) (h : Bracketed (before ++ cs)) :
    splitParameters? (depthAfter before) (cs ++ '(' :: rest) = some (cs, '(' :: rest) := by
  induction cs generalizing before with
  | nil =>
    rw [List.append_nil] at h
    have hzero : depthAfter before = 0 := by
      rw [depthAfter, h.angles.2, h.squares.2, Nat.sub_self, Nat.sub_self]
    rw [List.nil_append, splitParameters?, hzero]
    simp
  | cons c cs ih =>
    have hrest := ih (before ++ [c]) (by simpa using h)
    rw [List.cons_append, splitParameters?]
    split
    · rename_i hopening
      rw [← h.depthAfter_opening hopening, hrest]
      rfl
    · split
      · rename_i hclosing
        rw [← h.depthAfter_closing hclosing, hrest]
        rfl
      · rename_i hopening hclosing
        have hpasses : ¬ (c = '(' ∧ depthAfter before = 0) :=
          fun hstop => h.depthAfter_ne_zero hstop.1 hstop.2
        rw [if_neg hpasses, ← depthAfter_other hopening hclosing, hrest]
        rfl

/-- **A bracketed text is cut off before the parenthesis that follows it.** -/
theorem splitParameters?_append (h : Bracketed cs) (rest : List Char) :
    splitParameters? 0 (cs ++ '(' :: rest) = some (cs, '(' :: rest) :=
  splitParameters?_from [] rest h

/-! ## 3. What comes out -/

/-- **What follows the parenthesis does not matter**, unless `auto` stands in front of it. -/
theorem returnTypeChars_append (h : Bracketed cs) (hauto : trim cs ≠ "auto".toList)
    (rest : List Char) : returnTypeChars (cs ++ '(' :: rest) = trim cs := by
  rw [returnTypeChars, splitParameters?_append h]
  exact if_neg hauto

theorem arrow_infix_cons (hc : c ≠ '-') : ['-', '>'] <:+: c :: cs ↔ ['-', '>'] <:+: cs := by
  rw [List.infix_cons_iff, List.cons_prefix_cons]
  simp [Ne.symm hc]

/-- The last arrow is found, whatever stands in front of it. -/
theorem afterLast?_arrow (h : ¬ ['-', '>'] <:+: cs) (before : List Char) :
    afterLast? ['-', '>'] (before ++ '-' :: '>' :: cs) = some cs := by
  have hnone : afterLast? ['-', '>'] ('>' :: cs) = none :=
    afterLast?_eq_none ((arrow_infix_cons (by decide)).not.mpr h)
  refine afterLast?_append before ?_
  rw [afterLast?, hnone]
  rfl

/-- **Behind `auto` the return type is what follows the last arrow.** -/
theorem returnTypeChars_trailing (h : ¬ ['-', '>'] <:+: cs) (parameters : List Char) :
    returnTypeChars ("auto ".toList ++ '(' :: parameters ++ " -> ".toList ++ cs) = trim cs := by
  have hspace : ¬ ['-', '>'] <:+: ' ' :: cs := (arrow_infix_cons (by decide)).not.mpr h
  have hlast := afterLast?_arrow hspace ('(' :: parameters ++ [' '])
  have htext : "auto ".toList ++ '(' :: parameters ++ " -> ".toList ++ cs =
      "auto ".toList ++ '(' :: (parameters ++ [' '] ++ '-' :: '>' :: ' ' :: cs) := by simp
  rw [htext, returnTypeChars, splitParameters?_append (by decide)]
  dsimp only
  rw [if_pos (by decide)]
  simp only [List.cons_append] at hlast
  rw [hlast]
  exact trim_cons_of_blank (by decide) cs

theorem trim_ne_auto {s : String} (h : trimmed s ≠ "auto") : trim s.toList ≠ "auto".toList := by
  intro heq
  exact h (by rw [trimmed, heq, String.ofList_toList])

/-- **The return type of an ordinary function type is recovered.**  In front of the parameters stand
balanced brackets, with parentheses only inside them; or there stands `auto`, and the type follows
the last arrow. -/
theorem returnType_recovers :
    (∀ returned parameters suffix : String, Bracketed returned.toList → trimmed returned ≠ "auto" →
      returnType (returned ++ "(" ++ parameters ++ ")" ++ suffix) = trimmed returned) ∧
    ∀ returned parameters suffix : String, ¬ "->".toList <:+: returned.toList →
      returnType ("auto (" ++ parameters ++ ")" ++ suffix ++ " -> " ++ returned) =
        trimmed returned := by
  constructor
  · intro returned parameters suffix hbracketed hauto
    have htext : (returned ++ "(" ++ parameters ++ ")" ++ suffix).toList =
        returned.toList ++ '(' :: (parameters ++ ")" ++ suffix).toList := by simp
    rw [returnType, htext, returnTypeChars_append hbracketed (trim_ne_auto hauto), trimmed]
  · intro returned parameters suffix harrow
    have htext : ("auto (" ++ parameters ++ ")" ++ suffix ++ " -> " ++ returned).toList =
        "auto ".toList ++ '(' :: (parameters ++ ")" ++ suffix).toList ++ " -> ".toList ++
          returned.toList := by simp
    rw [returnType, htext, returnTypeChars_trailing harrow, trimmed]

/-- **The theorem at two types**: template arguments with parentheses in them, and parameters with
arrows in them. -/
theorem returnType_recovers_nested :
    returnType "std::map<int, void (*)(int[2])> (const bool (&)[3]) noexcept" =
        "std::map<int, void (*)(int[2])>" ∧
      returnType "auto (decltype(p->next), int (*)(char)) const -> std::vector<int> " =
        "std::vector<int>" := by
  have hplain := returnType_recovers.1 "std::map<int, void (*)(int[2])> " "const bool (&)[3]"
    " noexcept" (by decide) (by decide)
  have htrailing := returnType_recovers.2 "std::vector<int> " "decltype(p->next), int (*)(char)"
    " const" (by decide)
  exact ⟨hplain, htrailing⟩

/-! ## 4. Functions that return a pointer to a function -/

/-- The type of a function over `parameters` that returns a pointer or reference to a function over
`inner`, which returns `base`: the mark and the parameters stand inside the declarator. -/
def declaratorType (base mark parameters inner : String) : String :=
  base ++ " (" ++ mark ++ "(" ++ parameters ++ "))(" ++ inner ++ ")"

/-- What such a function returns. -/
def pointerType (base mark inner : String) : String := base ++ " (" ++ mark ++ ")(" ++ inner ++ ")"

/-- Of a declarator nothing is seen but what stands in front of it. -/
theorem returnType_space {base : String} (hbracketed : Bracketed base.toList)
    (hauto : trimmed base ≠ "auto") (rest : String) :
    returnType (base ++ " (" ++ rest) = trimmed base := by
  have htrim := trim_concat_of_blank (c := ' ') (by decide) base.toList
  have hauto' : trim (base.toList ++ [' ']) ≠ "auto".toList := by
    rw [htrim]
    exact trim_ne_auto hauto
  have htext : (base ++ " (" ++ rest).toList = base.toList ++ [' '] ++ '(' :: rest.toList := by
    simp
  rw [returnType, htext, returnTypeChars_append (hbracketed.concat (by decide)) hauto', htrim,
    trimmed]

/-- Of the type of a function its declaration keeps only the return type. -/
theorem addFunction_congr {type type' : String} (h : returnType type = returnType type')
    (canonical : Path → Path) (kind : Decl.Kind) (a : Dump.Attributes) (parts : List Dump.Node)
    (parent : Nat) (b : Dump.Builder) :
    Dump.addFunction canonical kind { a with qualType := some type } parts parent b =
      Dump.addFunction canonical kind { a with qualType := some type' } parts parent b := by
  have hdecl : Dump.functionOf canonical kind { a with qualType := some type } parts =
      Dump.functionOf canonical kind { a with qualType := some type' } parts := by
    unfold Dump.functionOf Dump.declOf
    rw [Option.map_some, Option.map_some, h]
    cases a.place <;> rfl
  rw [Dump.addFunction, Dump.addFunction, hdecl]

/-- **A function that returns a pointer to a function is taken for one that returns what this
function returns.**  The text that comes out is that of the function without the declarator, it is
never the type of the pointer, and the two functions add the same declarations to a tree. -/
theorem returnType_of_declarator (base mark parameters inner : String)
    (hbracketed : Bracketed base.toList) (hauto : trimmed base ≠ "auto") :
    returnType (declaratorType base mark parameters inner) = trimmed base ∧
      returnType (declaratorType base mark parameters inner) =
        returnType (base ++ " (" ++ parameters ++ ")") ∧
      returnType (declaratorType base mark parameters inner) ≠ pointerType base mark inner ∧
      ∀ (canonical : Path → Path) (kind : Decl.Kind) (a : Dump.Attributes) (parts : List Dump.Node)
        (parent : Nat) (b : Dump.Builder),
        Dump.addFunction canonical kind
            { a with qualType := some (declaratorType base mark parameters inner) } parts parent b =
          Dump.addFunction canonical kind
            { a with qualType := some (base ++ " (" ++ parameters ++ ")") } parts parent b := by
  have hdeclarator : returnType (declaratorType base mark parameters inner) = trimmed base := by
    have hreturn := returnType_space hbracketed hauto
      (mark ++ "(" ++ parameters ++ "))(" ++ inner ++ ")")
    simpa only [declaratorType, String.append_assoc] using hreturn
  have hplain : returnType (base ++ " (" ++ parameters ++ ")") = trimmed base := by
    have hreturn := returnType_space hbracketed hauto (parameters ++ ")")
    simpa only [String.append_assoc] using hreturn
  refine ⟨hdeclarator, hdeclarator.trans hplain.symm, ?_, ?_⟩
  · intro heq
    have hle := length_trimmed_le base
    have hlength := congrArg String.length (hdeclarator.symm.trans heq)
    simp only [pointerType, String.length_append] at hlength
    have hspace : " (".length = 2 := by decide
    omega
  · exact addFunction_congr (hdeclarator.trans hplain.symm)

/-- **The theorem at a reference**: the function is over `int[2]`, and it returns a reference to a
function over `bool`. -/
theorem returnType_of_declarator_reference :
    returnType "std::vector<int> (&&(int[2]))(bool)" = "std::vector<int>" ∧
      returnType "std::vector<int> (&&(int[2]))(bool)" ≠ "std::vector<int> (&&)(bool)" := by
  have hreference := returnType_of_declarator "std::vector<int>" "&&" "int[2]" "bool" (by decide)
    (by decide)
  exact ⟨hreference.1, hreference.2.2.1⟩

/-- **The type of a pointer to a function does not come out.**  The function is over `double`, and
it returns a pointer to a function from `char` to `int`. -/
theorem returnType_loses_pointer :
    Bracketed "int".toList ∧ trimmed "int" ≠ "auto" ∧
      declaratorType "int" "*" "double" "char" = "int (*(double))(char)" ∧
      pointerType "int" "*" "char" = "int (*)(char)" ∧
      returnType "int (*(double))(char)" ≠ "int (*)(char)" ∧
      returnType "int (*(double))(char)" = returnType "int (double)" := by
  decide

end CppSurface.TypeText
