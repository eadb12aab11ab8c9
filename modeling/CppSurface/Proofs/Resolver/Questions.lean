import CppSurface.Proofs.Resolver.Steps

/-!
# Sequences of questions

Four questions can be put to a resolver from outside: whether a value type holds up, whether a word
names one that does, whether the words of a text pass, and whether a function can be published.
They share one session, so an answer may depend on what was asked before.  This module fixes what a
sequence of questions is, and what every question does to the session: it has an answer, it leaves
nothing under way, and it only adds acceptances.

A unit declares each type once, so the keys of its value types differ (`DistinctKeys`).  A key then
stands for one record.
-/

namespace CppSurface

/-! ## 1. Types with different keys -/

namespace TypeKey

variable {k l : TypeKey}

/-- What a key says when the spelling of its file is left out. -/
def identity (k : TypeKey) : String × List Path.Component := (k.name, k.file.components)

theorem same_iff_identity : k.same l = true ↔ k.identity = l.identity := by
  simp [same_iff, identity]

end TypeKey

/-- No two value types of a list are the same type. -/
def DistinctKeys (types : List ValueType) : Prop :=
  types.Pairwise fun t u => t.key.same u.key = false

instance (types : List ValueType) : Decidable (DistinctKeys types) :=
  inferInstanceAs (Decidable (types.Pairwise fun t u => t.key.same u.key = false))

/-- **A key stands for one value type.** -/
theorem DistinctKeys.eq_of_same {types : List ValueType} (hd : DistinctKeys types)
    {t u : ValueType} (ht : t ∈ types) (hu : u ∈ types) (h : t.key.same u.key = true) : t = u := by
  induction hd with
  | nil => exact absurd ht (by simp)
  | @cons x xs hx _ ih =>
    rcases List.mem_cons.mp ht with rfl | ht'
    · rcases List.mem_cons.mp hu with rfl | hu'
      · rfl
      · exact absurd h (by simp [hx u hu'])
    · rcases List.mem_cons.mp hu with rfl | hu'
      · exact absurd (TypeKey.same_symm h) (by simp [hx t ht'])
      · exact ih ht' hu'

/-- Among types with different keys, a type is the one that is found under its key. -/
theorem DistinctKeys.find?_eq {types : List ValueType} (hd : DistinctKeys types) {t : ValueType}
    {k : TypeKey} (ht : t ∈ types) (hk : t.key.same k = true) :
    types.find? (fun u => u.key.same k) = some t := by
  obtain ⟨u, hu⟩ : ∃ u, types.find? (fun u => u.key.same k) = some u :=
    Option.isSome_iff_exists.mp (List.find?_isSome.mpr ⟨t, ht, hk⟩)
  have hsame : u.key.same k = true := by simpa using List.find?_some hu
  rw [hu, hd.eq_of_same (List.mem_of_find?_eq_some hu) ht
    (TypeKey.same_trans hsame (TypeKey.same_symm hk))]

/-! ## 2. Questions -/

/-- The simple types of a function: its parameters', then the one it returns. -/
def Signature.simpleTypes (f : Signature) : List String :=
  f.parameters.simpleTypes ++ [f.simpleReturnType]

/-- A question to a resolver. -/
inductive Question where
  /-- Whether a value type holds up. -/
  | valueType (t : ValueType)
  /-- Whether a function can be published. -/
  | function (f : Signature)
  /-- Whether every word of a text passes the policy. -/
  | text (text : String)
  /-- Whether a word names a value type that holds up. -/
  | name (token : String)

/-- A question that is asked of no value type outside a list. -/
def Question.Within (types : List ValueType) : Question → Prop
  | .valueType t => t ∈ types
  | _ => True

namespace Resolver

variable {r : Resolver} {q : Question} {s : Session}

/-- The answer to a question, and the session after it. -/
def ask (r : Resolver) : Question → Session → Bool × Session
  | .valueType t => r.checkValueType t
  | .function f => r.checkFunction f
  | .text text => r.checkText text
  | .name token => r.checkName token

/-- The session after a sequence of questions. -/
def askAll (r : Resolver) (s : Session) (qs : List Question) : Session :=
  qs.foldl (fun s q => (r.ask q s).2) s

@[simp] theorem askAll_nil (r : Resolver) (s : Session) : r.askAll s [] = s := rfl

@[simp] theorem askAll_cons (r : Resolver) (s : Session) (q : Question) (qs : List Question) :
    r.askAll s (q :: qs) = r.askAll (r.ask q s).2 qs := rfl

/-- What every question keeps, a sequence of questions keeps. -/
theorem askAll_invariant {I : Session → Prop} {qs : List Question}
    (hstep : ∀ q ∈ qs, ∀ s, I s → I (r.ask q s).2) (hs : I s) : I (r.askAll s qs) := by
  induction qs generalizing s with
  | nil => exact hs
  | cons q qs ih =>
    rw [askAll_cons]
    exact ih (fun q' hq' => hstep q' (List.mem_cons_of_mem _ hq'))
      (hstep q List.mem_cons_self s hs)

/-- The step that a question takes. -/
def step (r : Resolver) : Question → Step
  | .valueType t => r.validate r.depth t
  | .function f => Step.all r.signatureType f.simpleTypes
  | .text text => r.textWith (r.namedWith (r.validate r.depth)) text
  | .name token => r.namedWith (r.validate r.depth) token

theorem ask_eq_run (r : Resolver) (q : Question) (s : Session) : r.ask q s = run (r.step q) s := by
  cases q <;> rfl

/-- **A closed property of the checks of all types of the unit is one of all questions.** -/
theorem step_of_closed {P : Step → Prop} (hP : Step.Closed P)
    (hc : ∀ t ∈ r.types, P (r.validate r.depth t)) (hq : q.Within r.types) : P (r.step q) := by
  have htext : ∀ text, P (r.textWith (r.namedWith (r.validate r.depth)) text) :=
    hP.textWith (hP.namedWith hc)
  cases q with
  | valueType t => exact hc t hq
  | function f => exact hP.all (fun text => hP.or (htext text) (hP.namedWith hc text)) _
  | text text => exact htext text
  | name token => exact hP.namedWith hc token

/-- **Every question has an answer**, whatever is under way. -/
theorem step_settles (hq : q.Within r.types) (under : List TypeKey) :
    (r.step q).Settles under :=
  step_of_closed (Step.settles_closed under) (fun t _ => validate_depth_settles t) hq

/-- A question carries out its step. -/
theorem step_eq_some (hq : q.Within r.types) (hs : s.visited.Sound) :
    r.step q s = some (r.ask q s) := by
  rw [ask_eq_run]
  exact eq_some_run hs (step_settles hq _)

/-- The step of a question that was answered so. -/
theorem step_of_answer {b : Bool} (hq : q.Within r.types) (hs : s.visited.Sound)
    (hb : (r.ask q s).1 = b) : r.step q s = some (b, (r.ask q s).2) := by
  rw [step_eq_some hq hs, ← hb]

/-- A question only adds to the session. -/
theorem ask_extends (hq : q.Within r.types) (hs : s.visited.Sound) : s.Extends (r.ask q s).2 :=
  (step_settles hq s.visited.inProgress).1 hs (step_eq_some hq hs)

/-- **After a sequence of questions nothing is under way, and no type was accepted twice.** -/
theorem askAll_quiet {qs : List Question} (hqs : ∀ q ∈ qs, q.Within r.types) :
    (r.askAll .start qs).visited.inProgress = [] ∧ (r.askAll .start qs).visited.Sound := by
  refine askAll_invariant (I := fun s => s.visited.inProgress = [] ∧ s.visited.Sound) ?_ ?_
  · rintro q hq s ⟨hprog, hsound⟩
    have hext := ask_extends (hqs q hq) hsound
    exact ⟨hext.inProgress.trans hprog, hext.sound⟩
  · exact ⟨rfl, Visited.sound_empty⟩

/-! ## 3. Accepted types are types of the unit -/

/-- Every accepted type is one of the unit. -/
def Accounted (r : Resolver) (s : Session) : Prop :=
  ∀ k ∈ s.visited.order, ∃ t ∈ r.types, t.key = k

/-- A check of a type of the unit accepts no other than such. -/
theorem validate_accounted (r : Resolver) (depth : Nat) {t : ValueType} (ht : t ∈ r.types) :
    (r.validate depth t).Keeps r.Accounted := by
  induction depth generalizing t with
  | zero => exact fun s b s' _ h => absurd h (by simp [validate])
  | succ depth ih =>
    intro s b s' hs h
    rcases validate_cases h with ⟨-, -, rfl⟩ | ⟨-, m, hm, rfl⟩
    · exact hs
    · have hP : Step.Closed (Step.Keeps r.Accounted) := Step.keeps_closed fun _ _ => id
      have hmembers : (Step.all (r.memberWith (r.validate depth) t) t.memberTypes).Keeps
          r.Accounted := hP.all (hP.memberWith (fun u hu => ih hu) t) _
      have hm' : r.Accounted m := hmembers (s := s.enter t.key) hs hm
      intro k hk
      cases b with
      | true =>
        rcases mem_order_accept hk with hk | rfl
        · exact hm' k hk
        · exact ⟨t, ht, rfl⟩
      | false => exact hm' k (List.mem_of_mem_take hk)

/-- **After a sequence of questions only types of the unit are accepted**, whatever the policy. -/
theorem askAll_accounted {qs : List Question} (hqs : ∀ q ∈ qs, q.Within r.types) :
    r.Accounted (r.askAll .start qs) := by
  refine askAll_invariant (fun q hq s hs => ?_)
    fun k hk => absurd hk (by simp [Session.start, Visited.empty])
  have hkeeps : (r.step q).Keeps r.Accounted :=
    step_of_closed (Step.keeps_closed fun _ _ => id) (fun t ht => validate_accounted r _ ht)
      (hqs q hq)
  rw [ask_eq_run, run]
  cases hstep : r.step q s with
  | none => exact hs
  | some answer => exact hkeeps hs hstep

end Resolver

end CppSurface
