import CppSurface.Proofs.Resolver.Moments
import Mathlib.Data.List.Dedup
import Mathlib.Data.List.Perm.Subperm

/-!
# How deep checks nest

The check of a type leads through the policy to checks of other types, and through these to more.
It ends for every unit and every policy, although nothing in sight gets smaller: a type that failed
is checked again whenever it comes up, and what was accepted may be taken back.  What does get
smaller, from a check to those inside it, is the number of types that are *not* under way, since a
type that is under way is not checked again.

Each level of nesting puts one more key under way, and all keys under way are different
(`Nested`).  So there are never more levels than there are different keys, which may be fewer than
there are types: two types of one key are never under way together.

The bound is about every moment in the middle of a check, so it is not read off the session in which
the check ends.  A *watched* check (`validateWatched`) does the same as an ordinary one, but looks
at what is under way each time a type has been added to it, and has no answer once that is not as it
should be.  Nothing is put under way at other moments, so a watched check that does answer has seen
all of them.  That watching makes no difference to an answer, and neither does a greater depth, is
one lemma (`validateWatched_refines`); that there is an answer under the bound is another
(`validateWatched_settles`).
-/

namespace CppSurface

/-! ## 1. Steps with fewer answers -/

namespace Step

variable {p p' q q' : Step} {s s' : Session}

/-- **Every answer of `p` is one of `q`**, and leaves the same session.  `p` may have fewer. -/
def Refines (p q : Step) : Prop := ∀ ⦃s answer⦄, p s = some answer → q s = some answer

namespace Refines

theorem refl (p : Step) : p.Refines p := fun _ _ h => h

theorem bind {k k' : Bool → Step} (hp : p.Refines p') (hk : ∀ b, (k b).Refines (k' b)) :
    (p.bind k).Refines (p'.bind k') := by
  rintro s ⟨b, s'⟩ h
  obtain ⟨c, m, h1, h2⟩ := bind_eq_some.mp h
  exact bind_eq_some.mpr ⟨c, m, hp h1, hk c h2⟩

theorem and (hp : p.Refines p') (hq : q.Refines q') : (p.and q).Refines (p'.and q') := by
  rw [and_eq_bind, and_eq_bind]
  refine hp.bind fun b => ?_
  cases b
  · exact refl _
  · exact hq

theorem or (hp : p.Refines p') (hq : q.Refines q') : (p.or q).Refines (p'.or q') := by
  rw [or_eq_bind, or_eq_bind]
  refine hp.bind fun b => ?_
  cases b
  · exact hq
  · exact refl _

theorem note (token : String) (hp : p.Refines p') : (note token p).Refines (note token p') :=
  fun _ _ h => hp h

theorem all {α : Type} {check check' : α → Step} (h : ∀ a, (check a).Refines (check' a))
    (as : List α) : (Step.all check as).Refines (Step.all check' as) := by
  induction as with
  | nil => exact refl _
  | cons a as ih => exact (h a).and ih

theorem inquire {verify verify' : String → Step} (h : ∀ w, (verify w).Refines (verify' w))
    (i : Inquiry) : (Step.inquire verify i).Refines (Step.inquire verify' i) := by
  induction i with
  | answer verdict => exact refl _
  | ask token next ih =>
    rw [inquire_ask, inquire_ask]
    exact (h token).bind ih

section Checks

variable {r : Resolver} {check check' : ValueType → Step} (h : ∀ t, (check t).Refines (check' t))

include h

theorem namedWith (text : String) :
    (r.namedWith check text).Refines (r.namedWith check' text) := by
  unfold Resolver.namedWith
  split
  · exact h _
  · exact refl _

theorem textWith (text : String) :
    (r.textWith (r.namedWith check) text).Refines (r.textWith (r.namedWith check') text) :=
  all (fun token => (inquire (namedWith h) (r.policy token)).note token) _

/-- **A member is checked alike by nested checks with fewer answers**, as far as these go. -/
theorem memberWith (owner : ValueType) (text : String) :
    (r.memberWith check owner text).Refines (r.memberWith check' owner text) := by
  unfold Resolver.memberWith
  refine (textWith h text).or ?_
  split
  · split
    · exact refl _
    · exact h _
  · exact refl _

end Checks

end Refines

end Step

namespace Resolver

variable {r : Resolver} {t : ValueType} {q : Question} {under : List TypeKey} {s : Session}
  {depth depth' : Nat}

/-! ## 2. Watched checks -/

/-- **The check of a type, watched**: as soon as a type has been put under way, the types under way
must be `permitted`, or else there is no answer. -/
def validateWatched (r : Resolver) (permitted : List TypeKey → Bool) :
    (depth : Nat) → ValueType → Step
  | 0, _ => fun _ => none
  | depth + 1, t => fun s =>
    if s.visited.contains t.key then some (true, s)
    else if permitted (s.enter t.key).visited.inProgress then
      match Step.all (r.memberWith (r.validateWatched permitted depth) t) t.memberTypes
          (s.enter t.key) with
      | some (holds, s') => some (holds, conclude t.key s.visited.order.length holds s')
      | none => none
    else none

/-- The step that a question takes, with a check for the types that it opens. -/
def stepWith (r : Resolver) (check : ValueType → Step) : Question → Step
  | .valueType t => check t
  | .function f =>
    Step.all (fun text => (r.textWith (r.namedWith check) text).or (r.namedWith check text))
      f.simpleTypes
  | .text text => r.textWith (r.namedWith check) text
  | .name token => r.namedWith check token

theorem stepAt_eq_stepWith (r : Resolver) (depth : Nat) (q : Question) :
    r.stepAt depth q = r.stepWith (r.validate depth) q := by
  cases q <;> rfl

/-- A check that may put anything under way is an ordinary one. -/
theorem validateWatched_true (r : Resolver) (depth : Nat) (t : ValueType) :
    r.validateWatched (fun _ => true) depth t = r.validate depth t := by
  induction depth generalizing t with
  | zero => rfl
  | succ depth ih =>
    have hchecks : r.validateWatched (fun _ => true) depth = r.validate depth := funext ih
    funext s
    rw [validateWatched, validate, hchecks]
    rfl

/-- **Watching less, and nesting deeper, keeps every answer.** -/
theorem validateWatched_refines {permitted permitted' : List TypeKey → Bool}
    (h : ∀ under, permitted under = true → permitted' under = true) (hdepth : depth ≤ depth')
    (t : ValueType) :
    (r.validateWatched permitted depth t).Refines (r.validateWatched permitted' depth' t) := by
  induction depth generalizing depth' t with
  | zero => exact fun s answer hnone => absurd hnone (by simp [validateWatched])
  | succ depth ih =>
    obtain ⟨below, rfl⟩ : ∃ below, depth' = below + 1 := ⟨depth' - 1, by omega⟩
    have hmembers : (Step.all (r.memberWith (r.validateWatched permitted depth) t)
          t.memberTypes).Refines
        (Step.all (r.memberWith (r.validateWatched permitted' below) t) t.memberTypes) :=
      .all (.memberWith (fun u => ih (by omega) u) t) _
    intro s answer hanswer
    unfold validateWatched at hanswer ⊢
    split
    · rename_i hcontains
      rwa [if_pos hcontains] at hanswer
    · rename_i hcontains
      rw [if_neg hcontains] at hanswer
      split at hanswer
      · rename_i hpermitted
        rw [if_pos (h _ hpermitted)]
        split at hanswer
        · rename_i holds m hm
          rw [hmembers hm]
          exact hanswer
        · exact absurd hanswer (by simp)
      · exact absurd hanswer (by simp)

theorem stepWith_refines {check check' : ValueType → Step} (h : ∀ t, (check t).Refines (check' t))
    (q : Question) : (r.stepWith check q).Refines (r.stepWith check' q) := by
  cases q with
  | valueType t => exact h t
  | function f => exact .all (fun text => .or (.textWith h text) (.namedWith h text)) _
  | text text => exact .textWith h text
  | name token => exact .namedWith h token

/-! ## 3. Keys under way -/

/-- The keys among which those under way are found, without repetition. -/
def differentKeys (types : List ValueType) : List (String × List Path.Component) :=
  (types.map (·.key.identity)).dedup

theorem mem_differentKeys {types : List ValueType} (ht : t ∈ types) :
    t.key.identity ∈ differentKeys types :=
  List.mem_dedup.mpr (List.mem_map_of_mem ht)

/-- **The types under way have different keys**, all of them among those of `types`. -/
structure Nested (types : List ValueType) (under : List TypeKey) : Prop where
  different : (under.map TypeKey.identity).Nodup
  among : under.map TypeKey.identity ⊆ differentKeys types

namespace Nested

variable {types : List ValueType}

theorem nil (types : List ValueType) : Nested types [] := ⟨List.nodup_nil, by simp⟩

/-- A type that is not taken to hold is none of those under way. -/
theorem cons (h : Nested types under) (ht : t ∈ types) (hu : t.key.within under = false) :
    Nested types (t.key :: under) where
  different := by
    refine List.nodup_cons.mpr ⟨fun hmem => ?_, h.different⟩
    obtain ⟨k, hk, hidentity⟩ := List.mem_map.mp hmem
    have hsame : t.key.same k = true := TypeKey.same_iff_identity.mpr hidentity.symm
    exact absurd (List.any_eq_true.mpr ⟨k, hk, hsame⟩) (by simpa [TypeKey.within] using hu)
  among := List.cons_subset.mpr ⟨mem_differentKeys ht, h.among⟩

/-- **There are no more types under way than different keys.** -/
theorem length_le (h : Nested types under) : under.length ≤ (differentKeys types).length := by
  have hle := (h.different.subperm h.among).length_le
  rwa [List.length_map] at hle

end Nested

/-! ## 4. Every watched check has an answer -/

/-- A watched check only adds, because what it does an ordinary one does too. -/
theorem validateWatched_frames (r : Resolver) (permitted : List TypeKey → Bool) (depth : Nat)
    (t : ValueType) : (r.validateWatched permitted depth t).Frames := by
  intro s b s' hs h
  have hplain : r.validate depth t s = some (b, s') := by
    rw [← validateWatched_true]
    exact validateWatched_refines (fun _ _ => rfl) (Nat.le_refl depth) t h
  exact validate_frames r depth t hs hplain

/-- **A check that is given a level for every key has an answer, although it is watched for the
number of keys.**  With each level one more of them is under way. -/
theorem validateWatched_settles {types : List ValueType} (hsub : r.types ⊆ types) (ht : t ∈ types)
    (hu : Nested types under) (hdepth : (differentKeys types).length < depth + under.length) :
    (r.validateWatched (fun under => under.length ≤ (differentKeys types).length) depth t).Settles
      under := by
  induction depth generalizing t under with
  | zero =>
    have := hu.length_le
    omega
  | succ depth ih =>
    refine ⟨validateWatched_frames r _ _ t, fun s hsound hs => ?_⟩
    unfold validateWatched
    split
    · exact ⟨true, s, rfl⟩
    · rename_i hcontains
      have hout : t.key.within under = false := by
        rw [Bool.not_eq_true, Visited.contains, Bool.or_eq_false_iff, hs] at hcontains
        exact hcontains.2
      have hin : Nested types (t.key :: under) := hu.cons ht hout
      have hprogress : (s.enter t.key).visited.inProgress = t.key :: under := by
        rw [Session.enter_inProgress, hs]
      have hmembers : (Step.all (r.memberWith (r.validateWatched
            (fun under => under.length ≤ (differentKeys types).length) depth) t)
          t.memberTypes).Settles (t.key :: under) := by
        refine (Step.settles_closed _).all ((Step.settles_closed _).memberWith (fun u hu' => ?_) t) _
        refine ih (hsub hu') hin ?_
        rw [List.length_cons]
        omega
      obtain ⟨b, m, hm⟩ := hmembers.2 (s.enter t.key) (hsound.enter _) hprogress
      rw [if_pos (decide_eq_true (by rw [hprogress]; exact hin.length_le)), hm]
      exact ⟨b, _, rfl⟩

/-! ## 5. Every question has an answer -/

/-- The value types that a question may open: those of the unit, and the one that it is about. -/
def openedBy (r : Resolver) : Question → List ValueType
  | .valueType t => t :: r.types
  | _ => r.types

theorem types_subset_openedBy (r : Resolver) (q : Question) : r.types ⊆ r.openedBy q := by
  cases q with
  | valueType t => exact List.subset_cons_self t r.types
  | _ => exact List.Subset.refl _

/-- A closed property of the checks of all types that a question may open is one of the question. -/
theorem stepWith_of_closed {P : Step → Prop} (hP : Step.Closed P) {check : ValueType → Step}
    (hc : ∀ t ∈ r.openedBy q, P (check t)) : P (r.stepWith check q) := by
  have hnamed : ∀ token, P (r.namedWith check token) :=
    hP.namedWith fun t ht => hc t (r.types_subset_openedBy q ht)
  cases q with
  | valueType t => exact hc t List.mem_cons_self
  | function f => exact hP.all (fun text => hP.or (hP.textWith hnamed text) (hnamed text)) _
  | text text => exact hP.textWith hnamed text
  | name token => exact hnamed token

/-- Between questions nothing is under way, whatever value types they were about. -/
theorem askAll_sound (r : Resolver) (qs : List Question) :
    (r.askAll .start qs).visited.inProgress = [] ∧ (r.askAll .start qs).visited.Sound := by
  refine askAll_invariant (I := fun s => s.visited.inProgress = [] ∧ s.visited.Sound) ?_
    ⟨rfl, Visited.sound_empty⟩
  rintro q - s ⟨hprogress, hsound⟩
  have hext := stepAt_of_closed Step.frames_closed (validate_frames r r.depth) q hsound
    (stepAt_depth_eq_some hsound q)
  exact ⟨hext.inProgress.trans hprogress, hext.sound⟩

/-- **Every question has an answer, and at no moment are more checks under way than there are
different keys** among the types of the unit and the type that is asked about.  Whatever was asked
before, whatever the types are and whatever the policy asks on the way: a check that is given one
level more than there are such keys, or still more, and that is watched for their number each time a
type has been put under way, answers, and its answer is that of the question. -/
theorem ask_returns_within (r : Resolver) (earlier : List Question) (q : Question) (spare : Nat) :
    let s := r.askAll .start earlier
    let bound := (differentKeys (r.openedBy q)).length
    r.stepWith (r.validateWatched (fun under => under.length ≤ bound) (bound + 1 + spare)) q s =
      some (r.ask q s) := by
  intro s bound
  obtain ⟨hprogress, hsound⟩ : s.visited.inProgress = [] ∧ s.visited.Sound := r.askAll_sound earlier
  have hsettles : (r.stepWith (r.validateWatched (fun under => under.length ≤ bound)
      (bound + 1 + spare)) q).Settles [] := by
    refine stepWith_of_closed (Step.settles_closed []) fun t ht => ?_
    refine validateWatched_settles (r.types_subset_openedBy q) ht (Nested.nil _) ?_
    rw [List.length_nil]
    omega
  obtain ⟨b, s', hanswer⟩ := hsettles.2 s hsound hprogress
  -- The same answer is given by a check that is not watched and deep enough for both.
  have hdeep : ∀ {permitted depth}, depth ≤ bound + 1 + spare + r.depth →
      (r.stepWith (r.validateWatched permitted depth) q).Refines
        (r.stepWith (r.validateWatched (fun _ => true) (bound + 1 + spare + r.depth)) q) :=
    fun hdepth => stepWith_refines (validateWatched_refines (fun _ _ => rfl) hdepth) q
  have hask : r.stepWith (r.validateWatched (fun _ => true) r.depth) q s = some (r.ask q s) := by
    rw [funext (r.validateWatched_true r.depth), ← stepAt_eq_stepWith]
    exact stepAt_depth_eq_some hsound q
  rw [hanswer, ← hdeep (Nat.le_add_right _ _) hanswer, hdeep (Nat.le_add_left _ _) hask]

-- The bound is reached: in a circle of two both are under way when the first one is met again.
example :
    let r : Resolver := ⟨[sample "A" "vector<B>", sample "B" "A"], AllowList.standard.policy⟩
    let a := sample "A" "vector<B>"
    (differentKeys (r.openedBy (.valueType a))).length = 2 ∧
      r.validateWatched (fun under => under.length ≤ 1) 9 a .start = none := by
  decide +kernel

end Resolver

end CppSurface
