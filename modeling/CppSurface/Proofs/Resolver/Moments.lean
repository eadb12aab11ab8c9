import CppSurface.Proofs.Resolver.Verdicts

/-!
# What every call does to a session, at every moment of it

Checks are made inside checks: by the members of a type, and by the policy in the middle of a
scan.  All of them work on the same session, so a check that fails may come after others that held
and before others that are still under way.  This module says what is true at *every* moment of a
session, not only between the questions from outside, and for every policy.

A moment (`Moment`) is a session that can be there when a call is made.  Nothing happens to a
session but three things: a word is noted, the check of a type begins, or a check that was begun
has come to its answer.  The last of them is one constructor, because `Resolver.validate` begins
and ends its check itself; its depth is left open, so it stands for the calls of policies and
members as well as for those from outside.

The invariant that carries the proof is `Visited.Sound`.  It is what makes taking back exact, and
by `validate_frames` every call keeps it.
-/

namespace CppSurface

namespace Resolver

variable {r : Resolver} {s s' : Session} {b : Bool} {t : ValueType} {depth : Nat}

/-! ## 1. Calls at any depth -/

/-- The step that a question takes when at most `depth` checks may nest in it.  From outside the
depth is `Resolver.depth`; the calls inside a check have what that leaves them. -/
def stepAt (r : Resolver) (depth : Nat) : Question → Step
  | .valueType t => r.validate depth t
  | .function f =>
    Step.all (fun text => (r.textWith (r.namedWith (r.validate depth)) text).or
      (r.namedWith (r.validate depth) text)) f.simpleTypes
  | .text text => r.textWith (r.namedWith (r.validate depth)) text
  | .name token => r.namedWith (r.validate depth) token

theorem step_eq_stepAt (r : Resolver) (q : Question) : r.step q = r.stepAt r.depth q := by
  cases q <;> rfl

/-- A closed property of all checks is one of all calls. -/
theorem stepAt_of_closed {P : Step → Prop} (hP : Step.Closed P)
    (hc : ∀ t, P (r.validate depth t)) (q : Question) : P (r.stepAt depth q) := by
  have hnamed : ∀ token, P (r.namedWith (r.validate depth) token) :=
    hP.namedWith fun t _ => hc t
  have htext : ∀ text, P (r.textWith (r.namedWith (r.validate depth)) text) :=
    hP.textWith hnamed
  cases q with
  | valueType t => exact hc t
  | function f => exact hP.all (fun text => hP.or (htext text) (hnamed text)) _
  | text text => exact htext text
  | name token => exact hnamed token

/-- A question from outside has an answer in every sound session, also about a type that is not of
the unit. -/
theorem stepAt_depth_eq_some (hs : s.visited.Sound) (q : Question) :
    r.stepAt r.depth q s = some (r.ask q s) := by
  have hsettles : (r.stepAt r.depth q).Settles s.visited.inProgress :=
    stepAt_of_closed (Step.settles_closed _) validate_depth_settles q
  rw [ask_eq_run, step_eq_stepAt]
  exact eq_some_run hs hsettles

/-! ## 2. Moments -/

/-- **The sessions that can be there when a call is made**, from outside or inside another. -/
inductive Moment (r : Resolver) : Session → Prop
  /-- Before the first call. -/
  | start : Moment r .start
  /-- The policy is asked about a word. -/
  | noted {s : Session} (token : String) :
      Moment r s → Moment r { s with asked := token :: s.asked }
  /-- The check of a type begins that is not taken to hold already. -/
  | begun {s : Session} {t : ValueType} :
      Moment r s → s.visited.contains t.key = false → Moment r (s.enter t.key)
  /-- A check has come to its answer. -/
  | checked {s s' : Session} {t : ValueType} {depth : Nat} {b : Bool} :
      Moment r s → r.validate depth t s = some (b, s') → Moment r s'

/-- **At every moment the set holds just the accepted types, and each was accepted once.** -/
theorem Moment.sound (h : r.Moment s) : s.visited.Sound := by
  induction h with
  | start => exact Visited.sound_empty
  | noted _ _ ih => exact ih
  | begun _ _ ih => exact ih.enter _
  | checked _ hcheck ih => exact (validate_frames r _ _ ih hcheck).sound

/-- **A call leads from moment to moment.**  A check, once begun, is a sequence of scans of texts
and of checks of types; a scan notes words and asks for names.  So every call inside another is made
at a moment, as is every call after it. -/
theorem Moment.call (h : r.Moment s) {q : Question} (hcall : r.stepAt depth q s = some (b, s')) :
    r.Moment s' :=
  stepAt_of_closed (P := Step.Keeps r.Moment) (Step.keeps_closed fun _ token hs => hs.noted token)
    (fun _ _ _ _ hs hcheck => hs.checked hcheck) q h hcall

/-! ## 3. The frame of a call -/

/-- **At every moment of a session, whatever the policy is:** a check that fails leaves the session
as it found it; every call leaves under way what was under way, and the acceptances that were there
in front of the new ones; and the order of acceptance names no type twice and names just the types
of the set.  Calls lead to moments again, and those from outside have an answer. -/
theorem moment_frame (r : Resolver) {s : Session} (h : r.Moment s) :
    (∀ depth t s', r.validate depth t s = some (false, s') → s'.visited = s.visited) ∧
      (∀ depth q b s', r.stepAt depth q s = some (b, s') →
        s'.visited.inProgress = s.visited.inProgress ∧
          s.visited.order <+: s'.visited.order ∧ r.Moment s') ∧
      (s.visited.order.Pairwise (fun k l => k.same l = false) ∧
        ∀ k : TypeKey, k.within s.visited.accepted = k.within s.visited.order) ∧
      ∀ q, r.stepAt r.depth q s = some (r.ask q s) := by
  have hs := h.sound
  refine ⟨fun depth t s' hcheck => validate_rollback hs hcheck, ?_, ⟨hs.distinct, ?_⟩, ?_⟩
  · intro depth q b s' hcall
    have hext := stepAt_of_closed Step.frames_closed (validate_frames r depth) q hs hcall
    exact ⟨hext.inProgress, hext.order, h.call hcall⟩
  · intro k
    rw [hs.accepted]
  · exact stepAt_depth_eq_some hs

/-! ## 4. Non-vacuity

Two types that hold each other, and a third that holds one of them and something unknown.  While
the first is under way, the check of the third accepts the second, fails, and takes it back. -/

/-- The circle, and a type that leans on it in vain. -/
def leaning : List ValueType :=
  [sample "A" "vector<B>", sample "B" "A", sample "D" "pair<B, Unknown>"]

/-- **What was accepted inside the failed check is gone, and the first type is still under way.** -/
theorem leaning_taken_back :
    let r : Resolver := ⟨leaning, AllowList.standard.policy⟩
    let s := Session.start.enter (sample "A" "vector<B>").key
    let d := sample "D" "pair<B, Unknown>"
    (r.validate 3 (sample "B" "A") (s.enter d.key)).map (·.2.visited.order) =
        some [(sample "B" "A").key] ∧
      ∃ s', r.validate 4 d s = some (false, s') ∧ s'.visited = s.visited := by
  intro r s d
  have hfails : (r.validate 4 d s).map (·.1) = some false := by decide +kernel
  obtain ⟨⟨holds, s'⟩, hcheck, hholds⟩ := Option.map_eq_some_iff.mp hfails
  obtain rfl : holds = false := hholds
  have hmoment : r.Moment s := .begun .start rfl
  obtain ⟨htaken, -⟩ := moment_frame r hmoment
  exact ⟨by decide +kernel, s', hcheck, htaken 4 d s' hcheck⟩

end Resolver

end CppSurface
