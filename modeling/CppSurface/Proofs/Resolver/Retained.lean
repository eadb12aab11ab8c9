import CppSurface.Proofs.Resolver.Verdicts
import Mathlib.Data.List.Nodup
import Mathlib.Logic.Relation

/-!
# What a resolver retains

Two sequences of the same questions, in different order, scan texts in different sessions: a scan
stops at its first failure, a type that is accepted or under way is not looked into again, and a
check that fails takes its acceptances back.  Still the accepted types are the same at the end.

The reason is that what a question leaves behind can be said without a session.  A question *draws*
the tenable types that its scan comes to, if every word is answered from the tenable types
(`Question.draws`).  A type draws, in the same way, what the scan of its member texts comes to.
What remains after a question is what was there, and all that can be reached from the types it
draws.

A check of an untenable type leaves nothing behind, so only checks below tenable types matter, and
among those every answer is the one that `Judges.eq_true_iff` gives.  `Steady` describes the
sessions between such steps.  As in a depth-first search, an accepted type may have drawn one whose
check is still under way; when none is, the accepted types are closed under drawing.
-/

namespace CppSurface

namespace Resolver

/-! ## 1. Drawing -/

/-- What a scan draws from the elements of a list: it goes on after those that pass, and stops
after the first that does not. -/
def scan {α : Type} (passes : α → Prop) (draws : α → Set TypeKey) : List α → Set TypeKey
  | [] => ∅
  | x :: xs => {k | k ∈ draws x ∨ passes x ∧ k ∈ scan passes draws xs}

section

variable (r : Resolver) (a : AllowList)

/-- A value type draws itself, if it is tenable. -/
def drawnByType (t : ValueType) : Set TypeKey := {k | k = t.key ∧ k ∈ r.tenable a}

/-- A name draws the tenable type that it stands for. -/
def drawnByName (text : String) : Set TypeKey :=
  {k | ∃ t, r.find? text = some t ∧ t.key = k ∧ k ∈ r.tenable a}

/-- The words of a text draw those that they name, listed words excepted. -/
def drawnByWords (text : String) : Set TypeKey :=
  scan (fun w => a.lists w = true ∨ r.Names (r.tenable a) w)
    (fun w => {k | ¬ a.lists w = true ∧ k ∈ r.drawnByName a w}) (TypeText.tokens text)

/-- A text draws what its words draw, and what it names if the words do not all pass. -/
def drawnByText (text : String) : Set TypeKey :=
  {k | k ∈ r.drawnByWords a text ∨
    ¬ r.SupportsWords a (r.tenable a) text ∧ k ∈ r.drawnByName a text}

/-- What a list of texts draws. -/
def drawnByTexts (texts : List String) : Set TypeKey :=
  scan (r.Supports a (r.tenable a)) (r.drawnByText a) texts

/-- A type draws another by its member texts. -/
def DrawsIn (k l : TypeKey) : Prop := ∃ t ∈ r.types, t.key = k ∧ l ∈ r.drawnByTexts a t.memberTypes

/-- A type leads to another through types that are drawn one by the other. -/
def LeadsTo : TypeKey → TypeKey → Prop := Relation.ReflTransGen (r.DrawsIn a)

end

end Resolver

/-- **What a question draws.** -/
def Question.draws (r : Resolver) (a : AllowList) : Question → Set TypeKey
  | .valueType t => r.drawnByType a t
  | .function f => r.drawnByTexts a f.simpleTypes
  | .text words => r.drawnByWords a words
  | .name token => r.drawnByName a token

namespace Resolver

variable {r : Resolver} {a : AllowList} {s s' m : Session} {b : Bool} {k : TypeKey}

theorem scan_subset {α : Type} {passes : α → Prop} {draws : α → Set TypeKey} {S : Set TypeKey}
    (h : ∀ x, draws x ⊆ S) (xs : List α) : scan passes draws xs ⊆ S := by
  induction xs with
  | nil => exact Set.empty_subset S
  | cons x xs ih =>
    rintro k (hk | ⟨-, hk⟩)
    · exact h x hk
    · exact ih hk

theorem drawnByName_subset (text : String) : r.drawnByName a text ⊆ r.tenable a := by
  rintro k ⟨t, -, -, hk⟩
  exact hk

theorem drawnByWords_subset (text : String) : r.drawnByWords a text ⊆ r.tenable a :=
  scan_subset (fun w _ hk => drawnByName_subset w hk.2) _

theorem drawnByTexts_subset (texts : List String) : r.drawnByTexts a texts ⊆ r.tenable a := by
  refine scan_subset (fun text => ?_) texts
  rintro k (hk | ⟨-, hk⟩)
  · exact drawnByWords_subset text hk
  · exact drawnByName_subset text hk

/-- Only tenable types are drawn. -/
theorem draws_subset (q : Question) : q.draws r a ⊆ r.tenable a := by
  cases q with
  | valueType t => exact fun k hk => hk.2
  | function f => exact drawnByTexts_subset _
  | text text => exact drawnByWords_subset text
  | name token => exact drawnByName_subset token

/-! ## 2. Steady sessions -/

/-- **A session between steps below tenable types.**  What is under way is tenable, so is what is
accepted, and what an accepted type draws is accepted or under way. -/
structure Steady (r : Resolver) (a : AllowList) (under : List TypeKey) (s : Session) : Prop where
  inProgress : s.visited.inProgress = under
  leans : r.Leans a s
  tenable : ∀ t ∈ r.types, t.key.within under = true → t.key ∈ r.tenable a
  accepted : ∀ k ∈ s.visited.order, k ∈ r.tenable a
  drawn : ∀ t ∈ r.types, t.key.within s.visited.order = true →
    r.drawnByTexts a t.memberTypes ⊆ s.holding

theorem steady_start (r : Resolver) (a : AllowList) : r.Steady a [] .start where
  inProgress := rfl
  leans := leans_start r a
  tenable _ _ h := absurd h (by simp [TypeKey.within])
  accepted _ h := absurd h (by simp [Session.start, Visited.empty])
  drawn _ _ h := absurd h (by simp [Session.start, Visited.empty, TypeKey.within])

namespace Steady

variable {under : List TypeKey}

/-- Being steady is a matter of what is accepted and what is under way. -/
theorem congr (h : s'.visited = s.visited) (hs : r.Steady a under s) : r.Steady a under s' where
  inProgress := by rw [h]; exact hs.inProgress
  leans := hs.leans.congr h
  tenable := hs.tenable
  accepted := by rw [h]; exact hs.accepted
  drawn := by simpa only [Session.holding, h] using hs.drawn

/-- A session stays steady when the check of a tenable type begins. -/
theorem enter (hd : DistinctKeys r.types) {t : ValueType} (ht : t ∈ r.types)
    (hV : t.key ∈ r.tenable a) (hs : r.Steady a under s) :
    r.Steady a (t.key :: under) (s.enter t.key) where
  inProgress := by simp [hs.inProgress]
  leans := hs.leans.enter t.key
  tenable u hu hk := by
    simp only [TypeKey.within, List.any_cons, Bool.or_eq_true] at hk
    rcases hk with hk | hk
    · obtain rfl := hd.eq_of_same hu ht hk
      exact hV
    · exact hs.tenable u hu hk
  accepted := hs.accepted
  drawn u hu hk := (hs.drawn u hu hk).trans (s.holding_subset_enter t.key)

/-- A session stays steady when the check of a tenable type ends, with all that it draws accepted
or under way. -/
theorem conclude (hd : DistinctKeys r.types) {t : ValueType} (ht : t ∈ r.types)
    (hV : t.key ∈ r.tenable a) (hs : r.Steady a under s) (n : Nat)
    (hk : s.visited.contains t.key = false) (he : (s.enter t.key).Extends m)
    (hm : r.Steady a (t.key :: under) m)
    (hG : ∀ text ∈ t.memberTypes, r.Supports a m.holding text)
    (hD : r.drawnByTexts a t.memberTypes ⊆ m.holding) :
    r.Steady a under (conclude t.key n true m) where
  inProgress := by
    rw [conclude_true n hk he, (accept_extends _ _).1]
    exact hs.inProgress
  leans := hm.leans.conclude hd ht n hk he hG
  tenable := hs.tenable
  accepted l hl := by
    rw [conclude_true n hk he] at hl
    rcases mem_order_accept hl with hl | rfl
    · exact hm.accepted l hl
    · exact hV
  drawn u hu hku := by
    rw [holding_conclude n hk he]
    rw [← (hm.leans.conclude hd ht n hk he hG).sound.accepted, within_conclude n hk he,
      hm.leans.sound.accepted] at hku
    rcases hku with hku | hsame
    · exact hm.drawn u hu hku
    · obtain rfl := hd.eq_of_same hu ht hsame
      exact hD

end Steady

/-! ## 3. Steps that draw types -/

/-- **A step draws a set of types**, beyond judging a condition: taken from a steady session it
ends in one, the types it draws are then accepted or under way, and what it has accepted they lead
to. -/
structure Draws (r : Resolver) (a : AllowList) (under : List TypeKey) (p : Step)
    (G : Set TypeKey → Prop) (D : Set TypeKey) : Prop where
  judges : r.Judges a under p G
  steady : ∀ {s b s'}, r.Steady a under s → p s = some (b, s') → r.Steady a under s'
  drawn : ∀ {s b s'}, r.Steady a under s → p s = some (b, s') → D ⊆ s'.holding
  only : ∀ {s b s'}, r.Steady a under s → p s = some (b, s') →
    ∀ k ∈ s'.visited.order, k ∈ s.visited.order ∨ ∃ d ∈ D, r.LeadsTo a d k

namespace Draws

variable {under : List TypeKey} {p q : Step} {G H : Set TypeKey → Prop} {D E : Set TypeKey}

/-- From a steady session the answer of a step is the one that the tenable types give. -/
theorem eq_true_iff (hp : r.Draws a under p G D) (hs : r.Steady a under s)
    (h : p s = some (b, s')) : b = true ↔ G (r.tenable a) :=
  hp.judges.eq_true_iff hs.inProgress hs.leans hs.tenable h

theorem pure (hJ : r.Judges a under (Step.pure b) G)
    (hD : ∀ s : Session, s.visited.inProgress = under → D ⊆ s.holding) :
    r.Draws a under (Step.pure b) G D where
  judges := hJ
  steady hs h := (Step.pure_eq_some.mp h).2 ▸ hs
  drawn hs h := (Step.pure_eq_some.mp h).2 ▸ hD _ hs.inProgress
  only _ h _ hk := Or.inl ((Step.pure_eq_some.mp h).2 ▸ hk)

theorem congr (hp : r.Draws a under p G D) (hG : ∀ S, G S ↔ H S) (hD : D = E) :
    r.Draws a under p H E := by
  have hGH : G = H := funext fun S => propext (hG S)
  exact hGH ▸ hD ▸ hp

/-- The second step of a conjunction draws only if the first passes. -/
theorem and (hp : r.Draws a under p G D) (hq : r.Draws a under q H E) :
    r.Draws a under (p.and q) (fun S => G S ∧ H S) {k | k ∈ D ∨ G (r.tenable a) ∧ k ∈ E} where
  judges := hp.judges.and hq.judges
  steady hs h := by
    rcases Step.and_eq_some h with ⟨m, h1, h2⟩ | ⟨-, h1⟩
    · exact hq.steady (hp.steady hs h1) h2
    · exact hp.steady hs h1
  drawn hs h := by
    rcases Step.and_eq_some h with ⟨m, h1, h2⟩ | ⟨-, h1⟩
    · rintro k (hk | ⟨-, hk⟩)
      · exact (hq.judges.frames (hp.steady hs h1).leans.sound h2).holding_subset (hp.drawn hs h1 hk)
      · exact hq.drawn (hp.steady hs h1) h2 hk
    · rintro k (hk | ⟨hG, -⟩)
      · exact hp.drawn hs h1 hk
      · exact absurd ((hp.eq_true_iff hs h1).mpr hG) (by simp)
  only hs h k hk := by
    rcases Step.and_eq_some h with ⟨m, h1, h2⟩ | ⟨-, h1⟩
    · rcases hq.only (hp.steady hs h1) h2 k hk with hk | ⟨d, hd, hl⟩
      · exact (hp.only hs h1 k hk).imp_right fun ⟨d, hd, hl⟩ => ⟨d, Or.inl hd, hl⟩
      · exact Or.inr ⟨d, Or.inr ⟨(hp.eq_true_iff hs h1).mp rfl, hd⟩, hl⟩
    · exact (hp.only hs h1 k hk).imp_right fun ⟨d, hd, hl⟩ => ⟨d, Or.inl hd, hl⟩

/-- The second step of a disjunction draws only if the first fails. -/
theorem or (hp : r.Draws a under p G D) (hq : r.Draws a under q H E) :
    r.Draws a under (p.or q) (fun S => G S ∨ H S) {k | k ∈ D ∨ ¬ G (r.tenable a) ∧ k ∈ E} where
  judges := hp.judges.or hq.judges
  steady hs h := by
    rcases Step.or_eq_some h with ⟨m, h1, h2⟩ | ⟨-, h1⟩
    · exact hq.steady (hp.steady hs h1) h2
    · exact hp.steady hs h1
  drawn hs h := by
    rcases Step.or_eq_some h with ⟨m, h1, h2⟩ | ⟨-, h1⟩
    · rintro k (hk | ⟨-, hk⟩)
      · exact (hq.judges.frames (hp.steady hs h1).leans.sound h2).holding_subset (hp.drawn hs h1 hk)
      · exact hq.drawn (hp.steady hs h1) h2 hk
    · rintro k (hk | ⟨hG, -⟩)
      · exact hp.drawn hs h1 hk
      · exact absurd ((hp.eq_true_iff hs h1).mp rfl) hG
  only hs h k hk := by
    rcases Step.or_eq_some h with ⟨m, h1, h2⟩ | ⟨-, h1⟩
    · rcases hq.only (hp.steady hs h1) h2 k hk with hk | ⟨d, hd, hl⟩
      · exact (hp.only hs h1 k hk).imp_right fun ⟨d, hd, hl⟩ => ⟨d, Or.inl hd, hl⟩
      · exact Or.inr ⟨d, Or.inr ⟨hp.judges.complete h1, hd⟩, hl⟩
    · exact (hp.only hs h1 k hk).imp_right fun ⟨d, hd, hl⟩ => ⟨d, Or.inl hd, hl⟩

theorem note (token : String) (hp : r.Draws a under p G D) :
    r.Draws a under (Step.note token p) G D := by
  have hnote : ∀ {s}, r.Steady a under s →
      r.Steady a under { s with asked := token :: s.asked } := fun hs => hs.congr (by rfl)
  exact ⟨hp.judges.note token, fun hs h => hp.steady (hnote hs) h,
    fun hs h => hp.drawn (hnote hs) h,
    fun {s _ _} hs h => hp.only (s := { s with asked := token :: s.asked }) (hnote hs) h⟩

theorem all {α : Type} {check : α → Step} {G : α → Set TypeKey → Prop} {D : α → Set TypeKey}
    {xs : List α} (h : ∀ x ∈ xs, r.Draws a under (check x) (G x) (D x)) :
    r.Draws a under (Step.all check xs) (fun S => ∀ x ∈ xs, G x S)
      (scan (fun x => G x (r.tenable a)) D xs) := by
  induction xs with
  | nil =>
    have hj : r.Judges a under (Step.pure true) fun S => ∀ x ∈ ([] : List α), G x S :=
      .pure_true (fun _ _ => by simp) fun _ _ => by simp
    exact .pure hj fun s _ => Set.empty_subset _
  | cons x xs ih =>
    have hrest := ih fun y hy => h y (List.mem_cons_of_mem _ hy)
    exact ((h x List.mem_cons_self).and hrest).congr (fun S => by simp) rfl

end Draws

/-! ## 4. The checks of the resolver -/

variable {under : List TypeKey} {check : ValueType → Step} {verify : String → Step}

theorem textWith_draws (hr : r.policy = a.policy)
    (hv : ∀ w, r.Draws a under (verify w) (fun S => r.Names S w) (r.drawnByName a w))
    (text : String) :
    r.Draws a under (r.textWith verify text) (fun S => r.SupportsWords a S text)
      (r.drawnByWords a text) := by
  unfold textWith
  rw [hr]
  refine .all fun w _ => .note w ?_
  have hj := word_judges w (hv w).judges
  rw [inquire_policy] at hj ⊢
  split
  · rename_i hw
    rw [if_pos hw] at hj
    exact .pure hj fun _ _ _ hk => absurd hw hk.1
  · rename_i hw
    exact (hv w).congr (fun S => by simp [hw]) (Set.ext fun k => ⟨fun hk => ⟨hw, hk⟩, And.right⟩)

theorem namedWith_draws
    (hc : ∀ t ∈ r.types, r.Draws a under (check t) (fun S => t.key ∈ S) (r.drawnByType a t))
    (text : String) :
    r.Draws a under (r.namedWith check text) (fun S => r.Names S text) (r.drawnByName a text) := by
  have hj := namedWith_judges (fun t ht => (hc t ht).judges) text
  unfold namedWith at hj ⊢
  split
  · rename_i t ht
    refine (hc t (List.mem_of_find?_eq_some ht)).congr (fun S => by simp [Names, ht]) ?_
    ext k
    simp only [drawnByName, ht]
    constructor
    · rintro ⟨hk, hV⟩
      exact ⟨t, rfl, hk.symm, hV⟩
    · rintro ⟨u, hu, hk, hV⟩
      exact ⟨by rw [← hk, Option.some.inj hu], hV⟩
  · rename_i hnone
    rw [hnone] at hj
    refine .pure hj fun _ _ k hk => ?_
    obtain ⟨t, ht, -⟩ := hk
    exact absurd ht (by simp [hnone])

/-- **The check of a member draws what its text draws.**  A type that holds itself is under way, so
it need not be looked into. -/
theorem memberWith_draws (hr : r.policy = a.policy)
    (hc : ∀ t ∈ r.types, r.Draws a under (check t) (fun S => t.key ∈ S) (r.drawnByType a t))
    {owner : ValueType} (ho : owner.key.within under = true) (text : String) :
    r.Draws a under (r.memberWith check owner text) (fun S => r.Supports a S text)
      (r.drawnByText a text) := by
  have hnamed := namedWith_draws hc text
  unfold memberWith
  refine (textWith_draws hr (namedWith_draws hc) text).or ?_
  unfold namedWith at hnamed
  split
  · rename_i t ht
    simp only [ht] at hnamed
    split
    · rename_i hsame
      have hold : ∀ s : Session, s.visited.inProgress = under → t.key ∈ s.holding := fun s hs =>
        Session.mem_holding.mpr (Or.inr (hs ▸ within_of_same hsame ho))
      refine .pure (.pure_true Names.mono fun s hs => ⟨t, ht, hold s hs⟩) fun s hs k hk => ?_
      obtain ⟨u, hu, rfl, -⟩ := hk
      exact Option.some.inj (ht.symm.trans hu) ▸ hold s hs
    · exact hnamed
  · rename_i hnone
    simpa only [hnone] using hnamed

/-- **A check keeps the session steady, and accepts only what its type leads to.**  A type that is
not tenable fails and is taken back as a whole.  A tenable one ends up accepted, and what its members
brought in it leads to. -/
theorem validate_steady (hr : r.policy = a.policy) (hd : DistinctKeys r.types) {depth : Nat}
    {t : ValueType} (ht : t ∈ r.types)
    (hmembers : r.Draws a (t.key :: under)
      (Step.all (r.memberWith (r.validate depth) t) t.memberTypes)
      (fun S => ∀ text ∈ t.memberTypes, r.Supports a S text) (r.drawnByTexts a t.memberTypes))
    (hs : r.Steady a under s) (h : r.validate (depth + 1) t s = some (b, s')) :
    r.Steady a under s' ∧ ∀ k ∈ s'.visited.order, k ∈ s.visited.order ∨
      ∃ d ∈ r.drawnByType a t, r.LeadsTo a d k := by
  rcases validate_cases h with ⟨-, -, rfl⟩ | ⟨hk, m, hm, rfl⟩
  · exact ⟨hs, fun k hk => Or.inl hk⟩
  cases b with
  | false =>
    have hv := validate_rollback hs.leans.sound h
    exact ⟨hs.congr hv, fun k hk' => Or.inl (hv ▸ hk')⟩
  | true =>
    have hV : t.key ∈ r.tenable a := ((validate_judges hr hd (depth + 1) ht under).eq_true_iff
      hs.inProgress hs.leans hs.tenable h).mp rfl
    have hs' := hs.enter hd ht hV
    have he := hmembers.judges.frames hs'.leans.sound hm
    refine ⟨hs.conclude hd ht hV _ hk he (hmembers.steady hs' hm)
      (hmembers.judges.sound hs'.inProgress hs'.leans hm) (hmembers.drawn hs' hm), ?_⟩
    intro k hk'
    rw [conclude_true _ hk he] at hk'
    rcases mem_order_accept hk' with hk' | rfl
    · refine (hmembers.only hs' hm k hk').imp_right ?_
      rintro ⟨d, hdrawn, hl⟩
      exact ⟨t.key, ⟨rfl, hV⟩, .head ⟨t, ht, rfl, hdrawn⟩ hl⟩
    · exact Or.inr ⟨t.key, ⟨rfl, hV⟩, .refl⟩

/-- **The check of a type draws that type, if it is tenable.** -/
theorem validate_draws (hr : r.policy = a.policy) (hd : DistinctKeys r.types) (depth : Nat)
    {t : ValueType} (ht : t ∈ r.types) (under : List TypeKey) :
    r.Draws a under (r.validate depth t) (fun S => t.key ∈ S) (r.drawnByType a t) := by
  induction depth generalizing t under with
  | zero =>
    exact ⟨validate_judges hr hd 0 ht under, fun _ h => absurd h (by simp [validate]),
      fun _ h => absurd h (by simp [validate]), fun _ h => absurd h (by simp [validate])⟩
  | succ depth ih =>
    have hjudges := validate_judges hr hd (depth + 1) ht under
    have hmembers : r.Draws a (t.key :: under)
        (Step.all (r.memberWith (r.validate depth) t) t.memberTypes)
        (fun S => ∀ text ∈ t.memberTypes, r.Supports a S text)
        (r.drawnByTexts a t.memberTypes) :=
      .all fun text _ => memberWith_draws hr (fun u hu => ih hu (t.key :: under))
        (by simp [TypeKey.within]) text
    refine ⟨hjudges, fun hs h => (validate_steady hr hd ht hmembers hs h).1,
      fun {s b s'} hs h => ?_, fun hs h => (validate_steady hr hd ht hmembers hs h).2⟩
    rintro k ⟨rfl, hV⟩
    obtain rfl : b = true :=
      (hjudges.eq_true_iff hs.inProgress hs.leans hs.tenable h).mpr hV
    exact hjudges.sound hs.inProgress hs.leans h

/-- Every question draws what `Question.draws` says. -/
theorem step_draws (hr : r.policy = a.policy) (hd : DistinctKeys r.types) {q : Question}
    (hq : q.Within r.types) (under : List TypeKey) :
    r.Draws a under (r.step q) (fun S => q.Passes r a S) (q.draws r a) := by
  have hc : ∀ t ∈ r.types, r.Draws a under (r.validate r.depth t) (fun S => t.key ∈ S)
      (r.drawnByType a t) := fun t ht => validate_draws hr hd r.depth ht under
  have htext := textWith_draws hr (namedWith_draws hc)
  cases q with
  | valueType t => exact hc t hq
  | function f => exact .all fun text _ => (htext text).or (namedWith_draws hc text)
  | text text => exact htext text
  | name token => exact namedWith_draws hc token

/-! ## 5. The retained types -/

/-- When nothing is under way, a tenable type that is taken to hold is accepted under its own
key. -/
theorem Steady.mem_order (hd : DistinctKeys r.types) (hs : r.Steady a [] s)
    (hV : k ∈ r.tenable a) (hk : k ∈ s.holding) : k ∈ s.visited.order := by
  rcases Session.mem_holding.mp hk with hk | hk
  · rw [hs.leans.sound.accepted] at hk
    obtain ⟨l, hl, hsame⟩ := List.any_eq_true.mp hk
    obtain ⟨t, ht, rfl⟩ := (tenable_selfSupporting r a).listed k hV
    obtain ⟨u, hu, rfl⟩ := (tenable_selfSupporting r a).listed l (hs.accepted l hl)
    exact hd.eq_of_same ht hu hsame ▸ hl
  · exact absurd hk (by simp [hs.inProgress, TypeKey.within])

/-- **When nothing is under way, the accepted types are closed under drawing.** -/
theorem Steady.mem_order_of_leadsTo (hd : DistinctKeys r.types) (hs : r.Steady a [] s)
    {d : TypeKey} (hdrawn : d ∈ s.visited.order) (hl : r.LeadsTo a d k) :
    k ∈ s.visited.order := by
  induction hl with
  | refl => exact hdrawn
  | tail _ hstep ih =>
    obtain ⟨t, ht, rfl, hk⟩ := hstep
    have hwithin : t.key.within s.visited.order = true :=
      List.any_eq_true.mpr ⟨t.key, ih, TypeKey.same_self _⟩
    exact hs.mem_order hd (drawnByTexts_subset _ hk) (hs.drawn t ht hwithin hk)

/-- **A question retains what was there, and all that the types it draws lead to.** -/
theorem mem_order_ask (hr : r.policy = a.policy) (hd : DistinctKeys r.types) {q : Question}
    (hq : q.Within r.types) (hs : r.Steady a [] s) :
    k ∈ (r.ask q s).2.visited.order ↔
      k ∈ s.visited.order ∨ ∃ d ∈ q.draws r a, r.LeadsTo a d k := by
  have hdraws := step_draws hr hd hq ([] : List TypeKey)
  have hstep := step_eq_some hq hs.leans.sound
  constructor
  · exact hdraws.only hs hstep k
  · rintro (hk | ⟨d, hdrawn, hl⟩)
    · exact (ask_extends hq hs.leans.sound).order.subset hk
    · have hs' := hdraws.steady hs hstep
      exact hs'.mem_order_of_leadsTo hd
        (hs'.mem_order hd (draws_subset q hdrawn) (hdraws.drawn hs hstep hdrawn)) hl

/-- **What a sequence of questions retains does not mention a session.** -/
theorem mem_order_askAll (hr : r.policy = a.policy) (hd : DistinctKeys r.types)
    {qs : List Question} (hqs : ∀ q ∈ qs, q.Within r.types) (hs : r.Steady a [] s) :
    k ∈ (r.askAll s qs).visited.order ↔
      k ∈ s.visited.order ∨ ∃ q ∈ qs, ∃ d ∈ q.draws r a, r.LeadsTo a d k := by
  induction qs generalizing s with
  | nil => simp
  | cons q qs ih =>
    have hq := hqs q List.mem_cons_self
    have hs' : r.Steady a [] (r.ask q s).2 :=
      (step_draws hr hd hq []).steady hs (step_eq_some hq hs.leans.sound)
    rw [askAll_cons, ih (fun q' hq' => hqs q' (List.mem_cons_of_mem _ hq')) hs',
      mem_order_ask hr hd hq hs]
    simp only [List.mem_cons, exists_eq_or_imp, or_assoc]

/-- Acceptances that name different types differ. -/
theorem nodup_of_distinct {v : Visited} (h : v.Distinct) : v.order.Nodup := by
  refine List.Pairwise.imp (fun {k l} hkl => ?_) h
  rintro rfl
  exact absurd hkl (by simp)

/-- **The retained value types do not depend on the order of the questions.** -/
theorem retained_perm (types : List ValueType) (a : AllowList) (hd : DistinctKeys types)
    (qs qs' : List Question) (hqs : ∀ q ∈ qs, q.Within types) (hperm : qs.Perm qs') :
    let r : Resolver := ⟨types, a.policy⟩
    let s := r.askAll .start qs
    let s' := r.askAll .start qs'
    (∀ k, s.visited.contains k = s'.visited.contains k) ∧
      s.visited.order.Perm s'.visited.order ∧ (r.required s).Perm (r.required s') := by
  intro r s s'
  have hqs' : ∀ q ∈ qs', q.Within types := fun q hq => hqs q (hperm.mem_iff.mpr hq)
  have hquiet := askAll_quiet (r := r) hqs
  have hquiet' := askAll_quiet (r := r) hqs'
  have horder : s.visited.order.Perm s'.visited.order := by
    refine (List.perm_ext_iff_of_nodup (nodup_of_distinct hquiet.2.distinct)
      (nodup_of_distinct hquiet'.2.distinct)).mpr fun k => ?_
    rw [mem_order_askAll (r := r) rfl hd hqs (steady_start r a),
      mem_order_askAll (r := r) rfl hd hqs' (steady_start r a)]
    simp only [hperm.mem_iff]
  refine ⟨fun k => ?_, horder, horder.filterMap _⟩
  have hset : s.visited.accepted = s.visited.order := hquiet.2.accepted
  have hset' : s'.visited.accepted = s'.visited.order := hquiet'.2.accepted
  have hwithin : k.within s.visited.order = k.within s'.visited.order := horder.any_eq
  have hprog : s.visited.inProgress = s'.visited.inProgress := hquiet.1.trans hquiet'.1.symm
  simp only [Visited.contains, hset, hset', hprog, hwithin]

/-- **The order of the questions shows in the order of the types, and only there.** -/
theorem samples_retained :
    let r : Resolver := ⟨samples, AllowList.standard.policy⟩
    let s := r.askAll .start [.name "A", .text "pair<B, C>"]
    let s' := r.askAll .start [.text "pair<B, C>", .name "A"]
    r.required s ≠ r.required s' ∧ (r.required s).Perm (r.required s') := by
  intro r s s'
  refine ⟨by decide +kernel, ?_⟩
  exact (retained_perm samples .standard samples_distinct _ _ (by simp [Question.Within])
    (.swap _ _ _)).2.2

end Resolver

end CppSurface
