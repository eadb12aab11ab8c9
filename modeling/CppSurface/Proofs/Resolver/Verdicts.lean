import CppSurface.Proofs.Resolver.Questions
import Mathlib.Data.Set.Lattice

/-!
# The verdicts of an allow list are its greatest support

Under an allow list a type text is *supported* by a set of types when each of its words is listed
or names a type of the set, or else the whole text names one.  Value types may hold each other in
circles, so "every member type is supported" does not determine a set; there is a greatest one
(`tenable`), and the resolver answers from it, whatever was asked before.

The two directions have different reasons.

* **Nothing tenable is refused.**  A check fails only on a member whose every way to be supported
  has failed, below it, in the same session.  Taking types under way to hold can only help.  So by
  induction on the depth a failure means that the type is not tenable, and this needs nothing about
  the session.
* **Nothing untenable is accepted.**  While checks are under way, acceptances may lean on types
  whose own check may still fail.  What can be kept is that each accepted type is supported by the
  accepted types *and those under way* (`Leans`).  A check that holds turns its type from one under
  way into an accepted one, and a check that fails takes back all that could lean on it.  When
  nothing is under way, the accepted types support themselves.

`Judges` says both of a step at once, with a condition on sets in place of "the type is tenable".
-/

namespace CppSurface

/-! ## 1. Support -/

namespace Resolver

variable {r : Resolver} {a : AllowList} {S T : Set TypeKey} {text : String}

/-- A text is the name of a type of the set. -/
def Names (r : Resolver) (S : Set TypeKey) (text : String) : Prop :=
  ∃ t, r.find? text = some t ∧ t.key ∈ S

/-- Every word of a text is listed or names a type of the set. -/
def SupportsWords (r : Resolver) (a : AllowList) (S : Set TypeKey) (text : String) : Prop :=
  ∀ w ∈ TypeText.tokens text, a.lists w = true ∨ r.Names S w

/-- **A type text is supported by a set of types**: by its words, or as a name. -/
def Supports (r : Resolver) (a : AllowList) (S : Set TypeKey) (text : String) : Prop :=
  r.SupportsWords a S text ∨ r.Names S text

/-- A set of value types of the unit, each with all that it is built from supported by the set. -/
structure SelfSupporting (r : Resolver) (a : AllowList) (S : Set TypeKey) : Prop where
  listed : ∀ k ∈ S, ∃ t ∈ r.types, t.key = k
  supported : ∀ t ∈ r.types, t.key ∈ S → ∀ text, t.BuiltFrom text → r.Supports a S text

/-- `S` has no value type of the unit that `T` lacks. -/
def Below (r : Resolver) (S T : Set TypeKey) : Prop := ∀ t ∈ r.types, t.key ∈ S → t.key ∈ T

theorem Below.of_subset (h : S ⊆ T) : r.Below S T := fun _ _ hk => h hk

theorem Names.mono (hST : r.Below S T) (h : r.Names S text) : r.Names T text := by
  obtain ⟨t, ht, hk⟩ := h
  exact ⟨t, ht, hST t (List.mem_of_find?_eq_some ht) hk⟩

theorem Supports.mono (hST : r.Below S T) (h : r.Supports a S text) : r.Supports a T text := by
  rcases h with h | h
  · exact Or.inl fun w hw => (h w hw).imp_right (Names.mono hST)
  · exact Or.inr (h.mono hST)

/-- **The tenable types**: all that belong to some set which supports itself. -/
def tenable (r : Resolver) (a : AllowList) : Set TypeKey := ⋃₀ {S | r.SelfSupporting a S}

/-- A set that supports itself is tenable. -/
theorem SelfSupporting.subset_tenable (h : r.SelfSupporting a S) : S ⊆ r.tenable a :=
  Set.subset_sUnion_of_mem h

/-- The tenable types support themselves. -/
theorem tenable_selfSupporting (r : Resolver) (a : AllowList) :
    r.SelfSupporting a (r.tenable a) where
  listed k hk := by
    obtain ⟨S, hS, hkS⟩ := hk
    exact hS.listed k hkS
  supported t ht hk text htext := by
    obtain ⟨S, hS, hkS⟩ := hk
    exact (hS.supported t ht hkS text htext).mono (.of_subset hS.subset_tenable)

/-- The member types of a tenable type are supported by the tenable types. -/
theorem supports_memberTypes {t : ValueType} (ht : t ∈ r.types) (hV : t.key ∈ r.tenable a) :
    ∀ text ∈ t.memberTypes, r.Supports a (r.tenable a) text := fun text htext =>
  (tenable_selfSupporting r a).supported t ht hV text (ValueType.mem_memberTypes.mp htext)

/-- **The tenable types are the greatest set that supports itself.** -/
theorem isGreatest_tenable (r : Resolver) (a : AllowList) :
    IsGreatest {S | r.SelfSupporting a S} (r.tenable a) :=
  ⟨tenable_selfSupporting r a, fun _ hS => hS.subset_tenable⟩

end Resolver

/-! ## 2. Acceptances that lean on checks under way -/

/-- The types that a session takes to hold: accepted, or under way. -/
def Session.holding (s : Session) : Set TypeKey := {k | s.visited.contains k = true}

theorem Session.mem_holding {s : Session} {k : TypeKey} :
    k ∈ s.holding ↔ k.within s.visited.accepted = true ∨ k.within s.visited.inProgress = true :=
  Bool.or_eq_true _ _ ▸ Iff.rfl

theorem Session.Extends.holding_subset {s s' : Session} (h : s.Extends s') :
    s.holding ⊆ s'.holding := fun _ hk => h.contains hk

/-- Beginning a check adds a type to those taken to hold. -/
theorem Session.holding_subset_enter (s : Session) (k : TypeKey) :
    s.holding ⊆ (s.enter k).holding := by
  intro l hl
  refine Session.mem_holding.mpr ((Session.mem_holding.mp hl).imp_right fun hl => ?_)
  simp only [Session.enter_inProgress, TypeKey.within, List.any_cons, Bool.or_eq_true]
  exact Or.inr hl

namespace Resolver

variable {r : Resolver} {a : AllowList} {s s' m : Session} {b : Bool}

/-- **Each accepted type is supported by the types accepted or under way.** -/
structure Leans (r : Resolver) (a : AllowList) (s : Session) : Prop where
  sound : s.visited.Sound
  supported : ∀ t ∈ r.types, t.key.within s.visited.order = true →
    ∀ text ∈ t.memberTypes, r.Supports a s.holding text

theorem leans_start (r : Resolver) (a : AllowList) : r.Leans a .start where
  sound := Visited.sound_empty
  supported t _ h := absurd h (by simp [Session.start, Visited.empty, TypeKey.within])

/-- Leaning is a matter of what is accepted and what is under way. -/
theorem Leans.congr (h : s'.visited = s.visited) (hs : r.Leans a s) : r.Leans a s' where
  sound := by rw [h]; exact hs.sound
  supported := by simpa only [Session.holding, h] using hs.supported

/-- Beginning a check gives the accepted types more to lean on. -/
theorem Leans.enter (hs : r.Leans a s) (k : TypeKey) : r.Leans a (s.enter k) where
  sound := hs.sound.enter k
  supported t ht hk text htext :=
    (hs.supported t ht hk text htext).mono (.of_subset (s.holding_subset_enter k))

/-- **What leans only on tenable types under way is tenable**: the accepted types and the tenable
ones together support themselves. -/
theorem Leans.order_tenable (hs : r.Leans a s)
    (hu : ∀ t ∈ r.types, t.key.within s.visited.inProgress = true → t.key ∈ r.tenable a) :
    r.Below s.holding (r.tenable a) := by
  let S : Set TypeKey :=
    {k | ∃ t ∈ r.types, t.key = k ∧ (k.within s.visited.order = true ∨ k ∈ r.tenable a)}
  have hholding : r.Below s.holding S := by
    intro t ht hk
    rw [Session.mem_holding, hs.sound.accepted] at hk
    exact ⟨t, ht, rfl, hk.imp_right (hu t ht)⟩
  have htenable : r.Below (r.tenable a) S := fun t ht hk => ⟨t, ht, rfl, Or.inr hk⟩
  have hS : r.SelfSupporting a S := by
    refine ⟨fun k hk => ?_, fun t ht hk text htext => ?_⟩
    · obtain ⟨t, ht, hkt, -⟩ := hk
      exact ⟨t, ht, hkt⟩
    · obtain ⟨-, -, -, hk | hk⟩ := hk
      · have hmember := hs.supported t ht hk text (ValueType.mem_memberTypes.mpr htext)
        exact hmember.mono hholding
      · exact ((tenable_selfSupporting r a).supported t ht hk text htext).mono htenable
  exact fun t ht hk => hS.subset_tenable (hholding t ht hk)

/-! ## 3. Steps that judge a condition -/

/-- **A step judges a condition on sets of types**, made while the types `under` are under way.  It
keeps acceptances leaning on what holds; when it passes, the condition is true of what the session
then takes to hold; and when it fails, the condition is false of the tenable types. -/
structure Judges (r : Resolver) (a : AllowList) (under : List TypeKey) (p : Step)
    (G : Set TypeKey → Prop) : Prop where
  mono : ∀ {S T}, r.Below S T → G S → G T
  frames : p.Frames
  leans : ∀ {s b s'}, s.visited.inProgress = under → r.Leans a s → p s = some (b, s') → r.Leans a s'
  sound : ∀ {s s'}, s.visited.inProgress = under → r.Leans a s → p s = some (true, s') →
    G s'.holding
  complete : ∀ {s s'}, p s = some (false, s') → ¬ G (r.tenable a)

namespace Judges

variable {under : List TypeKey} {p q : Step} {G H : Set TypeKey → Prop}

/-- An answer of yes judges what holds whenever just these types are under way. -/
theorem pure_true (hG : ∀ {S T}, r.Below S T → G S → G T)
    (h : ∀ s : Session, s.visited.inProgress = under → G s.holding) :
    r.Judges a under (Step.pure true) G where
  mono := hG
  frames := Step.frames_closed.pure true
  leans _ hs h := (Step.pure_eq_some.mp h).2 ▸ hs
  sound hs _ hp := (Step.pure_eq_some.mp hp).2 ▸ h _ hs
  complete h := absurd (Step.pure_eq_some.mp h).1 (by simp)

theorem pure_false : r.Judges a under (Step.pure false) fun _ => False where
  mono _ h := h
  frames := Step.frames_closed.pure false
  leans _ hs h := (Step.pure_eq_some.mp h).2 ▸ hs
  sound _ _ h := absurd (Step.pure_eq_some.mp h).1 (by simp)
  complete _ := id

/-- A condition may be replaced by an equivalent one. -/
theorem congr (hp : r.Judges a under p G) (h : ∀ S, G S ↔ H S) : r.Judges a under p H := by
  have hGH : G = H := funext fun S => propext (h S)
  exact hGH ▸ hp

theorem and (hp : r.Judges a under p G) (hq : r.Judges a under q H) :
    r.Judges a under (p.and q) fun S => G S ∧ H S where
  mono hST h := ⟨hp.mono hST h.1, hq.mono hST h.2⟩
  frames := Step.frames_closed.and hp.frames hq.frames
  leans hs hl h := by
    rcases Step.and_eq_some h with ⟨m, h1, h2⟩ | ⟨-, h1⟩
    · exact hq.leans ((hp.frames hl.sound h1).inProgress.trans hs) (hp.leans hs hl h1) h2
    · exact hp.leans hs hl h1
  sound hs hl h := by
    rcases Step.and_eq_some h with ⟨m, h1, h2⟩ | ⟨hb, -⟩
    · have hm := (hp.frames hl.sound h1).inProgress.trans hs
      have hlm := hp.leans hs hl h1
      -- what the first step found still holds after the second
      exact ⟨hp.mono (.of_subset (hq.frames hlm.sound h2).holding_subset) (hp.sound hs hl h1),
        hq.sound hm hlm h2⟩
    · exact absurd hb (by simp)
  complete h := by
    rintro ⟨hG, hH⟩
    rcases Step.and_eq_some h with ⟨m, -, h2⟩ | ⟨-, h1⟩
    · exact hq.complete h2 hH
    · exact hp.complete h1 hG

theorem or (hp : r.Judges a under p G) (hq : r.Judges a under q H) :
    r.Judges a under (p.or q) fun S => G S ∨ H S where
  mono hST h := h.imp (hp.mono hST) (hq.mono hST)
  frames := Step.frames_closed.or hp.frames hq.frames
  leans hs hl h := by
    rcases Step.or_eq_some h with ⟨m, h1, h2⟩ | ⟨-, h1⟩
    · exact hq.leans ((hp.frames hl.sound h1).inProgress.trans hs) (hp.leans hs hl h1) h2
    · exact hp.leans hs hl h1
  sound hs hl h := by
    rcases Step.or_eq_some h with ⟨m, h1, h2⟩ | ⟨-, h1⟩
    · exact Or.inr (hq.sound ((hp.frames hl.sound h1).inProgress.trans hs) (hp.leans hs hl h1) h2)
    · exact Or.inl (hp.sound hs hl h1)
  complete h := by
    rcases Step.or_eq_some h with ⟨m, h1, h2⟩ | ⟨hb, -⟩
    · rintro (hG | hH)
      · exact hp.complete h1 hG
      · exact hq.complete h2 hH
    · exact absurd hb (by simp)

theorem note (token : String) (hp : r.Judges a under p G) :
    r.Judges a under (Step.note token p) G where
  mono := hp.mono
  frames := Step.frames_closed.note token hp.frames
  leans {s _ _} hs hl h :=
    hp.leans (s := { s with asked := token :: s.asked }) hs (hl.congr (by rfl)) h
  sound {s _} hs hl h :=
    hp.sound (s := { s with asked := token :: s.asked }) hs (hl.congr (by rfl)) h
  complete h := hp.complete h

theorem all {α : Type} {check : α → Step} {G : α → Set TypeKey → Prop} {as : List α}
    (h : ∀ x ∈ as, r.Judges a under (check x) (G x)) :
    r.Judges a under (Step.all check as) fun S => ∀ x ∈ as, G x S := by
  induction as with
  | nil => exact pure_true (fun _ _ => by simp) fun _ _ => by simp
  | cons x as ih =>
    have hrest := ih fun y hy => h y (List.mem_cons_of_mem _ hy)
    exact ((h x List.mem_cons_self).and hrest).congr fun S => by simp

/-- **When all that is under way is tenable, a step that judges a condition answers whether it is
true of the tenable types.** -/
theorem eq_true_iff (hp : r.Judges a under p G) (hs : s.visited.inProgress = under)
    (hl : r.Leans a s)
    (hu : ∀ t ∈ r.types, t.key.within under = true → t.key ∈ r.tenable a)
    (h : p s = some (b, s')) : b = true ↔ G (r.tenable a) := by
  cases b with
  | false => exact iff_of_false (by simp) (hp.complete h)
  | true =>
    refine iff_of_true rfl (hp.mono ?_ (hp.sound hs hl h))
    refine (hp.leans hs hl h).order_tenable fun t ht hk => hu t ht ?_
    rwa [(hp.frames hl.sound h).inProgress, hs] at hk

end Judges

/-! ## 4. The checks of the resolver -/

variable {under : List TypeKey} {check : ValueType → Step} {verify : String → Step} {k : TypeKey}

/-- An allow list asks about a word that it does not list, and about no other. -/
theorem inquire_policy (a : AllowList) (verify : String → Step) (w : String) :
    Step.inquire verify (a.policy w) = if a.lists w then Step.pure true else verify w := by
  unfold AllowList.policy
  split
  · rfl
  · rw [Step.inquire_ask]
    funext s
    unfold Step.bind
    rcases verify w s with _ | ⟨b, m⟩ <;> rfl

theorem word_judges (w : String) (hv : r.Judges a under (verify w) fun S => r.Names S w) :
    r.Judges a under (Step.inquire verify (a.policy w)) fun S =>
      a.lists w = true ∨ r.Names S w := by
  rw [inquire_policy]
  split
  · rename_i hw
    exact .pure_true (fun _ _ => Or.inl hw) fun _ _ => Or.inl hw
  · rename_i hw
    exact hv.congr fun S => by simp [hw]

theorem textWith_judges (hr : r.policy = a.policy)
    (hv : ∀ w, r.Judges a under (verify w) fun S => r.Names S w) (text : String) :
    r.Judges a under (r.textWith verify text) fun S => r.SupportsWords a S text := by
  unfold textWith
  rw [hr]
  exact .all fun w _ => (word_judges w (hv w)).note w

theorem namedWith_judges (hc : ∀ t ∈ r.types, r.Judges a under (check t) fun S => t.key ∈ S)
    (text : String) : r.Judges a under (r.namedWith check text) fun S => r.Names S text := by
  unfold namedWith
  split
  · rename_i t ht
    exact (hc t (List.mem_of_find?_eq_some ht)).congr fun S => by simp [Names, ht]
  · rename_i hnone
    exact Judges.pure_false.congr fun S => by simp [Names, hnone]

theorem within_of_same {l : TypeKey} {keys : List TypeKey} (h : k.same l = true)
    (hl : l.within keys = true) : k.within keys = true := by
  obtain ⟨x, hx, hlx⟩ := List.any_eq_true.mp hl
  exact List.any_eq_true.mpr ⟨x, hx, TypeKey.same_trans h hlx⟩

/-- **The check of a member judges whether its text is supported.**  A type that holds itself is
under way while its members are checked, so it may be taken to hold. -/
theorem memberWith_judges (hr : r.policy = a.policy)
    (hc : ∀ t ∈ r.types, r.Judges a under (check t) fun S => t.key ∈ S) {owner : ValueType}
    (ho : owner.key.within under = true) (text : String) :
    r.Judges a under (r.memberWith check owner text) fun S => r.Supports a S text := by
  unfold memberWith
  refine (textWith_judges hr (namedWith_judges hc) text).or ?_
  split
  · rename_i t ht
    split
    · rename_i hsame
      refine .pure_true Names.mono fun s hs => ⟨t, ht, Session.mem_holding.mpr (Or.inr ?_)⟩
      rw [hs]
      exact within_of_same hsame ho
    · exact (hc t (List.mem_of_find?_eq_some ht)).congr fun S => by simp [Names, ht]
  · rename_i hnone
    exact Judges.pure_false.congr fun S => by simp [Names, hnone]

/-- Acceptance adds one type. -/
theorem within_accept {v : Visited} {l : TypeKey} :
    l.within (v.accept k).accepted = true ↔ l.within v.accepted = true ∨ l.same k = true := by
  unfold Visited.accept
  split
  · rename_i hk
    exact ⟨Or.inl, fun h => h.elim id fun h => within_of_same h hk⟩
  · simp [TypeKey.within]

/-- A check that holds leaves what was accepted, and its type. -/
theorem within_conclude (n : Nat) (hk : s.visited.contains k = false)
    (he : (s.enter k).Extends m) {l : TypeKey} :
    l.within (conclude k n true m).visited.accepted = true ↔
      l.within m.visited.accepted = true ∨ l.same k = true := by
  rw [conclude_true n hk he, within_accept]

/-- Concluding a check that holds changes nothing about what is taken to hold. -/
theorem holding_conclude (n : Nat) (hk : s.visited.contains k = false)
    (he : (s.enter k).Extends m) : (conclude k n true m).holding = m.holding := by
  have hprog : (conclude k n true m).visited.inProgress = s.visited.inProgress := by
    rw [conclude_true n hk he]
    exact (accept_extends _ k).1
  ext l
  rw [Session.mem_holding, Session.mem_holding, within_conclude n hk he, hprog, he.inProgress,
    Session.enter_inProgress]
  simp only [TypeKey.within, List.any_cons, Bool.or_eq_true, or_assoc]

/-- **A check that holds keeps acceptances leaning on what holds**: the one new acceptance is the
type itself, and its members are supported. -/
theorem Leans.conclude (hd : DistinctKeys r.types) {t : ValueType} (ht : t ∈ r.types) (n : Nat)
    (hk : s.visited.contains t.key = false) (he : (s.enter t.key).Extends m)
    (hm : r.Leans a m) (hG : ∀ text ∈ t.memberTypes, r.Supports a m.holding text) :
    r.Leans a (conclude t.key n true m) := by
  have hsound : (Resolver.conclude t.key n true m).visited.Sound := by
    rw [conclude_true n hk he]
    exact (accept_extends _ _).2.2.2 ⟨hm.sound.distinct, hm.sound.accepted⟩
  refine ⟨hsound, fun u hu hku text htext => ?_⟩
  rw [holding_conclude n hk he]
  rw [← hsound.accepted, within_conclude n hk he, hm.sound.accepted] at hku
  rcases hku with hku | hsame
  · exact hm.supported u hu hku text htext
  · obtain rfl := hd.eq_of_same hu ht hsame
    exact hG text htext

/-- **The check of a type judges whether the type is in the set.** -/
theorem validate_judges (hr : r.policy = a.policy) (hd : DistinctKeys r.types) (depth : Nat)
    {t : ValueType} (ht : t ∈ r.types) (under : List TypeKey) :
    r.Judges a under (r.validate depth t) fun S => t.key ∈ S := by
  induction depth generalizing t under with
  | zero =>
    exact ⟨fun h => h t ht, validate_frames r 0 t, fun _ _ h => absurd h (by simp [validate]),
      fun _ _ h => absurd h (by simp [validate]), fun h => absurd h (by simp [validate])⟩
  | succ depth ih =>
    have hmembers : r.Judges a (t.key :: under)
        (Step.all (r.memberWith (r.validate depth) t) t.memberTypes)
        fun S => ∀ text ∈ t.memberTypes, r.Supports a S text :=
      .all fun text _ => memberWith_judges hr (fun u hu => ih hu (t.key :: under))
        (by simp [TypeKey.within]) text
    refine ⟨fun h => h t ht, validate_frames r _ t, ?_, ?_, ?_⟩
    · intro s b s' hs hl h
      rcases validate_cases h with ⟨-, -, rfl⟩ | ⟨hk, m, hm, rfl⟩
      · exact hl
      · have he := hmembers.frames (hl.sound.enter _) hm
        have hs' : (s.enter t.key).visited.inProgress = t.key :: under := by simp [hs]
        cases b with
        | false => exact hl.congr (conclude_false hl.sound hk he)
        | true =>
          exact .conclude hd ht _ hk he (hmembers.leans hs' (hl.enter _) hm)
            (hmembers.sound hs' (hl.enter _) hm)
    · intro s s' hs hl h
      rcases validate_cases h with ⟨hk, -, rfl⟩ | ⟨hk, m, hm, rfl⟩
      · exact hk
      · have he := hmembers.frames (hl.sound.enter _) hm
        rw [holding_conclude _ hk he]
        exact Session.mem_holding.mpr (Or.inr (by rw [he.inProgress]; simp [TypeKey.within]))
    · intro s s' h hV
      rcases validate_cases h with ⟨-, hb, -⟩ | ⟨-, m, hm, -⟩
      · exact absurd hb (by simp)
      · exact hmembers.complete hm (supports_memberTypes ht hV)

end Resolver

/-! ## 5. The verdicts -/

/-- What a question asks of a set of types. -/
def Question.Passes (r : Resolver) (a : AllowList) (S : Set TypeKey) : Question → Prop
  | .valueType t => t.key ∈ S
  | .function f => ∀ text ∈ f.simpleTypes, r.Supports a S text
  | .text words => r.SupportsWords a S words
  | .name token => r.Names S token

namespace Resolver

variable {r : Resolver} {a : AllowList} {q : Question} {s : Session}

/-- **Every question judges what it asks.** -/
theorem step_judges (hr : r.policy = a.policy) (hd : DistinctKeys r.types)
    (hq : q.Within r.types) (under : List TypeKey) :
    r.Judges a under (r.step q) fun S => q.Passes r a S := by
  have hc : ∀ t ∈ r.types, r.Judges a under (r.validate r.depth t) fun S => t.key ∈ S :=
    fun t ht => validate_judges hr hd r.depth ht under
  have htext := textWith_judges hr (namedWith_judges hc)
  cases q with
  | valueType t => exact hc t hq
  | function f => exact .all fun text _ => (htext text).or (namedWith_judges hc text)
  | text text => exact htext text
  | name token => exact namedWith_judges hc token

/-- A question keeps acceptances leaning on what holds. -/
theorem Leans.ask (hr : r.policy = a.policy) (hd : DistinctKeys r.types)
    (hq : q.Within r.types) (hl : r.Leans a s) : r.Leans a (r.ask q s).2 :=
  (step_judges hr hd hq s.visited.inProgress).leans rfl hl (step_eq_some hq hl.sound)

/-- **When nothing is under way, a question is answered from the tenable types.** -/
theorem ask_eq_true_iff (hr : r.policy = a.policy) (hd : DistinctKeys r.types)
    (hq : q.Within r.types) (hs : s.visited.inProgress = []) (hl : r.Leans a s) :
    (r.ask q s).1 = true ↔ q.Passes r a (r.tenable a) :=
  (step_judges hr hd hq []).eq_true_iff hs hl
    (fun _ _ h => absurd h (by simp [TypeKey.within])) (step_eq_some hq hl.sound)

/-- After a sequence of questions the accepted types support themselves. -/
theorem askAll_leans (hr : r.policy = a.policy) (hd : DistinctKeys r.types) {qs : List Question}
    (hqs : ∀ q ∈ qs, q.Within r.types) : r.Leans a (r.askAll .start qs) :=
  askAll_invariant (fun q hq _ hl => hl.ask hr hd (hqs q hq)) (leans_start r a)

/-- **The verdicts on value types and functions are those of the greatest support, whatever was
asked before.** -/
theorem verdict_iff_greatest_support (types : List ValueType) (a : AllowList)
    (hd : DistinctKeys types) (earlier : List Question)
    (hearlier : ∀ q ∈ earlier, q.Within types) :
    let r : Resolver := ⟨types, a.policy⟩
    let s := r.askAll .start earlier
    IsGreatest {S | r.SelfSupporting a S} (r.tenable a) ∧
      (∀ t ∈ types, (r.checkValueType t s).1 = true ↔ t.key ∈ r.tenable a) ∧
      ∀ f : Signature, (r.checkFunction f s).1 = true ↔
        ∀ text ∈ f.parameters.simpleTypes ++ [f.simpleReturnType],
          r.Supports a (r.tenable a) text := by
  intro r s
  have hprog : s.visited.inProgress = [] := (askAll_quiet hearlier).1
  have hl : r.Leans a s := askAll_leans rfl hd hearlier
  refine ⟨isGreatest_tenable r a, fun t ht => ?_, fun f => ?_⟩
  · exact ask_eq_true_iff (r := r) (q := .valueType t) rfl hd ht hprog hl
  · exact ask_eq_true_iff (q := .function f) rfl hd trivial hprog hl

/-! ## 6. Non-vacuity

Two types that hold each other, a third that holds a type nobody knows, and a fourth whose
constructor takes such a type. -/

/-- A value type with one field. -/
def sample (name member : String) : ValueType :=
  ⟨name, ⟨["member"], [member], [member]⟩, 1, [], [], ⟨"/unit.hpp"⟩⟩

/-- A value type with one field, and with a constructor of one parameter. -/
def sampleFrom (name member parameter : String) : ValueType :=
  { sample name member with constructors := [⟨⟨["from"], [parameter], [parameter]⟩, 2⟩] }

def samples : List ValueType :=
  [sample "A" "vector<B>", sample "B" "A", sample "C" "Unknown", sampleFrom "D" "int" "Unknown"]

theorem samples_distinct : DistinctKeys samples := by decide

/-- **The circle is tenable, and the other types are not**, as the checks say also after questions
about some of them.  The fourth type has nothing against it but the parameter. -/
theorem samples_verdicts :
    let r : Resolver := ⟨samples, AllowList.standard.policy⟩
    (sample "A" "vector<B>").key ∈ r.tenable .standard ∧
      (sample "C" "Unknown").key ∉ r.tenable .standard ∧
      (sampleFrom "D" "int" "Unknown").key ∉ r.tenable .standard ∧
      r.Supports .standard (r.tenable .standard) "int" := by
  intro r
  obtain ⟨-, htypes, -⟩ := verdict_iff_greatest_support samples .standard samples_distinct
    [.name "C", .text "vector<A>"] (by simp [Question.Within])
  refine ⟨?_, fun h => ?_, fun h => ?_, Or.inl ?_⟩
  · exact (htypes _ (by decide)).mp (by decide +kernel)
  · exact absurd ((htypes _ (by decide)).mpr h) (by decide +kernel)
  · exact absurd ((htypes _ (by decide)).mpr h) (by decide +kernel)
  · have hlisted : ∀ w ∈ TypeText.tokens "int", AllowList.standard.lists w = true := by decide
    exact fun w hw => Or.inl (hlisted w hw)

end Resolver

end CppSurface
