import CppSurface.Resolver

/-!
# What a step of the resolver does

Every check of the resolver is put together from answers, from a step followed by another that
depends on its answer, and from notes about the words that are asked.  A property of steps that
these three constructions keep (`Step.Closed`) therefore holds of a check as soon as it holds of
the checks nested in it.  Two such properties carry everything else.

* **A step only adds** (`Step.Frames`).  It leaves the types under way as they were, and the
  acceptances that were there stay in front of the new ones.  So the number of acceptances at which
  a check began is still the right place to cut when it fails, however many checks were made and
  taken back in between; a check that fails leaves no acceptance behind (`validate_rollback`).
  Taking an acceptance back removes its type from the set, wherever it stands, so this needs that
  the set and the order agree and that no type was accepted twice (`Visited.Sound`).
* **A step has an answer** (`Step.Settles`).  A check opens one more type of the unit, so the
  number of types not under way falls with the depth (`idle_cons_lt`).

Both hold for every policy.
-/

namespace CppSurface

/-! ## 1. Steps one after the other -/

namespace Step

variable {p q : Step} {k : Bool → Step} {s s' : Session} {b c : Bool}

/-- A step, and then another that depends on its answer. -/
def bind (p : Step) (k : Bool → Step) : Step := fun s =>
  match p s with
  | some (b, s') => k b s'
  | none => none

/-- What two steps one after the other can do. -/
theorem bind_eq_some :
    p.bind k s = some (b, s') ↔ ∃ c m, p s = some (c, m) ∧ k c m = some (b, s') := by
  unfold bind
  constructor
  · intro h
    split at h
    · rename_i c m hp
      exact ⟨c, m, hp, h⟩
    · exact absurd h (by simp)
  · rintro ⟨c, m, hp, hk⟩
    rw [hp]
    exact hk

theorem and_eq_bind (p q : Step) : p.and q = p.bind fun b => if b then q else pure false := by
  funext s
  unfold Step.and bind
  rcases p s with _ | ⟨_ | _, m⟩ <;> rfl

theorem or_eq_bind (p q : Step) : p.or q = p.bind fun b => if b then pure true else q := by
  funext s
  unfold Step.or bind
  rcases p s with _ | ⟨_ | _, m⟩ <;> rfl

theorem inquire_ask (verify : String → Step) (token : String) (next : Bool → Inquiry) :
    inquire verify (.ask token next) = (verify token).bind fun b => inquire verify (next b) := by
  funext s
  rw [inquire]
  rfl

/-- An answer leaves the session as it is. -/
theorem pure_eq_some : pure b s = some (c, s') ↔ b = c ∧ s = s' := by
  simp [pure]

/-- What a conjunction can do: pass the first step and go on, or stop at it. -/
theorem and_eq_some (h : p.and q s = some (b, s')) :
    (∃ m, p s = some (true, m) ∧ q m = some (b, s')) ∨ (b = false ∧ p s = some (false, s')) := by
  rw [and_eq_bind, bind_eq_some] at h
  obtain ⟨_ | _, m, hp, hk⟩ := h
  · obtain ⟨rfl, rfl⟩ := pure_eq_some.mp hk
    exact Or.inr ⟨rfl, hp⟩
  · exact Or.inl ⟨m, hp, hk⟩

/-- What a disjunction can do: fail the first step and go on, or stop at it. -/
theorem or_eq_some (h : p.or q s = some (b, s')) :
    (∃ m, p s = some (false, m) ∧ q m = some (b, s')) ∨ (b = true ∧ p s = some (true, s')) := by
  rw [or_eq_bind, bind_eq_some] at h
  obtain ⟨_ | _, m, hp, hk⟩ := h
  · exact Or.inl ⟨m, hp, hk⟩
  · obtain ⟨rfl, rfl⟩ := pure_eq_some.mp hk
    exact Or.inr ⟨rfl, hp⟩

/-! ## 2. Properties that the constructions keep -/

/-- A property of steps that the resolver's constructions keep. -/
structure Closed (P : Step → Prop) : Prop where
  pure : ∀ b, P (Step.pure b)
  bind : ∀ {p k}, P p → (∀ b, P (k b)) → P (Step.bind p k)
  note : ∀ {p} token, P p → P (Step.note token p)

namespace Closed

variable {P : Step → Prop} {r : Resolver} {check : ValueType → Step}

theorem and (hP : Closed P) (hp : P p) (hq : P q) : P (p.and q) := by
  rw [and_eq_bind]
  refine hP.bind hp fun b => ?_
  cases b
  · exact hP.pure false
  · exact hq

theorem or (hP : Closed P) (hp : P p) (hq : P q) : P (p.or q) := by
  rw [or_eq_bind]
  refine hP.bind hp fun b => ?_
  cases b
  · exact hq
  · exact hP.pure true

theorem all (hP : Closed P) {α : Type} {check : α → Step} (hc : ∀ a, P (check a)) (as : List α) :
    P (Step.all check as) := by
  induction as with
  | nil => exact hP.pure true
  | cons a as ih => exact hP.and (hc a) ih

theorem inquire (hP : Closed P) {verify : String → Step} (hv : ∀ w, P (verify w)) (i : Inquiry) :
    P (Step.inquire verify i) := by
  induction i with
  | answer verdict => exact hP.pure verdict
  | ask token next ih =>
    rw [inquire_ask]
    exact hP.bind (hv token) ih

theorem textWith (hP : Closed P) {verify : String → Step} (hv : ∀ w, P (verify w))
    (text : String) : P (r.textWith verify text) :=
  hP.all (fun token => hP.note token (hP.inquire hv (r.policy token))) _

theorem namedWith (hP : Closed P) (hc : ∀ t ∈ r.types, P (check t)) (text : String) :
    P (r.namedWith check text) := by
  unfold Resolver.namedWith
  split
  · rename_i t ht
    exact hc t (List.mem_of_find?_eq_some ht)
  · exact hP.pure false

/-- **The check of a member has every closed property that the nested checks have.** -/
theorem memberWith (hP : Closed P) (hc : ∀ t ∈ r.types, P (check t)) (owner : ValueType)
    (text : String) : P (r.memberWith check owner text) := by
  unfold Resolver.memberWith
  refine hP.or (hP.textWith (hP.namedWith hc) text) ?_
  split
  · rename_i t ht
    split
    · exact hP.pure true
    · exact hc t (List.mem_of_find?_eq_some ht)
  · exact hP.pure false

end Closed

/-- A step keeps a property of sessions. -/
def Keeps (I : Session → Prop) (p : Step) : Prop := ∀ ⦃s b s'⦄, I s → p s = some (b, s') → I s'

/-- What does not depend on the words that were asked is kept by the constructions. -/
theorem keeps_closed {I : Session → Prop}
    (hnote : ∀ s token, I s → I { s with asked := token :: s.asked }) : Closed (Keeps I) where
  pure b s c s' hs h := by
    obtain ⟨-, rfl⟩ := pure_eq_some.mp h
    exact hs
  bind hp hk s b s' hs h := by
    obtain ⟨c, m, h1, h2⟩ := bind_eq_some.mp h
    exact hk c (hp hs h1) h2
  note token hp s b s' hs h := hp (hnote s token hs) h

end Step

/-! ## 3. What a step leaves behind -/

/-- No type is accepted twice. -/
def Visited.Distinct (v : Visited) : Prop := v.order.Pairwise fun k l => k.same l = false

/-- No type is accepted twice, and the set holds what was accepted. -/
structure Visited.Sound (v : Visited) : Prop where
  distinct : v.Distinct
  accepted : v.accepted = v.order

theorem Visited.sound_empty : Visited.empty.Sound := ⟨List.Pairwise.nil, rfl⟩

/-- `s.Extends s'`: the types under way are the same, the acceptances of `s` come first among those
of `s'`, and `s'` is sound. -/
structure Session.Extends (s s' : Session) : Prop where
  inProgress : s'.visited.inProgress = s.visited.inProgress
  order : s.visited.order <+: s'.visited.order
  accepted : s.visited.accepted <+: s'.visited.accepted
  sound : s'.visited.Sound

theorem Session.Extends.refl {s : Session} (hs : s.visited.Sound) : s.Extends s :=
  ⟨rfl, List.prefix_rfl, List.prefix_rfl, hs⟩

theorem Session.Extends.trans {s m s' : Session} (h : s.Extends m) (h' : m.Extends s') :
    s.Extends s' :=
  ⟨h'.inProgress.trans h.inProgress, h.order.trans h'.order, h.accepted.trans h'.accepted, h'.sound⟩

/-- What was taken to hold still is. -/
theorem Session.Extends.contains {s s' : Session} (h : s.Extends s') {k : TypeKey}
    (hk : s.visited.contains k = true) : s'.visited.contains k = true := by
  simp only [Visited.contains, TypeKey.within, Bool.or_eq_true, List.any_eq_true] at hk ⊢
  rcases hk with ⟨l, hl, he⟩ | ⟨l, hl, he⟩
  · exact Or.inl ⟨l, h.accepted.subset hl, he⟩
  · exact Or.inr ⟨l, h.inProgress ▸ hl, he⟩

/-- A step that only adds. -/
def Step.Frames (p : Step) : Prop :=
  ∀ ⦃s b s'⦄, s.visited.Sound → p s = some (b, s') → s.Extends s'

theorem Step.frames_closed : Step.Closed Step.Frames where
  pure b s c s' hs h := by
    obtain ⟨-, rfl⟩ := Step.pure_eq_some.mp h
    exact .refl hs
  bind hp hk s b s' hs h := by
    obtain ⟨c, m, h1, h2⟩ := Step.bind_eq_some.mp h
    have h1 := hp hs h1
    exact h1.trans (hk c h1.sound h2)
  note token hp s b s' hs h := by
    have he := hp (s := { s with asked := token :: s.asked }) hs h
    exact ⟨he.inProgress, he.order, he.accepted, he.sound⟩

/-! ## 4. The check of a type -/

/-- The session in which the check of a type is under way. -/
def Session.enter (s : Session) (k : TypeKey) : Session := { s with visited := s.visited.enter k }

@[simp] theorem Session.enter_order (s : Session) (k : TypeKey) :
    (s.enter k).visited.order = s.visited.order := rfl

@[simp] theorem Session.enter_accepted (s : Session) (k : TypeKey) :
    (s.enter k).visited.accepted = s.visited.accepted := rfl

@[simp] theorem Session.enter_inProgress (s : Session) (k : TypeKey) :
    (s.enter k).visited.inProgress = k :: s.visited.inProgress := rfl

/-- Beginning a check accepts nothing. -/
theorem Visited.Sound.enter {s : Session} (hs : s.visited.Sound) (k : TypeKey) :
    (s.enter k).visited.Sound :=
  ⟨hs.distinct, hs.accepted⟩

namespace Resolver

variable {r : Resolver} {t : ValueType} {k : TypeKey} {s m s' : Session} {b : Bool} {depth : Nat}

/-- **What the check of a type can do**: find that it is taken to hold already, or check its
members with the type under way, and conclude from their answer. -/
theorem validate_cases (h : r.validate (depth + 1) t s = some (b, s')) :
    (s.visited.contains t.key = true ∧ b = true ∧ s' = s) ∨
    (s.visited.contains t.key = false ∧ ∃ m,
      Step.all (r.memberWith (r.validate depth) t) t.memberTypes (s.enter t.key) = some (b, m) ∧
        s' = conclude t.key s.visited.order.length b m) := by
  unfold validate at h
  split at h
  · rename_i hc
    simp only [Option.some.injEq, Prod.mk.injEq] at h
    exact Or.inl ⟨hc, h.1.symm, h.2.symm⟩
  · rename_i hc
    refine Or.inr ⟨by simpa using hc, ?_⟩
    split at h
    · rename_i holds m hm
      simp only [Option.some.injEq, Prod.mk.injEq] at h
      obtain ⟨rfl, rfl⟩ := h
      exact ⟨m, hm, rfl⟩
    · exact absurd h (by simp)

/-- Ending a check that was begun on a type not under way brings back what was under way. -/
theorem leave_eq (hk : s.visited.contains k = false) (he : (s.enter k).Extends m) :
    m.visited.leave k = { m.visited with inProgress := s.visited.inProgress } := by
  simp only [Visited.contains, TypeKey.within, Bool.or_eq_false_iff, List.any_eq_false] at hk
  simpa [Visited.leave, he.inProgress] using hk.2

/-- Taking the types of `ks` out of a list that ends with them leaves what comes before, if no type
is listed twice. -/
theorem filter_within_append {js ks : List TypeKey}
    (hd : (js ++ ks).Pairwise fun k l => k.same l = false) :
    (js ++ ks).filter (fun k => !k.within ks) = js := by
  have hks : ks.filter (fun k => !k.within ks) = [] := by
    refine List.filter_eq_nil_iff.mpr fun k hk => ?_
    have hk' : k.within ks = true := List.any_eq_true.mpr ⟨k, hk, TypeKey.same_self k⟩
    simp [hk']
  have hjs : js.filter (fun k => !k.within ks) = js := by
    refine List.filter_eq_self.mpr fun j hj => ?_
    simpa [TypeKey.within] using (List.pairwise_append.mp hd).2.2 j hj
  rw [List.filter_append, hks, hjs, List.append_nil]

/-- **A failed check takes back exactly what was accepted since it began.** -/
theorem conclude_false (hs : s.visited.Sound) (hk : s.visited.contains k = false)
    (he : (s.enter k).Extends m) :
    (conclude k s.visited.order.length false m).visited = s.visited := by
  obtain ⟨new, hnew⟩ : s.visited.order <+: m.visited.order := he.order
  have hdrop : m.visited.order.drop s.visited.order.length = new := by rw [← hnew]; simp
  have htake : m.visited.order.take s.visited.order.length = s.visited.order := by
    rw [← hnew]; simp
  have haccepted : m.visited.accepted.filter (fun l => !l.within new) = s.visited.accepted := by
    rw [he.sound.accepted, hs.accepted, ← hnew]
    exact filter_within_append (by rw [hnew]; exact he.sound.distinct)
  simp [conclude, leave_eq hk he, Visited.rollback, htake, hdrop, haccepted]

/-- A check that holds ends with its type accepted and not under way. -/
theorem conclude_true (n : Nat) (hk : s.visited.contains k = false)
    (he : (s.enter k).Extends m) :
    (conclude k n true m).visited =
      ({ m.visited with inProgress := s.visited.inProgress } : Visited).accept k := by
  simp [conclude, leave_eq hk he]

/-- Acceptance adds at the end, and only a type that is not there. -/
theorem accept_extends (v : Visited) (k : TypeKey) :
    (v.accept k).inProgress = v.inProgress ∧ v.order <+: (v.accept k).order ∧
      v.accepted <+: (v.accept k).accepted ∧ (v.Sound → (v.accept k).Sound) := by
  unfold Visited.accept
  split
  · exact ⟨rfl, List.prefix_rfl, List.prefix_rfl, id⟩
  · rename_i hk
    refine ⟨rfl, List.prefix_append _ _, List.prefix_append _ _, fun hv => ?_⟩
    refine ⟨List.pairwise_append.mpr ⟨hv.distinct, by simp, ?_⟩, by simp [hv.accepted]⟩
    intro l hl k' hk'
    rw [List.mem_singleton.mp hk']
    refine Bool.eq_false_iff.mpr fun hs => hk ?_
    rw [hv.accepted]
    exact List.any_eq_true.mpr ⟨l, hl, TypeKey.same_symm hs⟩

/-- What acceptance adds is the accepted type. -/
theorem mem_order_accept {v : Visited} {l : TypeKey} (h : l ∈ (v.accept k).order) :
    l ∈ v.order ∨ l = k := by
  unfold Visited.accept at h
  split at h
  · exact Or.inl h
  · exact (List.mem_append.mp h).imp_right List.mem_singleton.mp

/-- Concluding a check only adds to the session in which it began. -/
theorem conclude_extends (hs : s.visited.Sound) (hk : s.visited.contains k = false)
    (he : (s.enter k).Extends m) : s.Extends (conclude k s.visited.order.length b m) := by
  cases b with
  | false =>
    have hv := conclude_false hs hk he
    exact ⟨by rw [hv], by simp [hv], by simp [hv], by rw [hv]; exact hs⟩
  | true =>
    have hv := conclude_true s.visited.order.length hk he
    obtain ⟨hprog, horder, haccepted, hsound⟩ :=
      accept_extends { m.visited with inProgress := s.visited.inProgress } k
    exact ⟨by rw [hv, hprog], by rw [hv]; exact he.order.trans horder,
      by rw [hv]; exact he.accepted.trans haccepted,
      by rw [hv]; exact hsound ⟨he.sound.distinct, he.sound.accepted⟩⟩

/-- Checking the members of a type only adds, if the nested checks do. -/
theorem members_frames (h : ∀ u, (r.validate depth u).Frames) (t : ValueType) :
    (Step.all (r.memberWith (r.validate depth) t) t.memberTypes).Frames :=
  Step.frames_closed.all (Step.frames_closed.memberWith (fun u _ => h u) t) _

/-- **A check only adds**, at whatever depth it is made. -/
theorem validate_frames (r : Resolver) (depth : Nat) (t : ValueType) :
    (r.validate depth t).Frames := by
  induction depth generalizing t with
  | zero => exact fun s b s' _ h => absurd h (by simp [validate])
  | succ depth ih =>
    intro s b s' hs h
    rcases validate_cases h with ⟨-, -, rfl⟩ | ⟨hk, m, hm, rfl⟩
    · exact .refl hs
    · exact conclude_extends hs hk (members_frames ih t (hs.enter _) hm)

/-- **A check that fails leaves the acceptances, and what is under way, as they were.** -/
theorem validate_rollback (hs : s.visited.Sound) (h : r.validate depth t s = some (false, s')) :
    s'.visited = s.visited := by
  cases depth with
  | zero => exact absurd h (by simp [validate])
  | succ depth =>
    rcases validate_cases h with ⟨-, hb, -⟩ | ⟨hk, m, hm, rfl⟩
    · exact absurd hb (by simp)
    · exact conclude_false hs hk (members_frames (validate_frames r depth) t (hs.enter _) hm)

end Resolver

/-! ## 5. Every check has an answer

Only types of the unit are checked below another check, and none that is under way.  So each level
leaves fewer types that could be opened, and `Resolver.depth` is more than there are. -/

/-- A step that only adds, and that has an answer whenever just these types are under way. -/
def Step.Settles (under : List TypeKey) (p : Step) : Prop :=
  p.Frames ∧ ∀ s, s.visited.Sound → s.visited.inProgress = under → ∃ b s', p s = some (b, s')

theorem Step.settles_closed (under : List TypeKey) : Step.Closed (Step.Settles under) where
  pure b := ⟨Step.frames_closed.pure b, fun s _ _ => ⟨b, s, rfl⟩⟩
  bind {p k} hp hk := by
    refine ⟨Step.frames_closed.bind hp.1 fun b => (hk b).1, fun s hsound hs => ?_⟩
    obtain ⟨c, m, hpm⟩ := hp.2 s hsound hs
    have hext := hp.1 hsound hpm
    obtain ⟨b, s', hks⟩ := (hk c).2 m hext.sound (hext.inProgress.trans hs)
    exact ⟨b, s', Step.bind_eq_some.mpr ⟨c, m, hpm, hks⟩⟩
  note token hp := ⟨Step.frames_closed.note token hp.1, fun _ hsound hs => hp.2 _ hsound hs⟩

namespace Resolver

variable {r : Resolver} {t : ValueType} {under : List TypeKey} {s : Session} {depth : Nat}

/-- The number of types that are not under way. -/
def idle (r : Resolver) (under : List TypeKey) : Nat :=
  (r.types.filter fun t => !t.key.within under).length

theorem idle_le (r : Resolver) (under : List TypeKey) : r.idle under ≤ r.types.length :=
  List.length_filter_le _ _

/-- **Beginning a check leaves one type fewer.** -/
theorem idle_cons_lt (ht : t ∈ r.types) (hu : t.key.within under = false) :
    r.idle (t.key :: under) < r.idle under := by
  have hsub : (r.types.filter fun u => !u.key.within (t.key :: under))
      = (r.types.filter fun u => !u.key.within under).filter fun u => !u.key.same t.key := by
    rw [List.filter_filter]
    refine List.filter_congr fun u _ => ?_
    simp [TypeKey.within]
  unfold idle
  rw [hsub, List.length_filter_lt_length_iff_exists]
  exact ⟨t, List.mem_filter.mpr ⟨ht, by simp [hu]⟩, by simp⟩

/-- A check has an answer if the checks of all types have one while it is under way. -/
theorem validate_settles_of
    (h : ∀ u ∈ r.types, (r.validate depth u).Settles (t.key :: under)) :
    (r.validate (depth + 1) t).Settles under := by
  refine ⟨validate_frames r _ t, fun s hsound hs => ?_⟩
  have hmembers : (Step.all (r.memberWith (r.validate depth) t) t.memberTypes).Settles
      (t.key :: under) :=
    (Step.settles_closed _).all ((Step.settles_closed _).memberWith h t) _
  obtain ⟨b, m, hm⟩ := hmembers.2 (s.enter t.key) (hsound.enter _) (by simp [hs])
  unfold validate
  split
  · exact ⟨true, s, rfl⟩
  · have hm' : Step.all (r.memberWith (r.validate depth) t) t.memberTypes
        { s with visited := s.visited.enter t.key } = some (b, m) := hm
    rw [hm']
    exact ⟨b, _, rfl⟩

/-- **A check that may nest as deep as there are types not under way has an answer.** -/
theorem validate_settles (ht : t ∈ r.types) (hd : r.idle under < depth) :
    (r.validate depth t).Settles under := by
  induction depth generalizing t under with
  | zero => exact absurd hd (Nat.not_lt_zero _)
  | succ depth ih =>
    by_cases hu : t.key.within under = true
    · refine ⟨validate_frames r _ t, fun s _ hs => ⟨true, s, ?_⟩⟩
      have hc : s.visited.contains t.key = true := by simp [Visited.contains, hs, hu]
      simp [validate, hc]
    · have hlt := idle_cons_lt ht (Bool.eq_false_iff.mpr hu)
      exact validate_settles_of fun u hu' => ih hu' (by omega)

/-- The resolver's depth is enough for the check of every type, be it one of the unit or not. -/
theorem validate_depth_settles (t : ValueType) : (r.validate r.depth t).Settles under := by
  refine validate_settles_of fun u hu => validate_settles hu ?_
  have := r.idle_le (t.key :: under)
  omega

/-- A step that has an answer gives it when it is carried out. -/
theorem eq_some_run {p : Step} (hs : s.visited.Sound) (hp : p.Settles s.visited.inProgress) :
    p s = some (run p s) := by
  obtain ⟨b, s', h⟩ := hp.2 s hs rfl
  simp [run, h]

end Resolver

end CppSurface
