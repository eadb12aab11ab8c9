import CppSurface.Proofs.Resolver.Verdicts
import CppSurface.Survey.FilePass

/-!
# What the pass over a file publishes

A pass puts the file's own value types to the resolver, and then its functions, in one session.  So
it is a sequence of questions, and what is known about those holds of it.  Under an allow list, and
if the types of the unit differ, the session ends with the accepted types supporting themselves.
Then a type text that passed is made of listed words and of names of types that the pass publishes
(`covers_of_supports`), for its functions as for the published types themselves.
-/

namespace CppSurface

/-! ## 1. Sifting is asking -/

namespace Resolver

variable {r : Resolver} {a : AllowList} {α : Type} {xs : List α} {s : Session}

theorem askAll_append (r : Resolver) (s : Session) (qs qs' : List Question) :
    r.askAll s (qs ++ qs') = r.askAll (r.askAll s qs) qs' :=
  List.foldl_append

/-- Sifting a list takes the session through its questions. -/
theorem sift_session (r : Resolver) (question : α → Question) (xs : List α) (s : Session) :
    (sift (fun x => r.ask (question x)) xs s).2 = r.askAll s (xs.map question) := by
  induction xs generalizing s with
  | nil => rfl
  | cons x xs ih => exact ih _

/-- What every check keeps, sifting keeps. -/
theorem sift_invariant {check : α → Session → Bool × Session} {I : Session → Prop}
    (hI : ∀ x ∈ xs, ∀ s, I s → I (check x s).2) (hs : I s) : I (sift check xs s).2 := by
  induction xs generalizing s with
  | nil => exact hs
  | cons x xs ih =>
    exact ih (fun y hy => hI y (List.mem_cons_of_mem _ hy)) (hI x List.mem_cons_self s hs)

/-- **What is true of an element when it passes, and stays true, is true in the end of all that
passed.** -/
theorem of_kept {check : α → Session → Bool × Session} {I : Session → Prop}
    {P : α → Session → Prop} (hI : ∀ x ∈ xs, ∀ s, I s → I (check x s).2)
    (hpass : ∀ x ∈ xs, ∀ s, I s → (check x s).1 = true → P x (check x s).2)
    (hstay : ∀ x ∈ xs, ∀ y ∈ xs, ∀ s, I s → P x s → P x (check y s).2) (hs : I s) {x : α}
    (hx : x ∈ kept (sift check xs s).1) : P x (sift check xs s).2 := by
  induction xs generalizing s with
  | nil => exact absurd hx (by simp [sift, kept])
  | cons y xs ih =>
    have hIs := hI y List.mem_cons_self s hs
    have hIxs : ∀ z ∈ xs, ∀ s, I s → I (check z s).2 := fun z hz => hI z (List.mem_cons_of_mem _ hz)
    have hrest : x ∈ kept (sift check xs (check y s).2).1 → P x (sift check xs (check y s).2).2 :=
      ih hIxs (fun z hz => hpass z (List.mem_cons_of_mem _ hz))
        (fun z hz w hw => hstay z (List.mem_cons_of_mem _ hz) w (List.mem_cons_of_mem _ hw)) hIs
    simp only [sift, kept, List.filter_cons] at hx
    split at hx
    · rename_i htrue
      rcases List.mem_cons.mp hx with rfl | hx
      · have hstays : ∀ z ∈ xs, ∀ s, I s ∧ P x s → I (check z s).2 ∧ P x (check z s).2 := by
          rintro z hz s ⟨hs, hP⟩
          exact ⟨hIxs z hz s hs, hstay x List.mem_cons_self z (List.mem_cons_of_mem _ hz) s hs hP⟩
        exact (sift_invariant hstays ⟨hIs, hpass x List.mem_cons_self s hs htrue⟩).2
      · exact hrest hx
    · exact hrest hx

/-- What a failure shows is true of all that failed. -/
theorem of_dropped {check : α → Session → Bool × Session} {I : Session → Prop} {P : α → Prop}
    (hI : ∀ x ∈ xs, ∀ s, I s → I (check x s).2)
    (hfail : ∀ x ∈ xs, ∀ s, I s → (check x s).1 = false → P x) (hs : I s) {x : α}
    (hx : x ∈ dropped (sift check xs s).1) : P x := by
  induction xs generalizing s with
  | nil => exact absurd hx (by simp [sift, dropped])
  | cons y xs ih =>
    have hrest : x ∈ dropped (sift check xs (check y s).2).1 → P x :=
      ih (fun z hz => hI z (List.mem_cons_of_mem _ hz))
        (fun z hz => hfail z (List.mem_cons_of_mem _ hz)) (hI y List.mem_cons_self s hs)
    simp only [sift, dropped, List.filter_cons] at hx
    split at hx
    · rename_i hfalse
      rcases List.mem_cons.mp hx with rfl | hx
      · exact hfail x List.mem_cons_self s hs (by simpa using hfalse)
      · exact hrest hx
    · exact hrest hx

/-- **What passes a sifting passes by what the session accepts in the end.**  It passed by what was
accepted then, and later questions only add. -/
theorem passes_of_kept (hr : r.policy = a.policy) (hd : DistinctKeys r.types)
    (question : α → Question) (hq : ∀ x ∈ xs, (question x).Within r.types) (hl : r.Leans a s)
    {x : α} (hx : x ∈ kept (sift (fun x => r.ask (question x)) xs s).1) :
    (question x).Passes r a (sift (fun x => r.ask (question x)) xs s).2.holding := by
  refine of_kept (I := r.Leans a) (P := fun x s => (question x).Passes r a s.holding)
    (fun y hy s hs => hs.ask hr hd (hq y hy)) (fun y hy s hs htrue => ?_)
    (fun y hy z hz s hs hP => ?_) hl hx
  · exact (step_judges hr hd (hq y hy) s.visited.inProgress).sound rfl hs
      (step_of_answer (hq y hy) hs.sound htrue)
  · exact (step_judges hr hd (hq y hy) s.visited.inProgress).mono
      (.of_subset (ask_extends (hq z hz) hs.sound).holding_subset) hP

end Resolver

/-! ## 2. Texts and names -/

/-- **A type text is covered by a set of names**: each of its words is listed or one of the names,
or else the whole text is. -/
def AllowList.Covers (a : AllowList) (names : String → Prop) (text : String) : Prop :=
  (∀ w ∈ TypeText.tokens text, a.lists w = true ∨ names w) ∨ names text

theorem AllowList.Covers.mono {a : AllowList} {names names' : String → Prop} {text : String}
    (hn : ∀ n, names n → names' n) (h : a.Covers names text) : a.Covers names' text :=
  h.imp (fun h w hw => (h w hw).imp_right (hn w)) (hn text)

/-! ## 3. The pass -/

namespace FilePass

/-- A name is that of a type which the pass publishes. -/
def Publishes (pass : FilePass) (name : String) : Prop := ∃ t ∈ pass.required, t.name = name

section

variable (policy : Policy) (maxAliasPasses : Nat) (file : Path) (unit : ParsedUnit)

/-- The value types that a pass over a file knows of. -/
def types : List ValueType :=
  unit.tree.valueTypes (AliasTable.ofUnit unit.tree file maxAliasPasses)

/-- The functions that a pass over a file looks at. -/
def candidates : List FunctionRecord :=
  unit.tree.functions file (AliasTable.ofUnit unit.tree file maxAliasPasses)

/-- The resolver of a pass. -/
def resolver : Resolver := ⟨types maxAliasPasses file unit, policy⟩

/-- The questions of a pass about the file's own types. -/
def typeQuestions : List Question :=
  ((types maxAliasPasses file unit).filter fun t => t.file.same file).map .valueType

/-- The questions of a pass about functions. -/
def functionQuestions : List Question :=
  (candidates maxAliasPasses file unit).map fun f => .function f.signature

/-- The session of a pass after its questions about types. -/
def typeSession : Session :=
  (resolver policy maxAliasPasses file unit).askAll .start (typeQuestions maxAliasPasses file unit)

/-- The session at the end of a pass. -/
def session : Session :=
  (resolver policy maxAliasPasses file unit).askAll .start
    (typeQuestions maxAliasPasses file unit ++ functionQuestions maxAliasPasses file unit)

end

variable {policy : Policy} {a : AllowList} {maxAliasPasses : Nat} {entry : EntryPoint}
  {file : Path} {unit : ParsedUnit}

theorem typeQuestions_within :
    ∀ q ∈ typeQuestions maxAliasPasses file unit, q.Within (types maxAliasPasses file unit) := by
  intro q hq
  obtain ⟨t, ht, rfl⟩ := List.mem_map.mp hq
  exact (List.mem_filter.mp ht).1

theorem questions_within :
    ∀ q ∈ typeQuestions maxAliasPasses file unit ++ functionQuestions maxAliasPasses file unit,
      q.Within (types maxAliasPasses file unit) := by
  intro q hq
  rcases List.mem_append.mp hq with hq | hq
  · exact typeQuestions_within q hq
  · obtain ⟨f, -, rfl⟩ := List.mem_map.mp hq
    trivial

/-- At the end of a pass nothing is under way, and no type was accepted twice. -/
theorem session_quiet :
    (session policy maxAliasPasses file unit).visited.inProgress = [] ∧
      (session policy maxAliasPasses file unit).visited.Sound :=
  Resolver.askAll_quiet (r := resolver policy maxAliasPasses file unit) questions_within

/-- A pass accepts only types of its unit. -/
theorem session_accounted :
    (resolver policy maxAliasPasses file unit).Accounted
      (session policy maxAliasPasses file unit) :=
  Resolver.askAll_accounted (r := resolver policy maxAliasPasses file unit) questions_within

/-- A pass publishes the types that its session accepted. -/
theorem of_required :
    (FilePass.of policy maxAliasPasses entry file unit).required =
      (resolver policy maxAliasPasses file unit).required
        (session policy maxAliasPasses file unit) := by
  unfold session typeQuestions functionQuestions
  rw [Resolver.askAll_append, ← Resolver.sift_session, ← Resolver.sift_session]
  rfl

/-- A pass publishes the functions that its session lets through. -/
theorem of_functions :
    (FilePass.of policy maxAliasPasses entry file unit).functions =
      kept (Resolver.sift
        (fun f => (resolver policy maxAliasPasses file unit).ask (.function f.signature))
        (candidates maxAliasPasses file unit) (typeSession policy maxAliasPasses file unit)).1 := by
  unfold typeSession typeQuestions
  rw [← Resolver.sift_session]
  rfl

variable (hd : DistinctKeys (types maxAliasPasses file unit))
include hd

/-- The session of a pass ends with the accepted types supporting themselves. -/
theorem session_leans :
    (resolver a.policy maxAliasPasses file unit).Leans a
      (session a.policy maxAliasPasses file unit) :=
  Resolver.askAll_leans rfl hd questions_within

/-- A type that the session of a pass takes to hold is published. -/
theorem mem_required_of_holding {t : ValueType} (ht : t ∈ types maxAliasPasses file unit)
    (hk : t.key ∈ (session policy maxAliasPasses file unit).holding) :
    t ∈ (FilePass.of policy maxAliasPasses entry file unit).required := by
  obtain ⟨hprog, hsound⟩ : (session policy maxAliasPasses file unit).visited.inProgress = [] ∧
      (session policy maxAliasPasses file unit).visited.Sound := session_quiet
  rcases Session.mem_holding.mp hk with hk | hk
  · rw [hsound.accepted] at hk
    obtain ⟨k, hmem, hsame⟩ := List.any_eq_true.mp hk
    rw [of_required]
    refine List.mem_filterMap.mpr ⟨k, hmem, ?_⟩
    obtain ⟨u, hu⟩ : ∃ u, (types maxAliasPasses file unit).find? (fun u => u.key.same k) = some u :=
      Option.isSome_iff_exists.mp (List.find?_isSome.mpr ⟨t, ht, hsame⟩)
    have hut : u = t := hd.eq_of_same (List.mem_of_find?_eq_some hu) ht
      (TypeKey.same_trans (by simpa using List.find?_some hu) (TypeKey.same_symm hsame))
    exact hut ▸ hu
  · exact absurd hk (by simp [hprog, TypeKey.within])

/-- **What a pass under an allow list has visited in the end is tenable.** -/
theorem tenable_of_contains {t : ValueType} (ht : t ∈ types maxAliasPasses file unit)
    (h : (session a.policy maxAliasPasses file unit).visited.contains t.key = true) :
    t.key ∈ (resolver a.policy maxAliasPasses file unit).tenable a := by
  have hprog : (session a.policy maxAliasPasses file unit).visited.inProgress = [] :=
    session_quiet.1
  refine (session_leans hd).order_tenable (fun u _ hu => ?_) t ht h
  rw [hprog] at hu
  exact absurd hu (by simp [TypeKey.within])

/-- **A text that the accepted types support is covered by the names of the published types.** -/
theorem covers_of_supports {text : String}
    (h : (resolver a.policy maxAliasPasses file unit).Supports a
      (session a.policy maxAliasPasses file unit).holding text) :
    a.Covers (FilePass.of a.policy maxAliasPasses entry file unit).Publishes text := by
  have hnames : ∀ n, (resolver a.policy maxAliasPasses file unit).Names
      (session a.policy maxAliasPasses file unit).holding n →
      (FilePass.of a.policy maxAliasPasses entry file unit).Publishes n := by
    rintro n ⟨t, ht, hk⟩
    refine ⟨t, mem_required_of_holding hd (List.mem_of_find?_eq_some ht) hk, ?_⟩
    simpa using List.find?_some ht
  exact h.imp (fun h w hw => (h w hw).imp_right (hnames w)) (hnames text)

/-- **The types of a published function are covered by the names of the published types.** -/
theorem covers_function {f : FunctionRecord}
    (hf : f ∈ (FilePass.of a.policy maxAliasPasses entry file unit).functions) :
    ∀ text ∈ f.signature.simpleTypes,
      a.Covers (FilePass.of a.policy maxAliasPasses entry file unit).Publishes text := by
  intro text htext
  rw [of_functions] at hf
  have hl : (resolver a.policy maxAliasPasses file unit).Leans a
      (typeSession a.policy maxAliasPasses file unit) :=
    Resolver.askAll_leans rfl hd typeQuestions_within
  have hpass := Resolver.passes_of_kept rfl hd (fun f : FunctionRecord => .function f.signature)
    (fun _ _ => trivial) hl hf text htext
  rw [Resolver.sift_session, typeSession, ← Resolver.askAll_append] at hpass
  exact covers_of_supports hd hpass

/-- **The member types of a published type are covered by the names of the published types.** -/
theorem covers_valueType {t : ValueType}
    (ht : t ∈ (FilePass.of a.policy maxAliasPasses entry file unit).required) :
    ∀ text ∈ t.memberTypes,
      a.Covers (FilePass.of a.policy maxAliasPasses entry file unit).Publishes text := by
  intro text htext
  rw [of_required] at ht
  obtain ⟨k, hk, hget⟩ := List.mem_filterMap.mp ht
  have hsame : t.key.same k = true := by simpa using List.find?_some hget
  have hwithin : t.key.within (session a.policy maxAliasPasses file unit).visited.order = true :=
    List.any_eq_true.mpr ⟨k, hk, hsame⟩
  exact covers_of_supports hd
    ((session_leans hd).supported t (List.mem_of_find?_eq_some hget) hwithin text htext)

end FilePass

end CppSurface
