import CppSurface.Proofs.Resolver.Retained
import Mathlib.Data.List.Pairwise

/-!
# Dependencies come first

The accepted types are read out in the order of acceptance, and a type is accepted when the checks
of its members are done.  So what a type is built from should stand before it.  Value types may
refer to each other in circles, and then not all of it can.  What remains true is that a type which
stands *after* one that is built from it leads back to it.

The search is not a plain depth-first search, since whole stretches of the order are taken back, and
words are looked up that decide nothing.  But taking back leaves the order as it was, and the order
of the rest can be read off from `Draws` alone.  Let a type be accepted at the end of the order,
and let an earlier one have drawn it.  The earlier one was not there when the check of the later one
began: all that it has drawn was then accepted or under way, and the later type was neither.  So it
was accepted in the course of that check, and the later type leads to it.

Drawing is a matter of sessions and tenable types.  Following the texts of a record is not
(`Mentions`), and what leads to a type reaches it in that sense too.
-/

namespace CppSurface

namespace Resolver

variable {r : Resolver} {a : AllowList} {s s' : Session} {b : Bool} {k l : TypeKey}
  {t u d : ValueType} {under : List TypeKey} {text w : String}

/-! ## 1. The member graph -/

/-- A record mentions the value types named by the texts that it is built from, and by the words of
these. -/
def Mentions (r : Resolver) (t u : ValueType) : Prop :=
  ∃ text, t.BuiltFrom text ∧ ∃ w ∈ text :: TypeText.tokens text, r.find? w = some u

instance (r : Resolver) (t u : ValueType) : Decidable (r.Mentions t u) :=
  decidable_of_iff (∃ text ∈ t.memberTypes, ∃ w ∈ text :: TypeText.tokens text, r.find? w = some u)
    (by simp only [ValueType.mem_memberTypes, Mentions])

theorem Mentions.mem (h : r.Mentions t u) : u ∈ r.types := by
  obtain ⟨_, _, _, _, hfind⟩ := h
  exact List.mem_of_find?_eq_some hfind

/-- A record reaches another by one or more mentions. -/
def Reaches (r : Resolver) : ValueType → ValueType → Prop := Relation.TransGen r.Mentions

/-- No circle of mentions has two value types on it: at most a type mentions itself. -/
def SelfLoopsOnly (r : Resolver) : Prop :=
  ∀ t ∈ r.types, ∀ u ∈ r.types, r.Reaches t u → r.Reaches u t → t = u

/-- The names under which the types that a text depends on are looked up: its unlisted words if the
words pass, and else the text as a whole. -/
def lookups (r : Resolver) (a : AllowList) (s : Session) (text : String) : List String :=
  if (r.checkText text s).1 then (TypeText.tokens text).filter fun w => !a.lists w else [text]

/-- **A graph in which every mention goes down in rank, or back to the type itself, has no other
circle.** -/
theorem selfLoopsOnly_of_rank (rank : ValueType → Nat)
    (h : ∀ t ∈ r.types, ∀ u ∈ r.types, r.Mentions t u → u = t ∨ rank u < rank t) :
    r.SelfLoopsOnly := by
  have hreach : ∀ {t u}, t ∈ r.types → r.Reaches t u →
      u ∈ r.types ∧ (u = t ∨ rank u < rank t) := by
    intro t u ht htu
    induction htu with
    | single h1 => exact ⟨h1.mem, h t ht _ h1.mem h1⟩
    | tail _ h1 ih =>
      refine ⟨h1.mem, ?_⟩
      rcases h _ ih.1 _ h1.mem h1 with rfl | hlt
      · exact ih.2
      · rcases ih.2 with rfl | hlt'
        · exact Or.inr hlt
        · exact Or.inr (hlt.trans hlt')
  intro t ht u hu htu hut
  rcases (hreach ht htu).2 with rfl | hlt
  · rfl
  · exact (hreach hu hut).2.resolve_right (Nat.lt_asymm hlt)

/-! ## 2. Drawing follows mentions -/

theorem exists_of_mem_scan {α : Type} {passes : α → Prop} {draws : α → Set TypeKey} {xs : List α}
    (h : k ∈ scan passes draws xs) : ∃ x ∈ xs, k ∈ draws x := by
  induction xs with
  | nil => exact absurd h (Set.notMem_empty k)
  | cons x xs ih =>
    rcases h with h | ⟨-, h⟩
    · exact ⟨x, List.mem_cons_self, h⟩
    · obtain ⟨y, hy, hk⟩ := ih h
      exact ⟨y, List.mem_cons_of_mem _ hy, hk⟩

/-- A scan in which all elements pass draws from each of them. -/
theorem mem_scan_of_passes {α : Type} {passes : α → Prop} {draws : α → Set TypeKey} {xs : List α}
    (hp : ∀ x ∈ xs, passes x) {x : α} (hx : x ∈ xs) (hk : k ∈ draws x) :
    k ∈ scan passes draws xs := by
  induction xs with
  | nil => exact absurd hx (by simp)
  | cons y ys ih =>
    rcases List.mem_cons.mp hx with rfl | hx
    · exact Or.inl hk
    · exact Or.inr ⟨hp y List.mem_cons_self,
        ih (fun z hz => hp z (List.mem_cons_of_mem _ hz)) hx⟩

/-- **What a record draws it mentions.** -/
theorem mentions_of_drawn (hd : DistinctKeys r.types) (hu : u ∈ r.types)
    (h : u.key ∈ r.drawnByTexts a t.memberTypes) : r.Mentions t u := by
  have hnamed : ∀ {w}, u.key ∈ r.drawnByName a w → r.find? w = some u := by
    rintro w ⟨u', hfind, hkey, -⟩
    rw [hfind, hd.eq_of_same (List.mem_of_find?_eq_some hfind) hu (hkey ▸ TypeKey.same_self _)]
  obtain ⟨text, htext, hk⟩ := exists_of_mem_scan h
  rcases hk with hk | ⟨-, hk⟩
  · obtain ⟨w, hw, -, hk⟩ := exists_of_mem_scan hk
    exact ⟨text, ValueType.mem_memberTypes.mp htext, w, List.mem_cons_of_mem _ hw, hnamed hk⟩
  · exact ⟨text, ValueType.mem_memberTypes.mp htext, text, List.mem_cons_self, hnamed hk⟩

/-- A type reaches the others that it leads to. -/
theorem eq_or_reaches_of_leadsTo (hd : DistinctKeys r.types) (hdt : d ∈ r.types) (ht : t ∈ r.types)
    (h : r.LeadsTo a d.key t.key) : d = t ∨ r.Reaches d t := by
  have hkey : ∀ k, r.LeadsTo a d.key k → ∀ t ∈ r.types, t.key = k →
      Relation.ReflTransGen r.Mentions d t := by
    intro k hk
    induction hk with
    | refl =>
      intro t ht hkey
      rw [hd.eq_of_same ht hdt (hkey ▸ TypeKey.same_self _)]
    | tail _ hstep ih =>
      rintro t ht rfl
      obtain ⟨u, hu, hukey, hdrawn⟩ := hstep
      exact (ih u hu hukey).tail (mentions_of_drawn hd ht hdrawn)
  rcases Relation.reflTransGen_iff_eq_or_transGen.mp (hkey _ h t ht rfl) with rfl | h
  · exact Or.inl rfl
  · exact Or.inr h

/-- **What a tenable type depends on it draws.**  All its texts pass, so no scan of them stops
early. -/
theorem exists_drawn_of_lookup (hr : r.policy = a.policy) (hd : DistinctKeys r.types)
    (hs : s.visited.inProgress = []) (hl : r.Leans a s) (ht : t ∈ r.types)
    (hV : t.key ∈ r.tenable a) (htext : text ∈ t.memberTypes) (hw : w ∈ r.lookups a s text) :
    ∃ d, r.find? w = some d ∧ d.key ∈ r.drawnByTexts a t.memberTypes := by
  have hsupported := supports_memberTypes ht hV
  have hdrawn : r.drawnByText a text ⊆ r.drawnByTexts a t.memberTypes :=
    fun _ hk => mem_scan_of_passes hsupported htext hk
  have hwords : (r.checkText text s).1 = true ↔ r.SupportsWords a (r.tenable a) text :=
    ask_eq_true_iff (q := .text text) hr hd trivial hs hl
  unfold lookups at hw
  split at hw
  · rename_i hpass
    obtain ⟨hw, hlists⟩ := List.mem_filter.mp hw
    have hlists : ¬ a.lists w = true := by simpa using hlists
    obtain ⟨d, hfind, hk⟩ := (hwords.mp hpass w hw).resolve_left hlists
    refine ⟨d, hfind, hdrawn (Or.inl ?_)⟩
    exact mem_scan_of_passes (hwords.mp hpass) hw ⟨hlists, d, hfind, rfl, hk⟩
  · rename_i hfail
    obtain rfl := List.mem_singleton.mp hw
    have hnot : ¬ r.SupportsWords a (r.tenable a) w := fun h => hfail (hwords.mpr h)
    obtain ⟨d, hfind, hk⟩ := (hsupported w htext).resolve_left hnot
    exact ⟨d, hfind, hdrawn (Or.inr ⟨hnot, d, hfind, rfl, hk⟩)⟩

/-! ## 3. The order of acceptance -/

/-- **A type that was accepted after one that draws it leads back to that one.** -/
def Ranked (r : Resolver) (a : AllowList) (s : Session) : Prop :=
  s.visited.order.Pairwise fun k l => r.DrawsIn a k l → r.LeadsTo a l k

/-- The scan of the members of a type draws what their texts draw. -/
theorem members_draws (hr : r.policy = a.policy) (hd : DistinctKeys r.types) (depth : Nat)
    (t : ValueType) (under : List TypeKey) :
    r.Draws a (t.key :: under) (Step.all (r.memberWith (r.validate depth) t) t.memberTypes)
      (fun S => ∀ text ∈ t.memberTypes, r.Supports a S text) (r.drawnByTexts a t.memberTypes) :=
  .all fun text _ => memberWith_draws hr (fun _ hu => validate_draws hr hd depth hu _)
    (by simp [TypeKey.within]) text

/-- **The check of a tenable type leads back to every type that was accepted meanwhile, and no type
from before has drawn it.** -/
theorem leadsTo_of_drawsIn (hr : r.policy = a.policy) (hd : DistinctKeys r.types) {depth : Nat}
    {m : Session} (ht : t ∈ r.types) (hV : t.key ∈ r.tenable a) (hs : r.Steady a under s)
    (hk : s.visited.contains t.key = false)
    (hm : Step.all (r.memberWith (r.validate depth) t) t.memberTypes (s.enter t.key) = some (b, m))
    (hkm : k ∈ m.visited.order) (hdraws : r.DrawsIn a k t.key) : r.LeadsTo a t.key k := by
  rcases (members_draws hr hd depth t under).only (hs.enter hd ht hV) hm k hkm with hold | hnew
  · obtain ⟨u, hu, rfl, hdrawn⟩ := hdraws
    have hheld := hs.drawn u hu (List.any_eq_true.mpr ⟨_, hold, TypeKey.same_self _⟩) hdrawn
    exact absurd hheld (by simp [Session.holding, hk])
  · obtain ⟨l, hl, hlk⟩ := hnew
    exact .head ⟨t, ht, rfl, hl⟩ hlk

/-- Accepting a type keeps the order ranked if it leads back to all that have drawn it. -/
theorem Ranked.accept {n : Nat} {m : Session} (hm : r.Ranked a m)
    (hk : s.visited.contains k = false) (he : (s.enter k).Extends m)
    (hback : ∀ l ∈ m.visited.order, r.DrawsIn a l k → r.LeadsTo a k l) :
    r.Ranked a (conclude k n true m) := by
  unfold Ranked
  rw [conclude_true n hk he, Visited.accept]
  split
  · exact hm
  · refine List.pairwise_append.mpr ⟨hm, List.pairwise_singleton _ _, fun l hl k' hk' => ?_⟩
    rw [List.mem_singleton.mp hk']
    exact hback l hl

/-- **A check keeps the order ranked**, at whatever depth it is made. -/
theorem validate_ranked (hr : r.policy = a.policy) (hd : DistinctKeys r.types) (depth : Nat)
    (ht : t ∈ r.types) (under : List TypeKey) :
    (r.validate depth t).Keeps fun s => r.Steady a under s ∧ r.Ranked a s := by
  induction depth generalizing t under with
  | zero => exact fun s b s' _ h => absurd h (by simp [validate])
  | succ depth ih =>
    rintro s b s' ⟨hs, hranked⟩ h
    have hdraws := validate_draws hr hd (depth + 1) ht under
    refine ⟨hdraws.steady hs h, ?_⟩
    cases b with
    | false =>
      have hv := validate_rollback hs.leans.sound h
      unfold Ranked
      rwa [hv]
    | true =>
      have hV : t.key ∈ r.tenable a := (hdraws.eq_true_iff hs h).mp rfl
      rcases validate_cases h with ⟨-, -, rfl⟩ | ⟨hk, m, hm, rfl⟩
      · exact hranked
      have hclosed : Step.Closed
          (Step.Keeps fun s => r.Steady a (t.key :: under) s ∧ r.Ranked a s) :=
        Step.keeps_closed fun _ _ hs => ⟨hs.1.congr (by rfl), hs.2⟩
      have hmembers := hclosed.all (hclosed.memberWith (fun u hu => ih hu (t.key :: under)) t)
        t.memberTypes
      have hm' : r.Ranked a m := (hmembers (s := s.enter t.key) ⟨hs.enter hd ht hV, hranked⟩ hm).2
      have he := members_frames (validate_frames r depth) t (hs.leans.sound.enter _) hm
      exact hm'.accept hk he fun l hl => leadsTo_of_drawsIn hr hd ht hV hs hk hm hl

/-- After a sequence of questions the session is steady and its order ranked. -/
theorem askAll_ranked (hr : r.policy = a.policy) (hd : DistinctKeys r.types) {qs : List Question}
    (hqs : ∀ q ∈ qs, q.Within r.types) :
    r.Steady a [] (r.askAll .start qs) ∧ r.Ranked a (r.askAll .start qs) := by
  refine askAll_invariant (I := fun s => r.Steady a [] s ∧ r.Ranked a s) (fun q hq s hs => ?_)
    ⟨steady_start r a, List.Pairwise.nil⟩
  have hkeeps : (r.step q).Keeps fun s => r.Steady a [] s ∧ r.Ranked a s :=
    step_of_closed (Step.keeps_closed fun _ _ hs => ⟨hs.1.congr (by rfl), hs.2⟩)
      (fun t ht => validate_ranked hr hd r.depth ht []) (hqs q hq)
  exact hkeeps hs (step_eq_some (hqs q hq) hs.1.leans.sound)

/-! ## 4. The types read out -/

/-- Of two elements of a list, one stands before the other, or they are equal. -/
theorem before_or_after {α : Type} {xs : List α} {x y : α} (hx : x ∈ xs) (hy : y ∈ xs) :
    [x, y].Sublist xs ∨ x = y ∨ [y, x].Sublist xs := by
  let R : α → α → Prop := fun x y => [x, y].Sublist xs ∨ x = y ∨ [y, x].Sublist xs
  have hR : xs.Pairwise R := List.pairwise_iff_forall_sublist.mpr Or.inl
  have hflip : xs.Pairwise (flip R) :=
    List.pairwise_iff_forall_sublist.mpr fun h => Or.inr (Or.inr h)
  have hrefl : ∀ z ∈ xs, R z z := fun _ _ => Or.inr (Or.inl rfl)
  exact hR.forall_of_forall_of_flip hrefl hflip hx hy

/-- The types read out are those whose keys were accepted. -/
theorem mem_required (hd : DistinctKeys r.types) (hs : r.Steady a [] s) (ht : t ∈ r.types) :
    t ∈ r.required s ↔ t.key ∈ s.visited.order := by
  have hget : r.get? t.key = some t := hd.find?_eq ht (TypeKey.same_self _)
  constructor
  · intro h
    obtain ⟨k, hk, hget'⟩ := List.mem_filterMap.mp h
    obtain ⟨u, hu, rfl⟩ := (tenable_selfSupporting r a).listed k (hs.accepted k hk)
    have hu' : r.get? u.key = some u := hd.find?_eq hu (TypeKey.same_self _)
    rwa [← Option.some.inj (hu'.symm.trans hget')]
  · exact fun h => List.mem_filterMap.mpr ⟨t.key, h, hget⟩

/-- **Dependencies come first.**  Whatever was asked, the types that a retained type depends on are
retained.  Each stands before it, or is that type, or reaches it; and if there are no circles but
from a type to itself, each other one stands before it. -/
theorem dependencies_first (types : List ValueType) (a : AllowList) (hd : DistinctKeys types)
    (qs : List Question) (hqs : ∀ q ∈ qs, q.Within types) :
    let r : Resolver := ⟨types, a.policy⟩
    let s := r.askAll .start qs
    ∀ t ∈ r.required s, ∀ text, t.BuiltFrom text → ∀ w ∈ r.lookups a s text,
      ∃ d, r.find? w = some d ∧ d ∈ r.required s ∧
        ([d, t].Sublist (r.required s) ∨ d = t ∨ r.Reaches d t) ∧
        (r.SelfLoopsOnly → d ≠ t → [d, t].Sublist (r.required s)) := by
  intro r s t ht text htext w hw
  obtain ⟨hs, hranked⟩ : r.Steady a [] s ∧ r.Ranked a s := askAll_ranked rfl hd hqs
  have htypes : t ∈ types := by
    obtain ⟨k, -, hget⟩ := List.mem_filterMap.mp ht
    exact List.mem_of_find?_eq_some hget
  have htorder := (mem_required (r := r) hd hs htypes).mp ht
  obtain ⟨d, hfind, hdrawn⟩ := exists_drawn_of_lookup (r := r) rfl hd hs.inProgress hs.leans htypes
    (hs.accepted _ htorder) (ValueType.mem_memberTypes.mpr htext) hw
  have hdtypes : d ∈ types := List.mem_of_find?_eq_some hfind
  have hdorder : d.key ∈ s.visited.order :=
    hs.mem_order_of_leadsTo hd htorder (.single ⟨t, htypes, rfl, hdrawn⟩)
  have hplace : [d, t].Sublist (r.required s) ∨ d = t ∨ r.Reaches d t := by
    rcases before_or_after hdorder htorder with h | h | h
    · have hget : ∀ u ∈ types, r.get? u.key = some u := fun u hu =>
        DistinctKeys.find?_eq hd hu (TypeKey.same_self _)
      have hsub := h.filterMap r.get?
      rw [List.filterMap_cons_some (hget d hdtypes), List.filterMap_cons_some (hget t htypes)]
        at hsub
      exact Or.inl hsub
    · exact Or.inr (Or.inl (hd.eq_of_same hdtypes htypes (h ▸ TypeKey.same_self _)))
    · have hback := List.pairwise_iff_forall_sublist.mp hranked h ⟨t, htypes, rfl, hdrawn⟩
      exact Or.inr (eq_or_reaches_of_leadsTo hd hdtypes htypes hback)
  refine ⟨d, hfind, (mem_required (r := r) hd hs hdtypes).mpr hdorder, hplace, ?_⟩
  intro hloops hne
  refine hplace.resolve_right fun h => hne (h.resolve_right fun hreach => hne ?_)
  exact hloops d hdtypes t htypes hreach (.single (mentions_of_drawn (r := r) hd hdtypes hdrawn))

/-! ## 5. Non-vacuity

Three types, each with a field of the next, a fourth that the constructor of the first takes, and
the circle of `samples`. -/

def volumes : List ValueType :=
  [sampleFrom "Volume" "vector<Sheaf>" "Cover", sample "Sheaf" "Page", sample "Page" "int",
    sample "Cover" "int"]

theorem volumes_selfLoopsOnly : SelfLoopsOnly ⟨volumes, AllowList.standard.policy⟩ :=
  selfLoopsOnly_of_rank (fun t => t.name.length) (by decide +kernel)

/-- **Without circles the parts come first.  On a circle a type that comes first is reached from
the one it is built from.** -/
theorem volumes_dependencies_first :
    (∀ part ∈ [sample "Sheaf" "Page", sample "Cover" "int"],
        [part, sampleFrom "Volume" "vector<Sheaf>" "Cover"].Sublist
          (required ⟨volumes, AllowList.standard.policy⟩
            (askAll ⟨volumes, AllowList.standard.policy⟩ .start [.name "Volume"]))) ∧
      required ⟨samples, AllowList.standard.policy⟩
          (askAll ⟨samples, AllowList.standard.policy⟩ .start [.name "A"])
        = [sample "B" "A", sample "A" "vector<B>"] ∧
      Reaches ⟨samples, AllowList.standard.policy⟩ (sample "A" "vector<B>") (sample "B" "A") := by
  have hcircle : required ⟨samples, AllowList.standard.policy⟩
      (askAll ⟨samples, AllowList.standard.policy⟩ .start [.name "A"])
        = [sample "B" "A", sample "A" "vector<B>"] := by decide +kernel
  refine ⟨?_, hcircle, ?_⟩
  · have hfirst := dependencies_first volumes .standard (by decide) [.name "Volume"]
      (by simp [Question.Within]) (sampleFrom "Volume" "vector<Sheaf>" "Cover") (by decide +kernel)
    obtain ⟨sheaf, hsheaf, -, -, hfield⟩ :=
      hfirst "vector<Sheaf>" (by decide) "Sheaf" (by decide +kernel)
    obtain ⟨cover, hcover, -, -, hparameter⟩ := hfirst "Cover" (by decide) "Cover" (by decide +kernel)
    obtain rfl : sample "Sheaf" "Page" = sheaf := by
      simpa [find?, volumes, sample, sampleFrom] using hsheaf
    obtain rfl : sample "Cover" "int" = cover := by
      simpa [find?, volumes, sample, sampleFrom] using hcover
    simp only [List.forall_mem_cons, List.not_mem_nil, false_implies, implies_true, and_true]
    exact ⟨hfield volumes_selfLoopsOnly (by decide), hparameter volumes_selfLoopsOnly (by decide)⟩
  · obtain ⟨d, hfind, -, hplace, -⟩ := dependencies_first samples .standard samples_distinct
      [.name "A"] (by simp [Question.Within]) (sample "B" "A") (by decide +kernel) "A" (by decide)
      "A" (by decide +kernel)
    obtain rfl : sample "A" "vector<B>" = d := by simpa [find?, samples, sample] using hfind
    rw [hcircle] at hplace
    exact (hplace.resolve_left (by decide)).resolve_left (by decide)

end Resolver

end CppSurface
