import CppSurface.Survey.FilePass

/-!
# Attribution

How functions and value types get into an extraction.  Every change goes through one of two places:
an entry is changed where it stands, or appended (`update_cases`), and a value type is put in place
of the one with its key, or appended (`placeType_cases`).  From these follow the two facts that
hold along every survey.

* What every stored function and value type satisfies, they go on to satisfy when a pass is absorbed
  that brings in only such (`Holds.absorb`).
* A name that is listed stays listed (`Lists.absorb`), and the names of the types that a pass
  publishes are listed once it is absorbed (`Lists.absorbed`).
-/

namespace CppSurface

/-! ## 1. One entry -/

namespace FileEntry

/-- **Where a value type is put**: in place of the first one with its key, which may stay, or at the
end. -/
theorem placeType_cases (overwrite : Bool) (t : ValueType) (ts : List ValueType) :
    (∃ before w after, ts = before ++ w :: after ∧ w.key.same t.key = true ∧
      (∀ u ∈ before, u.key.same t.key = false) ∧
      placeType overwrite t ts = before ++ (if overwrite then t else w) :: after) ∨
    ((∀ u ∈ ts, u.key.same t.key = false) ∧ placeType overwrite t ts = ts ++ [t]) := by
  induction ts with
  | nil => exact Or.inr ⟨by simp, rfl⟩
  | cons w ts ih =>
    unfold placeType
    by_cases hw : w.key.same t.key = true
    · exact Or.inl ⟨[], w, ts, rfl, hw, by simp, by rw [if_pos hw]; rfl⟩
    · rw [if_neg hw]
      have hw' : w.key.same t.key = false := Bool.eq_false_iff.mpr hw
      rcases ih with ⟨before, u, after, rfl, hu, hbefore, hplace⟩ | ⟨hnone, hplace⟩
      · refine Or.inl ⟨w :: before, u, after, rfl, hu, ?_, by rw [hplace]; rfl⟩
        exact List.forall_mem_cons.mpr ⟨hw', hbefore⟩
      · exact Or.inr ⟨List.forall_mem_cons.mpr ⟨hw', hnone⟩, by rw [hplace]; rfl⟩

variable {overwrite : Bool} {t u : ValueType} {ts : List ValueType}

/-- Putting a value type into a list adds no other. -/
theorem mem_placeType (h : u ∈ placeType overwrite t ts) : u ∈ ts ∨ u = t := by
  rcases placeType_cases overwrite t ts with ⟨before, w, after, rfl, -, -, hplace⟩ | ⟨-, hplace⟩
  · rw [hplace, List.mem_append, List.mem_cons] at h
    rcases h with h | h | h
    · exact Or.inl (List.mem_append_left _ h)
    · cases overwrite
      · exact Or.inl (by simp [h])
      · exact Or.inr h
    · exact Or.inl (List.mem_append_right _ (List.mem_cons_of_mem _ h))
  · rw [hplace] at h
    simpa using h

/-- **Putting a value type into a list loses no name**, because a type gives way only to one with
its key. -/
theorem exists_name_placeType (overwrite : Bool) (t : ValueType) (hu : u ∈ ts) :
    ∃ u' ∈ placeType overwrite t ts, u'.name = u.name := by
  rcases placeType_cases overwrite t ts with ⟨before, w, after, rfl, hw, -, hplace⟩ | ⟨-, hplace⟩
  · rw [hplace]
    have hname : w.name = t.name := (TypeKey.same_iff.mp hw).1
    rcases List.mem_append.mp hu with hu | hu
    · exact ⟨u, List.mem_append_left _ hu, rfl⟩
    · rcases List.mem_cons.mp hu with rfl | hu
      · refine ⟨_, List.mem_append_right _ List.mem_cons_self, ?_⟩
        cases overwrite
        · rfl
        · exact hname.symm
      · exact ⟨u, List.mem_append_right _ (List.mem_cons_of_mem _ hu), rfl⟩
  · exact ⟨u, by rw [hplace]; exact List.mem_append_left _ hu, rfl⟩

/-- The name of a value type that was put into a list is in it. -/
theorem exists_name_placed (overwrite : Bool) (t : ValueType) (ts : List ValueType) :
    ∃ u ∈ placeType overwrite t ts, u.name = t.name := by
  rcases placeType_cases overwrite t ts with ⟨before, w, after, -, hw, -, hplace⟩ | ⟨-, hplace⟩
  · rw [hplace]
    refine ⟨_, List.mem_append_right _ List.mem_cons_self, ?_⟩
    cases overwrite
    · exact (TypeKey.same_iff.mp hw).1
    · rfl
  · exact ⟨t, by rw [hplace]; simp, rfl⟩

end FileEntry

/-! ## 2. All entries -/

namespace Extraction

variable {x : Extraction} {file : Option Path} {g : FileEntry → FileEntry} {e : FileEntry}

/-- **What changing an entry does**: the first entry of the file is changed where it stands, or else
a new one is appended. -/
theorem update_cases (x : Extraction) (file : Option Path) (g : FileEntry → FileEntry) :
    (∃ before e after, x.entries = before ++ e :: after ∧ Path.same? e.file file = true ∧
      (∀ e' ∈ before, Path.same? e'.file file = false) ∧
      (x.update file g).entries = before ++ g e :: after) ∨
    ((∀ e ∈ x.entries, Path.same? e.file file = false) ∧
      (x.update file g).entries = x.entries ++ [g (.blank file)]) := by
  obtain ⟨es⟩ := x
  change (∃ before e after, es = before ++ e :: after ∧ Path.same? e.file file = true ∧
      (∀ e' ∈ before, Path.same? e'.file file = false) ∧
      updateEntries file g es = before ++ g e :: after) ∨
    ((∀ e ∈ es, Path.same? e.file file = false) ∧
      updateEntries file g es = es ++ [g (.blank file)])
  induction es with
  | nil => exact Or.inr ⟨by simp, rfl⟩
  | cons e es ih =>
    unfold updateEntries
    by_cases he : Path.same? e.file file = true
    · exact Or.inl ⟨[], e, es, rfl, he, by simp, by rw [if_pos he]; rfl⟩
    · rw [if_neg he]
      have he' : Path.same? e.file file = false := Bool.eq_false_iff.mpr he
      rcases ih with ⟨before, e', after, rfl, hsame, hbefore, hup⟩ | ⟨hnone, hup⟩
      · refine Or.inl ⟨e :: before, e', after, rfl, hsame, ?_, by rw [hup]; rfl⟩
        exact List.forall_mem_cons.mpr ⟨he', hbefore⟩
      · exact Or.inr ⟨List.forall_mem_cons.mpr ⟨he', hnone⟩, by rw [hup]; rfl⟩

/-- Every entry after a change was there before, or is a changed one. -/
theorem mem_update (h : e ∈ (x.update file g).entries) :
    e ∈ x.entries ∨ (∃ e' ∈ x.entries, e = g e') ∨ e = g (.blank file) := by
  rcases update_cases x file g with ⟨before, e', after, hx, -, -, hup⟩ | ⟨-, hup⟩
  · rw [hup, List.mem_append, List.mem_cons] at h
    rw [hx]
    rcases h with h | rfl | h
    · exact Or.inl (List.mem_append_left _ h)
    · exact Or.inr (Or.inl ⟨e', by simp, rfl⟩)
    · exact Or.inl (List.mem_append_right _ (List.mem_cons_of_mem _ h))
  · rw [hup, List.mem_append, List.mem_singleton] at h
    exact h.imp_right Or.inr

/-- No entry is lost by changing one. -/
theorem mem_update_of_mem (file : Option Path) (g : FileEntry → FileEntry) (h : e ∈ x.entries) :
    e ∈ (x.update file g).entries ∨ g e ∈ (x.update file g).entries := by
  rcases update_cases x file g with ⟨before, e', after, hx, -, -, hup⟩ | ⟨-, hup⟩
  · rw [hx, List.mem_append, List.mem_cons] at h
    rw [hup]
    rcases h with h | rfl | h
    · exact Or.inl (List.mem_append_left _ h)
    · exact Or.inr (by simp)
    · exact Or.inl (List.mem_append_right _ (List.mem_cons_of_mem _ h))
  · exact Or.inl (by rw [hup]; exact List.mem_append_left _ h)

/-- Some entry is the changed one. -/
theorem exists_changed (x : Extraction) (file : Option Path) (g : FileEntry → FileEntry) :
    ∃ e, g e ∈ (x.update file g).entries := by
  rcases update_cases x file g with ⟨before, e, after, -, -, -, hup⟩ | ⟨-, hup⟩
  · exact ⟨e, by rw [hup]; simp⟩
  · exact ⟨.blank file, by rw [hup]; simp⟩

/-! ## 3. Whole passes

Absorbing a pass is a sequence of changes of three kinds: includes are set, a function is added, a
value type is added.  What each of these keeps, absorbing keeps. -/

variable {I : Extraction → Prop} {entry : EntryPoint} {source : Path} {unit : ParsedUnit}
  {t : ValueType} {pass : FilePass}

theorem attribute_invariant
    (hincludes : ∀ x file includes, I x → I (x.update file (FileEntry.setIncludes includes)))
    (htype : ∀ x file overwrite, I x → I (x.update file (FileEntry.addValueType overwrite t)))
    (hx : I x) : I (x.attribute entry source unit t) := by
  unfold Extraction.attribute
  refine htype _ _ _ ?_
  split
  · exact hx
  · exact hincludes _ _ _ hx

/-- **What every change of a pass keeps, absorbing the pass keeps.** -/
theorem absorb_invariant
    (hincludes : ∀ x file includes, I x → I (x.update file (FileEntry.setIncludes includes)))
    (hfunction : ∀ f ∈ pass.functions, ∀ x file, I x →
      I (x.update file (FileEntry.addFunction f)))
    (htype : ∀ t ∈ pass.required, ∀ x file overwrite, I x →
      I (x.update file (FileEntry.addValueType overwrite t)))
    (hx : I x) : I (x.absorb entry source unit pass) := by
  unfold absorb
  refine List.foldlRecOn pass.required _ ?_ fun y hy t ht =>
    attribute_invariant hincludes (htype t ht) hy
  refine List.foldlRecOn pass.functions _ ?_ fun y hy f hf => hfunction f hf _ _ hy
  exact hincludes _ _ _ hx

end Extraction

/-! ## 4. What every stored record satisfies -/

section

variable {P : FunctionRecord → Prop} {Q : ValueType → Prop}

/-- The functions of an entry satisfy one condition and its value types another. -/
structure FileEntry.Holds (P : FunctionRecord → Prop) (Q : ValueType → Prop) (e : FileEntry) :
    Prop where
  functions : ∀ f ∈ e.functions, P f
  valueTypes : ∀ t ∈ e.valueTypes, Q t

/-- The stored functions satisfy one condition and the stored value types another. -/
def Extraction.Holds (P : FunctionRecord → Prop) (Q : ValueType → Prop) (x : Extraction) : Prop :=
  ∀ e ∈ x.entries, e.Holds P Q

namespace Extraction.Holds

theorem empty : Extraction.empty.Holds P Q := fun _ h => absurd h (by simp [Extraction.empty])

theorem mono {P' : FunctionRecord → Prop} {Q' : ValueType → Prop} {x : Extraction}
    (hP : ∀ f, P f → P' f) (hQ : ∀ t, Q t → Q' t) (h : x.Holds P Q) : x.Holds P' Q' :=
  fun e he => ⟨fun f hf => hP f ((h e he).functions f hf),
    fun t ht => hQ t ((h e he).valueTypes t ht)⟩

theorem update {x : Extraction} {file : Option Path} {g : FileEntry → FileEntry}
    (hg : ∀ e : FileEntry, e.Holds P Q → (g e).Holds P Q) (h : x.Holds P Q) :
    (x.update file g).Holds P Q := by
  intro e he
  rcases mem_update he with he | ⟨e', he', rfl⟩ | rfl
  · exact h e he
  · exact hg e' (h e' he')
  · exact hg _ ⟨by simp [FileEntry.blank], by simp [FileEntry.blank]⟩

/-- **A pass brings in only its own records**, so what these and the stored ones satisfy, the stored
ones still satisfy when it is absorbed. -/
theorem absorb {x : Extraction} {entry : EntryPoint} {source : Path} {unit : ParsedUnit}
    {pass : FilePass} (hP : ∀ f ∈ pass.functions, P f) (hQ : ∀ t ∈ pass.required, Q t)
    (h : x.Holds P Q) : (x.absorb entry source unit pass).Holds P Q := by
  refine absorb_invariant (I := Extraction.Holds P Q) ?_ ?_ ?_ h
  · intro x file includes hx
    exact hx.update fun e he => ⟨he.functions, he.valueTypes⟩
  · intro f hf x file hx
    refine hx.update fun e he => ⟨?_, he.valueTypes⟩
    intro f' hf'
    rcases List.mem_append.mp hf' with hf' | hf'
    · exact he.functions f' hf'
    · exact List.mem_singleton.mp hf' ▸ hP f hf
  · intro t ht x file overwrite hx
    refine hx.update fun e he => ⟨he.functions, ?_⟩
    intro u hu
    rcases FileEntry.mem_placeType hu with hu | rfl
    · exact he.valueTypes u hu
    · exact hQ u ht

end Extraction.Holds

end

/-! ## 5. Names -/

/-- A name is that of a value type listed somewhere in an extraction. -/
def Extraction.Lists (x : Extraction) (name : String) : Prop :=
  ∃ e ∈ x.entries, ∃ t ∈ e.valueTypes, t.name = name

namespace Extraction

variable {x : Extraction} {name : String} {entry : EntryPoint} {source : Path} {unit : ParsedUnit}
  {t : ValueType} {pass : FilePass}

theorem Lists.update {file : Option Path} {g : FileEntry → FileEntry}
    (hg : ∀ e : FileEntry, ∀ t ∈ e.valueTypes, ∃ u ∈ (g e).valueTypes, u.name = t.name)
    (h : x.Lists name) : (x.update file g).Lists name := by
  obtain ⟨e, he, t, ht, rfl⟩ := h
  rcases mem_update_of_mem file g he with he' | he'
  · exact ⟨e, he', t, ht, rfl⟩
  · exact ⟨g e, he', hg e t ht⟩

theorem Lists.setIncludes (file : Option Path) (includes : List Path) (h : x.Lists name) :
    (x.update file (FileEntry.setIncludes includes)).Lists name :=
  h.update fun _ t ht => ⟨t, ht, rfl⟩

theorem Lists.addValueType (file : Option Path) (overwrite : Bool) (t : ValueType)
    (h : x.Lists name) : (x.update file (FileEntry.addValueType overwrite t)).Lists name :=
  h.update fun _ _ hu => FileEntry.exists_name_placeType overwrite t hu

/-- **Attribution loses no name.** -/
theorem Lists.attribute (t : ValueType) (h : x.Lists name) :
    (x.attribute entry source unit t).Lists name :=
  attribute_invariant (I := fun x => x.Lists name)
    (fun _ file includes h => h.setIncludes file includes)
    (fun _ file overwrite h => h.addValueType file overwrite t) h

/-- An attributed type is listed. -/
theorem Lists.attributed (t : ValueType) : (x.attribute entry source unit t).Lists t.name := by
  unfold Extraction.attribute
  obtain ⟨e, he⟩ := exists_changed (if x.contains (entry.keyFor t.file) then x
    else x.update (entry.keyFor t.file) (FileEntry.setIncludes (unit.directIncludes t.file)))
    (entry.keyFor t.file) (FileEntry.addValueType (t.file.same source) t)
  exact ⟨_, he, FileEntry.exists_name_placed _ t e.valueTypes⟩

/-- **Absorbing a pass loses no name.** -/
theorem Lists.absorb (h : x.Lists name) : (x.absorb entry source unit pass).Lists name :=
  absorb_invariant (I := fun x => x.Lists name)
    (fun _ file includes h => h.setIncludes file includes)
    (fun _ _ _ _ h => h.update fun _ t ht => ⟨t, ht, rfl⟩)
    (fun t _ _ file overwrite h => h.addValueType file overwrite t) h

/-- **The types that a pass publishes are listed once it is absorbed.** -/
theorem Lists.absorbed (ht : t ∈ pass.required) :
    (x.absorb entry source unit pass).Lists t.name := by
  unfold Extraction.absorb
  obtain ⟨before, after, hsplit⟩ := List.append_of_mem ht
  rw [hsplit, List.foldl_append, List.foldl_cons]
  exact List.foldlRecOn (motive := fun x => Lists x t.name) after _ (.attributed t)
    fun _ h u _ => h.attribute u

end Extraction

end CppSurface
