import CppSurface.Proofs.Dump.Records
import CppSurface.Proofs.Text.Trim

/-!
# Constructors that copy or move

Whether a constructor copies or moves is told from the spelling of its one parameter type.  The text
is compared with the unqualified name of the record, and only from its last `::` on.  So what is
known of the parameter of a constructor with a mark is this: it is a reference, and the type it
names goes by the name of the record in some scope (`RefersByName`), which need not be the scope of
the record (`keyUnit_other_scope`).  The theorem on records brings this to every record of a dump
and to the records that are accepted (`special_refers`).

The mark is decided from the nodes inside the constructor and is read off its declaration, so two
things have to be carried over: that the declaration keeps its mark, which it does as every member
keeps its declaration, and that the parameters of the tree are those of the dump, for which the
constructor has to be done with before they are read (`RecordBuilt.parameters`).
-/

namespace CppSurface

open Text

namespace DeclTree

/-! ## 1. Names and their segments -/

/-- **One text is a trailing sequence of whole segments of another**, where `::` parts segments. -/
def TrailingSegments (part whole : List Char) : Prop :=
  whole = part ∨ ∃ before, whole = before ++ [':', ':'] ++ part

theorem TrailingSegments.trans {a b c : List Char} (h : TrailingSegments a b)
    (h' : TrailingSegments b c) : TrailingSegments a c := by
  rcases h with rfl | ⟨before, rfl⟩
  · exact h'
  · rcases h' with rfl | ⟨before', rfl⟩
    · exact Or.inr ⟨before, rfl⟩
    · exact Or.inr ⟨before' ++ [':', ':'] ++ before, by simp⟩

theorem trailingSegments_qualify (name : String) (scopes : List String) :
    TrailingSegments name.toList (qualify name scopes).toList := by
  unfold qualify
  induction scopes generalizing name with
  | nil => exact Or.inl rfl
  | cons scope scopes ih =>
    have hscope : TrailingSegments name.toList (scope ++ "::" ++ name).toList :=
      Or.inr ⟨scope.toList, by simp⟩
    exact hscope.trans (ih (scope ++ "::" ++ name))

/-- The name of a declaration is the end of its qualified name. -/
theorem trailingSegments_qualifiedName (t : DeclTree) (id : Nat) :
    TrailingSegments (t.get id).name.toList (t.qualifiedName id).toList :=
  trailingSegments_qualify _ _

end DeclTree

open DeclTree

namespace Dump

variable {canonical : Path → Path} {root : Node} {t : DeclTree} {before after : List Node}
  {parts inner : List Node} {a d : Attributes} {nodeId i c : Nat} {recordName : String} {sort : SpecialMember}

/-! ## 2. References to a record -/

/-- What a parameter type ends with. -/
def referenceMark : SpecialMember → List Char
  | .copy => ['&']
  | .move => ['&', '&']

/-- **A type refers to a record by its name**: without the mark of a reference and without
qualifiers it is a single word, the name of the record or this name in some scope. -/
def RefersByName (sort : SpecialMember) (recordName typeText : String) : Prop :=
  recordName ≠ "" ∧ ∃ base word, trim typeText.toList = base ++ referenceMark sort ∧
    ((items base).filter fun w => !isQualifier w) = [word] ∧
    TrailingSegments recordName.toList word

theorem trailingSegments_unqualified (name : List Char) :
    TrailingSegments (unqualified name) name := by
  unfold unqualified
  cases hlast : afterLast? [':', ':'] name with
  | none => exact Or.inl rfl
  | some rest =>
    obtain ⟨scope, hscope⟩ := afterLast?_eq_some hlast
    exact Or.inr ⟨scope, hscope⟩

theorem refersByName_of_namesRecord {typeText : String} {base : List Char}
    (htext : trim typeText.toList = base ++ referenceMark sort)
    (h : namesRecord recordName.toList base = true) : RefersByName sort recordName typeText := by
  unfold namesRecord at h
  split at h
  · rename_i word hword
    obtain ⟨hne, hname⟩ := Bool.and_eq_true_iff.mp h
    have hlast : unqualified word = recordName.toList := eq_of_beq hname
    refine ⟨?_, base, word, htext, hword, hlast ▸ trailingSegments_unqualified word⟩
    rintro rfl
    exact absurd hne (by simp)
  · exact absurd h (by simp)

/-- **A constructor that copies or moves has one parameter, which refers to the record by name.** -/
theorem special?_eq_some {types : List String} (h : special? recordName types = some sort) :
    ∃ typeText, types = [typeText] ∧ RefersByName sort recordName typeText := by
  unfold special? at h
  split at h
  · rename_i typeText
    refine ⟨typeText, rfl, ?_⟩
    dsimp only at h
    split at h
    · rename_i base hmove
      split at h
      · rename_i hnames
        obtain rfl : .move = sort := Option.some.inj h
        exact refersByName_of_namesRecord (dropEnd?_eq_some hmove) hnames
      · exact absurd h (by simp)
    · split at h
      · rename_i base hcopy
        split at h
        · rename_i hnames
          obtain rfl : .copy = sort := Option.some.inj h
          exact refersByName_of_namesRecord (dropEnd?_eq_some hcopy) hnames
        · exact absurd h (by simp)
      · exact absurd h (by simp)
  · exact absurd h (by simp)

/-! ## 3. Constructors in the tree -/

theorem kind_locate (canonical : Path → Path) (place : Option Place) (d : Decl) :
    (locate canonical place d).kind = d.kind := by
  cases place <;> rfl

theorem kind_of_mem_parametersOf {p : Decl} (hp : p ∈ parametersOf canonical parts) :
    p.kind = .parameter := by
  obtain ⟨n, -, hn⟩ := List.mem_filterMap.mp hp
  split at hn
  · rw [← Option.some.inj hn]
    exact kind_locate canonical _ _
  · exact absurd hn (by simp)

/-- **The parameters of a constructor in the tree are those of the dump.**  After the constructor
has been added it is still marked and given its access; this changes no parameter. -/
theorem RecordBuilt.parameters
    (h : RecordBuilt canonical t a (before ++ .mk nodeId (.decl .constructorDecl d) parts :: after)
      i) (himplicit : d.implicit = false)
    (hc : (t.children i)[a.bases.length + (kept before).length]? = some c) :
    t.parameters c = (parametersOf canonical parts).map fun p => { p with parent := some c } := by
  have hkept : isDropped (Node.mk nodeId (.decl .constructorDecl d) parts).content = false :=
    himplicit
  obtain ⟨b, hnext, -, hcompleted⟩ := h.child hkept
  obtain rfl : b.next = c := Option.some.inj (hnext.symm.trans hc)
  simp only [addMember, treatment, attributesOf, himplicit, Bool.false_eq_true, if_false]
    at hcompleted
  -- The mark and the access are changes to the constructor alone, which `Completed` leaves open.
  have hfunction : Completed b.next (addFunction canonical .constructor d parts i b).tree t := by
    have hconstructor := hcompleted.of_modify
    unfold addConstructor at hconstructor
    dsimp only at hconstructor
    split at hconstructor
    · exact hconstructor.of_modify
    · exact hconstructor
  have hlt : b.next < (addFunction canonical .constructor d parts i b).tree.size :=
    addFunction_addsChild.size_lt
  have hsize : (b.tree.push i (functionOf canonical .constructor d parts)).size = b.next + 1 :=
    size_push _ _ _
  unfold DeclTree.parameters
  rw [hfunction.map_get_children hlt, tree_addFunction,
    map_get_children_foldl_push _ (by omega) (children_eq_nil (Nat.le_of_eq hsize))]
  refine List.filter_eq_self.mpr fun p hp => ?_
  obtain ⟨p', hp', rfl⟩ := List.mem_map.mp hp
  rw [kind_of_mem_parametersOf hp']
  rfl

/-- Only constructors become constructors. -/
theorem content_of_kind_memberDecl {m : Node} (hm : isDropped m.content = false)
    (hkind : (memberDecl canonical recordName m).kind = .constructor) :
    ∃ d, m.content = .decl .constructorDecl d ∧ d.implicit = false := by
  obtain ⟨id, content, inner⟩ := m
  cases content with
  | compound => exact absurd hm (by simp [isDropped, Node.content])
  | other label place =>
    exact absurd ((kind_locate canonical _ _).symm.trans hkind) (by simp)
  | decl sort a =>
    cases sort with
    | constructorDecl => exact ⟨a, rfl, hm⟩
    | recordDecl =>
      refine absurd hkind ?_
      simp only [memberDecl, Node.content]
      split
      · rw [otherOf, kind_locate]
        simp
      · rw [declOf, kind_locate]
        unfold recordKind
        split <;> simp
    | namespaceDecl | parameterDecl => exact absurd hm (by simp [isDropped, Node.content])
    | fieldDecl | methodDecl | accessSpecDecl | enumDecl | functionDecl | typedefDecl
    | typeAliasDecl => exact absurd ((kind_locate canonical _ _).symm.trans hkind) (by simp)

/-- **A constructor of a record is marked by its parameters.** -/
theorem RecordBuilt.refersByName (h : RecordBuilt canonical t a inner i) (hc : c ∈ t.children i)
    (hkind : (t.get c).kind = .constructor) (hspecial : (t.get c).special = some sort) :
    ∃ p, t.parameters c = [p] ∧ RefersByName sort a.nameText (p.typeText.getD "") := by
  obtain ⟨q, hq⟩ := List.mem_iff_getElem?.mp hc
  rcases h.recordChildren.cases hq with ⟨base, -, hbase⟩ | ⟨before, m, after, rfl, hm, rfl⟩
  · exact absurd (hkind.symm.trans hbase) (by simp)
  · obtain ⟨c', hc', hdecl⟩ := h.recordChildren.member before m after rfl hm
    obtain rfl : c' = c := Option.some.inj (hc'.symm.trans hq)
    obtain ⟨d, hd, himplicit⟩ :=
      content_of_kind_memberDecl hm ((congrArg Decl.kind hdecl).symm.trans hkind)
    obtain ⟨nodeId, content, parts⟩ := m
    obtain rfl : content = .decl .constructorDecl d := hd
    have hmark : special? a.nameText
        ((parametersOf canonical parts).map fun p => p.typeText.getD "") = some sort :=
      (congrArg Decl.special hdecl).symm.trans hspecial
    obtain ⟨typeText, htypes, hrefers⟩ := special?_eq_some hmark
    obtain ⟨p, hp, rfl⟩ := List.map_eq_singleton_iff.mp htypes
    refine ⟨{ p with parent := some c' }, ?_, hrefers⟩
    rw [h.parameters himplicit hq, hp, List.map_singleton]

theorem RecordBuilt.name (h : RecordBuilt canonical t a inner i) :
    (t.get i).name = a.nameText := by
  have hrecord := congrArg Decl.name h.recordChildren.record
  refine Eq.trans hrecord ?_
  unfold declOf locate
  split <;> rfl

/-! ## 4. Records that are accepted -/

/-- An accepted record is a value type. -/
theorem isValueType_of_accepted {aliases : AliasTable} {record : ValueType}
    (h : t.verdict aliases i = .accepted record) : Verdict.IsValueType t aliases i := by
  rw [verdict_eq] at h
  split at h
  · exact absurd h (by simp)
  · split at h
    · rename_i hflags
      exact Verdict.isValueType_iff.mp hflags
    · exact absurd h (by simp)

/-- **Constructors that copy or move refer to their record by name.**  In every record of a dump, a
constructor that is marked has one parameter, a reference to a type that goes by the name of the
record in some scope; this name is also the end of the record's qualified name.  So every record
that is accepted has a public constructor, not deleted, that takes an rvalue reference to a type of
its name. -/
theorem special_refers (canonical : Path → Path) (root : Node) {a : Attributes} {inner : List Node}
    {i : Nat} (h : RecordAt root (toTree canonical root) a inner i) :
    TrailingSegments ((toTree canonical root).get i).name.toList
      ((toTree canonical root).qualifiedName i).toList ∧
    (∀ c ∈ (toTree canonical root).children i, ∀ sort,
      ((toTree canonical root).get c).kind = .constructor →
      ((toTree canonical root).get c).special = some sort →
      ∃ p, (toTree canonical root).parameters c = [p] ∧
        RefersByName sort ((toTree canonical root).get i).name (p.typeText.getD "")) ∧
    ∀ aliases record, (toTree canonical root).verdict aliases i = .accepted record →
      ∃ c ∈ (toTree canonical root).children i,
        ((toTree canonical root).get c).kind = .constructor ∧
        ((toTree canonical root).get c).isDeleted = false ∧
        ((toTree canonical root).get c).access = some .isPublic ∧
        ∃ p, (toTree canonical root).parameters c = [p] ∧
          RefersByName .move ((toTree canonical root).get i).name (p.typeText.getD "") := by
  have hbuilt : RecordBuilt canonical (toTree canonical root) a inner i := h.built
  rw [hbuilt.name]
  refine ⟨?_, ?_, ?_⟩
  · have hname := trailingSegments_qualifiedName (toTree canonical root) i
    rwa [hbuilt.name] at hname
  · intro c hc sort hkind hspecial
    exact hbuilt.refersByName hc hkind hspecial
  · intro aliases record haccepted
    obtain ⟨c, hc, hkind, hdeleted, hpublic, hspecial⟩ := (isValueType_of_accepted haccepted).moves
    exact ⟨c, hc, hkind, hdeleted, hpublic, hbuilt.refersByName hc hkind hspecial⟩

/-! ## 5. A type of the same name in another scope -/

/-- What is said of a structure named `Key`. -/
def keyAttributes : Attributes := { name := some "Key", tagUsed := some "struct" }

/-- One constructor, from `b::Key &&`. -/
def keyMembers : List Node :=
  [.mk 0 (.decl .constructorDecl { name := some "Key" })
    [.mk 0 (.decl .parameterDecl { qualType := some "b::Key &&" }) []]]

/-- The namespace `b`, in which `Key` is only declared. -/
def keyPrelude : List Node :=
  [.mk 0 (.decl .namespaceDecl { name := some "b" }) [.mk 0 (.decl .recordDecl keyAttributes) []]]

/-- The nodes of the namespace `a`, in which `Key` has the constructor. -/
def keyScope : List Node := [.mk 0 (.decl .recordDecl keyAttributes) keyMembers]

/-- A unit with both. -/
def keyUnit : Node :=
  .mk 0 (.other "TranslationUnitDecl" none)
    (keyPrelude ++ [.mk 0 (.decl .namespaceDecl { name := some "a" }) keyScope])

theorem keyUnit_recordAt : RecordAt keyUnit (toTree id keyUnit) keyAttributes keyMembers 4 := by
  have hunit : ScopeAt keyUnit (toTree id keyUnit)
      (keyPrelude ++ .mk 0 (.decl .namespaceDecl { name := some "a" }) keyScope :: []) 0 := .unit
  have hscope : ScopeAt keyUnit (toTree id keyUnit)
      ([] ++ .mk 0 (.decl .recordDecl keyAttributes) keyMembers :: []) 3 :=
    .inside hunit (by decide)
  exact .inScope hscope rfl rfl (by decide)

/-- **The theorem at this unit**: the constructor refers to `a::Key` by name. -/
theorem keyUnit_refers : ∃ p, (toTree id keyUnit).parameters 5 = [p] ∧
    RefersByName .move ((toTree id keyUnit).get 4).name (p.typeText.getD "") :=
  (special_refers id keyUnit keyUnit_recordAt).2.1 5 (by decide) .move (by decide) (by decide)

/-- **A constructor from another type of the same name is taken for a move constructor.**  Its
parameter is an rvalue reference to `b::Key`, which is no trailing sequence of segments of `a::Key`,
and `a::Key` is accepted, without any other constructor. -/
theorem keyUnit_other_scope :
    RecordAt keyUnit (toTree id keyUnit) keyAttributes keyMembers 4 ∧
    (toTree id keyUnit).qualifiedName 4 = "a::Key" ∧
    (toTree id keyUnit).children 4 = [5] ∧
    ((toTree id keyUnit).get 5).kind = .constructor ∧
    ((toTree id keyUnit).get 5).special = some .move ∧
    ((toTree id keyUnit).parameters 5).map (·.typeText) = [some "b::Key &&"] ∧
    ¬ TrailingSegments "b::Key".toList "a::Key".toList ∧
    ∃ record, (toTree id keyUnit).verdict (.empty 1) 4 = .accepted record := by
  have hother : ¬ TrailingSegments "b::Key".toList "a::Key".toList := by
    rintro (heq | ⟨before, heq⟩)
    · exact absurd heq (by decide)
    · have hlength := congrArg List.length heq
      simp at hlength
  exact ⟨keyUnit_recordAt, by decide +kernel, by decide, by decide, by decide, by decide, hother, _,
    rfl⟩

end Dump

end CppSurface
