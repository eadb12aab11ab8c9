import CppSurface.Proofs.DeclTree.QualifiedNames
import CppSurface.Verdict

/-!
# The verdict on a record

A record is judged in one pass over its members, which carries two flags and five lists along and
leaves some members out of the one or the other.  What the pass is to find out can be said without
it: which members a value type may have (`IsValueType`), and what is published of each of them
(`Describes`).

The pass is tied to this by what one member does: it contributes to the lists as if it were the only
member (`record_add`), and to the flags by a condition on itself alone (`acceptable_add`,
`hasMove_add`).  So after any number of members the lists are those of the members gone by, in
their order, and the flags are a conjunction and a disjunction over them (`foldl_add`).  The first
depends on the order of the members and the second does not.
-/

namespace CppSurface

/-! ## 1. What a member shows -/

/-- A declaration without the places of its parent and its scope in the tree. -/
def Decl.unplaced (d : Decl) : Decl := { d with parent := none, context := none }

/-- What is looked at of a member: its declaration and its parameters. -/
structure Member where
  decl : Decl
  parameters : List Decl
  deriving Repr, DecidableEq

/-- A declaration as a member, wherever in the tree it stands. -/
def DeclTree.member (tree : DeclTree) (id : Nat) : Member :=
  ⟨(tree.get id).unplaced, (tree.parameters id).map Decl.unplaced⟩

/-- The members of a record, in order. -/
def DeclTree.membersOf (tree : DeclTree) (id : Nat) : List Member :=
  (tree.children id).map tree.member

namespace Verdict

variable {tree : DeclTree} {aliases : AliasTable} {id c : Nat} {moveType : String}

/-! ## 2. What the verdict is to be -/

/-- **The members of a value type**: a public move constructor and no public copy constructor,
public fields, and public move assignments for methods, where deleted constructors and methods do
not count; apart from these, bases, enumerations and access specifiers. -/
structure IsValueType (tree : DeclTree) (aliases : AliasTable) (id : Nat) : Prop where
  moves : ∃ c ∈ tree.children id, (tree.get c).kind = .constructor ∧
    (tree.get c).isDeleted = false ∧ (tree.get c).access = some .isPublic ∧
    (tree.get c).special = some .move
  no_copy : ∀ c ∈ tree.children id, (tree.get c).kind = .constructor →
    (tree.get c).isDeleted = false → (tree.get c).access = some .isPublic →
    (tree.get c).special ≠ some .copy
  fields : ∀ c ∈ tree.children id, (tree.get c).kind = .field →
    (tree.get c).access = some .isPublic
  methods : ∀ c ∈ tree.children id, (tree.get c).kind = .method →
    (tree.get c).isDeleted = false → (tree.get c).access = some .isPublic ∧
    (tree.get c).name = "operator=" ∧
    ∀ p ∈ tree.children c, (tree.get p).kind = .parameter →
      aliases.resolve ((tree.get p).typeText.getD "") =
        aliases.resolve (tree.get id).name ++ " &&"
  others : ∀ c ∈ tree.children id, (tree.get c).kind ∈
    [Decl.Kind.constructor, .field, .method, .baseSpecifier, .enumType, .accessSpecifier]

/-- Three lists of one length that describe declarations in their order: names, resolved types and
their simple spellings. -/
structure DescribesVariables (aliases : AliasTable) (ds : List Decl) (names : List String)
    (v : Variables) : Prop where
  names : v.names = names
  rawTypes : v.rawTypes = ds.map fun d => aliases.resolve (d.typeText.getD "")
  simpleTypes : v.simpleTypes = v.rawTypes.map TypeText.simplify
  names_length : v.names.length = ds.length
  rawTypes_length : v.rawTypes.length = ds.length
  simpleTypes_length : v.simpleTypes.length = ds.length

/-- The names of a constructor's parameters.  The one unnamed parameter of a defaulted public move
constructor is called `other`. -/
def parameterNames (tree : DeclTree) (c : Nat) : List String :=
  if (tree.get c).access = some .isPublic ∧ (tree.get c).special = some .move ∧
      (tree.get c).isDefaulted = true ∧ (tree.parameters c).map (·.name) = [""] then ["other"]
  else (tree.parameters c).map (·.name)

/-- What is published of a constructor. -/
structure DescribesConstructor (tree : DeclTree) (aliases : AliasTable) (c : Nat)
    (k : Constructor) : Prop where
  parameters : DescribesVariables aliases (tree.parameters c) (parameterNames tree c) k.parameters
  line : k.definitionLine = (tree.get c).line

/-- **What is published of a value type**: its full name, its place, its fields, the constructors
that are not deleted and its bases, each in the order of the members. -/
structure Describes (tree : DeclTree) (aliases : AliasTable) (id : Nat) (record : ValueType) :
    Prop where
  name : ∃ scopes, tree.ScopeChain id scopes ∧ record.name = tree.nameWithin scopes id
  line : record.definitionLine = (tree.get id).line
  file : record.file = (tree.get id).file.getD ⟨""⟩
  fields : DescribesVariables aliases (childrenOf tree id .field)
    ((childrenOf tree id .field).map (·.name)) record.fields
  constructors : List.Forall₂ (DescribesConstructor tree aliases)
    ((tree.children id).filter fun c => isLiveConstructor (tree.get c)) record.constructors
  bases : record.bases = (childrenOf tree id .baseSpecifier).map fun d =>
    aliases.resolve (d.typeText.getD d.name)

/-- Two verdicts of one sort: both accept, both refuse, or both pass over a declaration. -/
def SameSort : Verdict → Verdict → Prop
  | .accepted _, .accepted _ => True
  | .invalid, .invalid => True
  | .notADefinition, .notADefinition => True
  | _, _ => False

/-! ## 3. The step: what one member does -/

/-- Whether a member leaves its record a value type. -/
def isAcceptable (aliases : AliasTable) (moveType : String) (m : Member) : Bool :=
  match m.decl.kind with
  | .constructor => !isPublicSpecial .copy m.decl
  | .field => m.decl.isPublic
  | .method => m.decl.isDeleted || (m.decl.name == "operator=" && m.decl.isPublic &&
      m.parameters.all fun p => aliases.typeOf p == moveType)
  | .baseSpecifier | .enumType | .accessSpecifier => true
  | _ => false

/-- A record with what some members publish at the end of its lists. -/
def publish (tree : DeclTree) (aliases : AliasTable) (record : ValueType) (cs : List Nat) :
    ValueType :=
  { record with
    fields := record.fields ++
      Variables.ofDecls aliases ((cs.map tree.get).filter fun d => d.kind == .field)
    constructors := record.constructors ++
      (cs.filter fun c => isLiveConstructor (tree.get c)).map (describeConstructor tree aliases)
    bases := record.bases ++
      ((cs.map tree.get).filter fun d => d.kind == .baseSpecifier).map (baseType aliases) }

theorem publish_nil (record : ValueType) : publish tree aliases record [] = record := by
  simp [publish, Variables.append_eq, Variables.ofDecls]

/-- Members publish one after the other. -/
theorem publish_append (record : ValueType) (cs ds : List Nat) :
    publish tree aliases (publish tree aliases record cs) ds =
      publish tree aliases record (cs ++ ds) := by
  simp [publish, Variables.append_eq, Variables.ofDecls]

/-- A field publishes a variable. -/
theorem publish_field (record : ValueType) (hk : (tree.get c).kind = .field) :
    publish tree aliases record [c] =
      { record with fields := record.fields ++ Variables.ofDecls aliases [tree.get c] } := by
  simp [publish, isLiveConstructor, hk]

/-- A constructor that is not deleted publishes itself. -/
theorem publish_constructor (record : ValueType) (hk : (tree.get c).kind = .constructor)
    (hd : (tree.get c).isDeleted = false) :
    publish tree aliases record [c] =
      { record with
        constructors := record.constructors ++ [describeConstructor tree aliases c] } := by
  simp [publish, isLiveConstructor, hk, hd, Variables.append_eq, Variables.ofDecls]

/-- A base specifier publishes its type. -/
theorem publish_base (record : ValueType) (hk : (tree.get c).kind = .baseSpecifier) :
    publish tree aliases record [c] =
      { record with bases := record.bases ++ [baseType aliases (tree.get c)] } := by
  simp [publish, isLiveConstructor, hk, Variables.append_eq, Variables.ofDecls]

/-- All other members publish nothing. -/
theorem publish_idle (record : ValueType) (hfield : (tree.get c).kind ≠ .field)
    (hconstructor : isLiveConstructor (tree.get c) = false)
    (hbase : (tree.get c).kind ≠ .baseSpecifier) :
    publish tree aliases record [c] = record := by
  simp [publish, hfield, hconstructor, hbase, Variables.append_eq, Variables.ofDecls]

/-- **The step for the record**: a member adds to it what it publishes alone. -/
theorem record_add (r : Review) (c : Nat) :
    (r.add tree aliases moveType c).record = publish tree aliases r.record [c] := by
  cases hk : (tree.get c).kind with
  | constructor =>
    cases hd : (tree.get c).isDeleted with
    | false => simp [Review.add, hk, hd, publish_constructor r.record hk hd]
    | true =>
      rw [publish_idle _ (by simp [hk]) (by simp [isLiveConstructor, hd]) (by simp [hk])]
      simp [Review.add, hk, hd]
  | field => simp [Review.add, hk, publish_field r.record hk]
  | baseSpecifier => simp [Review.add, hk, publish_base r.record hk]
  | method =>
    rw [publish_idle _ (by simp [hk]) (by simp [isLiveConstructor, hk]) (by simp [hk])]
    simp only [Review.add, hk]
    split <;> rfl
  | _ =>
    rw [publish_idle _ (by simp [hk]) (by simp [isLiveConstructor, hk]) (by simp [hk])]
    simp [Review.add, hk]

/-- A method of the tree is judged as a member. -/
theorem isMoveAssignment_eq (tree : DeclTree) (aliases : AliasTable) (moveType : String) (c : Nat) :
    isMoveAssignment tree aliases moveType c =
      ((tree.member c).decl.name == "operator=" && (tree.member c).decl.isPublic &&
        (tree.member c).parameters.all fun p => aliases.typeOf p == moveType) := by
  unfold DeclTree.member
  rw [List.all_map]
  rfl

/-- **The step for the first flag**: a member rules the record out by itself, or not at all. -/
theorem acceptable_add (r : Review) (c : Nat) :
    (r.add tree aliases moveType c).acceptable =
      (r.acceptable && isAcceptable aliases moveType (tree.member c)) := by
  have hkind : (tree.member c).decl.kind = (tree.get c).kind := rfl
  have hdeleted : (tree.member c).decl.isDeleted = (tree.get c).isDeleted := rfl
  unfold isAcceptable
  cases hk : (tree.get c).kind with
  | constructor =>
    cases hd : (tree.get c).isDeleted with
    | false =>
      have hcopy : isPublicSpecial .copy (tree.member c).decl =
          ((tree.get c).isPublic && (tree.get c).special == some .copy) := by
        simp [isPublicSpecial, isLiveConstructor, hkind, hk, hdeleted, hd]
        rfl
      simp [Review.add, hkind, hk, hd, hcopy]
    | true => simp [Review.add, isPublicSpecial, isLiveConstructor, hkind, hk, hdeleted, hd]
  | method =>
    rw [hkind, hk, hdeleted, ← isMoveAssignment_eq]
    cases hd : (tree.get c).isDeleted <;> simp [Review.add, hk, hd]
  | field =>
    rw [hkind, hk]
    simp only [Review.add, hk]
    rfl
  | _ => simp [Review.add, hkind, hk]

/-- **The step for the second flag.** -/
theorem hasMove_add (r : Review) (c : Nat) :
    (r.add tree aliases moveType c).hasMove =
      (r.hasMove || isPublicSpecial .move (tree.member c).decl) := by
  have hmove : isPublicSpecial .move (tree.member c).decl =
      isPublicSpecial .move (tree.get c) := rfl
  rw [hmove]
  unfold isPublicSpecial isLiveConstructor
  cases hk : (tree.get c).kind with
  | constructor => cases hd : (tree.get c).isDeleted <;> simp [Review.add, hk, hd]
  | method => cases hd : (tree.get c).isDeleted <;> simp [Review.add, hk, hd]
  | _ => simp [Review.add, hk]

/-! ## 4. The run: the pass over all members -/

/-- **The review after a list of members.**  The induction is on the list; each member does to the
review what it does alone. -/
theorem foldl_add (tree : DeclTree) (aliases : AliasTable) (moveType : String) (cs : List Nat)
    (r : Review) :
    cs.foldl (Review.add tree aliases moveType) r =
      { record := publish tree aliases r.record cs
        acceptable := r.acceptable && (cs.map tree.member).all (isAcceptable aliases moveType)
        hasMove := r.hasMove ||
          (cs.map tree.member).any fun m => isPublicSpecial .move m.decl } := by
  induction cs generalizing r with
  | nil => simp [publish_nil]
  | cons c cs ih =>
    rw [List.foldl_cons, ih, record_add, acceptable_add, hasMove_add, publish_append]
    simp [Bool.and_assoc, Bool.or_assoc]

/-- The members of a record together publish its description. -/
theorem publish_start : publish tree aliases (Review.start tree id).record (tree.children id) =
    describe tree aliases id := by
  simp [publish, Review.start, describe, childrenOf, Variables.append_eq]

end Verdict

namespace DeclTree

variable {tree tree' : DeclTree} {aliases : AliasTable} {id id' : Nat}

/-- **The verdict without the pass.** -/
theorem verdict_eq (tree : DeclTree) (aliases : AliasTable) (id : Nat) :
    tree.verdict aliases id =
      if tree.children id = [] then .notADefinition
      else if (tree.membersOf id).all (Verdict.isAcceptable aliases
            (Verdict.moveParameterType aliases (tree.get id).name)) &&
          (tree.membersOf id).any fun m => Verdict.isPublicSpecial .move m.decl then
        .accepted (Verdict.describe tree aliases id)
      else .invalid := by
  have hreview := Verdict.foldl_add tree aliases
    (Verdict.moveParameterType aliases (tree.get id).name) (tree.children id) (.start tree id)
  rw [Verdict.publish_start] at hreview
  unfold verdict
  by_cases h : tree.children id = []
  · simp [h]
  · dsimp only
    rw [hreview, if_neg (by simpa using h), if_neg h]
    rfl

end DeclTree

namespace Verdict

variable {tree : DeclTree} {aliases : AliasTable} {id c : Nat}

/-! ## 5. The flags -/

theorem isPublic_iff {d : Decl} : d.isPublic = true ↔ d.access = some .isPublic := by
  simp [Decl.isPublic]

theorem isPublicSpecial_iff {sort : SpecialMember} {d : Decl} :
    isPublicSpecial sort d = true ↔ d.kind = .constructor ∧ d.isDeleted = false ∧
      d.access = some .isPublic ∧ d.special = some sort := by
  simp [isPublicSpecial, isLiveConstructor, Decl.isPublic, and_assoc]

/-- A method is a move assignment by its name, its access and each of its parameters. -/
theorem isMoveAssignment_iff {moveType : String} :
    isMoveAssignment tree aliases moveType c = true ↔
      (tree.get c).access = some .isPublic ∧ (tree.get c).name = "operator=" ∧
      ∀ p ∈ tree.children c, (tree.get p).kind = .parameter →
        aliases.resolve ((tree.get p).typeText.getD "") = moveType := by
  simp only [isMoveAssignment, DeclTree.parameters, AliasTable.typeOf, Bool.and_eq_true,
    beq_iff_eq, isPublic_iff, List.all_eq_true, List.mem_filter, List.mem_map]
  constructor
  · rintro ⟨⟨hname, haccess⟩, hparameters⟩
    exact ⟨haccess, hname, fun p hp hkind => hparameters _ ⟨⟨p, hp, rfl⟩, hkind⟩⟩
  · rintro ⟨haccess, hname, hparameters⟩
    refine ⟨⟨hname, haccess⟩, ?_⟩
    rintro d ⟨⟨p, hp, rfl⟩, hkind⟩
    exact hparameters p hp hkind

/-- **What is asked of one member.** -/
theorem isAcceptable_iff {moveType : String} :
    isAcceptable aliases moveType (tree.member c) = true ↔
      ((tree.get c).kind = .constructor → (tree.get c).isDeleted = false →
        (tree.get c).access = some .isPublic → (tree.get c).special ≠ some .copy) ∧
      ((tree.get c).kind = .field → (tree.get c).access = some .isPublic) ∧
      ((tree.get c).kind = .method → (tree.get c).isDeleted = false →
        (tree.get c).access = some .isPublic ∧ (tree.get c).name = "operator=" ∧
        ∀ p ∈ tree.children c, (tree.get p).kind = .parameter →
          aliases.resolve ((tree.get p).typeText.getD "") = moveType) ∧
      (tree.get c).kind ∈
        [Decl.Kind.constructor, .field, .method, .baseSpecifier, .enumType, .accessSpecifier] := by
  have hkind : (tree.member c).decl.kind = (tree.get c).kind := rfl
  have hdeleted : (tree.member c).decl.isDeleted = (tree.get c).isDeleted := rfl
  unfold isAcceptable
  cases hk : (tree.get c).kind with
  | constructor =>
    have hcopy : isPublicSpecial .copy (tree.member c).decl = true ↔ _ := isPublicSpecial_iff
    rw [hkind, hk, Bool.not_eq_true', ← Bool.not_eq_true, hcopy]
    simp [hkind, hk]
    exact Iff.rfl
  | field =>
    have hpublic : (tree.member c).decl.isPublic = true ↔ _ := isPublic_iff
    rw [hkind, hk, hpublic]
    simp
    exact Iff.rfl
  | method =>
    rw [hkind, hk, hdeleted, ← isMoveAssignment_eq, Bool.or_eq_true, isMoveAssignment_iff]
    cases hd : (tree.get c).isDeleted <;> simp
  | _ => simp [hkind, hk]

/-- **The flags say that the record is a value type.** -/
theorem isValueType_iff :
    ((tree.membersOf id).all (isAcceptable aliases
        (moveParameterType aliases (tree.get id).name)) &&
      (tree.membersOf id).any fun m => isPublicSpecial .move m.decl) = true ↔
    IsValueType tree aliases id := by
  rw [DeclTree.membersOf, List.all_map, List.any_map, Bool.and_eq_true, List.all_eq_true,
    List.any_eq_true]
  constructor
  · rintro ⟨hall, hmoves⟩
    obtain ⟨c, hc, hmove⟩ := hmoves
    exact ⟨⟨c, hc, isPublicSpecial_iff.mp hmove⟩,
      fun c hc => (isAcceptable_iff.mp (hall c hc)).1,
      fun c hc => (isAcceptable_iff.mp (hall c hc)).2.1,
      fun c hc => (isAcceptable_iff.mp (hall c hc)).2.2.1,
      fun c hc => (isAcceptable_iff.mp (hall c hc)).2.2.2⟩
  · intro h
    obtain ⟨c, hc, hmove⟩ := h.moves
    exact ⟨fun c hc => isAcceptable_iff.mpr ⟨h.no_copy c hc, h.fields c hc, h.methods c hc,
      h.others c hc⟩, c, hc, isPublicSpecial_iff.mpr hmove⟩

/-! ## 6. The lists -/

theorem describesVariables_ofDecls (aliases : AliasTable) (ds : List Decl) :
    DescribesVariables aliases ds (ds.map (·.name)) (Variables.ofDecls aliases ds) where
  names := rfl
  rawTypes := rfl
  simpleTypes := by
    unfold Variables.ofDecls
    rw [List.map_map]
    rfl
  names_length := List.length_map _
  rawTypes_length := List.length_map _
  simpleTypes_length := List.length_map _

/-- **A constructor is published with its parameters**, whether or not one of them gets a name. -/
theorem describesConstructor (h : isLiveConstructor (tree.get c) = true) :
    DescribesConstructor tree aliases c (describeConstructor tree aliases c) := by
  have hvariables := describesVariables_ofDecls aliases (tree.parameters c)
  refine ⟨?_, rfl⟩
  unfold describeConstructor nameMoved parameterNames
  by_cases hother : (tree.get c).access = some .isPublic ∧ (tree.get c).special = some .move ∧
      (tree.get c).isDefaulted = true ∧ (tree.parameters c).map (·.name) = [""]
  · obtain ⟨haccess, hspecial, hdefaulted, hnames⟩ := hother
    have hlength : 1 = (tree.parameters c).length := by
      rw [← List.length_map (·.name), hnames]
      rfl
    rw [if_pos ⟨haccess, hspecial, hdefaulted, hnames⟩, if_pos (by
      simp [isPublicSpecial, h, Decl.isPublic, haccess, hspecial, hdefaulted, Variables.ofDecls,
        hnames])]
    exact ⟨rfl, hvariables.rawTypes, hvariables.simpleTypes, hlength, hvariables.rawTypes_length,
      hvariables.simpleTypes_length⟩
  · rw [if_neg hother, if_neg (by
      simpa [isPublicSpecial, h, Decl.isPublic, Variables.ofDecls, and_assoc] using hother)]
    exact hvariables

/-- **The description of a record describes it**, where the chain of its scopes ends. -/
theorem describes (hends : tree.ScopesEnd) :
    Describes tree aliases id (describe tree aliases id) where
  name := hends.qualifiedName id
  line := rfl
  file := rfl
  fields := describesVariables_ofDecls aliases (childrenOf tree id .field)
  constructors := by
    refine List.forall₂_map_right_iff.mpr (List.forall₂_same.mpr fun c hc => ?_)
    exact describesConstructor (List.mem_filter.mp hc).2
  bases := rfl

end Verdict

namespace DeclTree

/-! ## 7. The verdict -/

/-- **The order of the members does not matter to the verdict**, nor does anything else but what
they show and the name of the record. -/
theorem verdict_sameSort {tree tree' : DeclTree} {aliases : AliasTable} {id id' : Nat}
    (hname : (tree'.get id').name = (tree.get id).name)
    (hperm : (tree'.membersOf id').Perm (tree.membersOf id)) :
    (tree'.verdict aliases id').SameSort (tree.verdict aliases id) := by
  have hnil : tree'.children id' = [] ↔ tree.children id = [] := by
    have hlength := hperm.length_eq
    rw [membersOf, membersOf, List.length_map, List.length_map] at hlength
    rw [← List.length_eq_zero_iff, hlength, List.length_eq_zero_iff]
  rw [verdict_eq, verdict_eq, hname, hperm.all_eq, hperm.any_eq]
  by_cases h : tree.children id = []
  · rw [if_pos (hnil.mpr h), if_pos h]
    trivial
  · rw [if_neg (mt hnil.mp h), if_neg h]
    split
    · trivial
    · trivial

/-- **The verdict is the declared one.**  A declaration without children is no definition; every
other one is accepted just when its children are those of a value type, in whatever order, and then
the record describes them in theirs. -/
theorem verdict_iff_isValueType (tree : DeclTree) (hends : tree.ScopesEnd) (aliases : AliasTable)
    (id : Nat) :
    (tree.verdict aliases id = .notADefinition ↔ tree.children id = []) ∧
    (tree.children id ≠ [] → ((∃ record, tree.verdict aliases id = .accepted record) ↔
      Verdict.IsValueType tree aliases id)) ∧
    (∀ (tree' : DeclTree) (id' : Nat), (tree'.get id').name = (tree.get id).name →
      (tree'.membersOf id').Perm (tree.membersOf id) →
      (tree'.verdict aliases id').SameSort (tree.verdict aliases id)) ∧
    ∀ record, tree.verdict aliases id = .accepted record →
      Verdict.Describes tree aliases id record := by
  refine ⟨?_, fun hne => ?_, fun tree' id' => verdict_sameSort, fun record hrecord => ?_⟩
  · rw [verdict_eq]
    by_cases h : tree.children id = []
    · simp [h]
    · rw [if_neg h]
      simp only [h, iff_false]
      split <;> simp
  · rw [verdict_eq, if_neg hne, ← Verdict.isValueType_iff]
    split
    · rename_i hflags
      simp [hflags]
    · rename_i hflags
      simp [hflags]
  · rw [verdict_eq] at hrecord
    split at hrecord
    · exact absurd hrecord (by simp)
    · split at hrecord
      · rw [← Verdict.accepted.inj hrecord]
        exact Verdict.describes hends
      · exact absurd hrecord (by simp)

/-- A structure in a namespace, with a member of every kind that a value type may have. -/
def boxTree : DeclTree :=
  (((((((((((DeclTree.empty
    |>.push 0 { kind := .namespaceScope, name := "N" })
    |>.push 1 { kind := .structType, name := "Box", file := some ⟨"/box.hpp"⟩, line := 2 })
    |>.push 2 { kind := .baseSpecifier, name := "Base" })
    |>.push 2 { kind := .accessSpecifier, name := "", access := some .isPublic })
    |>.push 2 { kind := .field, name := "id", typeText := some "Id", access := some .isPublic })
    |>.push 2 { kind := .constructor, name := "Box", line := 5, access := some .isPublic
                special := some .move, isDefaulted := true })
    |>.push 6 { kind := .parameter, name := "", typeText := some "Box &&" })
    |>.push 2 { kind := .constructor, name := "Box", line := 6, access := some .isPublic
                special := some .copy, isDeleted := true })
    |>.push 2 { kind := .method, name := "operator=", access := some .isPublic })
    |>.push 9 { kind := .parameter, name := "from", typeText := some "Box &&" })
    |>.push 2 { kind := .method, name := "swap", access := some .isPrivate, isDeleted := true })

/-- **The structure is a value type.**  Its published name has the namespace in front, the alias of
its field is gone, and the deleted members are left out. -/
theorem boxTree_isValueType :
    boxTree.ScopesEnd ∧ ∃ record, boxTree.verdict ⟨[("Id", "int")], 1, false⟩ 2 = .accepted record ∧
      record = ⟨"N::Box", ⟨["id"], ["int"], ["int"]⟩, 2, [⟨⟨["other"], ["Box &&"], ["Box"]⟩, 5⟩],
        ["Base"], ⟨"/box.hpp"⟩⟩ ∧
      Verdict.IsValueType boxTree ⟨[("Id", "int")], 1, false⟩ 2 ∧
      Verdict.Describes boxTree ⟨[("Id", "int")], 1, false⟩ 2 record := by
  have hends : boxTree.ScopesEnd := scopesEnd_of_lt (by decide)
  obtain ⟨-, haccepted, -, hdescribes⟩ :=
    verdict_iff_isValueType boxTree hends ⟨[("Id", "int")], 1, false⟩ 2
  refine ⟨hends, _, rfl, by decide +kernel, (haccepted (by decide)).mp ⟨_, rfl⟩, hdescribes _ rfl⟩

end DeclTree

end CppSurface
