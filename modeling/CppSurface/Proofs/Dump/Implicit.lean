import CppSurface.Dump.Reader
import CppSurface.Proofs.Dump.Records
import Mathlib.Data.List.Forall2

/-!
# What the compiler declared on its own

The compiler marks in its dump what it declared on its own.  Such members of a record are left out
of the tree, but not all of them: the mark is not looked at for access specifiers and unions, and it
is not even read for kinds without a rule of their own.  So which marked members reach the tree
cannot be said of the nodes alone, which have lost the mark.  It is said of the values that they
were read from (`Within`), and then it is exact (`implicit_member_reaches`).

A marked member that reaches the tree and is no access specifier rules its record out as a value
type, whatever else the record holds.  A record that is accepted without an implicit destructor is
refused with it (`boxDump_refused`).
-/

namespace CppSurface

open DeclTree

namespace Dump

variable {canonical : Path → Path} {v w : Json} {n m root : Node} {a a' : Attributes}
  {inner nodes nodes' : List Node} {seen : List String} {c c' : Reader.Cursor} {room i : Nat}
  {shape : Reader.Shape} {members : List (String × Json)} {items : List Json}

/-! ## 1. Values of nodes -/

/-- The members of an object. -/
def entries : Json → List (Option String × Json)
  | .object members => members
  | _ => []

/-- Whether a member of an object is the mark of what the compiler declared on its own. -/
def isMark (m : Option String × Json) : Bool := m.1 == some "isImplicit" && m.2.bool? == some true

/-- **Whether the value of a node has the mark.** -/
def marksImplicit (v : Json) : Bool := (entries v).any isMark

/-- The inner values after a member of an object: a list of them replaces those before. -/
def itemsAfter (items : List Json) (m : Option String × Json) : List Json :=
  if m.1 = some "inner" then m.2.array?.getD [] else items

/-- The values inside the value of a node. -/
def innerItems (v : Json) : List Json := (entries v).foldl itemsAfter []

/-- A node is read from a value, somewhere in a dump. -/
def Reads (v : Json) (n : Node) : Prop := ∃ room c c', Reader.readNode room c v = some (n, c')

/-- **The nodes of a dump, each with the value that it was read from.** -/
inductive Within (v : Json) (root : Node) : Json → Node → Prop
  | root : Within v root v root
  | inner {w w' : Json} {n n' : Node} {k : Nat} : Within v root w n →
      (innerItems w)[k]? = some w' → n.inner[k]? = some n' → Within v root w' n'

/-! ## 2. What reading a node keeps -/

namespace Reader

theorem entries_of_enterObject {below : Nat} (h : enterObject room v = some (below, members)) :
    entries v = members.map fun m => (some m.1, m.2) := by
  unfold enterObject at h
  split at h
  · rename_i entries
    split at h
    · exact absurd h (by simp)
    · obtain ⟨ms, hms, heq⟩ := Option.map_eq_some_iff.mp h
      obtain rfl : ms = members := congrArg Prod.snd heq
      change entries = _
      clear h heq
      induction entries generalizing ms with
      | nil =>
        obtain rfl : [] = ms := by simpa using hms
        rfl
      | cons entry entries ih =>
        obtain ⟨key, value⟩ := entry
        cases key with
        | none => exact absurd hms (by simp)
        | some key =>
          simp only [List.mapM_cons, Option.map_some, Option.bind_eq_bind, Option.bind_some,
            Option.bind_eq_some_iff, Option.pure_def, Option.some.injEq] at hms
          obtain ⟨rest, hrest, rfl⟩ := hms
          rw [List.map_cons, ih rest hrest]
  · exact absurd h (by simp)

/-- Before the members of a node come its identity and its kind, and nothing else. -/
theorem header?_cases {id : Nat} {rest : List (String × Json)}
    (h : header? members = some (id, shape, rest)) :
    ∃ header, members = header ++ rest ∧ ∀ m ∈ header, m.1 = "id" ∨ m.1 = "kind" := by
  unfold header? at h
  split at h
  · rename_i identity kind rest'
    split at h
    · obtain rfl : rest' = rest := (Prod.mk.inj (Prod.mk.inj (Option.some.inj h)).2).2
      exact ⟨[("id", identity), ("kind", kind)], rfl, by simp⟩
    · exact absurd h (by simp)
  · rename_i kind rest'
    obtain ⟨shape', -, heq⟩ := Option.map_eq_some_iff.mp h
    obtain rfl : rest' = rest := (Prod.mk.inj (Prod.mk.inj heq).2).2
    exact ⟨[("kind", kind)], rfl, by simp⟩
  · exact absurd h (by simp)

theorem readNodes_forall₂ {read : Cursor → Json → Option (Node × Cursor)}
    (hread : ∀ c v n c', read c v = some (n, c') → Reads v n)
    (h : readNodes read c items = some (nodes, c')) : List.Forall₂ Reads items nodes := by
  induction items generalizing c nodes with
  | nil =>
    obtain rfl : [] = nodes := (Prod.mk.inj (Option.some.inj h)).1
    exact .nil
  | cons v items ih =>
    rw [readNodes] at h
    split at h
    · exact absurd h (by simp)
    · rename_i n c₁ hn
      obtain ⟨⟨rest, c₂⟩, hrest, heq⟩ := Option.map_eq_some_iff.mp h
      obtain rfl : n :: rest = nodes := (Prod.mk.inj heq).1
      obtain rfl : c₂ = c' := (Prod.mk.inj heq).2
      exact .cons (hread _ _ _ _ hn) (ih hrest)

/-- What a node holds is read from the last list of inner values. -/
theorem readMembers_inner {read : Cursor → Json → Option (List Node × Cursor)}
    (hread : ∀ c v nodes c', read c v = some (nodes, c') →
      List.Forall₂ Reads (v.array?.getD []) nodes)
    (h : readMembers read room shape seen a nodes c members = some (a', nodes', c'))
    (hnodes : List.Forall₂ Reads items nodes) :
    List.Forall₂ Reads (members.foldl (fun items m => itemsAfter items (some m.1, m.2)) items)
      nodes' := by
  induction members generalizing seen a nodes c items with
  | nil =>
    obtain rfl : nodes = nodes' := (Prod.mk.inj (Prod.mk.inj (Option.some.inj h)).2).1
    exact hnodes
  | cons m members ih =>
    obtain ⟨key, v⟩ := m
    rw [readMembers] at h
    rw [List.foldl_cons]
    split at h
    · rename_i hkey
      rw [itemsAfter, if_pos (congrArg some hkey)]
      split at h
      · rename_i hlist
        exact ih h (hread _ _ _ _ hlist)
      · exact absurd h (by simp)
    · rename_i hkey
      rw [itemsAfter, if_neg fun heq => hkey (Option.some.inj heq)]
      split at h
      · split at h
        · exact absurd h (by simp)
        · split at h
          · exact ih h hnodes
          · exact absurd h (by simp)
      · exact ih h hnodes

/-- Only the mark itself changes what is known of it. -/
theorem declMember?_isImplicit {key : String} (h : declMember? room a c key v = some (a', c'))
    (hkey : key ≠ "isImplicit") : a'.isImplicit = a.isImplicit := by
  unfold declMember? at h
  split at h
  case h_5 => exact absurd rfl hkey
  case h_12 => rw [← (Prod.mk.inj (Option.some.inj h)).1]
  all_goals
    obtain ⟨_, _, heq⟩ := Option.map_eq_some_iff.mp h
    rw [← (Prod.mk.inj heq).1]

theorem declMember?_mark (h : declMember? room a c "isImplicit" v = some (a', c')) :
    a'.implicit = (v.bool? == some true) := by
  obtain ⟨mark, hmark, heq⟩ := Option.map_eq_some_iff.mp h
  rw [← (Prod.mk.inj heq).1]
  cases v with
  | null =>
    obtain rfl : none = mark := Option.some.inj hmark
    rfl
  | bool b =>
    obtain rfl : some b = mark := Option.some.inj hmark
    cases b <;> rfl
  | natural | number | string | array | object =>
    exact absurd hmark (by simp [Json.nullable?, Json.bool?])

/-- **A declaration knows whether it has the mark.**  A mark may not be repeated, so once it has
been read nothing changes it. -/
theorem readMembers_implicit {read : Cursor → Json → Option (List Node × Cursor)} {sort : DeclSort}
    (h : readMembers read room (.decl sort) seen a nodes c members = some (a', nodes', c'))
    (hseen : a.isImplicit = none ∨ seen.contains "isImplicit" = true) :
    a'.implicit = (a.implicit || members.any fun m => isMark (some m.1, m.2)) := by
  induction members generalizing seen a nodes c with
  | nil =>
    obtain rfl : a = a' := (Prod.mk.inj (Option.some.inj h)).1
    simp
  | cons m members ih =>
    obtain ⟨key, v⟩ := m
    rw [readMembers] at h
    rw [List.any_cons]
    by_cases hmark : key = "isImplicit"
    · subst hmark
      have hkeys : (Shape.decl sort).keys.contains "isImplicit" = true := by
        change declKeys.contains "isImplicit" = true
        decide
      rw [if_neg (by decide), if_pos hkeys] at h
      split at h
      · exact absurd h (by simp)
      · rename_i hfresh
        -- Nothing has been read of the mark yet, so this member alone decides it.
        have hnone : a.isImplicit = none := hseen.resolve_right hfresh
        split at h
        · rename_i a₁ c₁ hmember
          have hdecl : declMember? room a c "isImplicit" v = some (a₁, c₁) := hmember
          rw [ih h (Or.inr (by simp)), declMember?_mark hdecl]
          simp [Attributes.implicit, isMark, hnone]
        · exact absurd h (by simp)
    · have hskip : isMark (some key, v) = false := by simp [isMark, hmark]
      rw [hskip, Bool.false_or]
      split at h
      · split at h
        · exact ih h hseen
        · exact absurd h (by simp)
      · split at h
        · split at h
          · exact absurd h (by simp)
          · split at h
            · rename_i a₁ c₁ hmember
              have hsame : a₁.isImplicit = a.isImplicit := declMember?_isImplicit hmember hmark
              have himplicit : a₁.implicit = a.implicit := by
                unfold Attributes.implicit
                rw [hsame]
              rw [ih h (by simpa [hsame, Ne.symm hmark] using hseen), himplicit]
            · exact absurd h (by simp)
        · exact ih h hseen

/-- **A node is read member by member**, after its identity and its kind. -/
theorem readNodeWith_cases {read : Cursor → Json → Option (List Node × Cursor)}
    (h : readNodeWith read room c v = some (n, c')) :
    ∃ (below : Nat) (shape : Shape) (a : Attributes) (header rest : List (String × Json)),
      entries v = (header ++ rest).map (fun m => (some m.1, m.2)) ∧
      (∀ m ∈ header, m.1 = "id" ∨ m.1 = "kind") ∧
      readMembers read below shape shape.seenAtStart {} [] c rest = some (a, n.inner, c') ∧
      n.content = shape.content a := by
  unfold readNodeWith at h
  split at h
  · exact absurd h (by simp)
  · rename_i below members hobject
    split at h
    · exact absurd h (by simp)
    · rename_i id shape rest hheader
      obtain ⟨header, rfl, hkeys⟩ := header?_cases hheader
      obtain ⟨⟨a, nodes, c₁⟩, hmembers, heq⟩ := Option.map_eq_some_iff.mp h
      obtain ⟨rfl, rfl⟩ := Prod.mk.inj heq
      exact ⟨below, shape, a, header, rest, entries_of_enterObject hobject, hkeys, hmembers,
        rfl⟩

/-- A node is read by reading lists of nodes inside it. -/
theorem readNode_cases (h : readNode room c v = some (n, c')) :
    ∃ read : Cursor → Json → Option (List Node × Cursor),
      (∀ c v nodes c', read c v = some (nodes, c') →
        List.Forall₂ Reads (v.array?.getD []) nodes) ∧
      readNodeWith read room c v = some (n, c') := by
  unfold readNode at h
  split at h
  · exact absurd h (by simp)
  · exact ⟨_, fun _ _ _ _ hlist => absurd hlist (by simp), h⟩
  · rename_i room
    refine ⟨_, ?_, h⟩
    intro c v nodes c' hlist
    obtain ⟨items, hitems, hnodes⟩ := Option.bind_eq_some_iff.mp hlist
    rw [hitems, Option.getD_some]
    exact readNodes_forall₂ (fun c v n c' hn => ⟨room, c, c', hn⟩) hnodes

end Reader

/-- **What is inside a node is read from what is inside its value.** -/
theorem Reads.forall₂_inner (h : Reads v n) : List.Forall₂ Reads (innerItems v) n.inner := by
  obtain ⟨room, c, c', hnode⟩ := h
  obtain ⟨read, hread, hwith⟩ := Reader.readNode_cases hnode
  obtain ⟨below, shape, a, header, rest, hentries, hheader, hmembers, -⟩ :=
    Reader.readNodeWith_cases hwith
  have hskip : header.foldl (fun items m => itemsAfter items (some m.1, m.2)) [] = [] := by
    clear hentries
    induction header with
    | nil => rfl
    | cons m header ih =>
      obtain ⟨hm, hrest⟩ := List.forall_mem_cons.mp hheader
      have hkey : itemsAfter [] (some m.1, m.2) = [] := by
        rcases hm with hm | hm <;> simp [itemsAfter, hm]
      rw [List.foldl_cons, hkey]
      exact ih hrest
  have hitems := Reader.readMembers_inner hread hmembers .nil
  unfold innerItems
  rwa [hentries, List.foldl_map, List.foldl_append, hskip]

/-- **A declaration is implicit just when its value has the mark.** -/
theorem Reads.implicit {sort : DeclSort} (h : Reads v n) (hn : n.content = .decl sort a) :
    a.implicit = marksImplicit v := by
  obtain ⟨room, c, c', hnode⟩ := h
  obtain ⟨read, -, hwith⟩ := Reader.readNode_cases hnode
  obtain ⟨below, shape, a', header, rest, hentries, hheader, hmembers, hcontent⟩ :=
    Reader.readNodeWith_cases hwith
  rw [hn] at hcontent
  cases shape with
  | compound | other => exact absurd hcontent (by simp [Reader.Shape.content])
  | decl sort' =>
    obtain ⟨-, rfl⟩ := Content.decl.inj hcontent
    have hskip : (header.any fun m => isMark (some m.1, m.2)) = false := by
      refine List.any_eq_false.mpr fun m hm => ?_
      rcases hheader m hm with hkey | hkey <;> simp [isMark, hkey]
    have himplicit := Reader.readMembers_implicit hmembers (Or.inl rfl)
    unfold marksImplicit
    rw [hentries, List.any_map, List.any_append]
    change _ = ((header.any fun m => isMark (some m.1, m.2)) ||
      rest.any fun m => isMark (some m.1, m.2))
    rw [hskip]
    exact himplicit

/-- Every node of a dump was read from its value. -/
theorem Within.reads (h : Within v root w n) (hroot : Reads v root) : Reads w n := by
  induction h with
  | root => exact hroot
  | inner _ hw' hn' ih =>
    obtain ⟨hw, rfl⟩ := List.getElem?_eq_some_iff.mp hw'
    obtain ⟨hn, rfl⟩ := List.getElem?_eq_some_iff.mp hn'
    exact ih.forall₂_inner.get hw hn

/-! ## 3. Members with the mark -/

/-- **The members whose mark is not looked at**: access specifiers, unions, and kinds without a rule
of their own whose label does not end in `Comment`. -/
def isUnchecked : Content → Bool
  | .decl .accessSpecDecl _ => true
  | .decl .recordDecl a => a.isUnion
  | .other label _ => !"Comment".toList.isSuffixOf label.toList
  | _ => false

/-- **A child of a record stems from its member number `k`**: the member is taken over, and the
child is the one whose turn it is. -/
def StemsFrom (t : DeclTree) (a : Attributes) (inner : List Node) (i k j : Nat) : Prop :=
  ∃ before m after, inner = before ++ m :: after ∧ before.length = k ∧
    isDropped m.content = false ∧ (t.children i)[a.bases.length + (kept before).length]? = some j

/-- A child stems from every member that is taken over. -/
theorem RecordChildren.exists_stemsFrom {t : DeclTree} {k : Nat}
    (h : RecordChildren canonical t a inner i) (hk : k < inner.length)
    (hkept : isDropped inner[k].content = false) :
    ∃ j ∈ t.children i, StemsFrom t a inner i k j ∧
      (t.get j).kind = (memberDecl canonical a.nameText inner[k]).kind := by
  have hsplit : inner = inner.take k ++ inner[k] :: inner.drop (k + 1) := by
    rw [← List.drop_eq_getElem_cons hk, List.take_append_drop]
  have hlength : (inner.take k).length = k := by
    rw [List.length_take]
    exact Nat.min_eq_left (Nat.le_of_lt hk)
  obtain ⟨j, hj, hdecl⟩ := h.member _ _ _ hsplit hkept
  have hkind : (t.get j).unplaced.kind = (memberDecl canonical a.nameText inner[k]).kind := by
    rw [hdecl]
  exact ⟨j, List.mem_of_getElem? hj, ⟨_, _, _, hsplit, hlength, hkept, hj⟩, hkind⟩

/-- Of the members with the mark, just the unchecked ones are taken over. -/
theorem isDropped_eq_false_iff (hm : Reads w m) (hmark : marksImplicit w = true) :
    isDropped m.content = false ↔ isUnchecked m.content = true := by
  have himplicit : ∀ sort a, m.content = .decl sort a → a.implicit = true := by
    intro sort a hcontent
    rw [hm.implicit hcontent, hmark]
  cases hcontent : m.content with
  | compound => simp [isDropped, isUnchecked]
  | other label place => simp [isDropped, isUnchecked]
  | decl sort a =>
    have ha : a.implicit = true := himplicit sort a hcontent
    cases sort <;> simp [isDropped, isUnchecked, ha]

/-- **A record with a member without a rule of its own is no value type.** -/
theorem verdict_of_other {t : DeclTree} {j : Nat} {label : String} (hj : j ∈ t.children i)
    (hkind : (t.get j).kind = .other label) (aliases : AliasTable) :
    t.verdict aliases i = .invalid := by
  have hne : t.children i ≠ [] := List.ne_nil_of_mem hj
  have hnot : ¬ Verdict.IsValueType t aliases i := by
    intro hvalue
    have hothers := hvalue.others j hj
    rw [hkind] at hothers
    exact absurd hothers (by simp)
  rw [← Verdict.isValueType_iff] at hnot
  rw [verdict_eq, if_neg hne, if_neg hnot]

/-- What an unchecked member becomes, unless it is an access specifier, has no rule of its own. -/
theorem memberDecl_of_isUnchecked (canonical : Path → Path) (recordName : String)
    (hm : isUnchecked m.content = true) (hspec : isAccessSpecifier m = false) :
    ∃ label, (memberDecl canonical recordName m).kind = .other label := by
  have hkind : ∀ label place, (otherOf canonical label place).kind = .other label := by
    intro label place
    cases place <;> rfl
  obtain ⟨id, content, inner⟩ := m
  cases content with
  | compound => exact absurd hm (by simp [isUnchecked, Node.content])
  | other label place => exact ⟨label, hkind label place⟩
  | decl sort a =>
    cases sort with
    | accessSpecDecl => exact absurd hspec (by simp [isAccessSpecifier, Node.content])
    | recordDecl =>
      have hunion : a.isUnion = true := hm
      refine ⟨"union", ?_⟩
      simp only [memberDecl, Node.content, hunion, if_true]
      exact hkind "union" a.place
    | _ => exact absurd hm (by simp [isUnchecked, Node.content])

/-- **Members with the mark reach the tree only where the mark is not looked at, and there they
do.**  Every child of a record is a base, or stems from a member that has no mark or is unchecked.
Every unchecked member with the mark has a child that stems from it, and unless that is an access
specifier the record is no value type. -/
theorem implicit_member_reaches {nodeId : Nat} (hroot : Reads v root)
    (hw : Within v root w (.mk nodeId (.decl .recordDecl a) inner))
    (hrecord : RecordAt root (toTree canonical root) a inner i) :
    (innerItems w).length = inner.length ∧
    (∀ q j, ((toTree canonical root).children i)[q]? = some j →
      q < a.bases.length ∨ ∃ k w' m, StemsFrom (toTree canonical root) a inner i k j ∧
        (innerItems w)[k]? = some w' ∧ inner[k]? = some m ∧
        (marksImplicit w' = true → isUnchecked m.content = true)) ∧
    ∀ k w' m, (innerItems w)[k]? = some w' → inner[k]? = some m → marksImplicit w' = true →
      isUnchecked m.content = true →
      (∃ j, StemsFrom (toTree canonical root) a inner i k j) ∧
      (isAccessSpecifier m = false →
        ∀ aliases, (toTree canonical root).verdict aliases i = .invalid) := by
  have hinner : List.Forall₂ Reads (innerItems w) inner := (hw.reads hroot).forall₂_inner
  have hchildren : RecordChildren canonical (toTree canonical root) a inner i :=
    hrecord.built.recordChildren
  refine ⟨hinner.length_eq, ?_, ?_⟩
  · intro q j hj
    rcases hchildren.cases hj with ⟨base, hbase, -⟩ | ⟨before, m, after, rfl, hm, rfl⟩
    · exact Or.inl (List.getElem?_eq_some_iff.mp hbase).1
    · refine Or.inr ?_
      have hlt : before.length < (innerItems w).length := by
        rw [hinner.length_eq]
        simp
      have hread : Reads (innerItems w)[before.length] m := by
        have hget := hinner.get hlt (by simp)
        simpa using hget
      refine ⟨before.length, _, m, ⟨before, m, after, rfl, rfl, hm, hj⟩,
        List.getElem?_eq_getElem hlt, by simp, ?_⟩
      intro hmark
      exact (isDropped_eq_false_iff hread hmark).mp hm
  · intro k w' m hw' hm hmark hunchecked
    obtain ⟨hkw, rfl⟩ := List.getElem?_eq_some_iff.mp hw'
    obtain ⟨hk, rfl⟩ := List.getElem?_eq_some_iff.mp hm
    have hkept : isDropped inner[k].content = false :=
      (isDropped_eq_false_iff (hinner.get hkw hk) hmark).mpr hunchecked
    obtain ⟨j, hj, hstems, hkind⟩ := hchildren.exists_stemsFrom hk hkept
    refine ⟨⟨j, hstems⟩, ?_⟩
    intro hspec aliases
    obtain ⟨label, hlabel⟩ := memberDecl_of_isUnchecked canonical a.nameText hunchecked hspec
    exact verdict_of_other hj (hkind.trans hlabel) aliases

/-! ## 4. An implicit destructor -/

/-- The value of a move constructor. -/
def moveValue : Json :=
  .record [("kind", .text "CXXConstructorDecl"), ("name", .text "Box"),
    ("inner", .array [.record [("kind", .text "ParmVarDecl"),
      ("type", .record [("qualType", .text "Box &&")])]])]

/-- The value of a destructor that the compiler declared on its own. -/
def destructorValue : Json :=
  .record [("kind", .text "CXXDestructorDecl"), ("isImplicit", .bool true), ("name", .text "~Box")]

/-- The value of a structure that holds both. -/
def boxValue : Json :=
  .record [("kind", .text "CXXRecordDecl"), ("name", .text "Box"), ("tagUsed", .text "struct"),
    ("inner", .array [moveValue, destructorValue])]

/-- A dump that holds this structure. -/
def boxDump : Json :=
  .record [("kind", .text "TranslationUnitDecl"), ("inner", .array [boxValue])]

/-- What the structure says. -/
def boxAttributes : Attributes := { name := some "Box", tagUsed := some "struct" }

/-- The move constructor. -/
def moveNode : Node :=
  .mk 0 (.decl .constructorDecl { name := some "Box" })
    [.mk 0 (.decl .parameterDecl { qualType := some "Box &&" }) []]

/-- The destructor: neither its name nor its mark is kept. -/
def destructorNode : Node := .mk 0 (.other "CXXDestructorDecl" none) []

/-- The structure with some members. -/
def boxUnit (members : List Node) : Node :=
  .mk 0 (.other "TranslationUnitDecl" none) [.mk 0 (.decl .recordDecl boxAttributes) members]

theorem boxDump_reads : Reads boxDump (boxUnit [moveNode, destructorNode]) :=
  ⟨Reader.depthLimit, .start, .start, by rfl⟩

theorem boxDump_within : Within boxDump (boxUnit [moveNode, destructorNode]) boxValue
    (.mk 0 (.decl .recordDecl boxAttributes) [moveNode, destructorNode]) :=
  @Within.inner _ _ _ _ _ _ 0 .root rfl rfl

theorem boxUnit_recordAt :
    RecordAt (boxUnit [moveNode, destructorNode])
      (toTree id (boxUnit [moveNode, destructorNode])) boxAttributes
      [moveNode, destructorNode] 1 := by
  have hunit : ScopeAt (boxUnit [moveNode, destructorNode])
      (toTree id (boxUnit [moveNode, destructorNode]))
      ([] ++ .mk 0 (.decl .recordDecl boxAttributes) [moveNode, destructorNode] :: []) 0 := .unit
  exact .inScope hunit rfl rfl (by decide)

/-- **The theorem at the implicit destructor**: a child stems from it, and the structure is refused
under any aliases. -/
theorem boxDump_destructor :
    (∃ j, StemsFrom (toTree id (boxUnit [moveNode, destructorNode])) boxAttributes
      [moveNode, destructorNode] 1 1 j) ∧
    ∀ aliases, (toTree id (boxUnit [moveNode, destructorNode])).verdict aliases 1 = .invalid := by
  obtain ⟨-, -, hmarked⟩ := implicit_member_reaches boxDump_reads boxDump_within boxUnit_recordAt
  obtain ⟨hstems, hverdict⟩ := hmarked 1 destructorValue destructorNode rfl rfl rfl (by decide)
  exact ⟨hstems, hverdict rfl⟩

/-- **A member that the compiler declared reaches the tree, and it decides the verdict.**
Declaration `4` stems from the destructor with the mark.  With it the structure is refused, and
without it the same structure is accepted. -/
theorem boxDump_refused :
    Reads boxDump (boxUnit [moveNode, destructorNode]) ∧
    Within boxDump (boxUnit [moveNode, destructorNode]) boxValue
      (.mk 0 (.decl .recordDecl boxAttributes) [moveNode, destructorNode]) ∧
    RecordAt (boxUnit [moveNode, destructorNode])
      (toTree id (boxUnit [moveNode, destructorNode])) boxAttributes
      [moveNode, destructorNode] 1 ∧
    (innerItems boxValue)[1]? = some destructorValue ∧ marksImplicit destructorValue = true ∧
    StemsFrom (toTree id (boxUnit [moveNode, destructorNode])) boxAttributes
      [moveNode, destructorNode] 1 1 4 ∧
    (toTree id (boxUnit [moveNode, destructorNode])).verdict (.empty 1) 1 = .invalid ∧
    ∃ record, (toTree id (boxUnit [moveNode])).verdict (.empty 1) 1 = .accepted record := by
  have hstems : StemsFrom (toTree id (boxUnit [moveNode, destructorNode])) boxAttributes
      [moveNode, destructorNode] 1 1 4 :=
    ⟨[moveNode], destructorNode, [], rfl, rfl, by decide, by decide⟩
  exact ⟨boxDump_reads, boxDump_within, boxUnit_recordAt, rfl, rfl, hstems, by decide +kernel, _,
    rfl⟩

end Dump

end CppSurface
