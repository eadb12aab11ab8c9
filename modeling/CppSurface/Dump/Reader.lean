import CppSurface.Dump
import CppSurface.Dump.KnownKinds
import CppSurface.Json.Reader

/-!
# Reading dumps

A dump is one JSON value of a strict shape: members are read in the order in which they stand, and
what a node may hold depends on its kind, which must come first, after the identity at most.

Places are written in full only where they change.  A place without a file or a line takes it from
the place read last before it, so the reader carries the file and line along (`Cursor`) through
every place of the dump, also those of nodes and ranges that nobody asks about.  Values that are
passed over leave the cursor alone.

Lists and objects may nest to a depth of 127 where the reader enters them; the depth left over
(`room`) is also what the recursion over nodes goes down on.
-/

namespace CppSurface.Dump

namespace Reader

/-! ## 1. Cursors and steps -/

/-- The file and the line of the last place. -/
structure Cursor where
  file : String
  line : Nat
  deriving Repr, DecidableEq

/-- The cursor before the first place. -/
def Cursor.start : Cursor := ⟨"", 0⟩

/-- The members of an object, if the reader may enter it, with the room inside; each key must
spell a text. -/
def enterObject (room : Nat) : Json → Option (Nat × List (String × Json))
  | .object members =>
    match room with
    | 0 => none
    | room + 1 =>
      (members.mapM fun (m : Option String × Json) => m.1.map fun k => (k, m.2)).map
        fun ms => (room, ms)
  | _ => none

/-- The items of a list, if the reader may enter it, with the room inside. -/
def enterArray (room : Nat) : Json → Option (Nat × List Json)
  | .array items =>
    match room with
    | 0 => none
    | room + 1 => some (room, items)
  | _ => none

/-- The greatest number of 64 bits. -/
def maxNumber : Nat := 18446744073709551615

/-! ## 2. Identities -/

/-- The number that hexadecimal digits spell, if there are some and it fits 64 bits. -/
def hexNumber? (cs : List Char) : Option Nat :=
  if cs.isEmpty then none
  else
    match cs.mapM Json.Reader.hexDigit? with
    | some ds =>
      let n := ds.foldl (fun n d => n * 16 + d) 0
      if n ≤ maxNumber then some n else none
    | none => none

/-- The identity that a text spells: `0x`, an optional `+`, and hexadecimal digits. -/
def idOfText? (s : String) : Option Nat :=
  match s.toList with
  | '0' :: 'x' :: '+' :: digits => hexNumber? digits
  | '0' :: 'x' :: digits => hexNumber? digits
  | _ => none

/-- Read an identity. -/
def id? (v : Json) : Option Nat := v.text?.bind idOfText?

/-! ## 3. Places -/

/-- What has been read of a place. -/
structure Draft where
  file : Option String := none
  line : Option Nat := none
  hasColumn : Bool := false
  hasLength : Bool := false

/-- Read the file from which a file was included.  It is checked and forgotten. -/
def includedFrom? (room : Nat) (v : Json) : Option Unit :=
  match enterObject room v with
  | none => none
  | some (_, members) =>
    if members.all (fun m => m.1 == "file" || m.1 == "includedFrom") &&
        members.any (fun m => m.1 == "file") &&
        members.all (fun m => m.1 != "file" || m.2.text?.isSome) then some ()
    else none

/-- Read one member of a place after its offset. -/
def placeMember? (room : Nat) (d : Draft) (m : String × Json) : Option Draft :=
  match m.1 with
  | "file" => m.2.text?.map fun f => { d with file := some f }
  | "line" => (m.2.naturalUpTo? maxNumber).map fun n => { d with line := some n }
  | "presumedFile" => m.2.text?.map fun _ => d
  | "presumedLine" => (m.2.naturalUpTo? maxNumber).map fun _ => d
  | "col" => (m.2.naturalUpTo? maxNumber).map fun _ => { d with hasColumn := true }
  | "tokLen" => (m.2.naturalUpTo? maxNumber).map fun _ => { d with hasLength := true }
  | "includedFrom" => (includedFrom? room m.2).map fun _ => d
  | "isMacroArgExpansion" => m.2.bool?.map fun _ => d
  | _ => none

/-- Read the members of a place that starts with its offset.  What is missing is taken from the
cursor, which moves to the place. -/
def bareMembers? (room : Nat) (c : Cursor) : List (String × Json) → Option Cursor
  | ("offset", offset) :: rest =>
    match offset.naturalUpTo? maxNumber, rest.foldlM (placeMember? room) {} with
    | some _, some d =>
      if d.hasColumn && d.hasLength then some ⟨d.file.getD c.file, d.line.getD c.line⟩ else none
    | _, _ => none
  | _ => none

/-- Read a place that is not empty and no expansion. -/
def bare? (room : Nat) (c : Cursor) (v : Json) : Option Cursor :=
  (enterObject room v).bind fun (room, members) => bareMembers? room c members

/-- **Read a place.**  It is empty, or a plain place, or the place where a macro was spelled and
then the one where it was expanded; the latter counts.  The result is the place, if there is one,
and the cursor after it. -/
def place? (room : Nat) (c : Cursor) (v : Json) : Option (Option Cursor × Cursor) :=
  match enterObject room v with
  | none => none
  | some (_, []) => some (none, c)
  | some (room, [("spellingLoc", spelling), ("expansionLoc", expansion)]) =>
    (bare? room c spelling).bind fun c =>
      (bare? room c expansion).map fun c => (some c, c)
  | some (room, members) => (bareMembers? room c members).map fun c => (some c, c)

/-- Read a place or null. -/
def nullablePlace? (room : Nat) (c : Cursor) : Json → Option (Option Cursor × Cursor)
  | .null => some (none, c)
  | v => place? room c v

/-- Read a range, for the sake of its places: a beginning and an end, and nothing else. -/
def range? (room : Nat) (c : Cursor) (v : Json) : Option Cursor :=
  match enterObject room v with
  | some (room, [("begin", a), ("end", b)]) | some (room, [("end", a), ("begin", b)]) =>
    (place? room c a).bind fun (_, c) => (place? room c b).map fun (_, c) => c
  | _ => none

/-- Read a range or null. -/
def nullableRange? (room : Nat) (c : Cursor) : Json → Option Cursor
  | .null => some c
  | v => range? room c v

/-- The place of a cursor, unless its file is empty or its line is zero. -/
def Cursor.toPlace (c : Cursor) : Option Place :=
  if c.file.isEmpty || c.line == 0 then none else some ⟨c.file, c.line⟩

/-! ## 4. Types and bases -/

/-- The values of a record's fields, if the reader may enter it. -/
def recordFields? (room : Nat) (names : List String) (v : Json) :
    Option (Nat × List (Option Json)) :=
  match room with
  | 0 => none
  | room + 1 => (v.fields? names).map fun fields => (room, fields)

/-- Read a type: the text of it, or nothing. -/
def type? (room : Nat) (v : Json) : Option (Option String) :=
  match recordFields? room ["qualType"] v with
  | some (_, [q]) => Json.optional? Json.text? q
  | _ => none

/-- Read a type or null. -/
def nullableType? (room : Nat) : Json → Option (Option String)
  | .null => some none
  | v => type? room v

/-- Read a base. -/
def base? (room : Nat) (v : Json) : Option Base :=
  match recordFields? room ["access", "type"] v with
  | some (room, [access, type]) =>
    match Json.optional? Json.text? access, (type.map (nullableType? room)).getD (some none) with
    | some access, some qualType => some ⟨access, qualType⟩
    | _, _ => none
  | _ => none

/-- Read the bases of a record. -/
def bases? (room : Nat) (v : Json) : Option (List Base) :=
  (enterArray room v).bind fun (room, items) => items.mapM (base? room)

/-! ## 5. Members of a declaration -/

/-- Read one member that declarations have, or pass over any other. -/
def declMember? (room : Nat) (a : Attributes) (c : Cursor) (key : String) (v : Json) :
    Option (Attributes × Cursor) :=
  match key with
  | "name" => (v.nullable? Json.text?).map fun x => ({ a with name := x }, c)
  | "access" => (v.nullable? Json.text?).map fun x => ({ a with access := x }, c)
  | "tagUsed" => (v.nullable? Json.text?).map fun x => ({ a with tagUsed := x }, c)
  | "explicitlyDefaulted" =>
    (v.nullable? Json.text?).map fun x => ({ a with explicitlyDefaulted := x }, c)
  | "isImplicit" => (v.nullable? Json.bool?).map fun x => ({ a with isImplicit := x }, c)
  | "explicitlyDeleted" =>
    (v.nullable? Json.bool?).map fun x => ({ a with explicitlyDeleted := x }, c)
  | "parentDeclContextId" => (v.nullable? id?).map fun x => ({ a with contextId := x }, c)
  | "type" => (nullableType? room v).map fun x => ({ a with qualType := x }, c)
  | "bases" => (bases? room v).map fun x => ({ a with bases := x }, c)
  | "loc" =>
    (nullablePlace? room c v).map fun (p, c) =>
      ({ a with place := p.bind Cursor.toPlace }, c)
  | "range" => (nullableRange? room c v).map fun c => (a, c)
  | _ => some (a, c)

/-- The members that a declaration may not repeat. -/
def declKeys : List String :=
  ["name", "loc", "range", "isImplicit", "type", "parentDeclContextId", "access", "tagUsed",
   "bases", "explicitlyDeleted", "explicitlyDefaulted"]

/-- The kinds that describe declarations. -/
def sorts : List (String × DeclSort) :=
  [("NamespaceDecl", .namespaceDecl), ("CXXRecordDecl", .recordDecl), ("FieldDecl", .fieldDecl),
   ("CXXConstructorDecl", .constructorDecl), ("CXXMethodDecl", .methodDecl),
   ("AccessSpecDecl", .accessSpecDecl), ("EnumDecl", .enumDecl), ("FunctionDecl", .functionDecl),
   ("ParmVarDecl", .parameterDecl), ("TypedefDecl", .typedefDecl),
   ("TypeAliasDecl", .typeAliasDecl)]

/-! ## 6. Kinds -/

/-- What a kind lets a node hold. -/
inductive Shape where
  | decl (sort : DeclSort)
  | compound
  | other (label : String)

/-- The shape of a kind, if it is known. -/
def shape? (kind : String) : Option Shape :=
  match sorts.lookup kind with
  | some sort => some (.decl sort)
  | none =>
    if kind = "CompoundStmt" then some .compound
    else if knownKinds.contains kind then some (.other kind)
    else none

/-- The members that a node of a shape may not repeat. -/
def Shape.keys : Shape → List String
  | .decl _ => declKeys
  | .compound => ["range"]
  | .other _ => ["kind", "loc", "range"]

/-- Read one member of a node after its kind, other than its inner nodes. -/
def Shape.member? (shape : Shape) (room : Nat) (a : Attributes) (c : Cursor) (key : String)
    (v : Json) : Option (Attributes × Cursor) :=
  match shape with
  | .decl _ => declMember? room a c key v
  | .compound => if key = "range" then (nullableRange? room c v).map fun c => (a, c) else some (a, c)
  | .other _ =>
    if key = "loc" ∨ key = "range" then declMember? room a c key v else some (a, c)

/-- What a node of a shape says. -/
def Shape.content : Shape → Attributes → Content
  | .decl sort, a => .decl sort a
  | .compound, _ => .compound
  | .other label, a => .other label a.place

/-- The keys that may not come again, once `kind` has been read. -/
def Shape.seenAtStart : Shape → List String
  | .other _ => ["kind"]
  | _ => []

/-- The identity, the shape and the remaining members of a node. -/
def header? : List (String × Json) → Option (Nat × Shape × List (String × Json))
  | ("id", i) :: ("kind", k) :: rest =>
    match id? i, k.text?.bind shape? with
    | some id, some shape => some (id, shape, rest)
    | _, _ => none
  | ("kind", k) :: rest => (k.text?.bind shape?).map fun shape => (0, shape, rest)
  | _ => none

/-! ## 7. Nodes -/

/-- Read a list of nodes, one after the other. -/
def readNodes (read : Cursor → Json → Option (Node × Cursor)) :
    Cursor → List Json → Option (List Node × Cursor)
  | c, [] => some ([], c)
  | c, v :: vs =>
    match read c v with
    | none => none
    | some (n, c') => (readNodes read c' vs).map fun (ns, c'') => (n :: ns, c'')

/-- Read the members of a node after its kind.  Later inner nodes replace earlier ones. -/
def readMembers (inner : Cursor → Json → Option (List Node × Cursor)) (room : Nat) (shape : Shape) :
    (seen : List String) → Attributes → List Node → Cursor → List (String × Json) →
    Option (Attributes × List Node × Cursor)
  | _, a, nodes, c, [] => some (a, nodes, c)
  | seen, a, nodes, c, (key, v) :: rest =>
    if key = "inner" then
      match inner c v with
      | some (nodes', c') => readMembers inner room shape seen a nodes' c' rest
      | none => none
    else if shape.keys.contains key then
      if seen.contains key then none
      else
        match shape.member? room a c key v with
        | some (a', c') => readMembers inner room shape (key :: seen) a' nodes c' rest
        | none => none
    else readMembers inner room shape seen a nodes c rest

/-- Read a node, given how the list of nodes inside it is read. -/
def readNodeWith (inner : Cursor → Json → Option (List Node × Cursor)) (room : Nat) (c : Cursor)
    (v : Json) : Option (Node × Cursor) :=
  match enterObject room v with
  | none => none
  | some (below, members) =>
    match header? members with
    | none => none
    | some (id, shape, rest) =>
      (readMembers inner below shape shape.seenAtStart {} [] c rest).map fun (a, nodes, c) =>
        (.mk id (shape.content a) nodes, c)

/-- **Read a node** and the nodes inside it, which are two levels further down. -/
def readNode : (room : Nat) → Cursor → Json → Option (Node × Cursor)
  | 0, _, _ => none
  | 1, c, v => readNodeWith (fun _ _ => none) 1 c v
  | room + 2, c, v =>
    readNodeWith (fun c v => v.array?.bind (readNodes (readNode room) c)) (room + 2) c v

/-- The depth to which a dump may nest. -/
def depthLimit : Nat := 127

end Reader

/-- **The dump that a text spells**, if it is one. -/
def read (cs : List Char) : Option Node :=
  (Json.read cs).bind fun v => (Reader.readNode Reader.depthLimit .start v).map (·.1)

end CppSurface.Dump
