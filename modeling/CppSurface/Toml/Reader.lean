import CppSurface.Toml.Scalar

/-!
# Reading TOML

A reader for version 1.0 of the format.  A text that is no document is refused without a reason,
because nothing reports one.  Strings are read by structural recursion with a little state; lists
and inline tables nest, to a depth below 80, and the reader of values takes a bound on the number
of its turns, of which each character accounts for at most two.
-/

namespace CppSurface.Toml

namespace Reader

/-! ## 1. White space and comments -/

/-- A blank or a tab. -/
def isSpace (c : Char) : Bool := c == ' ' || c == '\t'

/-- Pass over blanks and tabs. -/
def skip (cs : List Char) : List Char := cs.dropWhile isSpace

/-- Whether a character may stand in a comment: no control character but the tab. -/
def isPlain (c : Char) : Bool := c == '\t' || (decide (0x20 ≤ c.toNat) && c.toNat != 0x7F)

/-- Read the end of a line or of the document. -/
def lineEnd? : List Char → Option (List Char)
  | [] => some []
  | '\n' :: cs => some cs
  | '\r' :: '\n' :: cs => some cs
  | _ => none

/-- Read blanks, a comment if there is one, and the end of the line. -/
def restOfLine? (cs : List Char) : Option (List Char) :=
  match skip cs with
  | '#' :: rest => lineEnd? (rest.dropWhile isPlain)
  | rest => lineEnd? rest

/-- Pass over blanks, line ends and comments, as between the items of a list.  `fuel` bounds the
number of comments and lines. -/
def skipLines : (fuel : Nat) → List Char → Option (List Char)
  | 0, _ => none
  | fuel + 1, cs =>
    match skip cs with
    | '\n' :: rest => skipLines fuel rest
    | '\r' :: '\n' :: rest => skipLines fuel rest
    | '#' :: rest =>
      match rest.dropWhile isPlain with
      | '\n' :: rest' => skipLines fuel rest'
      | '\r' :: '\n' :: rest' => skipLines fuel rest'
      | _ => none
    | rest => some rest

/-! ## 2. Strings -/

/-- The value of a hexadecimal digit. -/
def hex? (c : Char) : Option Nat := Scalar.digitIn 16 c

/-- The character whose code hexadecimal digits spell. -/
def coded? (cs : List Char) : Option Char :=
  match cs.mapM hex? with
  | some ds =>
    let n := ds.foldl (fun n d => n * 16 + d) 0
    if n < 0xD800 ∨ (0xDFFF < n ∧ n ≤ 0x10FFFF) then some (Char.ofNat n) else none
  | none => none

/-- The character that an escape stands for, and the number of characters after the backslash that
it takes. -/
def escape? : List Char → Option (Char × Nat)
  | 'b' :: _ => some ('\x08', 1)
  | 't' :: _ => some ('\t', 1)
  | 'n' :: _ => some ('\n', 1)
  | 'f' :: _ => some ('\x0c', 1)
  | 'r' :: _ => some ('\r', 1)
  | '"' :: _ => some ('"', 1)
  | '\\' :: _ => some ('\\', 1)
  | 'u' :: cs =>
    if cs.length < 4 then none else (coded? (cs.take 4)).map fun c => (c, 5)
  | 'U' :: cs =>
    if cs.length < 8 then none else (coded? (cs.take 8)).map fun c => (c, 9)
  | _ => none

/-- Put a character in front of what was read after it. -/
def consChar (c : Char) : Option (List Char × List Char) → Option (List Char × List Char)
  | some (cs, rest) => some (c :: cs, rest)
  | none => none

/-- Read a basic string after its quote; `used` characters belong to an escape. -/
def readBasic : (used : Nat) → List Char → Option (List Char × List Char)
  | _, [] => none
  | used + 1, _ :: cs => readBasic used cs
  | 0, '"' :: cs => some ([], cs)
  | 0, '\\' :: cs =>
    match escape? cs with
    | some (c, n) => consChar c (readBasic n cs)
    | none => none
  | 0, c :: cs => if isPlain c then consChar c (readBasic 0 cs) else none

/-- Read a literal string after its quote. -/
def readLiteral : List Char → Option (List Char × List Char)
  | [] => none
  | '\'' :: cs => some ([], cs)
  | c :: cs => if isPlain c then consChar c (readLiteral cs) else none

/-- Whether a line ends after blanks. -/
def endsLine (cs : List Char) : Bool :=
  match skip cs with
  | '\n' :: _ => true
  | '\r' :: '\n' :: _ => true
  | _ => false

/-- What the reader of a string over several lines is about to do. -/
inductive Mode where
  | normal
  /-- Pass over the rest of an escape. -/
  | escape (used : Nat)
  /-- Pass over white space after a backslash at the end of a line. -/
  | joining
  deriving Repr, DecidableEq

/-- Read a basic string over several lines after its quotes.  `quotes` counts the quotes that were
taken as content right before the closing ones: at most two. -/
def readBasicLines : Mode → (quotes : Nat) → List Char → Option (List Char × List Char)
  | _, _, [] => none
  | .escape (used + 1), _, _ :: cs =>
    readBasicLines (if used = 0 then .normal else .escape used) 0 cs
  | .joining, _, ' ' :: cs => readBasicLines .joining 0 cs
  | .joining, _, '\t' :: cs => readBasicLines .joining 0 cs
  | .joining, _, '\n' :: cs => readBasicLines .joining 0 cs
  | .joining, _, '\r' :: '\n' :: cs => readBasicLines .joining 0 cs
  | _, quotes, '"' :: '"' :: '"' :: cs =>
    if cs.head? = some '"' ∧ quotes < 2 then
      consChar '"' (readBasicLines .normal (quotes + 1) ('"' :: '"' :: cs))
    else some ([], cs)
  | _, _, '\\' :: cs =>
    if endsLine cs then readBasicLines .joining 0 cs
    else
      match escape? cs with
      | some (c, n) => consChar c (readBasicLines (.escape n) 0 cs)
      | none => none
  | _, _, '\n' :: cs => consChar '\n' (readBasicLines .normal 0 cs)
  | _, _, '\r' :: '\n' :: cs => consChar '\n' (readBasicLines .normal 0 cs)
  | _, _, c :: cs => if isPlain c then consChar c (readBasicLines .normal 0 cs) else none

/-- Read a literal string over several lines after its quotes. -/
def readLiteralLines : (quotes : Nat) → List Char → Option (List Char × List Char)
  | _, [] => none
  | quotes, '\'' :: '\'' :: '\'' :: cs =>
    if cs.head? = some '\'' ∧ quotes < 2 then
      consChar '\'' (readLiteralLines (quotes + 1) ('\'' :: '\'' :: cs))
    else some ([], cs)
  | _, '\n' :: cs => consChar '\n' (readLiteralLines 0 cs)
  | _, '\r' :: '\n' :: cs => consChar '\n' (readLiteralLines 0 cs)
  | _, c :: cs => if isPlain c then consChar c (readLiteralLines 0 cs) else none

/-- A line end right after opening quotes is no content. -/
def dropFirstLineEnd : List Char → List Char
  | '\n' :: cs => cs
  | '\r' :: '\n' :: cs => cs
  | cs => cs

/-- Read a string of any sort. -/
def readString : List Char → Option (List Char × List Char)
  | '"' :: '"' :: '"' :: cs => readBasicLines .normal 0 (dropFirstLineEnd cs)
  | '"' :: cs => readBasic 0 cs
  | '\'' :: '\'' :: '\'' :: cs => readLiteralLines 0 (dropFirstLineEnd cs)
  | '\'' :: cs => readLiteral cs
  | _ => none

/-! ## 3. Keys -/

/-- A character of a bare key. -/
def isBare (c : Char) : Bool := c.isAlphanum || c == '_' || c == '-'

/-- Read one part of a key. -/
def readKeyPart : List Char → Option (String × List Char)
  | '"' :: cs => (readBasic 0 cs).map fun (k, rest) => (String.ofList k, rest)
  | '\'' :: cs => (readLiteral cs).map fun (k, rest) => (String.ofList k, rest)
  | cs =>
    match cs.takeWhile isBare with
    | [] => none
    | k => some (String.ofList k, cs.dropWhile isBare)

/-- The depth that lists, inline tables and keys stay below. -/
def depthLimit : Nat := 80

/-- The number of parts that a key may have. -/
def keyLimit : Nat := depthLimit - 1

/-- Read a key with blanks around its parts: the parts before the last, and the last. -/
def readKey : (fuel : Nat) → List Char → Option (List String × String × List Char)
  | 0, _ => none
  | fuel + 1, cs =>
    match readKeyPart (skip cs) with
    | none => none
    | some (k, rest) =>
      match skip rest with
      | '.' :: rest' =>
        (readKey fuel rest').map fun (path, last, rest'') => (k :: path, last, rest'')
      | rest' => some ([], k, rest')

/-! ## 4. Values -/

mutual

/-- Read a value inside `depth` lists and inline tables. -/
def readValue : (turns depth : Nat) → List Char → Option (Toml × List Char)
  | 0, _, _ => none
  | turns + 1, depth, cs =>
    match cs with
    | [] => none
    | '"' :: _ | '\'' :: _ =>
      (readString cs).map fun (s, rest) => (.string (String.ofList s), rest)
    | '[' :: rest =>
      if depth + 1 < depthLimit then
        (readItems turns (depth + 1) rest).map fun (items, rest') => (.array items, rest')
      else none
    | '{' :: rest =>
      if depth + 1 < depthLimit then
        match skip rest with
        | '}' :: rest' => some (.table .closed [], rest')
        | _ =>
          (readInline turns (depth + 1) [] rest).map fun (entries, rest') =>
            (.table .closed entries, rest')
      else none
    | _ => Scalar.read cs

/-- Read the items of a list up to its closing bracket.  A comma may follow the last one. -/
def readItems : (turns depth : Nat) → List Char → Option (List Toml × List Char)
  | 0, _, _ => none
  | turns + 1, depth, cs =>
    match skipLines (cs.length + 1) cs with
    | none => none
    | some (']' :: rest) => some ([], rest)
    | some rest =>
      match readValue turns depth rest with
      | none => none
      | some (v, rest') =>
        match skipLines (rest'.length + 1) rest' with
        | some (']' :: rest'') => some ([v], rest'')
        | some (',' :: rest'') =>
          (readItems turns depth rest'').map fun (vs, after) => (v :: vs, after)
        | _ => none

/-- Read the entries of an inline table up to its closing brace. -/
def readInline : (turns depth : Nat) → Entries → List Char → Option (Entries × List Char)
  | 0, _, _, _ => none
  | turns + 1, depth, entries, cs =>
    match readKey keyLimit cs with
    | some (path, key, '=' :: rest) =>
      match readValue turns depth (skip rest) with
      | none => none
      | some (v, rest') =>
        match addValue key v path entries with
        | none => none
        | some entries' =>
          match skip rest' with
          | '}' :: rest'' => some (entries', rest'')
          | ',' :: rest'' => readInline turns depth entries' rest''
          | _ => none
    | _ => none

end

/-! ## 5. Documents -/

/-- A document under construction: the finished part, and the table that is open. -/
structure State where
  root : Entries
  open_ : Entries
  /-- The header of the open table; empty for the table that is the document itself. -/
  path : List String
  isRepeated : Bool

/-- Put the open table in its place. -/
def State.close (s : State) : Option Entries :=
  if s.path.isEmpty then some s.open_
  else if s.isRepeated then closeRepeated s.open_ s.path s.root
  else closeTable s.open_ s.path s.root

/-- Read a header after its first bracket. -/
def readHeader (s : State) (cs : List Char) : Option (State × List Char) :=
  match s.close with
  | none => none
  | some root =>
    match cs with
    | '[' :: rest =>
      match readKey keyLimit rest with
      | some (path, key, ']' :: ']' :: rest') =>
        if canRepeat (path ++ [key]) root then
          (restOfLine? rest').map fun after => (⟨root, [], path ++ [key], true⟩, after)
        else none
      | _ => none
    | _ =>
      match readKey keyLimit cs with
      | some (path, key, ']' :: rest') =>
        match openTable (path ++ [key]) root with
        | some entries =>
          (restOfLine? rest').map fun after => (⟨root, entries, path ++ [key], false⟩, after)
        | none => none
      | _ => none

/-- Read a key and its value. -/
def readEntry (s : State) (cs : List Char) : Option (State × List Char) :=
  match readKey keyLimit cs with
  | some (path, key, '=' :: rest) =>
    match readValue (2 * cs.length + 2) 0 (skip rest) with
    | none => none
    | some (v, rest') =>
      match addValue key v path s.open_ with
      | none => none
      | some entries => (restOfLine? rest').map fun after => ({ s with open_ := entries }, after)
  | _ => none

/-- Read the lines of a document. -/
def readLines : (fuel : Nat) → State → List Char → Option State
  | 0, _, _ => none
  | fuel + 1, s, cs =>
    match skip cs with
    | [] => some s
    | '\n' :: rest => readLines fuel s rest
    | '\r' :: '\n' :: rest => readLines fuel s rest
    | '#' :: rest =>
      match lineEnd? (rest.dropWhile isPlain) with
      | some rest' => readLines fuel s rest'
      | none => none
    | '[' :: rest =>
      match readHeader s rest with
      | some (s', rest') => readLines fuel s' rest'
      | none => none
    | rest =>
      match readEntry s rest with
      | some (s', rest') => readLines fuel s' rest'
      | none => none

/-- A byte order mark in front of a document is no part of it. -/
def dropMark : List Char → List Char
  | '\ufeff' :: cs => cs
  | cs => cs

end Reader

/-- **The entries of the document that a text spells**, if it is one. -/
def read (cs : List Char) : Option Entries :=
  let cs := Reader.dropMark cs
  (Reader.readLines (cs.length + 1) ⟨[], [], [], false⟩ cs).bind Reader.State.close

end CppSurface.Toml
