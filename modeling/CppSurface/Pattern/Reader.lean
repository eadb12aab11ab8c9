import CppSurface.Pattern.Expr
import CppSurface.Pattern.Property

/-!
# Reading patterns

The notation of patterns: literals, `.`, bracketed classes with ranges, nesting and set operations,
escapes, groups with names and flags, alternation, and repetitions.  There is no look-around and no
back-reference.  A text that is no pattern is refused without a reason, because nothing reports
one.

The reader goes once through the text with a stack of the groups that are open.  It keeps the
flags in force as it goes, so each part is translated where it stands; no tree of the notation is
built.  Every turn of `readFrom` uses up at least one character, and so does every turn inside a
bracketed class: the number of characters bounds both.
-/

namespace CppSurface.Pattern

open CppSurface.Text

namespace Reader

/-! ## 1. Flags and white space -/

/-- The flags in force at a place of a pattern. -/
structure Flags where
  ignoreCase : Bool := false
  multiLine : Bool := false
  dotMatchesLineFeed : Bool := false
  returnEndsLine : Bool := false
  unicode : Bool := true
  /-- White space and comments of the pattern mean nothing. -/
  verbose : Bool := false
  deriving Repr, DecidableEq

/-- A pattern's text without the white space and comments it starts with. -/
def skipBlanks : (inComment : Bool) → List Char → List Char
  | _, [] => []
  | true, c :: cs => skipBlanks (c != '\n') cs
  | false, c :: cs =>
    if isBlank c then skipBlanks false cs
    else if c = '#' then skipBlanks true cs
    else c :: cs

/-- Pass over white space and comments where they mean nothing. -/
def skip (f : Flags) (cs : List Char) : List Char := if f.verbose then skipBlanks false cs else cs

/-- Set or clear one flag.  The flag that exchanges greedy and lazy repetition does not change
which texts match. -/
def setFlag (f : Flags) (c : Char) (on : Bool) : Option Flags :=
  match c with
  | 'i' => some { f with ignoreCase := on }
  | 'm' => some { f with multiLine := on }
  | 's' => some { f with dotMatchesLineFeed := on }
  | 'R' => some { f with returnEndsLine := on }
  | 'u' => some { f with unicode := on }
  | 'x' => some { f with verbose := on }
  | 'U' => some f
  | _ => none

/-- Read flags up to `:` or `)`.  No flag may be repeated, and one `-` may stand before a flag.
The result holds the flags, whether there was any item, and the rest from the closing character
on. -/
def readFlags : (f : Flags) → (seen : List Char) → (on dangling : Bool) → List Char →
    Option (Flags × Bool × List Char)
  | _, _, _, _, [] => none
  | f, seen, on, dangling, c :: cs =>
    if c = ':' ∨ c = ')' then
      if dangling then none else some (f, !seen.isEmpty, c :: cs)
    else if seen.contains c then none
    else if c = '-' then readFlags f ('-' :: seen) false true cs
    else
      match setFlag f c on with
      | some f' => readFlags f' (c :: seen) on false cs
      | none => none

/-! ## 2. Sets under flags -/

/-- The set closed under case, if case is ignored. -/
def folded (f : Flags) (s : CodeSet) : CodeSet :=
  if f.ignoreCase then (if f.unicode then Case.closure s else Case.asciiClosure s) else s

/-- A set as an expression.  Without Unicode it must not reach beyond ASCII, because it would then
match parts of characters. -/
def ofSet (f : Flags) (s : CodeSet) : Option Expr :=
  if f.unicode || s.below 0x80 then some (.chars s) else none

/-- The characters that `.` matches. -/
def dotSet (f : Flags) : CodeSet :=
  if f.dotMatchesLineFeed then CodeSet.full
  else if f.returnEndsLine then CodeSet.compl [(0x0A, 0x0A), (0x0D, 0x0D)]
  else CodeSet.compl [(0x0A, 0x0A)]

/-! ## 3. Escapes -/

/-- What a single element of a pattern stands for. -/
inductive Element where
  | literal (code : Nat)
  /-- A code written in hexadecimal. -/
  | code (code : Nat)
  | set (s : CodeSet)
  | anchor (a : Anchor)
  | dot

/-- Whether a character after a backslash stands for itself: every ASCII character but letters,
digits and angle brackets. -/
def isEscapable (c : Char) : Bool :=
  decide (c.toNat < 0x80) && !c.isAlphanum && c != '<' && c != '>'

/-- Whether a number is the code of a character. -/
def isScalar (n : Nat) : Bool := decide (n < 0xD800) || (decide (0xDFFF < n) && decide (n ≤ 0x10FFFF))

/-- Read a fixed number of hexadecimal digits. -/
def readHexDigits (f : Flags) : (count acc : Nat) → List Char → Option (Nat × List Char)
  | 0, acc, cs => some (acc, cs)
  | _ + 1, _, [] => none
  | count + 1, acc, c :: cs =>
    match CodeSet.hexValue? c with
    | some d => readHexDigits f count (acc * 16 + d) (skip f cs)
    | none => none

/-- The text up to a closing brace, without white space where it means nothing, and the rest. -/
def readBraced (f : Flags) (cs : List Char) : Option (List Char × List Char) :=
  match cs.dropWhile (· ≠ '}') with
  | [] => none
  | _ :: rest =>
    let inner := cs.takeWhile (· ≠ '}')
    some (if f.verbose then inner.filter (fun c => !isBlank c) else inner, rest)

/-- Read a character's code: a number of digits, or digits in braces. -/
def readCode (f : Flags) (digits : Nat) (cs : List Char) : Option (Element × List Char) :=
  match skip f cs with
  | [] => none
  | '{' :: rest =>
    match readBraced f rest with
    | some (inner, rest') =>
      if inner.isEmpty || inner.any (fun c => (CodeSet.hexValue? c).isNone) ||
          !isScalar (CodeSet.hexNumber inner) then none
      else some (.code (CodeSet.hexNumber inner), skip f rest')
    | none => none
  | cs' =>
    match readHexDigits f digits 0 cs' with
    | some (n, rest) => if isScalar n then some (.code n, rest) else none
    | none => none

/-- Read the class that `\p` or `\P` names. -/
def readProperty (f : Flags) (negated : Bool) (cs : List Char) : Option (Element × List Char) :=
  if !f.unicode then none
  else
    match skip f cs with
    | [] => none
    | '{' :: rest =>
      match readBraced f rest with
      | some (inner, rest') =>
        (Property.braced? inner).map fun s =>
          (.set (CodeSet.complIf negated (folded f s)), rest')
      | none => none
    | '\\' :: _ => none
    | c :: rest =>
      (Property.named? [c]).map fun s =>
        (.set (CodeSet.complIf negated (folded f s)), skip f rest)

/-- A letter of the name of a special word boundary. -/
def isBoundaryLetter (c : Char) : Bool := c.isAlpha || c == '-'

/-- Read what follows `\b`: the name of a special boundary in braces, or nothing. -/
def readBoundary (f : Flags) (cs : List Char) : Option (Anchor × List Char) :=
  match cs with
  | '{' :: rest =>
    match skip f rest with
    | [] => none
    | c :: more =>
      if !isBoundaryLetter c then some (.wordBoundary (!f.unicode), cs)
      else
        match (c :: more).dropWhile isBoundaryLetter with
        | '}' :: rest' =>
          let ascii := !f.unicode
          match String.ofList ((c :: more).takeWhile isBoundaryLetter) with
          | "start" => some (.wordStart ascii, rest')
          | "end" => some (.wordEnd ascii, rest')
          | "start-half" => some (.wordStartHalf ascii, rest')
          | "end-half" => some (.wordEndHalf ascii, rest')
          | _ => none
        | _ => none
  | _ => some (.wordBoundary (!f.unicode), cs)

/-- Read what follows a backslash. -/
def readEscape (f : Flags) : List Char → Option (Element × List Char)
  | [] => none
  | c :: cs =>
    if isEscapable c then some (.literal c.toNat, cs)
    else
      match c with
      | 'x' => readCode f 2 cs
      | 'u' => readCode f 4 cs
      | 'U' => readCode f 8 cs
      | 'p' => readProperty f false cs
      | 'P' => readProperty f true cs
      | 'a' => some (.literal 0x07, cs)
      | 'f' => some (.literal 0x0C, cs)
      | 't' => some (.literal 0x09, cs)
      | 'n' => some (.literal 0x0A, cs)
      | 'r' => some (.literal 0x0D, cs)
      | 'v' => some (.literal 0x0B, cs)
      | 'A' => some (.anchor .textStart, cs)
      | 'z' => some (.anchor .textEnd, cs)
      | 'B' => some (.anchor (.notWordBoundary (!f.unicode)), cs)
      | '<' => some (.anchor (.wordStart (!f.unicode)), cs)
      | '>' => some (.anchor (.wordEnd (!f.unicode)), cs)
      | 'b' => (readBoundary f cs).map fun (a, rest) => (.anchor a, rest)
      | c =>
        match Property.short? f.unicode c with
        | some s => some (.set s, cs)
        | none => (Property.short? f.unicode c.toLower).map fun s => (.set s.compl, cs)

/-- An element as an expression. -/
def ofElement (f : Flags) : Element → Option Expr
  | .literal n =>
    if !f.ignoreCase then some (.chars (CodeSet.single n))
    else if !f.unicode && decide (0x80 ≤ n) then none
    else some (.chars (folded f (CodeSet.single n)))
  | .code n => ofSet f (folded f (CodeSet.single n))
  | .set s => ofSet f s
  | .anchor a => some (.anchor a)
  | .dot => ofSet f (dotSet f)

/-- The set that an element adds to a bracketed class. -/
def Element.classSet? (f : Flags) : Element → Option CodeSet
  | .literal n | .code n => if f.unicode || decide (n < 0x80) then some (CodeSet.single n) else none
  | .set s => some s
  | _ => none

/-- The code that an element may contribute to the ends of a range. -/
def Element.code? : Element → Option Nat
  | .literal n | .code n => some n
  | _ => none

/-! ## 4. Bracketed classes -/

/-- Operations on the sets of a bracketed class. -/
inductive SetOp where
  | inter
  | diff
  | symmDiff

/-- Carry out the pending operation of a class, if there is one. -/
def applyOp (f : Flags) : Option (SetOp × CodeSet) → CodeSet → CodeSet
  | none, s => s
  | some (.inter, lhs), s => CodeSet.inter (folded f lhs) (folded f s)
  | some (.diff, lhs), s => CodeSet.diff (folded f lhs) (folded f s)
  | some (.symmDiff, lhs), s => CodeSet.symmDiff (folded f lhs) (folded f s)

/-- Read one element of a class. -/
def readClassElement (f : Flags) : List Char → Option (Element × List Char)
  | [] => none
  | '\\' :: cs => readEscape f cs
  | c :: cs => some (.literal c.toNat, cs)

/-- Read one element of a class or a range of them. -/
def readRange (f : Flags) (cs : List Char) : Option (CodeSet × List Char) :=
  match readClassElement f cs with
  | none => none
  | some (first, rest) =>
    match skip f rest with
    | [] => none
    | '-' :: rest' =>
      match skip f rest' with
      | [] => none
      | c :: more =>
        if c = ']' ∨ c = '-' then (first.classSet? f).map fun s => (s, '-' :: rest')
        else
          match readClassElement f (c :: more) with
          | none => none
          | some (second, rest'') =>
            match first.code?, second.code? with
            | some lo, some hi =>
              if lo ≤ hi && (f.unicode || decide (hi < 0x80)) then some ([(lo, hi)], rest'')
              else none
            | _, _ => none
    | rest' => (first.classSet? f).map fun s => (s, rest')

/-- Read a bracketed name such as `[:alpha:]`, after its first bracket. -/
def readBracketName (f : Flags) (cs : List Char) : Option (CodeSet × List Char) :=
  match cs with
  | ':' :: rest =>
    let (negated, rest) := match rest with
      | '^' :: more => (true, more)
      | more => (false, more)
    match rest.dropWhile (· ≠ ':') with
    | ':' :: ']' :: rest' =>
      (Property.bracketed? (String.ofList (rest.takeWhile (· ≠ ':')))).map fun s =>
        (CodeSet.complIf negated (folded f s), rest')
    | _ => none
  | _ => none

/-- Read the start of a class after its bracket: a negation, and then literal hyphens or one
literal closing bracket. -/
def readClassHead (f : Flags) (cs : List Char) : Option (Bool × CodeSet × List Char) :=
  let (negated, rest) := match skip f cs with
    | '^' :: more => (true, skip f more)
    | more => (false, more)
  match rest with
  | [] => none
  | '-' :: _ =>
    let rest' := rest.dropWhile fun c => c == '-' || (f.verbose && isBlank c)
    if rest'.isEmpty then none else some (negated, CodeSet.single 0x2D, rest')
  | ']' :: more =>
    if (skip f more).isEmpty then none else some (negated, CodeSet.single 0x5D, skip f more)
  | rest' => some (negated, [], rest')

mutual

/-- Read a class after its bracket.  `fuel` bounds the number of turns. -/
def readClass (f : Flags) : (fuel : Nat) → List Char → Option (CodeSet × Nat × List Char)
  | 0, _ => none
  | fuel + 1, cs =>
    match readClassHead f cs with
    | none => none
    | some (negated, start, rest) =>
      (readClassItems f fuel start none 0 rest).map fun (s, nesting, rest') =>
        (CodeSet.complIf negated (folded f s), nesting + 1, rest')

/-- Read the items of a class up to its closing bracket. -/
def readClassItems (f : Flags) : (fuel : Nat) → CodeSet → Option (SetOp × CodeSet) →
    (nesting : Nat) → List Char → Option (CodeSet × Nat × List Char)
  | 0, _, _, _, _ => none
  | fuel + 1, acc, pending, nesting, cs =>
    match skip f cs with
    | [] => none
    | ']' :: rest => some (applyOp f pending acc, nesting, rest)
    | '&' :: '&' :: rest =>
      readClassItems f fuel [] (some (.inter, applyOp f pending acc)) nesting rest
    | '-' :: '-' :: rest =>
      readClassItems f fuel [] (some (.diff, applyOp f pending acc)) nesting rest
    | '~' :: '~' :: rest =>
      readClassItems f fuel [] (some (.symmDiff, applyOp f pending acc)) nesting rest
    | '[' :: rest =>
      match readBracketName f rest with
      | some (s, rest') => readClassItems f fuel (acc.union s) pending nesting rest'
      | none =>
        match readClass f fuel rest with
        | some (s, inner, rest') =>
          readClassItems f fuel (acc.union s) pending (max nesting inner) rest'
        | none => none
    | rest =>
      match readRange f rest with
      | some (s, rest') => readClassItems f fuel (acc.union s) pending nesting rest'
      | none => none

end

/-! ## 5. Repetition counts -/

/-- Read a number that white space may surround.  It must fit 32 bits. -/
def readCount (f : Flags) (cs : List Char) : Option Nat × List Char :=
  let rest := cs.dropWhile isBlank
  let digits := rest.takeWhile isAsciiDigit
  let after := (skip f (rest.dropWhile isAsciiDigit)).dropWhile isBlank
  let n : Nat := digits.foldl (fun n c => n * 10 + (c.toNat - 48)) 0
  (if digits.isEmpty || decide (4294967296 ≤ n) then none else some n, skip f after)

/-- Read the bounds of a counted repetition after its opening brace, up to its closing brace. -/
def readBounds (f : Flags) (cs : List Char) : Option (Nat × Option Nat × List Char) :=
  match readCount f (skip f cs) with
  | (none, _) => none
  | (some least, '}' :: rest) => some (least, some least, rest)
  | (some least, ',' :: rest) =>
    match skip f rest with
    | '}' :: rest' => some (least, none, rest')
    | rest' =>
      match readCount f rest' with
      | (some most, '}' :: rest'') =>
        if least ≤ most then some (least, some most, rest'') else none
      | _ => none
  | _ => none

/-! ## 6. Groups -/

/-- An expression with the depth to which its parts nest. -/
structure Nested where
  expr : Expr
  nesting : Nat

/-- The parts of a sequence; a change of flags is a part that matches nothing. -/
inductive Part where
  | flags
  | item (n : Nested)

/-- A group that is open: what stood before it, and the flags to go back to. -/
structure Frame where
  before : List Part
  alternatives : List Nested
  flags : Flags

/-- Everything the reader has in hand. -/
structure State where
  flags : Flags
  /-- The parts of the current sequence, the last one first. -/
  parts : List Part
  /-- The finished alternatives of the current group, the last one first. -/
  alternatives : List Nested
  frames : List Frame
  names : List (List Char)

/-- A sequence of parts, given with the last one first. -/
def ofParts (parts : List Part) : Nested :=
  match parts with
  | [] => ⟨.empty, 0⟩
  | [.item n] => n
  | _ =>
    parts.foldl (fun acc p =>
      match p with
      | .flags => acc
      | .item n => ⟨.seq n.expr acc.expr, max acc.nesting (n.nesting + 1)⟩) ⟨.empty, 1⟩

/-- Alternatives, given with the last one first. -/
def ofAlternatives (last : Nested) : List Nested → Nested
  | [] => last
  | more =>
    more.foldl (fun acc n => ⟨.alt n.expr acc.expr, max acc.nesting (n.nesting + 1)⟩)
      { last with nesting := last.nesting + 1 }

/-- Add an expression to the current sequence. -/
def State.add (s : State) (n : Nested) : State := { s with parts := .item n :: s.parts }

/-- Repeat the last part of the current sequence, which must be there and be no change of
flags. -/
def State.repeatLast (s : State) (least : Nat) (most : Option Nat) : Option State :=
  match s.parts with
  | .item n :: rest =>
    some { s with parts := .item ⟨.rep n.expr least most, n.nesting + 1⟩ :: rest }
  | _ => none

/-- Open a group under flags. -/
def State.openGroup (s : State) (f : Flags) : State :=
  { s with
    flags := f
    parts := []
    alternatives := []
    frames := ⟨s.parts, s.alternatives, s.flags⟩ :: s.frames }

/-- Close the innermost group. -/
def State.closeGroup (s : State) : Option State :=
  match s.frames with
  | [] => none
  | frame :: frames =>
    let inner := ofAlternatives (ofParts s.parts) s.alternatives
    some { s with
      flags := frame.flags
      parts := .item { inner with nesting := inner.nesting + 1 } :: frame.before
      alternatives := frame.alternatives
      frames := frames }

/-- Letters of any script, for the names of groups. -/
def isLetter (c : Char) : Bool :=
  isWord c && !isDecimal c && c != '_' && c.toNat != 0x200C && c.toNat != 0x200D

/-- A character that a group's name may begin with. -/
def beginsName (c : Char) : Bool := c == '_' || isLetter c

/-- A character that a group's name may go on with. -/
def continuesName (c : Char) : Bool :=
  c == '_' || c == '.' || c == '[' || c == ']' || isLetter c || isDecimal c

/-- Read a group's name up to `>`. -/
def readName (cs : List Char) : Option (List Char × List Char) :=
  match cs.takeWhile (· ≠ '>'), cs.dropWhile (· ≠ '>') with
  | c :: more, _ :: rest =>
    if beginsName c && more.all continuesName then some (c :: more, rest) else none
  | _, _ => none

/-- Open a group that has a name. -/
def openNamed (s : State) (cs : List Char) : Option (State × List Char) :=
  match readName cs with
  | some (name, rest) =>
    if s.names.contains name then none
    else some ({ s with names := name :: s.names }.openGroup s.flags, rest)
  | none => none

/-- Read what follows an opening parenthesis: look-around is refused, and a group without items
before `)` is a repetition of nothing. -/
def readGroup (s : State) (cs : List Char) : Option (State × List Char) :=
  match skip s.flags cs with
  | '?' :: 'P' :: '<' :: rest => openNamed s rest
  | '?' :: '<' :: '=' :: _ => none
  | '?' :: '<' :: '!' :: _ => none
  | '?' :: '=' :: _ => none
  | '?' :: '!' :: _ => none
  | '?' :: '<' :: rest => openNamed s rest
  | '?' :: rest =>
    match readFlags s.flags [] true false rest with
    | some (f, _, ':' :: rest') => some (s.openGroup f, rest')
    | some (f, true, ')' :: rest') => some ({ s with flags := f, parts := .flags :: s.parts }, rest')
    | _ => none
  | rest => some (s.openGroup s.flags, rest)

/-! ## 7. The whole pattern -/

/-- A question mark that makes a repetition lazy changes nothing. -/
def dropLazy : List Char → List Char
  | '?' :: cs => cs
  | cs => cs

/-- The line conditions under the flags in force. -/
def startAnchor (f : Flags) : Anchor :=
  if f.multiLine then (if f.returnEndsLine then .lineStartReturn else .lineStart) else .textStart

/-- As `startAnchor`, for the end. -/
def endAnchor (f : Flags) : Anchor :=
  if f.multiLine then (if f.returnEndsLine then .lineEndReturn else .lineEnd) else .textEnd

/-- One turn of the reader at a character that is no white space to be passed over. -/
def turn (s : State) (fuel : Nat) : (c : Char) → List Char → Option (State × List Char)
  | '(', rest => readGroup s rest
  | ')', rest => s.closeGroup.map fun s' => (s', rest)
  | '|', rest =>
    some ({ s with parts := [], alternatives := ofParts s.parts :: s.alternatives }, rest)
  | '[', rest =>
    (readClass s.flags fuel rest).bind fun (set, nesting, rest') =>
      (ofSet s.flags set).map fun e => (s.add ⟨e, nesting⟩, rest')
  | '?', rest => (s.repeatLast 0 (some 1)).map fun s' => (s', dropLazy rest)
  | '*', rest => (s.repeatLast 0 none).map fun s' => (s', dropLazy rest)
  | '+', rest => (s.repeatLast 1 none).map fun s' => (s', dropLazy rest)
  | '{', rest =>
    (readBounds s.flags rest).bind fun (least, most, rest') =>
      (s.repeatLast least most).map fun s' => (s', dropLazy (skip s.flags rest'))
  | '\\', rest =>
    (readEscape s.flags rest).bind fun (element, rest') =>
      (ofElement s.flags element).map fun e => (s.add ⟨e, 0⟩, rest')
  | '.', rest => (ofElement s.flags .dot).map fun e => (s.add ⟨e, 0⟩, rest)
  | '^', rest => some (s.add ⟨.anchor (startAnchor s.flags), 0⟩, rest)
  | '$', rest => some (s.add ⟨.anchor (endAnchor s.flags), 0⟩, rest)
  | c, rest => (ofElement s.flags (.literal c.toNat)).map fun e => (s.add ⟨e, 0⟩, rest)

/-- Read the rest of a pattern. -/
def readFrom : (fuel : Nat) → State → List Char → Option Nested
  | 0, _, _ => none
  | fuel + 1, s, cs =>
    match skip s.flags cs with
    | [] => if s.frames.isEmpty then some (ofAlternatives (ofParts s.parts) s.alternatives) else none
    | c :: rest =>
      match turn s (fuel + 1) c rest with
      | some (s', rest') => readFrom fuel s' rest'
      | none => none

/-- The depth to which the parts of a pattern may nest. -/
def nestingLimit : Nat := 250

/-- **The expression that a text denotes**, if it is a pattern of admissible depth and size. -/
def read (cs : List Char) : Option Expr :=
  match readFrom (cs.length + 1) ⟨{}, [], [], [], []⟩ cs with
  | some n =>
    if n.nesting ≤ nestingLimit && n.expr.weight ≤ weightLimit then some n.expr else none
  | none => none

end Reader

end CppSurface.Pattern
