import CppSurface.Pattern.Case
import CppSurface.Pattern.Category
import CppSurface.Pattern.CodeSet
import CppSurface.Text.CharClass

/-!
# Named classes

The classes of characters that a pattern may name: general categories and a few properties of
Unicode, the classes of `\d`, `\s` and `\w`, the bracketed names such as `[:alpha:]`, and the
closure of a set under differences of case.
-/

namespace CppSurface.Pattern

open CppSurface.Text

namespace Property

/-! ## 1. General categories -/

/-- Categories with the spellings of their names, in lower case and without separators. -/
def categories : List (List String × List String) :=
  [(["lu", "uppercaseletter"], [Category.uppercaseLetter]),
   (["ll", "lowercaseletter"], [Category.lowercaseLetter]),
   (["lt", "titlecaseletter"], [Category.titlecaseLetter]),
   (["lc", "casedletter"],
    [Category.uppercaseLetter, Category.lowercaseLetter, Category.titlecaseLetter]),
   (["lm", "modifierletter"], [Category.modifierLetter]),
   (["lo", "otherletter"], [Category.otherLetter]),
   (["l", "letter"],
    [Category.uppercaseLetter, Category.lowercaseLetter, Category.titlecaseLetter,
     Category.modifierLetter, Category.otherLetter]),
   (["mn", "nonspacingmark"], [Category.nonspacingMark]),
   (["mc", "spacingmark"], [Category.spacingMark]),
   (["me", "enclosingmark"], [Category.enclosingMark]),
   (["m", "mark", "combiningmark"],
    [Category.nonspacingMark, Category.spacingMark, Category.enclosingMark]),
   (["nd", "decimalnumber", "digit"], [Category.decimalNumber]),
   (["nl", "letternumber"], [Category.letterNumber]),
   (["no", "othernumber"], [Category.otherNumber]),
   (["n", "number"], [Category.decimalNumber, Category.letterNumber, Category.otherNumber]),
   (["pc", "connectorpunctuation"], [Category.connectorPunctuation]),
   (["pd", "dashpunctuation"], [Category.dashPunctuation]),
   (["ps", "openpunctuation"], [Category.openPunctuation]),
   (["pe", "closepunctuation"], [Category.closePunctuation]),
   (["pi", "initialpunctuation"], [Category.initialPunctuation]),
   (["pf", "finalpunctuation"], [Category.finalPunctuation]),
   (["po", "otherpunctuation"], [Category.otherPunctuation]),
   (["p", "punctuation", "punct"],
    [Category.connectorPunctuation, Category.dashPunctuation, Category.openPunctuation,
     Category.closePunctuation, Category.initialPunctuation, Category.finalPunctuation,
     Category.otherPunctuation]),
   (["sm", "mathsymbol"], [Category.mathSymbol]),
   (["sc", "currencysymbol"], [Category.currencySymbol]),
   (["sk", "modifiersymbol"], [Category.modifierSymbol]),
   (["so", "othersymbol"], [Category.otherSymbol]),
   (["s", "symbol"],
    [Category.mathSymbol, Category.currencySymbol, Category.modifierSymbol,
     Category.otherSymbol]),
   (["zs", "spaceseparator"], [Category.spaceSeparator]),
   (["zl", "lineseparator"], [Category.lineSeparator]),
   (["zp", "paragraphseparator"], [Category.paragraphSeparator]),
   (["z", "separator"],
    [Category.spaceSeparator, Category.lineSeparator, Category.paragraphSeparator]),
   (["cc", "control", "cntrl"], [Category.control]),
   (["cf", "format"], [Category.format]),
   (["co", "privateuse"], [Category.privateUse]),
   (["cn", "unassigned"], [Category.unassigned]),
   (["c", "other"],
    [Category.control, Category.format, Category.privateUse, Category.unassigned])]

/-- The set of a general category. -/
def category? (name : String) : Option CodeSet :=
  if name = "any" then some CodeSet.full
  else if name = "assigned" then some (CodeSet.ofTable Category.unassigned).compl
  else if name = "ascii" then some [(0, 0x7F)]
  else
    (categories.find? fun c => c.1.contains name).map fun c =>
      CodeSet.normal (c.2.flatMap CodeSet.ofTable)

/-- The set of a property that is either had or not. -/
def binary? (name : String) : Option CodeSet :=
  if name = "whitespace" ∨ name = "wspace" ∨ name = "space" then some blankRanges
  else if name = "asciihexdigit" ∨ name = "ahex" then some [(0x30, 0x39), (0x41, 0x46), (0x61, 0x66)]
  else if name = "joincontrol" ∨ name = "joinc" then some [(0x200C, 0x200D)]
  else none

/-- A name in lower case, without blanks, `_` and `-`, and without a leading `is`. -/
def normalName (cs : List Char) : String :=
  let lowered := cs.map Char.toLower
  let bare := if ['i', 's'].isPrefixOf lowered then lowered.drop 2 else lowered
  let name := String.ofList
    (bare.filter fun c => c != ' ' && c != '_' && c != '-' && decide (c.toNat < 0x80))
  if ['i', 's'].isPrefixOf lowered ∧ name = "c" then "isc" else name

/-- The set that a name by itself stands for. -/
def named? (cs : List Char) : Option CodeSet :=
  let name := normalName cs
  (binary? name).or (category? name)

/-- The set that a property with a value stands for. -/
def valued? (property value : List Char) : Option CodeSet :=
  let p := normalName property
  if p = "generalcategory" ∨ p = "gc" then category? (normalName value) else none

/-- Cut a text at the first occurrence of `sep`. -/
def cut? (sep : List Char) : List Char → Option (List Char × List Char)
  | [] => none
  | c :: cs =>
    if sep.isPrefixOf (c :: cs) then some ([], (c :: cs).drop sep.length)
    else (cut? sep cs).map fun (a, b) => (c :: a, b)

/-- The set that the text between the braces of `\p` stands for. -/
def braced? (cs : List Char) : Option CodeSet :=
  match cut? ['!', '='] cs with
  | some (p, v) => (valued? p v).map CodeSet.compl
  | none =>
    match cut? [':'] cs with
    | some (p, v) => valued? p v
    | none =>
      match cut? ['='] cs with
      | some (p, v) => valued? p v
      | none => named? cs

/-! ## 2. Short classes -/

/-- The word characters. -/
def word : CodeSet := [(0x30, 0x39), (0x41, 0x5A), (0x5F, 0x5F), (0x61, 0x7A)] ++ wordRanges

/-- The set of `\d`, `\s` or `\w`; within ASCII only, if Unicode is switched off. -/
def short? (unicode : Bool) (c : Char) : Option CodeSet :=
  if c = 'd' then some (if unicode then decimalRanges else [(0x30, 0x39)])
  else if c = 's' then some (if unicode then blankRanges else [(0x09, 0x0D), (0x20, 0x20)])
  else if c = 'w' then
    some (if unicode then word else [(0x30, 0x39), (0x41, 0x5A), (0x5F, 0x5F), (0x61, 0x7A)])
  else none

/-- The set of a bracketed name. -/
def bracketed? (name : String) : Option CodeSet :=
  match name with
  | "alnum" => some [(0x30, 0x39), (0x41, 0x5A), (0x61, 0x7A)]
  | "alpha" => some [(0x41, 0x5A), (0x61, 0x7A)]
  | "ascii" => some [(0x00, 0x7F)]
  | "blank" => some [(0x09, 0x09), (0x20, 0x20)]
  | "cntrl" => some [(0x00, 0x1F), (0x7F, 0x7F)]
  | "digit" => some [(0x30, 0x39)]
  | "graph" => some [(0x21, 0x7E)]
  | "lower" => some [(0x61, 0x7A)]
  | "print" => some [(0x20, 0x7E)]
  | "punct" => some [(0x21, 0x2F), (0x3A, 0x40), (0x5B, 0x60), (0x7B, 0x7E)]
  | "space" => some [(0x09, 0x0D), (0x20, 0x20)]
  | "upper" => some [(0x41, 0x5A)]
  | "word" => some [(0x30, 0x39), (0x41, 0x5A), (0x5F, 0x5F), (0x61, 0x7A)]
  | "xdigit" => some [(0x30, 0x39), (0x41, 0x46), (0x61, 0x66)]
  | _ => none

end Property

namespace Case

/-! ## 3. Case -/

/-- The groups of code points that differ only in case. -/
def classes : List (List Nat) :=
  (CodeSet.fields (· == ',') groups).map fun group =>
    (CodeSet.ofTable (String.ofList group)).map Prod.fst

/-- The set together with every code point that differs from one of its members only in case. -/
def closure (s : CodeSet) : CodeSet :=
  let s := s.normal
  CodeSet.normal (s ++
    ((classes.filter fun group => group.any s.has).flatten.map fun n => (n, n)))

/-- The same within ASCII. -/
def asciiClosure (s : CodeSet) : CodeSet :=
  let s := s.normal
  CodeSet.normal (s ++
    ((List.range 26).filter fun i => s.has (0x41 + i) || s.has (0x61 + i)).flatMap fun i =>
      [(0x41 + i, 0x41 + i), (0x61 + i, 0x61 + i)])

end Case

end CppSurface.Pattern
