import CppSurface.Toml

/-!
# Numbers and dates of TOML

A number or date is one unbroken word, except that a blank may stand between a date and a time.
The readers below decide whether a word is one, and which integer it spells.
-/

namespace CppSurface.Toml.Scalar

/-! ## 1. Digits -/

/-- A digit. -/
def isDigit (c : Char) : Bool := '0' ≤ c && c ≤ '9'

/-- The value of a digit in a base. -/
def digitIn (base : Nat) (c : Char) : Option Nat :=
  let n :=
    if isDigit c then c.toNat - 48
    else if 'a' ≤ c ∧ c ≤ 'f' then c.toNat - 87
    else if 'A' ≤ c ∧ c ≤ 'F' then c.toNat - 55
    else 99
  if n < base then some n else none

/-- The number that digits spell; single underscores may stand between two digits. -/
def digitsFrom (base : Nat) : (acc : Nat) → List Char → Option Nat
  | acc, [] => some acc
  | acc, '_' :: c :: cs =>
    match digitIn base c with
    | some d => digitsFrom base (acc * base + d) cs
    | none => none
  | acc, c :: cs =>
    match digitIn base c with
    | some d => digitsFrom base (acc * base + d) cs
    | none => none

/-- The number that one or more digits spell. -/
def digits? (base : Nat) : List Char → Option Nat
  | [] => none
  | '_' :: _ => none
  | cs => digitsFrom base 0 cs

/-- A decimal number without leading zeros. -/
def decimal? : List Char → Option Nat
  | ['0'] => some 0
  | '0' :: _ => none
  | cs => digits? 10 cs

/-- Take a sign off a word. -/
def unsigned : List Char → Bool × List Char
  | '-' :: cs => (true, cs)
  | '+' :: cs => (false, cs)
  | cs => (false, cs)

/-! ## 2. Integers -/

/-- Whether an integer fits 64 bits. -/
def fits (n : Int) : Bool := decide (-9223372036854775808 ≤ n) && decide (n ≤ 9223372036854775807)

/-- The integer that a word spells, without regard to its size. -/
def anyInteger? : List Char → Option Int
  | '0' :: 'x' :: cs => (digits? 16 cs).map Int.ofNat
  | '0' :: 'o' :: cs => (digits? 8 cs).map Int.ofNat
  | '0' :: 'b' :: cs => (digits? 2 cs).map Int.ofNat
  | cs =>
    let (negative, magnitude) := unsigned cs
    (decimal? magnitude).map fun n => if negative then -(n : Int) else n

/-- **The integer that a word spells.** -/
def integer? (cs : List Char) : Option Int :=
  (anyInteger? cs).bind fun n => if fits n then some n else none

/-! ## 3. Fractions -/

/-- Cut a word before the first character that satisfies `p`. -/
def cutBefore (p : Char → Bool) (cs : List Char) : List Char × List Char :=
  (cs.takeWhile (fun c => !p c), cs.dropWhile (fun c => !p c))

/-- The number of digits among characters. -/
def digitCount (cs : List Char) : Nat := (cs.filter isDigit).length

/-- The exponent that a word spells after its letter, as a sign and a magnitude. -/
def exponent? (cs : List Char) : Option (Bool × Nat) :=
  let (negative, magnitude) := unsigned cs
  (digits? 10 magnitude).map fun n => (negative, n)

/-- Half a unit above the greatest finite number of double precision.  What reaches it is rounded
to infinity. -/
def overflow : Nat := Nat.pow 2 1024 - Nat.pow 2 970

/-- Whether `digits`, of which the last `places` stand after the point, times a power of ten is
too great for a number of double precision.  The comparisons in front of the powers keep these
small: where they fail, the answer is clear. -/
def overflows (digits places : Nat) (negative : Bool) (exponent : Nat) : Bool :=
  if digits = 0 then false
  else if negative then
    decide (exponent + places ≤ digits.log2) &&
      decide (overflow * Nat.pow 10 (exponent + places) ≤ digits)
  else if places ≤ exponent then
    decide (400 < exponent - places) ||
      decide (overflow ≤ digits * Nat.pow 10 (exponent - places))
  else decide (overflow * Nat.pow 10 (places - exponent) ≤ digits)

/-- Whether a word spells a number with a fraction or an exponent that is not too great. -/
def isFloat (cs : List Char) : Bool :=
  let (negative, magnitude) := unsigned cs
  if magnitude = ['i', 'n', 'f'] ∨ magnitude = ['n', 'a', 'n'] then true
  else
    let (mantissa, tail) := cutBefore (fun c => c == 'e' || c == 'E') magnitude
    let (whole, fraction) := cutBefore (· == '.') mantissa
    if fraction.isEmpty && tail.isEmpty then false
    else
      match decimal? whole, (if fraction.isEmpty then some 0 else digits? 10 fraction.tail),
        (if tail.isEmpty then some (false, 0) else exponent? tail.tail) with
      | some w, some f, some (down, e) =>
        let places := digitCount fraction
        negative || !overflows (w * Nat.pow 10 places + f) places down e
      | _, _, _ => false

/-! ## 4. Dates -/

/-- The number that a fixed count of digits spells. -/
def fixed? (count : Nat) (cs : List Char) : Option Nat :=
  if cs.length = count && cs.all isDigit then
    some (cs.foldl (fun n c => n * 10 + (c.toNat - 48)) 0)
  else none

/-- The number of days of a month. -/
def daysIn (year month : Nat) : Nat :=
  if month = 2 then
    if year % 4 = 0 ∧ (year % 100 ≠ 0 ∨ year % 400 = 0) then 29 else 28
  else if month = 4 ∨ month = 6 ∨ month = 9 ∨ month = 11 then 30
  else 31

/-- Whether a word is a date. -/
def isDate (cs : List Char) : Bool :=
  match fixed? 4 (cs.take 4), fixed? 2 ((cs.drop 5).take 2), fixed? 2 ((cs.drop 8).take 2) with
  | some year, some month, some day =>
    cs.length == 10 && cs[4]? == some '-' && cs[7]? == some '-' && decide (1 ≤ month) &&
      decide (month ≤ 12) && decide (1 ≤ day) && decide (day ≤ daysIn year month)
  | _, _, _ => false

/-- Whether a word is the offset of a time zone. -/
def isOffset (cs : List Char) : Bool :=
  match cs with
  | ['Z'] | ['z'] => true
  | sign :: rest =>
    match fixed? 2 (rest.take 2), fixed? 2 (rest.drop 3) with
    | some hour, some minute =>
      (sign == '+' || sign == '-') && rest[2]? == some ':' && decide (hour ≤ 23) &&
        decide (minute ≤ 59)
    | _, _ => false
  | [] => false

/-- Whether a word is a time, with the offset of a time zone if `zoned` allows it. -/
def isTime (zoned : Bool) (cs : List Char) : Bool :=
  match fixed? 2 (cs.take 2), fixed? 2 ((cs.drop 3).take 2), fixed? 2 ((cs.drop 6).take 2) with
  | some hour, some minute, some second =>
    let rest := cs.drop 8
    let (fractionOk, zone) := match rest with
      | '.' :: more => (!(more.takeWhile isDigit).isEmpty, more.dropWhile isDigit)
      | more => (true, more)
    cs[2]? == some ':' && cs[5]? == some ':' && decide (hour ≤ 23) && decide (minute ≤ 59) &&
      decide (second ≤ 60) && fractionOk && (zone.isEmpty || (zoned && isOffset zone))
  | _, _, _ => false

/-- Whether a word is a date, a time, or both with a `T` between them. -/
def isDateTime (cs : List Char) : Bool :=
  isDate cs || isTime false cs ||
    (isDate (cs.take 10) && (cs[10]? == some 'T' || cs[10]? == some 't') &&
      isTime true (cs.drop 11))

/-! ## 5. Words -/

/-- Whether a character ends a word. -/
def endsWord (c : Char) : Bool :=
  c == ' ' || c == '\t' || c == '\n' || c == '\r' || c == ',' || c == ']' || c == '}' || c == '#'

/-- The value that a word spells. -/
def ofWord? (cs : List Char) : Option Toml :=
  if cs = ['t', 'r', 'u', 'e'] then some (.boolean true)
  else if cs = ['f', 'a', 'l', 's', 'e'] then some (.boolean false)
  else if isDateTime cs then some .date
  else if isFloat cs then some .float
  else (integer? cs).map .integer

/-- **Read a number, a date or a truth value.** -/
def read (cs : List Char) : Option (Toml × List Char) :=
  let word := cs.takeWhile fun c => !endsWord c
  let rest := cs.dropWhile fun c => !endsWord c
  match isDate word, rest with
  | true, ' ' :: more =>
    let second := more.takeWhile fun c => !endsWord c
    if second.isEmpty then some (.date, rest)
    else if isTime true second then some (.date, more.dropWhile fun c => !endsWord c)
    else none
  | _, _ => (ofWord? word).map fun v => (v, rest)

end CppSurface.Toml.Scalar
