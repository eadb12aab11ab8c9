/-!
# Bytes and texts

Files and compiler output arrive as bytes.  `chunks` reads them once, as a list of scalar values
and of the places where no scalar value can be read.  A defect is either *invalid* (a byte rules
out every continuation; the defect is the longest part that could still have begun a scalar value)
or *incomplete* (the bytes end inside something that could still be one).  Strict reading stops at
the first defect and says where and how long it is; lenient reading writes U+FFFD for each.
-/

namespace CppSurface.Text.Utf8

/-! ## 1. Chunks -/

/-- What stands at one place of a byte sequence. -/
inductive Chunk where
  /-- A scalar value and the number of bytes it takes. -/
  | scalar (char : Char) (width : Nat)
  /-- Bytes after which no scalar value can follow. -/
  | invalid (width : Nat)
  /-- The beginning of a scalar value that the end of the bytes cuts off. -/
  | incomplete
  deriving Repr, DecidableEq

/-- A byte that continues a scalar value. -/
def isContinuation (b : UInt8) : Bool := 0x80 ≤ b && b ≤ 0xBF

/-- Whether `second` may follow `lead` at the start of a scalar value of three bytes: no overlong
form and no surrogate. -/
def allowsSecondOfThree (lead second : UInt8) : Bool :=
  if lead = 0xE0 then 0xA0 ≤ second && second ≤ 0xBF
  else if lead = 0xED then 0x80 ≤ second && second ≤ 0x9F
  else isContinuation second

/-- Whether `second` may follow `lead` at the start of a scalar value of four bytes: no overlong
form and nothing above U+10FFFF. -/
def allowsSecondOfFour (lead second : UInt8) : Bool :=
  if lead = 0xF0 then 0x90 ≤ second && second ≤ 0xBF
  else if lead = 0xF4 then 0x80 ≤ second && second ≤ 0x8F
  else isContinuation second

/-- The six bits that a continuation byte carries. -/
def payload (b : UInt8) : Nat := b.toNat % 64

/-- **The chunks of a byte sequence**, from left to right. -/
def chunks : List UInt8 → List Chunk
  | [] => []
  | a :: rest =>
    if a < 0x80 then .scalar (Char.ofNat a.toNat) 1 :: chunks rest
    else if a < 0xC2 then .invalid 1 :: chunks rest
    else if a < 0xE0 then
      match rest with
      | [] => [.incomplete]
      | b :: rest₂ =>
        if isContinuation b then
          .scalar (Char.ofNat (a.toNat % 32 * 64 + payload b)) 2 :: chunks rest₂
        else .invalid 1 :: chunks (b :: rest₂)
    else if a < 0xF0 then
      match rest with
      | [] => [.incomplete]
      | b :: rest₂ =>
        if allowsSecondOfThree a b then
          match rest₂ with
          | [] => [.incomplete]
          | c :: rest₃ =>
            if isContinuation c then
              .scalar (Char.ofNat ((a.toNat % 16 * 64 + payload b) * 64 + payload c)) 3
                :: chunks rest₃
            else .invalid 2 :: chunks (c :: rest₃)
        else .invalid 1 :: chunks (b :: rest₂)
    else if a < 0xF5 then
      match rest with
      | [] => [.incomplete]
      | b :: rest₂ =>
        if allowsSecondOfFour a b then
          match rest₂ with
          | [] => [.incomplete]
          | c :: rest₃ =>
            if isContinuation c then
              match rest₃ with
              | [] => [.incomplete]
              | d :: rest₄ =>
                if isContinuation d then
                  .scalar (Char.ofNat
                    (((a.toNat % 8 * 64 + payload b) * 64 + payload c) * 64 + payload d)) 4
                    :: chunks rest₄
                else .invalid 3 :: chunks (d :: rest₄)
            else .invalid 2 :: chunks (c :: rest₃)
        else .invalid 1 :: chunks (b :: rest₂)
    else .invalid 1 :: chunks rest

/-! ## 2. Strict reading -/

/-- Why bytes are no text: what is wrong and at which index it begins. -/
inductive Defect where
  | invalid (width index : Nat)
  | incomplete (index : Nat)
  deriving Repr, DecidableEq

/-- A defect in words. -/
def Defect.message : Defect → String
  | .invalid width index =>
    "invalid utf-8 sequence of " ++ toString width ++ " bytes from index " ++ toString index
  | .incomplete index => "incomplete utf-8 byte sequence from index " ++ toString index

/-- Read chunks that begin at `index`, up to the first defect. -/
def textOfChunks : Nat → List Chunk → Except Defect (List Char)
  | _, [] => .ok []
  | index, .scalar c width :: rest =>
    match textOfChunks (index + width) rest with
    | .ok cs => .ok (c :: cs)
    | .error d => .error d
  | index, .invalid width :: _ => .error (.invalid width index)
  | index, .incomplete :: _ => .error (.incomplete index)

/-- **The text that bytes encode**, or their first defect. -/
def decode (bytes : List UInt8) : Except Defect (List Char) := textOfChunks 0 (chunks bytes)

/-! ## 3. Lenient reading -/

/-- The character that a chunk shows. -/
def Chunk.shown : Chunk → Char
  | .scalar c _ => c
  | .invalid _ => '\ufffd'
  | .incomplete => '\ufffd'

/-- The text that bytes encode, with U+FFFD for each defect. -/
def decodeLossy (bytes : List UInt8) : List Char := (chunks bytes).map Chunk.shown

end CppSurface.Text.Utf8
