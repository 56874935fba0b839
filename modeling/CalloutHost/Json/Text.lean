import CalloutHost.Bytes

/-!
# JSON strings

A string is written byte by byte in its UTF-8 form: quotes, backslashes and control characters are
escaped, and nothing else. Reading gathers pieces first, bytes and escaped code units, and makes a
text of them only where a text is asked for: unpaired surrogates and bytes that are not UTF-8 have
none.
-/

namespace CalloutHost.Json

/-- How one byte of a text is written. -/
def escapeByte (b : UInt8) : Bytes :=
  if b = 34 then [92, 34]
  else if b = 92 then [92, 92]
  else if b = 8 then [92, 98]
  else if b = 9 then [92, 116]
  else if b = 10 then [92, 110]
  else if b = 12 then [92, 102]
  else if b = 13 then [92, 114]
  else if b < 32 then
    [92, 117, 48, 48, Bytes.hexDigit (b.toNat / 16), Bytes.hexDigit (b.toNat % 16)]
  else [b]

/-- A text between quotes. -/
def writeText (s : String) : Bytes := 34 :: (Bytes.ofText s).flatMap escapeByte ++ [34]

/-- A part of a string as it is written. -/
inductive Piece
  /-- A byte that stands for itself, or by a letter behind a backslash. -/
  | byte (b : UInt8)
  /-- A code unit given by four hexadecimal digits. -/
  | unit (u : Nat)
  deriving DecidableEq, Repr

/-- The byte that a letter behind a backslash stands for. -/
def unescape? (b : UInt8) : Option UInt8 :=
  if b = 34 ∨ b = 92 ∨ b = 47 then some b
  else if b = 98 then some 8
  else if b = 102 then some 12
  else if b = 110 then some 10
  else if b = 114 then some 13
  else if b = 116 then some 9
  else none

/-- The number of four hexadecimal digits. -/
def codeUnit? (a b c d : UInt8) : Option Nat := do
  let a ← Bytes.hexValue? a
  let b ← Bytes.hexValue? b
  let c ← Bytes.hexValue? c
  let d ← Bytes.hexValue? d
  return 4096 * a + 256 * b + 16 * c + d

/-- The pieces up to the closing quote and what follows it. -/
def takePieces : Bytes → Option (List Piece × Bytes)
  | [] => none
  | b :: rest =>
    if b = 34 then some ([], rest)
    else if b < 32 then none
    else if b = 92 then
      match rest with
      | [] => none
      | letter :: rest =>
        if letter = 117 then
          match rest with
          | w :: x :: y :: z :: rest => do
            let u ← codeUnit? w x y z
            let (pieces, rest) ← takePieces rest
            return (.unit u :: pieces, rest)
          | _ => none
        else do
          let byte ← unescape? letter
          let (pieces, rest) ← takePieces rest
          return (.byte byte :: pieces, rest)
    else do
      let (pieces, rest) ← takePieces rest
      return (.byte b :: pieces, rest)

/-- The UTF-8 form of a character by its number. -/
def scalarBytes (n : Nat) : Bytes := Bytes.ofText (Char.ofNat n).toString

/-- The bytes of the pieces; a high surrogate must have a low one right behind it, and a low one a
high one in front. -/
def piecesBytes? : List Piece → Option Bytes
  | [] => some []
  | .byte b :: rest => (piecesBytes? rest).map (b :: ·)
  | .unit u :: rest =>
    if 0xd800 ≤ u ∧ u < 0xdc00 then
      match rest with
      | .unit v :: rest =>
        if 0xdc00 ≤ v ∧ v < 0xe000 then
          (piecesBytes? rest).map (scalarBytes (0x10000 + (u - 0xd800) * 1024 + (v - 0xdc00)) ++ ·)
        else none
      | _ => none
    else if 0xdc00 ≤ u ∧ u < 0xe000 then none
    else (piecesBytes? rest).map (scalarBytes u ++ ·)

/-- The text of the pieces, if they have one. -/
def piecesText? (pieces : List Piece) : Option String := (piecesBytes? pieces).bind Bytes.toText?

end CalloutHost.Json
