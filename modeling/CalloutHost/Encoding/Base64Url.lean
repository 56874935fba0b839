import CalloutHost.Bytes

/-!
# Base 64 for addresses

The alphabet is `A` to `Z`, `a` to `z`, `0` to `9`, `-` and `_`. Padding is neither written nor
read, and unused last bits must be zero, so each byte string has one text.

Reading takes the text in groups of four symbols. The last group is the one that may be shorter:
its own faults (a lone symbol, padding, spare bits) are told from a foreign symbol.
-/

namespace CalloutHost.Base64Url

/-- The symbol for a six-bit digit. -/
def symbol (d : Nat) : UInt8 :=
  if d < 26 then UInt8.ofNat (65 + d)
  else if d < 52 then UInt8.ofNat (71 + d)
  else if d < 62 then UInt8.ofNat (d - 4)
  else if d = 62 then 45 else 95

/-- The six-bit digit of a symbol. -/
def digit? (s : UInt8) : Option Nat :=
  let n := s.toNat
  if 65 ≤ n ∧ n ≤ 90 then some (n - 65)
  else if 97 ≤ n ∧ n ≤ 122 then some (n - 71)
  else if 48 ≤ n ∧ n ≤ 57 then some (n + 4)
  else if n = 45 then some 62
  else if n = 95 then some 63
  else none

/-- The symbol of padding, `=`. -/
def pad : UInt8 := 61

/-- The text of a byte string: four symbols for three bytes, two for a last one, three for a last
two. -/
def encode : Bytes → Bytes
  | a :: b :: c :: rest =>
    let (a, b, c) := (a.toNat, b.toNat, c.toNat)
    symbol (a / 4) :: symbol (a % 4 * 16 + b / 16) :: symbol (b % 16 * 4 + c / 64) ::
      symbol (c % 64) :: encode rest
  | [a, b] =>
    let (a, b) := (a.toNat, b.toNat)
    [symbol (a / 4), symbol (a % 4 * 16 + b / 16), symbol (b % 16 * 4)]
  | [a] => [symbol (a.toNat / 4), symbol (a.toNat % 4 * 16)]
  | [] => []

/-- Why a text is refused. -/
inductive Error
  /-- The byte at this offset is no symbol that may stand there. -/
  | symbol (byte : UInt8) (offset : Nat)
  | length (length : Nat)
  /-- The last symbol carries bits beyond the last whole byte. -/
  | lastSymbol (byte : UInt8) (offset : Nat)
  | padding
  deriving DecidableEq, Repr

/-- The text of an error. -/
def Error.message : Error → String
  | .symbol byte offset => s!"Invalid symbol {byte.toNat}, offset {offset}."
  | .length n => s!"Invalid input length: {n}"
  | .lastSymbol byte offset => s!"Invalid last symbol {byte.toNat}, offset {offset}."
  | .padding => "Invalid padding"

/-- The digit of the symbol at an offset. -/
def readDigit (offset : Nat) (s : UInt8) : Except Error Nat :=
  match digit? s with
  | some d => .ok d
  | none => .error (.symbol s offset)

/-- The digits of the last group, which starts at `start`, with the offset of its first padding in
`padded`. Padding may follow two symbols, and no symbol may follow padding. -/
def readLastDigits (start : Nat) : Nat → Option Nat → Bytes → Except Error (List Nat × Bool)
  | _, padded, [] => .ok ([], padded.isSome)
  | offset, padded, s :: rest =>
    if s = pad then
      if offset < start + 2 then .error (.symbol s offset)
      else readLastDigits start (offset + 1) (padded.or (some offset)) rest
    else
      match padded with
      | some first => .error (.symbol pad first)
      | none => do
        let d ← readDigit offset s
        let (ds, isPadded) ← readLastDigits start (offset + 1) none rest
        return (d :: ds, isPadded)

/-- The bytes of the last group, of at most four symbols, which starts at `start`. -/
def decodeLast (start : Nat) (text : Bytes) : Except Error Bytes := do
  let (ds, isPadded) ← readLastDigits start start none text
  if start + text.length ≠ 0 ∧ ds.length < 2 then throw (.length (start + ds.length))
  if isPadded then throw .padding
  let last := text.getLastD 0
  match ds with
  | [a, b] =>
    if b % 16 ≠ 0 then throw (.lastSymbol last (start + 1))
    return [UInt8.ofNat (a * 4 + b / 16)]
  | [a, b, c] =>
    if c % 4 ≠ 0 then throw (.lastSymbol last (start + 2))
    return [UInt8.ofNat (a * 4 + b / 16), UInt8.ofNat (b % 16 * 16 + c / 4)]
  | [a, b, c, d] =>
    return [UInt8.ofNat (a * 4 + b / 16), UInt8.ofNat (b % 16 * 16 + c / 4),
      UInt8.ofNat (c % 4 * 64 + d)]
  | _ => return []

/-- The bytes of a text whose first group starts at `start`. -/
def decodeGroups : Nat → Bytes → Except Error Bytes
  | start, a :: b :: c :: d :: e :: rest => do
    let a ← readDigit start a
    let b ← readDigit (start + 1) b
    let c ← readDigit (start + 2) c
    let d ← readDigit (start + 3) d
    let tail ← decodeGroups (start + 4) (e :: rest)
    return UInt8.ofNat (a * 4 + b / 16) :: UInt8.ofNat (b % 16 * 16 + c / 4) ::
      UInt8.ofNat (c % 4 * 64 + d) :: tail
  | start, text => decodeLast start text

/-- The bytes that a text stands for. A last byte that stands alone and is foreign to the alphabet
is reported before anything else. -/
def decode (text : Bytes) : Except Error Bytes :=
  let last := text.getLastD 0
  if text.length % 4 = 1 ∧ last ≠ pad ∧ digit? last = none then
    .error (.symbol last (text.length - 1))
  else decodeGroups 0 text

end CalloutHost.Base64Url
