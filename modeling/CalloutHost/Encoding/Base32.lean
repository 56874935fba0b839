import CalloutHost.Bytes

/-!
# Base 32

The alphabet is `A` to `Z` and `2` to `7`, there is no padding, and every text is refused whose
unused last bits are not zero, so that no two texts stand for the same bytes.
-/

namespace CalloutHost.Base32

/-- The symbol for a five-bit digit. -/
def symbol (d : Nat) : UInt8 := if d < 26 then UInt8.ofNat (65 + d) else UInt8.ofNat (24 + d)

/-- The five-bit digit of a symbol. -/
def digit? (s : UInt8) : Option Nat :=
  let n := s.toNat
  if 65 ≤ n ∧ n ≤ 90 then some (n - 65) else if 50 ≤ n ∧ n ≤ 55 then some (n - 24) else none

/-- The five-bit digits of a byte string: eight for five bytes, and as many as are needed for a
shorter rest, whose last digit is filled up with zero bits. -/
def digits : Bytes → List Nat
  | a :: b :: c :: d :: e :: rest =>
    let (a, b, c, d, e) := (a.toNat, b.toNat, c.toNat, d.toNat, e.toNat)
    [a / 8, a % 8 * 4 + b / 64, b / 2 % 32, b % 2 * 16 + c / 16, c % 16 * 2 + d / 128, d / 4 % 32,
      d % 4 * 8 + e / 32, e % 32] ++ digits rest
  | [a, b, c, d] =>
    let (a, b, c, d) := (a.toNat, b.toNat, c.toNat, d.toNat)
    [a / 8, a % 8 * 4 + b / 64, b / 2 % 32, b % 2 * 16 + c / 16, c % 16 * 2 + d / 128, d / 4 % 32,
      d % 4 * 8]
  | [a, b, c] =>
    let (a, b, c) := (a.toNat, b.toNat, c.toNat)
    [a / 8, a % 8 * 4 + b / 64, b / 2 % 32, b % 2 * 16 + c / 16, c % 16 * 2]
  | [a, b] =>
    let (a, b) := (a.toNat, b.toNat)
    [a / 8, a % 8 * 4 + b / 64, b / 2 % 32, b % 2 * 16]
  | [a] => [a.toNat / 8, a.toNat % 8 * 4]
  | [] => []

/-- The base-32 text of a byte string. -/
def encode (b : Bytes) : Bytes := (digits b).map symbol

/-- Why a text is not base 32. -/
inductive Error
  | symbol (offset : Nat)
  /-- Bits after the last whole byte are set in the symbol at this offset. -/
  | trailing (offset : Nat)
  deriving DecidableEq, Repr

/-- The text of an error. -/
def Error.message : Error → String
  | .symbol offset => s!"invalid symbol at {offset}"
  | .trailing offset => s!"non-zero trailing bits at {offset}"

/-- The digits of a text, or the offset of its first foreign symbol. -/
def readDigits : Nat → Bytes → Except Error (List Nat)
  | _, [] => .ok []
  | offset, s :: rest =>
    match digit? s with
    | none => .error (.symbol offset)
    | some d => (d :: ·) <$> readDigits (offset + 1) rest

/-- The whole bytes in a list of digits, and the number of bits and their value left after them. -/
def gather : Nat → Nat → List Nat → Bytes × Nat
  | _, value, [] => ([], value)
  | bits, value, d :: rest =>
    let value := value * 32 + d
    if bits + 5 < 8 then gather (bits + 5) value rest
    else
      let spare := bits + 5 - 8
      let (tail, left) := gather spare (value % Nat.pow 2 spare) rest
      (UInt8.ofNat (value / Nat.pow 2 spare) :: tail, left)

/-- The bytes that a base-32 text of a length that can occur stands for. -/
def decode (text : Bytes) : Except Error Bytes := do
  let ds ← readDigits 0 text
  let (bytes, left) := gather 0 0 ds
  if left = 0 then return bytes else throw (.trailing (text.length - 1))

end CalloutHost.Base32
