/-!
# Byte strings

Everything that is signed, hashed, encoded or sent is a list of bytes. A text enters and leaves by
its UTF-8 form: `toText?_ofText` says that nothing is lost on the way.
-/

namespace CalloutHost

/-- A byte string. -/
abbrev Bytes := List UInt8

namespace Bytes

/-- The UTF-8 form of a text. -/
def ofText (s : String) : Bytes := s.toUTF8.data.toList

/-- The text with this UTF-8 form, `none` for bytes that are not UTF-8. -/
def toText? (b : Bytes) : Option String := String.fromUTF8? ⟨b.toArray⟩

/-- The text that has one character for each byte, of the byte's own number. -/
def toCharacters (b : Bytes) : List Char := b.map fun x => Char.ofNat x.toNat

/-- The number that the bytes write, least significant byte first. -/
def toNatLE : Bytes → Nat
  | [] => 0
  | b :: rest => b.toNat + 256 * toNatLE rest

/-- The low `count` bytes of a number, least significant byte first. -/
def ofNatLE : Nat → Nat → Bytes
  | 0, _ => []
  | count + 1, n => UInt8.ofNat (n % 256) :: ofNatLE count (n / 256)

/-- The low `count` bytes of a number, most significant byte first. -/
def ofNatBE (count n : Nat) : Bytes := (ofNatLE count n).reverse

/-- One hexadecimal digit, in lower case. -/
def hexDigit (n : Nat) : UInt8 := if n < 10 then UInt8.ofNat (48 + n) else UInt8.ofNat (87 + n)

/-- The two lower-case hexadecimal digits of each byte. -/
def hex (b : Bytes) : Bytes := b.flatMap fun x => [hexDigit (x.toNat / 16), hexDigit (x.toNat % 16)]

/-- The value of a hexadecimal digit of either case. -/
def hexValue? (b : UInt8) : Option Nat :=
  let n := b.toNat
  if 48 ≤ n ∧ n ≤ 57 then some (n - 48)
  else if 97 ≤ n ∧ n ≤ 102 then some (n - 87)
  else if 65 ≤ n ∧ n ≤ 70 then some (n - 55)
  else none

/-- The bytes that pairs of hexadecimal digits write, `none` where the digits do not pair up. -/
def ofHex? : Bytes → Option Bytes
  | [] => some []
  | [_] => none
  | a :: b :: rest => do
    let high ← hexValue? a
    let low ← hexValue? b
    let tail ← ofHex? rest
    return UInt8.ofNat (16 * high + low) :: tail

/-- Reading the UTF-8 form of a text gives the text. -/
theorem toText?_ofText (s : String) : toText? (ofText s) = some s := by
  have h : (⟨(ofText s).toArray⟩ : ByteArray) = s.toByteArray := by simp [ofText]
  simp only [toText?, h, String.fromUTF8?, s.isValidUTF8, dif_pos]
  rfl

/-- The low `count` bytes of a number are `count` bytes. -/
@[simp] theorem length_ofNatLE (count n : Nat) : (ofNatLE count n).length = count := by
  induction count generalizing n with
  | zero => rfl
  | succ count ih => simp [ofNatLE, ih]

end Bytes

end CalloutHost
