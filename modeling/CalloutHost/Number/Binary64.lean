import CalloutHost.Bytes

/-!
# Binary floating-point numbers

A number of the 64-bit binary format, held by its bits. Nothing is computed in hardware: a product
or a quotient is the nearest number of the format to the exact rational, a tie going to the even
neighbour, so every step can be reasoned about.

A finite number is written with the fewest digits that read back as the same number, and of those
with the nearest; an exact tie goes to the even last digit. The numbers that read back are those of
the interval that rounds to it, whose ends count when the significand is even.
-/

namespace CalloutHost

/-- A number of the 64-bit binary format. -/
structure Binary64 where
  /-- Sign, exponent and fraction, from the top. -/
  bits : UInt64
  deriving DecidableEq, Repr, Inhabited

namespace Binary64

/-- The bits of infinity, above those of every finite number. -/
def infinityBits : Nat := 0x7ff0000000000000

/-- The whole number nearest to a quotient, a tie going to the even one. -/
def roundDiv (num den : Nat) : Nat :=
  let q := num / den
  let r := num % den
  if 2 * r < den then q else if den < 2 * r then q + 1 else q + q % 2

/-- The exponent `e` with `2 ^ e ≤ num / den < 2 ^ (e + 1)`, for positive numbers. -/
def binaryExponent (num den : Nat) : Int :=
  let e : Int := num.log2 - den.log2
  if den * Nat.pow 2 e.toNat ≤ num * Nat.pow 2 (-e).toNat then e else e - 1

/-- The bits of the number nearest to a quotient; too large a quotient gives infinity. -/
def roundRatio (num den : Nat) : Nat :=
  if num = 0 then 0
  else
    let unit := max (binaryExponent num den - 52) (-1074)
    let m := roundDiv (num * Nat.pow 2 (-unit).toNat) (den * Nat.pow 2 unit.toNat)
    min ((unit + 1074).toNat * Nat.pow 2 52 + m) infinityBits

/-- Whole significand and exponent of two of the number with these bits, sign aside. -/
def decompose (bits : Nat) : Nat × Int :=
  let exponent : Nat := bits / Nat.pow 2 52 % 2048
  let fraction : Nat := bits % Nat.pow 2 52
  if exponent = 0 then (fraction, -1074) else (fraction + Nat.pow 2 52, (exponent : Int) - 1075)

/-- The number with these bits as a quotient, sign aside. -/
def ratio (bits : Nat) : Nat × Nat :=
  let (m, e) := decompose bits
  (m * Nat.pow 2 e.toNat, Nat.pow 2 (-e).toNat)

/-- The bits of the number nearest to a natural number. -/
def natBits (n : Nat) : Nat := roundRatio n 1

/-- The bits of the rounded product. -/
def mulBits (a b : Nat) : Nat :=
  let (an, ad) := ratio a
  let (bn, bd) := ratio b
  roundRatio (an * bn) (ad * bd)

/-- The bits of the rounded quotient, for a divisor other than zero. -/
def divBits (a b : Nat) : Nat :=
  let (an, ad) := ratio a
  let (bn, bd) := ratio b
  roundRatio (an * bd) (ad * bn)

/-- The number of a sign and bits without one. -/
def ofSignBits (negative : Bool) (bits : Nat) : Binary64 :=
  ⟨UInt64.ofNat (if negative then bits + Nat.pow 2 63 else bits)⟩

/-- The number nearest to a whole number. -/
def ofInt (n : Int) : Binary64 := ofSignBits (n < 0) (natBits n.natAbs)

/-- Whether the sign is set. -/
def isNegative (x : Binary64) : Bool := Nat.pow 2 63 ≤ x.bits.toNat

/-- The bits without the sign. -/
def magnitude (x : Binary64) : Nat := x.bits.toNat % Nat.pow 2 63

/-- The sixteen hexadecimal digits of the bits. -/
def hex (x : Binary64) : String :=
  String.ofList (Bytes.toCharacters (Bytes.hex (Bytes.ofNatBE 8 x.bits.toNat)))

/-- `f * 10 ^ exponent` for a significand that is first rounded itself, in at most `fuel` further
steps of `10 ^ -308`. Each step and the last product or quotient is rounded; `none` when the number
is too large. -/
def scaleTen? : Nat → Nat → Int → Option Nat
  | 0, _, _ => some 0
  | fuel + 1, f, exponent =>
    if exponent.natAbs ≤ 308 then
      let power := natBits (Nat.pow 10 exponent.natAbs)
      if 0 ≤ exponent then
        let product := mulBits f power
        if product = infinityBits then none else some product
      else some (divBits f power)
    else if f = 0 then some 0
    else if 0 ≤ exponent then none
    else scaleTen? fuel (divBits f (natBits (Nat.pow 10 308))) (exponent + 308)

/-- The number written as a sign, a significand of 64 bits and an exponent of ten; `none` when it is
too large. Three steps of `10 ^ -308` take every such significand to zero. -/
def ofDecimal? (negative : Bool) (significand : Nat) (exponent : Int) : Option Binary64 :=
  (scaleTen? 4 (natBits significand) exponent).map (ofSignBits negative)

end Binary64

/-! ## The shortest decimal -/

/-- A decimal `digits * 10 ^ exponent`. -/
structure Decimal where
  digits : Nat
  /-- The place of the last digit. -/
  exponent : Int
  deriving DecidableEq, Repr

namespace Decimal

/-- The number of decimal digits of a natural number. -/
def length (n : Nat) : Nat := (Nat.toDigits 10 n).length

/-- The exponent `e` with `10 ^ e ≤ num / den < 10 ^ (e + 1)`, for positive numbers. -/
def decimalExponent (num den : Nat) : Int :=
  if den ≤ num then length (num / den) - 1 else -(length ((den - 1) / num) : Int)

/-- What of the two neighbours on the grid of `count` digits reads back as the number, the nearer
first. The number is `m * unit` and reads back from `low * unit` to `high * unit`, where `unit` is
`num / den`. -/
def onGrid? (num den m low high : Nat) (closed : Bool) (count : Nat) : Option Decimal :=
  let exponent := decimalExponent (m * num) den - (count - 1)
  let up := Nat.pow 10 exponent.toNat
  let down := Nat.pow 10 (-exponent).toNat
  -- a grid point `c` stands for `c * up / down`; compare it after multiplying out
  let here (c : Nat) : Nat := c * up * den
  let bound (x : Nat) : Nat := x * num * down
  let fits (c : Nat) : Bool :=
    if closed then bound low ≤ here c ∧ here c ≤ bound high
    else bound low < here c ∧ here c < bound high
  let c := m * num * down / (up * den)
  let below := bound m - here c
  let above := here (c + 1) - bound m
  let best :=
    if fits c ∧ fits (c + 1) then
      if below < above ∨ (below = above ∧ c % 2 = 0) then some c else some (c + 1)
    else if fits c then some c
    else if fits (c + 1) then some (c + 1)
    else none
  best.map fun digits =>
    if digits = Nat.pow 10 count then ⟨Nat.pow 10 (count - 1), exponent + 1⟩ else ⟨digits, exponent⟩

/-- The shortest decimal of a positive finite number, by its bits without the sign. Seventeen digits
always suffice. -/
def shortest (bits : Nat) : Decimal :=
  let (m, e) := Binary64.decompose bits
  -- quarters of the unit in the last place make both half-way points whole
  let low := if m = Nat.pow 2 52 ∧ -1074 < e then 4 * m - 1 else 4 * m - 2
  let high := 4 * m + 2
  let num := Nat.pow 2 (e - 2).toNat
  let den := Nat.pow 2 (2 - e).toNat
  ((List.range 17).findSome? fun i => onGrid? num den (4 * m) low high (m % 2 = 0) (i + 1)).getD
    ⟨0, 0⟩

/-- How a decimal is laid out. -/
structure Layout where
  /-- The least exponent of the first digit that is still written without an exponent. -/
  leastFixed : Int
  greatestFixed : Int
  /-- What stands for an exponent that is not negative, after the `e`. -/
  plus : String

/-- The text of a positive decimal: a point always has a digit on either side, and an exponent
follows one digit, or one digit, a point and the others. -/
def Layout.text (layout : Layout) (d : Decimal) : String :=
  let ds := Nat.toDigits 10 d.digits
  let first : Int := d.exponent + ds.length - 1
  if layout.leastFixed ≤ first ∧ first ≤ layout.greatestFixed then
    if 0 ≤ d.exponent then
      String.ofList (ds ++ List.replicate d.exponent.toNat '0' ++ ['.', '0'])
    else if 0 ≤ first then
      String.ofList (ds.take (first.toNat + 1) ++ '.' :: ds.drop (first.toNat + 1))
    else String.ofList ('0' :: '.' :: List.replicate (-first - 1).toNat '0' ++ ds)
  else
    let rest := if ds.length = 1 then [] else '.' :: ds.drop 1
    let sign := if first < 0 then "-" else layout.plus
    String.ofList (ds.take 1 ++ rest) ++ "e" ++ sign ++ toString first.natAbs

end Decimal

end CalloutHost
