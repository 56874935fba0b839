import CalloutHost.Bytes
import CalloutHost.Number.Binary64

/-!
# JSON numbers

A numeral is what the grammar admits; its value is a whole number of 64 bits where it is written
without a point and an exponent and fits, and a floating-point number otherwise. A numeral that is
too large for both has no value.
-/

namespace CalloutHost.Json

/-- The value of a number. -/
inductive Number
  | unsigned (n : UInt64)
  | signed (n : Int64)
  /-- Written with a point or an exponent, or not whole in 64 bits. -/
  | real (x : Binary64)
  deriving DecidableEq, Repr

/-- A number as it is written. -/
structure Numeral where
  negative : Bool
  whole : List Nat
  fraction : Option (List Nat)
  /-- The digits of the exponent, if there is one, and whether it is below zero. -/
  exponent : Option (Bool × List Nat)
  deriving DecidableEq, Repr

namespace Numeral

/-- The digits of a natural number in base ten. -/
def digits (n : Nat) : List Nat := if n < 10 then [n] else digits (n / 10) ++ [n % 10]

/-- The byte of a digit. -/
def digitByte (d : Nat) : UInt8 := UInt8.ofNat (48 + d)

/-- The number of a list of digits. -/
def ofDigits (ds : List Nat) : Nat := ds.foldl (fun n d => 10 * n + d) 0

/-- The text of a whole number. -/
def ofInt (n : Int) : Bytes :=
  (if n < 0 then [45] else []) ++ (digits n.natAbs).map digitByte

/-- The digits at the front and what follows them. -/
def takeDigits : Bytes → List Nat × Bytes
  | [] => ([], [])
  | b :: rest =>
    if 48 ≤ b ∧ b ≤ 57 then
      let (ds, rest) := takeDigits rest
      ((b - 48).toNat :: ds, rest)
    else ([], b :: rest)

/-- At least one digit, and what follows. -/
def takeSomeDigits (input : Bytes) : Option (List Nat × Bytes) :=
  match takeDigits input with
  | ([], _) => none
  | found => some found

/-- The part behind the point. -/
def takeFraction : Bytes → Option (Option (List Nat) × Bytes)
  | 46 :: rest => (takeSomeDigits rest).map fun (ds, rest) => (some ds, rest)
  | rest => some (none, rest)

/-- The exponent. -/
def takeExponent (input : Bytes) : Option (Option (Bool × List Nat) × Bytes) :=
  match input with
  | b :: rest =>
    if b = 101 ∨ b = 69 then
      let (below, rest) := match rest with
        | 43 :: rest => (false, rest)
        | 45 :: rest => (true, rest)
        | rest => (false, rest)
      (takeSomeDigits rest).map fun (ds, rest) => (some (below, ds), rest)
    else some (none, input)
  | [] => some (none, [])

/-- The numeral at the front of a text and what follows it; no digit follows a leading zero. -/
def take? (input : Bytes) : Option (Numeral × Bytes) := do
  let (negative, rest) := match input with
    | 45 :: rest => (true, rest)
    | rest => (false, rest)
  let (whole, rest) ← takeSomeDigits rest
  if whole.head? = some 0 ∧ 1 < whole.length then none
  let (fraction, rest) ← takeFraction rest
  let (exponent, rest) ← takeExponent rest
  return (⟨negative, whole, fraction, exponent⟩, rest)

/-- Appends digits to a significand while it stays in 64 bits; the result has the digits that are
left from the first that does not fit. -/
def gather : Nat → List Nat → Nat × List Nat
  | n, [] => (n, [])
  | n, d :: ds => if 10 * n + d < Nat.pow 2 64 then gather (10 * n + d) ds else (n, d :: ds)

/-- The number of a sign, a significand and a written exponent behind a place. An exponent above
31 bits is told from its sign alone. -/
def scaled? (negative : Bool) (significand : Nat) (place : Int) :
    Option (Bool × List Nat) → Option Binary64
  | none => Binary64.ofDecimal? negative significand place
  | some (below, ds) =>
    let e := ofDigits ds
    if e < Nat.pow 2 31 then
      Binary64.ofDecimal? negative significand (if below then place - e else place + e)
    else if significand ≠ 0 ∧ !below then none
    else some (.ofSignBits negative 0)

/-- The value of a numeral. The significand gathers the digits that fit into 64 bits: a digit in
front of the point that does not fit moves the place up, one behind the point ends the
gathering. -/
def value (x : Numeral) : Option Number :=
  let (n, surplus) := gather 0 x.whole
  let place : Int := surplus.length
  match x.fraction with
  | some ds =>
    let (m, left) := gather n ds
    (scaled? x.negative m (place - (ds.length - left.length)) x.exponent).map .real
  | none =>
    if x.exponent.isSome ∨ surplus ≠ [] then (scaled? x.negative n place x.exponent).map .real
    else if !x.negative then some (.unsigned (UInt64.ofNat n))
    else if 0 < n ∧ n ≤ Nat.pow 2 63 then some (.signed (Int64.ofInt (-n)))
    else some (.real (.ofSignBits true (Binary64.natBits n)))

end Numeral

end CalloutHost.Json
