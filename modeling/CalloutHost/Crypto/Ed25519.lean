import CalloutHost.Crypto.Sha512

/-!
# Ed25519 signatures

The curve is the twisted Edwards curve `-x² + y² = 1 + d x² y²` over the integers modulo
`2^255 - 19`, with points in extended coordinates, which need no division to be added. Numbers are
plain naturals, reduced after each product.

A signature is accepted when its scalar is below the order of the base point and the point that the
equation gives has exactly the bytes of the commitment; the cofactor plays no part.
-/

namespace CalloutHost.Ed25519

/-- The prime of the field. -/
def prime : Nat := Nat.pow 2 255 - 19

/-- The order of the base point. -/
def order : Nat := Nat.pow 2 252 + 27742317777372353535851937790883648493

/-- The constant `d` of the curve. -/
def curveD : Nat :=
  37095705934669439343138083508754565189542113879843219016388785533085940283555

/-- A square root of minus one. -/
def rootOfMinusOne : Nat :=
  19681161376707505956807079304988542015446066515923890162744021073123829784752

/-- A point `(x / z, y / z)` with `t = x y / z`. -/
structure Point where
  x : Nat
  y : Nat
  z : Nat
  /-- The product of the coordinates over the denominator. -/
  t : Nat
  deriving DecidableEq

/-- The neutral point. -/
def Point.zero : Point := { x := 0, y := 1, z := 1, t := 0 }

/-- The base point. -/
def base : Point :=
  let x := 15112221349535400772501151409588531511454012693041857206046113283949847762202
  let y := 46316835694926478169428394003475163141307993866256225615783033603165251855960
  { x, y, z := 1, t := x * y % prime }

/-- The difference of two reduced numbers of the field. -/
def minus (a b : Nat) : Nat := (a + prime - b) % prime

/-- The sum of two points; it is right for equal points too. -/
def Point.add (p q : Point) : Point :=
  let a := minus p.y p.x * minus q.y q.x % prime
  let b := (p.y + p.x) * (q.y + q.x) % prime
  let c := p.t * q.t % prime * (2 * curveD) % prime
  let d := 2 * p.z * q.z % prime
  let e := minus b a
  let f := minus d c
  let g := (d + c) % prime
  let h := (b + a) % prime
  { x := e * f % prime, y := g * h % prime, z := f * g % prime, t := e * h % prime }

/-- The opposite point. -/
def Point.neg (p : Point) : Point := { p with x := minus 0 p.x, t := minus 0 p.t }

/-- `n` times a point, where `n` is below `2 ^ bits`: double for each bit, add for a one. -/
def Point.scale : Nat → Nat → Point → Point
  | 0, _, _ => .zero
  | bits + 1, n, p =>
    let rest := Point.scale bits (n / 2) (p.add p)
    if n % 2 = 1 then rest.add p else rest

/-- `b ^ n` modulo the prime, where `n` is below `2 ^ bits`. -/
def power : Nat → Nat → Nat → Nat
  | 0, _, _ => 1
  | bits + 1, n, b =>
    let rest := power bits (n / 2) (b * b % prime)
    if n % 2 = 1 then rest * b % prime else rest

/-- The inverse of a number of the field; zero goes to zero. -/
def inverse (a : Nat) : Nat := power 255 (prime - 2) a

/-- The 32 bytes of a point: its second coordinate, and the parity of the first in the top bit. -/
def Point.bytes (p : Point) : Bytes :=
  let i := inverse p.z
  let x := p.x * i % prime
  let y := p.y * i % prime
  Bytes.ofNatLE 32 (y + x % 2 * Nat.pow 2 255)

/-- A square root of `u / v`, if there is one. -/
def quotientRoot? (u v : Nat) : Option Nat :=
  let w := u * power 255 (prime - 2) v % prime
  let r := power 255 ((prime + 3) / 8) w
  if r * r % prime = w then some r
  else
    let r := r * rootOfMinusOne % prime
    if r * r % prime = w then some r else none

/-- The point with these 32 bytes, if the curve has one. A second coordinate beyond the prime is
reduced, and a zero first coordinate may carry either parity. -/
def Point.ofBytes? (b : Bytes) : Option Point := do
  let n := b.toNatLE
  let y := n % Nat.pow 2 255 % prime
  let yy := y * y % prime
  let r ← quotientRoot? (minus yy 1) ((curveD * yy + 1) % prime)
  let x := if r % 2 = n / Nat.pow 2 255 then r else minus 0 r
  return { x, y, z := 1, t := x * y % prime }

/-- The secret scalar that the first half of a seed's digest holds. -/
def secretScalar (digest : Bytes) : Nat :=
  let n := Bytes.toNatLE (digest.take 32)
  n % Nat.pow 2 254 / 8 * 8 + Nat.pow 2 254

/-- The public key of a seed of 32 bytes. -/
def publicKey (seed : Bytes) : Bytes :=
  (base.scale 255 (secretScalar (Sha512.digest512 seed))).bytes

/-- The signature of 64 bytes that a seed, with its public key, makes on a message. -/
def sign (seed pub message : Bytes) : Bytes :=
  let digest := Sha512.digest512 seed
  let r := (Sha512.digest512 (digest.drop 32 ++ message)).toNatLE % order
  let commitment := (base.scale 253 r).bytes
  let k := (Sha512.digest512 (commitment ++ pub ++ message)).toNatLE % order
  commitment ++ Bytes.ofNatLE 32 ((r + k * secretScalar digest) % order)

/-- Whether 64 bytes are a signature on a message by the holder of a public key. -/
def verify (pub message signature : Bytes) : Bool :=
  let commitment := signature.take 32
  let s := Bytes.toNatLE (signature.drop 32)
  if order ≤ s then false
  else
    match Point.ofBytes? pub with
    | none => false
    | some a =>
      let k := (Sha512.digest512 (commitment ++ pub ++ message)).toNatLE % order
      ((base.scale 253 s).add (a.neg.scale 253 k)).bytes = commitment

end CalloutHost.Ed25519
