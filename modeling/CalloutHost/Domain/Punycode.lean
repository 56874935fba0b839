/-!
# Punycode

A label with any characters is written with ASCII characters alone: first its ASCII characters and
a hyphen, then for each other character, in the order of the characters, how far it is from the one
before, as a number of base 36 whose digits tell where it ends.
-/

namespace CalloutHost.Punycode

/-- Halves or quarters a distance until it is small, counting the digits that this saves. -/
def shrink (delta : Nat) : Nat × Nat :=
  if delta ≤ 455 then (delta, 0)
  else
    let (rest, k) := shrink (delta / 35)
    (rest, k + 36)

/-- The bias that fits the distances so far. -/
def adapt (delta points : Nat) (first : Bool) : Nat :=
  let delta := if first then delta / 700 else delta / 2
  let (delta, k) := shrink (delta + delta / points)
  k + 36 * delta / (delta + 38)

/-- The bias at the start. -/
def initialBias : Nat := 72

/-- From which digit on another follows at a place. -/
def threshold (k bias : Nat) : Nat :=
  if k ≤ bias then 1 else if bias + 26 ≤ k then 26 else k - bias

/-- The character of a digit. -/
def digit (d : Nat) : Char := Char.ofNat (if d < 26 then d + 97 else d + 22)

/-- The digit of a character in lower case. -/
def digit? (c : Char) : Option Nat :=
  if 'a' ≤ c ∧ c ≤ 'z' then some (c.toNat - 97)
  else if '0' ≤ c ∧ c ≤ '9' then some (c.toNat - 22)
  else none

/-- Thresholds are at least one. -/
theorem one_le_threshold (k bias : Nat) : 1 ≤ threshold k bias := by
  unfold threshold
  split
  · exact Nat.le_refl 1
  · split <;> omega

/-- The digits of a number, from a place on. -/
def digits (q k bias : Nat) : List Char :=
  let t := threshold k bias
  if q < t then [digit q]
  else digit (t + (q - t) % (36 - t)) :: digits ((q - t) / (36 - t)) (k + 36) bias
termination_by q
decreasing_by
  have h := one_le_threshold k bias
  exact Nat.lt_of_le_of_lt (Nat.div_le_self _ _) (by omega)

/-- How far an encoder is. -/
structure Progress where
  /-- The distance since the last character. -/
  delta : Nat
  bias : Nat
  written : Nat
  /-- What is written, last first. -/
  output : List Char

/-- Passes or writes a character of a label while those with number `point` are written. -/
def encodeOne (basic point : Nat) (p : Progress) (c : Char) : Progress :=
  if c.toNat < point then { p with delta := p.delta + 1 }
  else if c.toNat = point then
    { delta := 0
      bias := adapt p.delta (p.written + 1) (p.written = basic)
      written := p.written + 1
      output := (digits p.delta 36 p.bias).reverse ++ p.output }
  else p

/-- Writes the characters of a label, those with the first number first; `next` is the number after
the one before. -/
def encodePoints (label : List Char) (basic : Nat) : List Nat → Nat → Progress → Progress
  | [], _, p => p
  | point :: points, next, p =>
    let p := { p with delta := p.delta + (point - next) * (p.written + 1) }
    let p := label.foldl (encodeOne basic point) p
    encodePoints label basic points (point + 1) { p with delta := p.delta + 1 }

/-- The ASCII form of a label. -/
def encode (label : List Char) : List Char :=
  let basic := label.filter (·.toNat < 128)
  let points := ((label.map Char.toNat).filter (128 ≤ ·)).mergeSort.eraseDups
  let front := if basic.isEmpty then [] else basic ++ ['-']
  let start : Progress := ⟨0, initialBias, basic.length, []⟩
  front ++ (encodePoints label basic.length points 128 start).output.reverse

/-- How far a decoder is. -/
structure Reading where
  output : List Char
  point : Nat
  /-- Where the next character goes, as far as it is read. -/
  place : Nat
  /-- Where the number began. -/
  start : Nat
  /-- What the next digit counts. -/
  weight : Nat
  k : Nat
  bias : Nat

/-- Distances and weights are numbers of 32 bits. -/
def numberLimit : Nat := 4294967296

/-- Reads a digit. -/
def decodeOne (r : Reading) (c : Char) : Option Reading := do
  let d ← digit? c
  let place := r.place + d * r.weight
  if numberLimit ≤ place then none
  let t := threshold r.k r.bias
  if t ≤ d then
    let weight := r.weight * (36 - t)
    if numberLimit ≤ weight then none
    return { r with place, weight, k := r.k + 36 }
  let count := r.output.length + 1
  let point := r.point + place / count
  if ¬point.isValidChar then none
  let spot := place % count
  return {
    output := r.output.take spot ++ Char.ofNat point :: r.output.drop spot
    point
    place := spot + 1
    start := spot + 1
    weight := 1
    k := 36
    bias := adapt (place - r.start) count (r.start = 0) }

/-- The label with an ASCII form; `none` if the form has none. -/
def decode (form : List Char) : Option (List Char) := do
  let tail := (form.reverse.takeWhile (· ≠ '-')).reverse
  let basic := form.take (form.length - tail.length - 1)
  if basic.isEmpty ∧ tail ≠ form then none
  let start : Reading := ⟨basic, 128, 0, 0, 1, 36, initialBias⟩
  let r ← tail.foldlM decodeOne start
  if r.weight = 1 ∧ r.k = 36 then return r.output else none

end CalloutHost.Punycode
