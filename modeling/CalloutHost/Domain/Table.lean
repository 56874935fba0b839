import CalloutHost.Bytes
import CalloutHost.Text.Split

/-!
# Character tables

A table tells something of runs of characters. It is written as lines of entries with blanks in
between. An entry has the first character of a run, after `-` the last if there are others, after
`/` the distance from one to the next if it is not one, and after `:` what is told, numbers with
commas in between. All numbers are hexadecimal.
-/

namespace CalloutHost.Domain

/-- A run of characters and what is told of it. -/
structure Run where
  first : Nat
  last : Nat
  /-- The distance from one to the next. -/
  step : Nat
  values : List Nat
  deriving DecidableEq, Repr

namespace Run

/-- A hexadecimal number. -/
def number (cs : List Char) : Nat :=
  cs.foldl (fun n c => 16 * n + (Bytes.hexValue? (UInt8.ofNat c.toNat)).getD 0) 0

/-- Two parts of a text, in front of a character and behind it. -/
def cut (separator : Char) (cs : List Char) : List Char × Option (List Char) :=
  match Text.split separator cs with
  | [before, behind] => (before, some behind)
  | _ => (cs, none)

/-- An entry. -/
def ofEntry (entry : List Char) : Run :=
  let (run, values) := cut ':' entry
  let (ends, step) := cut '/' run
  let (first, last) := cut '-' ends
  { first := number first
    last := number (last.getD first)
    step := (step.map number).getD 1
    values := match values with
      | some [] => []
      | some values => (Text.split ',' values).map number
      | none => [] }

/-- Whether a character is in a run. -/
def covers (r : Run) (n : Nat) : Bool :=
  r.first ≤ n && n ≤ r.last && (n - r.first) % r.step = 0

end Run

/-- A table. -/
abbrev Table := List Run

namespace Table

/-- The table with these lines. -/
def ofLines (lines : List String) : Table :=
  lines.flatMap fun line => (Text.split ' ' line.toList).map Run.ofEntry

/-- The run of a character. -/
def run? (t : Table) (c : Char) : Option Run := t.find? (·.covers c.toNat)

/-- Whether a character is in the table. -/
def contains (t : Table) (c : Char) : Bool := (t.run? c).isSome

/-- The first number that is told of a character. -/
def value? (t : Table) (c : Char) : Option Nat := (t.run? c).bind (·.values.head?)

/-- The characters that are told of the first character of a run, for another character of the run
moved as far as that is from the first. -/
def shifted? (t : Table) (c : Char) : Option (List Char) :=
  (t.run? c).map fun r => r.values.map fun n => Char.ofNat (n + (c.toNat - r.first))

end Table

end CalloutHost.Domain
