import CalloutHost.Dict
import CalloutHost.Json.Refusal
import CalloutHost.Json.Value

/-!
# Reading and writing values of a type

A `Codec` reads a document as a value of a type and writes such a value. What it reads is either
still a part of the text, where faults come to light in the order of the text and containers may be
nested only so deep, or it is held: a whole value that was set aside and is now looked at.
-/

namespace CalloutHost.Json

/-- Where a document stands when it is read. -/
inductive Source
  /-- In the text, with room for so many nested containers. -/
  | stream (room : Nat)
  /-- Set aside, known to be whole. -/
  | held
  deriving DecidableEq, Repr

namespace Source

/-- The source of what is inside a container; a text may have no room for one. -/
def enter : Source → Except Refusal Source
  | .stream 0 => .error .malformed
  | .stream (room + 1) => .ok (.stream room)
  | .held => .ok .held

/-- Passes the end of a container. -/
def close (source : Source) (closed : Bool) : Except Refusal Unit :=
  match source with
  | .stream _ => if closed then .ok () else .error .malformed
  | .held => .ok ()

/-- Passes a value without looking at it. -/
def skip (source : Source) (doc : Doc) : Except Refusal Unit := source.close doc.isComplete

/-- Sets a value aside. -/
def hold (source : Source) (doc : Doc) : Except Refusal Unit :=
  match source with
  | .stream room => if doc.isWhole room then .ok () else .error .malformed
  | .held => .ok ()

end Source

/-- How values of a type are read and written. -/
structure Codec (α : Type) where
  read : Source → Doc → Except Refusal α
  write : α → Value

namespace Codec

/-- Texts. -/
def text : Codec String where
  read
    | _, .string (some s) => .ok s
    | _, doc => doc.refuse "a string"
  write := .string

/-- Truth values. -/
def boolean : Codec Bool where
  read
    | _, .boolean b => .ok b
    | _, doc => doc.refuse "a boolean"
  write := .boolean

/-- Reads a whole number between two bounds. -/
def readInteger (low high : Int) (expected : String) : Doc → Except Refusal Int
  | .number (some (.unsigned n)) =>
    if (n.toNat : Int) ≤ high then .ok n.toNat
    else .error (.mismatch (.range (.number (.unsigned n)) expected))
  | .number (some (.signed n)) =>
    if low ≤ n.toInt then .ok n.toInt
    else .error (.mismatch (.range (.number (.signed n)) expected))
  | doc => doc.refuse expected

/-- Whole numbers of 64 bits with a sign. -/
def int64 : Codec Int64 where
  read _ doc := (readInteger (-0x8000000000000000) 0x7fffffffffffffff "i64" doc).map Int64.ofInt
  write n := .integer n.toInt

/-- Whole numbers of 64 bits without a sign. -/
def uint64 : Codec UInt64 where
  read _ doc := (readInteger 0 0xffffffffffffffff "u64" doc).map fun n => UInt64.ofNat n.toNat
  write n := .integer n.toNat

/-- Whole numbers of 16 bits without a sign. -/
def uint16 : Codec UInt16 where
  read _ doc := (readInteger 0 0xffff "u16" doc).map fun n => UInt16.ofNat n.toNat
  write n := .integer n.toNat

/-- Whole numbers of 8 bits without a sign. -/
def uint8 : Codec UInt8 where
  read _ doc := (readInteger 0 0xff "u8" doc).map fun n => UInt8.ofNat n.toNat
  write n := .integer n.toNat

/-- Floating-point numbers, which whole numbers are read as too. They are written by the hexadecimal
digits of their bits, so nothing is lost. -/
def binary64 : Codec Binary64 where
  read
    | _, .number (some (.unsigned n)) => .ok (.ofInt n.toNat)
    | _, .number (some (.signed n)) => .ok (.ofInt n.toInt)
    | _, .number (some (.real x)) => .ok x
    | _, doc => doc.refuse "f64"
  write x := .string x.hex

/-- A value or `null`. -/
def option {α : Type} (c : Codec α) : Codec (Option α) where
  read
    | _, .null => .ok none
    | source, doc => (c.read source doc).map some
  write
    | none => .null
    | some a => c.write a

/-- Lists. -/
def list {α : Type} (c : Codec α) : Codec (List α) where
  read
    | source, .array items closed => do
      let inside ← source.enter
      let values ← items.mapM (c.read inside)
      source.close closed
      return values
    | _, doc => doc.refuse "a sequence"
  write values := .array (values.map c.write)

/-- Reads the members of a map; of two with one name the later counts. -/
def readEntries {α : Type} (c : Codec α) (inside : Source) :
    List (Option String × Doc) → Dict α → Except Refusal (Dict α)
  | [], dict => .ok dict
  | (none, _) :: _, _ => .error .malformed
  | (some name, doc) :: members, dict => do
    let value ← c.read inside doc
    readEntries c inside members (dict.insert name value)

/-- Maps from texts. -/
def dict {α : Type} (c : Codec α) : Codec (Dict α) where
  read
    | source, .object members closed => do
      let inside ← source.enter
      let values ← readEntries c inside members .empty
      source.close closed
      return values
    | _, doc => doc.refuse "a map"
  write values := .object (values.toList.map fun (name, value) => (name, c.write value))

/-- Containers may be nested so deep in a text. -/
def depthLimit : Nat := 127

/-- Reads a whole text. -/
def ofBytes {α : Type} (c : Codec α) (input : Bytes) : Except Refusal α := do
  let (doc, rest) := Doc.ofBytes input
  let value ← c.read (.stream depthLimit) doc
  match rest with
  | some rest => if Doc.skipSpace rest = [] then return value else throw .malformed
  | none => throw .malformed

/-- Reads a text. -/
def ofText {α : Type} (c : Codec α) (input : String) : Except Refusal α :=
  c.ofBytes (Bytes.ofText input)

/-- The text of a value. -/
def toBytes {α : Type} (c : Codec α) (value : α) : Bytes := (c.write value).compact

/-- The text of a value, as a text. -/
def toText {α : Type} (c : Codec α) (value : α) : String := (c.write value).text

end Codec

end CalloutHost.Json
