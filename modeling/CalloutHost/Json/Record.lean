import CalloutHost.Json.Codec

/-!
# Records

A record has named fields. It is written as an object with a member for each field that is not left
out, in the order of the fields. It is read from such an object in any order, or from an array of
the fields in their order, where the last ones that may be left out may be missing.

A flat record spreads the fields of some parts among its own. The members of the parts are set
aside and looked at once the object has been read, part by part; a flat record is never an array.

A union has several forms. One member, the tag, names the form, and the others, set aside until the
object has been read, are the fields of the form.
-/

namespace CalloutHost.Json

/-- A named field of a record. -/
structure Field (ρ : Type) where
  name : String
  /-- It has to be there. -/
  mandatory : Bool
  read : Source → Doc → ρ → Except Refusal ρ
  /-- Writes the value, unless it is left out. -/
  write : ρ → Option Value

namespace Field

variable {ρ α : Type}

/-- A field that has to be there and is always written. -/
def required (name : String) (c : Codec α) (get : ρ → α) (set : α → ρ → ρ) : Field ρ where
  name
  mandatory := true
  read source doc r := (c.read source doc).map (set · r)
  write r := some (c.write (get r))

/-- A field that keeps its initial value when it is not there, and that is left out when its value
is `skip`ped. -/
def optional (name : String) (c : Codec α) (skip : α → Bool) (get : ρ → α) (set : α → ρ → ρ) :
    Field ρ where
  name
  mandatory := false
  read source doc r := (c.read source doc).map (set · r)
  write r := if skip (get r) then none else some (c.write (get r))

/-- A field that keeps its initial value when it is not there, and that is always written. -/
def defaulted (name : String) (c : Codec α) (get : ρ → α) (set : α → ρ → ρ) : Field ρ :=
  optional name c (fun _ => false) get set

/-- A field of a part of a record, as a field of the record. -/
def within {σ : Type} (get : ρ → σ) (set : σ → ρ → ρ) (field : Field σ) : Field ρ where
  name := field.name
  mandatory := field.mandatory
  read source doc r := (field.read source doc (get r)).map (set · r)
  write r := field.write (get r)

end Field

/-- The fields of a record. -/
structure Record (ρ : Type) where
  title : String
  fields : List (Field ρ)
  initial : ρ
  /-- A member that is no field is a fault. -/
  strict : Bool

namespace Record

variable {ρ : Type}

/-- The members that a record is written as. -/
def members (fields : List (Field ρ)) (r : ρ) : List (String × Value) :=
  fields.filterMap fun field => (field.write r).map fun value => (field.name, value)

/-- The first field that has to be there and is not. -/
def missing? (fields : List (Field ρ)) (seen : List String) : Option String :=
  (fields.find? fun field => field.mandatory && !seen.contains field.name).map (·.name)

/-- Ends the reading of an object, where every field that has to be there has been seen. -/
def complete (fields : List (Field ρ)) (seen : List String) (r : ρ) : Except Refusal ρ :=
  match missing? fields seen with
  | some name => .error (.mismatch (.missing name))
  | none => .ok r

/-- Reads the members of an object; `seen` has the names of the fields that were read before. -/
def readMembers (x : Record ρ) (inside : Source) :
    List (Option String × Doc) → List String → ρ → Except Refusal (List String × ρ)
  | [], seen, r => .ok (seen, r)
  | (none, _) :: _, _, _ => .error .malformed
  | (some name, doc) :: members, seen, r =>
    match x.fields.find? (·.name = name) with
    | none =>
      if x.strict then
        .error (.mismatch (.unknownMember name (x.fields.map (·.name))))
      else do
        inside.skip doc
        readMembers x inside members seen r
    | some field =>
      if seen.contains name then .error (.mismatch (.duplicate name))
      else do
        let r ← field.read inside doc r
        readMembers x inside members (name :: seen) r

/-- How many values something has, in words. -/
def counted (count : Nat) : String :=
  if count = 1 then "1 element" else toString count ++ " elements"

/-- Reads the items of an array of `total` items as the fields in their order, `count` of which were
read before. -/
def readItems (expected : String) (inside : Source) (total : Nat) (closed : Bool) :
    List (Field ρ) → Nat → List Doc → ρ → Except Refusal ρ
  | [], _, [], r => do
    inside.close closed
    return r
  | [], count, _ :: _, _ =>
    match inside with
    | .stream _ => .error .malformed
    | .held => .error (.mismatch (.length total (counted count ++ " in sequence")))
  | field :: fields, count, [], r => do
    inside.close closed
    if field.mandatory then throw (.mismatch (.length count expected))
    readItems expected inside total closed fields (count + 1) [] r
  | field :: fields, count, doc :: items, r => do
    let r ← field.read inside doc r
    readItems expected inside total closed fields (count + 1) items r

/-- Reads a record. -/
def read (x : Record ρ) (expected : String) (source : Source) : Doc → Except Refusal ρ
  | .object members closed => do
    let inside ← source.enter
    let (seen, r) ← x.readMembers inside members [] x.initial
    source.close closed
    complete x.fields seen r
  | .array items closed => do
    let inside ← source.enter
    readItems (expected ++ " with " ++ counted x.fields.length) inside items.length closed
      x.fields 0 items x.initial
  | doc => doc.refuse expected

/-- Reads and writes a record. -/
def codec (x : Record ρ) : Codec ρ where
  read := x.read ("struct " ++ x.title)
  write r := .object (members x.fields r)

end Record

/-- A part of a flat record. -/
inductive Part (ρ : Type)
  | own (field : Field ρ)
  /-- The fields of a part, read together. -/
  | spread (fields : List (Field ρ))

/-- A record with the fields of other records among its own. -/
structure FlatRecord (ρ : Type) where
  title : String
  parts : List (Part ρ)
  initial : ρ

namespace FlatRecord

variable {ρ : Type}

/-- The fields of the record itself. -/
def ownFields (parts : List (Part ρ)) : List (Field ρ) :=
  parts.filterMap fun
    | .own field => some field
    | .spread _ => none

/-- The lists of the fields of the parts. -/
def spreadFields (parts : List (Part ρ)) : List (List (Field ρ)) :=
  parts.filterMap fun
    | .own _ => none
    | .spread fields => some fields

/-- All fields, in the order in which they are written. -/
def allFields (parts : List (Part ρ)) : List (Field ρ) :=
  parts.flatMap fun
    | .own field => [field]
    | .spread fields => fields

/-- Reads the members of an object: the record's own fields at once; the others are set aside, the
last first. -/
def readMembers (fields : List (Field ρ)) (inside : Source) :
    List (Option String × Doc) → List String → List (String × Doc) → ρ →
      Except Refusal (List String × List (String × Doc) × ρ)
  | [], seen, aside, r => .ok (seen, aside, r)
  | (none, _) :: _, _, _, _ => .error .malformed
  | (some name, doc) :: members, seen, aside, r =>
    match fields.find? (·.name = name) with
    | none => do
      inside.hold doc
      readMembers fields inside members seen ((name, doc) :: aside) r
    | some field =>
      if seen.contains name then .error (.mismatch (.duplicate name))
      else do
        let r ← field.read inside doc r
        readMembers fields inside members (name :: seen) aside r

/-- Reads the fields of a part from the members that were set aside. -/
def readPart (aside : List (String × Doc)) (fields : List (Field ρ)) (r : ρ) :
    Except Refusal ρ := do
  let (seen, r) ← aside.foldlM (fun (seen, r) (name, doc) =>
    match fields.find? (·.name = name) with
    | none => return (seen, r)
    | some field =>
      if seen.contains name then throw (.mismatch (.duplicate name))
      else return (name :: seen, ← field.read .held doc r)) ([], r)
  Record.complete fields seen r

/-- Reads and writes a flat record. -/
def codec (x : FlatRecord ρ) : Codec ρ where
  read
    | source, .object members closed => do
      let inside ← source.enter
      let (seen, aside, r) ← readMembers (ownFields x.parts) inside members [] [] x.initial
      source.close closed
      let r ← Record.complete (ownFields x.parts) seen r
      (spreadFields x.parts).foldlM (fun r fields => readPart aside.reverse fields r) r
    | _, doc => doc.refuse ("struct " ++ x.title)
  write r := .object (Record.members (allFields x.parts) r)

end FlatRecord

/-- One form of the values of a type. -/
structure Form (α : Type) where
  tag : String
  /-- Reads the members or items other than the tag, which were set aside. -/
  read : Doc → Except Refusal α
  /-- The members other than the tag of a value of this form. -/
  members? : α → Option (List (String × Value))

/-- A type whose values have one of several forms. -/
structure Union (α : Type) where
  title : String
  /-- The name of the member that names the form. -/
  tagName : String
  forms : List (Form α)

/-- The form whose members are the fields of a record. -/
def Form.ofRecord {α φ : Type} (tag : String) (fields : Record φ) (make : φ → α)
    (fields? : α → Option φ) : Form α where
  tag
  read doc := (fields.read ("struct variant " ++ fields.title) .held doc).map make
  members? a := (fields? a).map (Record.members fields.fields)

namespace Union

variable {α : Type}

/-- Reads a tag. -/
def readTag (x : Union α) : Doc → Except Refusal (Form α)
  | .string (some tag) =>
    match x.forms.find? (·.tag = tag) with
    | some form => .ok form
    | none => .error (.mismatch (.unknownForm tag (x.forms.map (·.tag))))
  | doc => doc.refuse "variant identifier"

/-- Reads the tag among the members of an object and sets the others aside, the last first. -/
def readMembers (x : Union α) (inside : Source) :
    List (Option String × Doc) → Option (Form α) → List (Option String × Doc) →
      Except Refusal (Option (Form α) × List (Option String × Doc))
  | [], form, aside => .ok (form, aside)
  | (none, _) :: _, _, _ => .error .malformed
  | (some name, doc) :: members, form, aside =>
    if name = x.tagName then
      if form.isSome then .error (.mismatch (.duplicate name))
      else do
        let found ← x.readTag doc
        readMembers x inside members (some found) aside
    else do
      inside.hold doc
      readMembers x inside members form ((some name, doc) :: aside)

/-- Reads and writes the values of all forms. -/
def codec (x : Union α) : Codec α where
  read
    | source, .object members closed => do
      let inside ← source.enter
      let (form, aside) ← x.readMembers inside members none []
      source.close closed
      match form with
      | some form => form.read (.object aside.reverse true)
      | none => throw (.mismatch (.missing x.tagName))
    | source, .array items closed => do
      let inside ← source.enter
      match items with
      | [] =>
        source.close closed
        throw (.mismatch (.missing x.tagName))
      | first :: rest =>
        let form ← x.readTag first
        rest.forM inside.hold
        source.close closed
        form.read (.array rest true)
    | _, doc => doc.refuse ("internally tagged enum " ++ x.title)
  write a := .object <|
    (x.forms.findSome? fun form =>
      (form.members? a).map fun members => (x.tagName, .string form.tag) :: members).getD []

end Union

end CalloutHost.Json
