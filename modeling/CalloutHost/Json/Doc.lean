import CalloutHost.Json.Number
import CalloutHost.Json.Text

/-!
# JSON documents

A document is what a text shows to a reader that may not look at all of it. A number too large to
have a value, or a string that is no text, is a fault only for a reader that asks for the value; a
place where the text stops being JSON is a fault for every reader that gets there. So the document
of a faulty text keeps all that stands in front of the fault.
-/

namespace CalloutHost.Json

/-- What a text shows. -/
inductive Doc
  | null
  | boolean (b : Bool)
  /-- A number, with its value if it has one. -/
  | number (value : Option Number)
  /-- A string, with its text if it has one. -/
  | string (text : Option String)
  /-- A list of values; it is closed if the text gets to its end. -/
  | array (items : List Doc) (closed : Bool)
  /-- A list of names and values; it is closed if the text gets to its end. -/
  | object (members : List (Option String × Doc)) (closed : Bool)
  /-- Something that is not JSON. -/
  | broken
  deriving Repr

namespace Doc

/-- Whether the text gets to the end of the value. A closed container has only such values in it. -/
def isComplete : Doc → Bool
  | .array _ closed => closed
  | .object _ closed => closed
  | .broken => false
  | _ => true

mutual

/-- Whether a value is complete, every number and string in it has a value, and at most `room`
containers are nested in it. -/
def isWhole : Nat → Doc → Bool
  | _, .null => true
  | _, .boolean _ => true
  | _, .number value => value.isSome
  | _, .string text => text.isSome
  | 0, .array _ _ => false
  | room + 1, .array items closed => closed && areWhole room items
  | 0, .object _ _ => false
  | room + 1, .object members closed => closed && membersAreWhole room members
  | _, .broken => false

/-- `isWhole` of every item. -/
def areWhole : Nat → List Doc → Bool
  | _, [] => true
  | room, item :: items => isWhole room item && areWhole room items

/-- `isWhole` of every value, and every name is a text. -/
def membersAreWhole : Nat → List (Option String × Doc) → Bool
  | _, [] => true
  | room, (name, value) :: members =>
    name.isSome && isWhole room value && membersAreWhole room members

end

/-- Blanks between tokens. -/
def isSpace (b : UInt8) : Bool := b = 32 || b = 10 || b = 13 || b = 9

/-- What follows the blanks at the front. -/
def skipSpace (input : Bytes) : Bytes := input.dropWhile isSpace

/-- What follows a word at the front of a text. -/
def afterWord? (word : Bytes) (input : Bytes) : Option Bytes :=
  if input.take word.length = word then some (input.drop word.length) else none

/-- A value that is one word. -/
def takeWord (word : Bytes) (doc : Doc) (input : Bytes) : Doc × Option Bytes :=
  match afterWord? word input with
  | some rest => (doc, some rest)
  | none => (.broken, none)

mutual

/-- The value at the front of a text, and what follows it unless the text breaks off. -/
def take : Nat → Bytes → Doc × Option Bytes
  | 0, _ => (.broken, none)
  | fuel + 1, input =>
    match skipSpace input with
    | [] => (.broken, none)
    | b :: rest =>
      if b = 34 then
        match takePieces rest with
        | some (pieces, rest) => (.string (piecesText? pieces), some rest)
        | none => (.broken, none)
      else if b = 91 then
        match skipSpace rest with
        | 93 :: rest => (.array [] true, some rest)
        | rest =>
          let (items, rest) := takeItems fuel rest
          (.array items rest.isSome, rest)
      else if b = 123 then
        match skipSpace rest with
        | 125 :: rest => (.object [] true, some rest)
        | rest =>
          let (members, rest) := takeMembers fuel rest
          (.object members rest.isSome, rest)
      else if b = 110 then takeWord [117, 108, 108] .null rest
      else if b = 116 then takeWord [114, 117, 101] (.boolean true) rest
      else if b = 102 then takeWord [97, 108, 115, 101] (.boolean false) rest
      else match Numeral.take? (b :: rest) with
        | some (numeral, rest) => (.number numeral.value, some rest)
        | none => (.broken, none)

/-- The items of an array, from one of them on, and what follows the bracket. -/
def takeItems : Nat → Bytes → List Doc × Option Bytes
  | 0, _ => ([], none)
  | fuel + 1, input =>
    match take fuel input with
    | (item, none) => ([item], none)
    | (item, some rest) =>
      match skipSpace rest with
      | 44 :: rest =>
        let (items, rest) := takeItems fuel rest
        (item :: items, rest)
      | 93 :: rest => ([item], some rest)
      | _ => ([item], none)

/-- The members of an object, from one of them on, and what follows the brace. -/
def takeMembers : Nat → Bytes → List (Option String × Doc) × Option Bytes
  | 0, _ => ([], none)
  | fuel + 1, input =>
    match skipSpace input with
    | 34 :: rest =>
      match takePieces rest with
      | none => ([], none)
      | some (pieces, rest) =>
        let name := piecesText? pieces
        match skipSpace rest with
        | 58 :: rest =>
          match take fuel rest with
          | (value, none) => ([(name, value)], none)
          | (value, some rest) =>
            match skipSpace rest with
            | 44 :: rest =>
              let (members, rest) := takeMembers fuel rest
              ((name, value) :: members, rest)
            | 125 :: rest => ([(name, value)], some rest)
            | _ => ([(name, value)], none)
        | _ => ([(name, .broken)], none)
    | _ => ([], none)

end

/-- The document at the front of a text and what follows it. Every second step takes a byte, so
twice the length is fuel enough. -/
def ofBytes (input : Bytes) : Doc × Option Bytes := take (2 * input.length + 2) input

end Doc

end CalloutHost.Json
