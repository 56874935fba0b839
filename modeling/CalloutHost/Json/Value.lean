import CalloutHost.Json.Number
import CalloutHost.Json.Text

/-!
# Writing JSON

A value to be written has whole numbers only, and its members stand in the order in which they are
written. `Value.compact` writes it without blanks, `Value.pretty` with one item or member a line.
-/

namespace CalloutHost.Json

/-- A value to be written. -/
inductive Value
  | null
  | boolean (b : Bool)
  | integer (n : Int)
  | string (s : String)
  | array (items : List Value)
  | object (members : List (String × Value))
  deriving Repr, Inhabited

namespace Value

/-- The word for a truth value. -/
def word (b : Bool) : Bytes := if b then [116, 114, 117, 101] else [102, 97, 108, 115, 101]

/-- The word `null`. -/
def nullWord : Bytes := [110, 117, 108, 108]

mutual

/-- The text of a value without blanks. -/
def compact : Value → Bytes
  | .null => nullWord
  | .boolean b => word b
  | .integer n => Numeral.ofInt n
  | .string s => writeText s
  | .array items => 91 :: compactItems items
  | .object members => 123 :: compactMembers members

/-- The items and the closing bracket. -/
def compactItems : List Value → Bytes
  | [] => [93]
  | [item] => compact item ++ [93]
  | item :: items => compact item ++ 44 :: compactItems items

/-- The members and the closing brace. -/
def compactMembers : List (String × Value) → Bytes
  | [] => [125]
  | [(name, value)] => writeText name ++ 58 :: compact value ++ [125]
  | (name, value) :: members =>
    writeText name ++ 58 :: compact value ++ 44 :: compactMembers members

end

/-- A new line with two blanks for each level. -/
def newLine (level : Nat) : Bytes := 10 :: List.replicate (2 * level) 32

mutual

/-- The text of a value at a level, with a line for each item or member. -/
def prettyAt : Nat → Value → Bytes
  | _, .null => nullWord
  | _, .boolean b => word b
  | _, .integer n => Numeral.ofInt n
  | _, .string s => writeText s
  | _, .array [] => [91, 93]
  | level, .array items => 91 :: prettyItems (level + 1) items
  | _, .object [] => [123, 125]
  | level, .object members => 123 :: prettyMembers (level + 1) members

/-- The items, each on its line, and the closing bracket. -/
def prettyItems : Nat → List Value → Bytes
  | level, [] => newLine (level - 1) ++ [93]
  | level, [item] => newLine level ++ prettyAt level item ++ newLine (level - 1) ++ [93]
  | level, item :: items => newLine level ++ prettyAt level item ++ 44 :: prettyItems level items

/-- The members, each on its line, and the closing brace. -/
def prettyMembers : Nat → List (String × Value) → Bytes
  | level, [] => newLine (level - 1) ++ [125]
  | level, [(name, value)] =>
    newLine level ++ writeText name ++ [58, 32] ++ prettyAt level value ++ newLine (level - 1) ++
      [125]
  | level, (name, value) :: members =>
    newLine level ++ writeText name ++ [58, 32] ++ prettyAt level value ++
      44 :: prettyMembers level members

end

/-- The text of a value with a line for each item or member. -/
def pretty (v : Value) : Bytes := prettyAt 0 v

/-- The text of a value without blanks, as a text. -/
def text (v : Value) : String := (Bytes.toText? v.compact).getD ""

end Value

end CalloutHost.Json
