import CalloutHost.Json.Doc
import CalloutHost.Number.Binary64
import CalloutHost.Text.Quoted

/-!
# Why a text is refused

A text is malformed where it is not JSON, or where a number, a string or the nesting is beyond what
a value can hold. A well-formed text may still not have the shape that is expected; each way of not
having it is a cause of its own, and `Mismatch.message` words it.
-/

namespace CalloutHost.Json

/-- What stands where something else is expected. -/
inductive Found
  | null
  | boolean (b : Bool)
  | number (n : Number)
  | string (s : String)
  | sequence
  | map
  deriving DecidableEq, Repr

/-- How a well-formed text fails to have the expected shape. -/
inductive Mismatch
  | type (found : Found) (expected : String)
  /-- A number of the right type that is out of range. -/
  | range (found : Found) (expected : String)
  | length (count : Nat) (expected : String)
  | missing (name : String)
  | duplicate (name : String)
  /-- A member that has no place; these do. -/
  | unknownMember (name : String) (known : List String)
  /-- A name for one of several forms that is none of these. -/
  | unknownForm (name : String) (known : List String)
  deriving DecidableEq, Repr

/-- Why a text is refused. -/
inductive Refusal
  /-- The text is not JSON, or a value in it cannot be held. -/
  | malformed
  | mismatch (cause : Mismatch)
  deriving DecidableEq, Repr

/-- Floating-point numbers in messages have no exponent from `0.00001` to below `10 ^ 16`. -/
def messageLayout : Decimal.Layout := ⟨-5, 15, "+"⟩

/-- The text of a floating-point number in a message. -/
def realText (x : Binary64) : String :=
  (if x.isNegative then "-" else "") ++
    if x.magnitude = 0 then "0.0" else messageLayout.text (Decimal.shortest x.magnitude)

/-- The text of a number in a message. -/
def Number.text : Number → String
  | .unsigned n => toString n.toNat
  | .signed n => toString n.toInt
  | .real x => realText x

/-- What stands there, in words. -/
def Found.text : Found → String
  | .null => "null"
  | .boolean b => if b then "boolean `true`" else "boolean `false`"
  | .number (.real x) => "floating point `" ++ realText x ++ "`"
  | .number n => "integer `" ++ n.text ++ "`"
  | .string s => "string " ++ Text.quoted s
  | .sequence => "sequence"
  | .map => "map"

/-- Alternatives, each between back quotes. -/
def alternatives : List String → String
  | [] => ""
  | [a] => "`" ++ a ++ "`"
  | [a, b] => "`" ++ a ++ "` or `" ++ b ++ "`"
  | names => "one of " ++ ", ".intercalate (names.map fun name => "`" ++ name ++ "`")

/-- The text of a mismatch. -/
def Mismatch.message : Mismatch → String
  | .type found expected => "invalid type: " ++ found.text ++ ", expected " ++ expected
  | .range found expected => "invalid value: " ++ found.text ++ ", expected " ++ expected
  | .length count expected => "invalid length " ++ toString count ++ ", expected " ++ expected
  | .missing name => "missing field `" ++ name ++ "`"
  | .duplicate name => "duplicate field `" ++ name ++ "`"
  | .unknownMember name [] => "unknown field `" ++ name ++ "`, there are no fields"
  | .unknownMember name known =>
    "unknown field `" ++ name ++ "`, expected " ++ alternatives known
  | .unknownForm name known => "unknown variant `" ++ name ++ "`, expected " ++ alternatives known

/-- The text of a refusal. -/
def Refusal.message : Refusal → String
  | .malformed => "malformed text"
  | .mismatch cause => cause.message

/-- What a document shows at first sight; a value that cannot be held shows nothing. -/
def Doc.found : Doc → Except Refusal Found
  | .null => .ok .null
  | .boolean b => .ok (.boolean b)
  | .number (some n) => .ok (.number n)
  | .string (some s) => .ok (.string s)
  | .array _ _ => .ok .sequence
  | .object _ _ => .ok .map
  | .number none | .string none | .broken => .error .malformed

/-- The refusal of a document that is not what is expected. -/
def Doc.refuse {α : Type} (doc : Doc) (expected : String) : Except Refusal α :=
  match doc.found with
  | .ok found => .error (.mismatch (.type found expected))
  | .error refusal => .error refusal

end CalloutHost.Json
