import CalloutHost.Bytes
import CalloutHost.Domain.Name
import CalloutHost.Text.Split

/-!
# Hosts in URLs

A host is a domain name or an address. In the common schemes a name is decoded and put into its
ASCII form, and must not have a character that has a meaning of its own in a URL. A host in brackets
is an address of eight groups of sixteen bits, and a host whose last label is a number is an address
of four bytes. Both have one text, whatever text they are read from.
-/

namespace CalloutHost.Url

/-- The value of a digit in a base. -/
def digitIn? (base : Nat) (c : Char) : Option Nat :=
  if c.toNat < 128 then (Bytes.hexValue? (UInt8.ofNat c.toNat)).filter (· < base) else none

/-- The number that digits write in a base. -/
def numberIn? (base : Nat) (cs : List Char) : Option Nat :=
  cs.foldlM (fun n c => (digitIn? base c).map (base * n + ·)) 0

namespace FourBytes

/-- A number in an address of four bytes: octal behind `0`, hexadecimal behind `0x`, and zero where
no digit follows these. -/
def number? : List Char → Option Nat
  | [] => none
  | '0' :: 'x' :: rest => numberIn? 16 rest
  | '0' :: 'X' :: rest => numberIn? 16 rest
  | '0' :: c :: rest => numberIn? 8 (c :: rest)
  | cs => numberIn? 10 cs

/-- The labels of a host, without an empty last one behind a dot. -/
def labels (host : List Char) : List (List Char) :=
  let all := Text.split '.' host
  if 1 < all.length ∧ all.getLast? = some [] then all.dropLast else all

/-- Whether a host has to be an address, because its last label is a number. -/
def isMeant (host : List Char) : Bool :=
  match (labels host).getLast? with
  | some last =>
    (!last.isEmpty && last.all fun c => (digitIn? 10 c).isSome) || (number? last).isSome
  | none => false

/-- The address of numbers: all but the last are bytes, and the last fills what is left. -/
def ofNumbers? (numbers : List Nat) : Option Nat :=
  match numbers.reverse with
  | [] => none
  | last :: front =>
    if 3 < front.length ∨ front.any (255 < ·) ∨ Nat.pow 256 (4 - front.length) ≤ last then none
    else
      let high := front.reverse.foldl (fun n b => 256 * n + b) 0
      some (high * Nat.pow 256 (4 - front.length) + last)

/-- Reads an address. -/
def read? (host : List Char) : Option Nat := do
  ofNumbers? (← (labels host).mapM number?)

/-- The text of an address. -/
def text (n : Nat) : String :=
  ".".intercalate ([16777216, 65536, 256, 1].map fun unit => toString (n / unit % 256))

end FourBytes

namespace EightGroups

/-- A group of up to four hexadecimal digits. -/
def group? (cs : List Char) : Option Nat :=
  if cs.isEmpty ∨ 4 < cs.length then none else numberIn? 16 cs

/-- A byte of the decimal form, without zeros in front. -/
def byte? (cs : List Char) : Option Nat :=
  match cs with
  | [] => none
  | '0' :: _ :: _ => none
  | cs => (numberIn? 10 cs).filter (· < 256)

/-- The two groups of four bytes in decimal form. -/
def decimalGroups? (cs : List Char) : Option (List Nat) := do
  match ← (Text.split '.' cs).mapM byte? with
  | [a, b, c, d] => return [256 * a + b, 256 * c + d]
  | _ => none

/-- The groups between colons; the last two may stand in decimal form. -/
def groups? : List (List Char) → Option (List Nat)
  | [] => some []
  | [last] =>
    if last.contains '.' then decimalGroups? last else (group? last).map fun g => [g]
  | first :: rest => do
    let g ← group? first
    return g :: (← groups? rest)

/-- The groups of a text that may be empty. -/
def side? (cs : List Char) : Option (List Nat) :=
  if cs.isEmpty then some [] else groups? (Text.split ':' cs)

/-- What stands in front of and behind the first `::`. -/
def splitGap : List Char → Option (List Char × List Char)
  | ':' :: ':' :: rest => some ([], rest)
  | c :: rest => (splitGap rest).map fun (front, back) => (c :: front, back)
  | [] => none

/-- Reads an address: eight groups, or fewer with one gap that stands for at least one zero. A part
in decimal form is the end of the address. -/
def read? (cs : List Char) : Option (List Nat) := do
  match splitGap cs with
  | none =>
    let groups ← side? cs
    if groups.length = 8 then return groups else none
  | some (front, back) =>
    if front.contains '.' then none
    let front ← side? front
    let back ← side? back
    if front.length + back.length < 8 then
      return front ++ List.replicate (8 - front.length - back.length) 0 ++ back
    else none

/-- The place and length of the first longest run of zeros; `at` is the place of the first group. -/
def zeros : Nat → List Nat → Nat × Nat
  | _, [] => (0, 0)
  | place, g :: rest =>
    let here := (g :: rest).takeWhile (· = 0) |>.length
    let (later, length) := zeros (place + 1) rest
    if here ≠ 0 ∧ length ≤ here then (place, here) else (later, length)

/-- The hexadecimal form of a group. -/
def hex (g : Nat) : String := String.ofList (Nat.toDigits 16 g)

/-- The text of an address, in which the longest run of zeros is a gap if it is longer than one. -/
def text (groups : List Nat) : String :=
  let (place, length) := zeros 0 groups
  if length < 2 then "[" ++ ":".intercalate (groups.map hex) ++ "]"
  else
    "[" ++ ":".intercalate ((groups.take place).map hex) ++ "::" ++
      ":".intercalate ((groups.drop (place + length)).map hex) ++ "]"

end EightGroups

/-! ## Hosts -/

/-- Why a text is no URL. -/
inductive Error
  /-- It has no scheme. -/
  | relative
  | emptyHost
  | domain
  | hostCharacter
  | port
  | fourBytes
  | eightGroups
  deriving DecidableEq, Repr

/-- The text of an error. -/
def Error.message : Error → String
  | .relative => "relative URL without a base"
  | .emptyHost => "empty host"
  | .domain => "invalid international domain name"
  | .hostCharacter => "invalid domain character"
  | .port => "invalid port number"
  | .fourBytes => "invalid IPv4 address"
  | .eightGroups => "invalid IPv6 address"

/-- The bytes with their escapes, a percent sign and two hexadecimal digits, decoded. -/
def percentDecode : Bytes → Bytes
  | b :: x :: y :: rest =>
    match (if b = 37 then Bytes.ofHex? [x, y] else none) with
    | some byte => byte ++ percentDecode rest
    | none => b :: percentDecode (x :: y :: rest)
  | rest => rest

/-- The characters that no name has. -/
def isForbidden (c : Char) : Bool :=
  c.toNat ≤ 32 || c.toNat = 127 || "%#/:<>?@[\\]^|".contains c

/-- The domain name of a host, in its ASCII form. -/
def domain (host : List Char) : Except Error (List Char) :=
  match Bytes.toText? (percentDecode (Bytes.ofText (String.ofList host))) with
  | none => .error .domain
  | some text =>
    match Domain.toAscii text.toList with
    | none => .error .domain
    | some cs => if cs.any isForbidden then .error .domain else .ok cs

/-- The address in brackets, if that is what the host is. -/
def bracketed? (host : List Char) : Option (Except Error String) :=
  match host with
  | '[' :: rest =>
    some <| if rest.getLast? = some ']' then
      match EightGroups.read? rest.dropLast with
      | some groups => .ok (EightGroups.text groups)
      | none => .error .eightGroups
    else .error .eightGroups
  | _ => none

/-- The text of a host in the common schemes. -/
def readHost (host : List Char) : Except Error String :=
  match bracketed? host with
  | some address => address
  | none => do
    let name ← domain host
    if name.isEmpty then throw .emptyHost
    if FourBytes.isMeant name then
      match FourBytes.read? name with
      | some n => return FourBytes.text n
      | none => throw .fourBytes
    return String.ofList name

/-- Checks a host in another scheme. -/
def checkOpaqueHost (host : List Char) : Except Error Unit :=
  match bracketed? host with
  | some address => address.map fun _ => ()
  | none =>
    if host.any fun c => "\x00\t\n\r #/:<>?@[\\]^|".contains c then .error .hostCharacter
    else .ok ()

end CalloutHost.Url
