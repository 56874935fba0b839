import CalloutHost.Bytes
import CalloutHost.Text.Split
import CalloutHost.Url.Host

/-!
# URLs

A URL of a common scheme has a host, perhaps a user in front and a port behind it, and a path;
query and fragment are not kept. Of a URL of another scheme only the scheme is kept, but what
stands in front of its path has to be right.

A path is a list of segments. A segment of one dot stands for where it is and one of two dots for
the level above, and characters that may not stand in a path are written by their bytes.
-/

namespace CalloutHost.Url

/-- A hexadecimal digit, in upper case. -/
def upperHex (n : Nat) : Char := Char.ofNat (if n < 10 then 48 + n else 55 + n)

/-- The characters with each byte outside a set written as a percent sign and two digits. -/
def percentEncode (keep : UInt8 → Bool) (cs : List Char) : List Char :=
  (Bytes.ofText (String.ofList cs)).flatMap fun b =>
    if keep b then [Char.ofNat b.toNat]
    else ['%', upperHex (b.toNat / 16), upperHex (b.toNat % 16)]

/-- Whether a byte is a graphic character of ASCII and none of some. -/
def isPlain (others : String) (b : UInt8) : Bool :=
  32 < b && b < 127 && !others.contains (Char.ofNat b.toNat)

/-- The bytes that stand for themselves in a path. -/
def keptInPath : UInt8 → Bool := isPlain "\"<>`#?\x7b\x7d"

/-- The bytes that stand for themselves in the name and the password of a user. -/
def keptInUser : UInt8 → Bool := isPlain "\"<>`#?\x7b\x7d/:;=@[\\]^|"

/-- The segments that stand for where they are. -/
def isSingleDot (segment : List Char) : Bool :=
  [".", "%2e"].contains (String.ofList segment).toLower

/-- The segments that stand for the level above. -/
def isDoubleDot (segment : List Char) : Bool :=
  ["..", ".%2e", "%2e.", "%2e%2e"].contains (String.ofList segment).toLower

/-- A letter and a colon or a bar, as at the root of some file systems. -/
def isDrive : List Char → Bool
  | [letter, mark] => letter.isAlpha && (mark = ':' || mark = '|')
  | _ => false

/-- The level above, but a drive is not left. -/
def parent (segments : List (List Char)) : List (List Char) :=
  if (segments.getLast?.map isDrive).getD false then segments else segments.dropLast

/-- Follows segments from a list of those before; a last segment of dots leaves an empty one. -/
def follow : List (List Char) → List (List Char) → List (List Char)
  | done, [] => done
  | done, [last] =>
    if isDoubleDot last then parent done ++ [[]]
    else if isSingleDot last then done ++ [[]]
    else done ++ [last]
  | done, segment :: rest =>
    if isDoubleDot segment then follow (parent done) rest
    else if isSingleDot segment then follow done rest
    else follow (done ++ [segment]) rest

/-- The path of what stands behind its first slash. Either slash divides segments. -/
def readPath (cs : List Char) : List Char :=
  let segments := Text.split '/' (cs.map fun c => if c = '\\' then '/' else c)
  '/' :: Text.join '/' (follow [] (segments.map (percentEncode keptInPath)))

end CalloutHost.Url

namespace CalloutHost

/-- A URL of a common scheme. -/
structure Url where
  scheme : String
  /-- The user, with the sign that divides it from the host; empty if there is none. -/
  user : String
  host : String
  /-- On which port, if it is not the usual one. -/
  port : Option Nat
  path : String
  deriving DecidableEq, Repr

namespace Url

/-- The text of a URL. -/
def text (u : Url) : String :=
  let port := match u.port with
    | some port => ":" ++ toString port
    | none => ""
  u.scheme ++ "://" ++ u.user ++ u.host ++ port ++ u.path

/-- The common schemes and their usual ports. -/
def usualPorts : List (String × Nat) :=
  [("http", 80), ("https", 443), ("ws", 80), ("wss", 443), ("ftp", 21)]

/-- The characters of a text as they count in a URL: blanks at the ends do not, and neither do tabs
and line ends anywhere. -/
def significant (text : String) : List Char :=
  let outer (c : Char) : Bool := c.toNat ≤ 32
  let inner := ((text.toList.dropWhile outer).reverse.dropWhile outer).reverse
  inner.filter fun c => c ≠ '\t' && c ≠ '\n' && c ≠ '\r'

/-- A letter of a scheme. -/
def isSchemeLetter (c : Char) : Bool := c.isAlphanum || c = '+' || c = '-' || c = '.'

/-- The scheme, in lower case, and what follows the colon. -/
def scheme? (cs : List Char) : Option (String × List Char) :=
  match cs.dropWhile isSchemeLetter with
  | ':' :: rest =>
    let name := cs.takeWhile isSchemeLetter
    if (name.head?.map Char.isAlpha).getD false then
      some (String.ofList (name.map Char.toLower), rest)
    else none
  | _ => none

/-- Whether a character ends the part with the host. -/
def endsAuthority (common : Bool) (c : Char) : Bool :=
  c = '/' || c = '?' || c = '#' || (common && c = '\\')

/-- The user and what follows it; the last `@` divides them. -/
def splitUser (cs : List Char) : Option (List Char × List Char) :=
  match cs.reverse.dropWhile (· ≠ '@') with
  | _ :: front => some (front.reverse, (cs.reverse.takeWhile (· ≠ '@')).reverse)
  | [] => none

/-- The text of a user: a name, and a password behind a colon if it is not empty. -/
def userText (cs : List Char) : String :=
  let name := cs.takeWhile (· ≠ ':')
  let password := (cs.dropWhile (· ≠ ':')).drop 1
  let encode := percentEncode keptInUser
  if name.isEmpty ∧ password.isEmpty then ""
  else String.ofList (encode name ++ (if password.isEmpty then [] else ':' :: encode password) ++
    ['@'])

/-- The length of the host: it ends at a colon outside brackets. -/
def hostLength : Bool → List Char → Nat
  | _, [] => 0
  | inside, c :: rest =>
    if c = ':' ∧ !inside then 0
    else 1 + hostLength (if c = '[' then true else if c = ']' then false else inside) rest

/-- Reads the digits of a port. -/
def readPort (cs : List Char) : Except Error (Option Nat) :=
  if cs.isEmpty then .ok none
  else match numberIn? 10 cs with
    | some n => if n < 65536 then .ok (some n) else .error .port
    | none => .error .port

/-- What stands behind two slashes: the part with user, host and port, and the rest. -/
structure Authority where
  /-- The user, if an `@` stands behind it. -/
  user : Option (List Char)
  host : List Char
  port : Option (List Char)
  rest : List Char

/-- Divides what stands behind two slashes. -/
def Authority.split (common : Bool) (cs : List Char) : Authority :=
  let part := cs.takeWhile fun c => !endsAuthority common c
  let rest := cs.dropWhile fun c => !endsAuthority common c
  let (user, part) := match splitUser part with
    | some (user, part) => (some user, part)
    | none => (none, part)
  let length := hostLength false part
  let port := match part.drop length with
    | _ :: port => some port
    | [] => none
  ⟨user, part.take length, port, rest⟩

/-- Reads what stands behind the slashes of a common scheme. -/
def afterSlashes (scheme : String) (usual : Nat) (cs : List Char) : Except Error Url := do
  let a := Authority.split true cs
  if a.host.isEmpty then throw .emptyHost
  let host ← readHost a.host
  let port ← readPort (a.port.getD [])
  let path := a.rest.takeWhile fun c => c ≠ '?' && c ≠ '#'
  return {
    scheme
    user := userText (a.user.getD [])
    host
    port := port.filter (· ≠ usual)
    path := String.ofList (readPath (path.drop 1)) }

/-- Checks what stands behind the slashes of another scheme. -/
def checkOther (cs : List Char) : Except Error Unit := do
  let a := Authority.split false cs
  checkOpaqueHost a.host
  if a.host.isEmpty ∧ (a.port.isSome ∨ (a.user.map userText).getD "" ≠ "" ∨
      (a.user = some [] ∧ !a.rest.isEmpty)) then throw .emptyHost
  let _ ← readPort ((a.port.getD []).takeWhile (· ≠ '\\'))

/-- Checks the host of a file. -/
def checkFile : List Char → Except Error Unit
  | a :: b :: rest =>
    if (a = '/' ∨ a = '\\') ∧ (b = '/' ∨ b = '\\') then
      let host := rest.takeWhile fun c => !endsAuthority true c
      if host.isEmpty ∨ isDrive host then .ok () else (readHost host).map fun _ => ()
    else .ok ()
  | _ => .ok ()

/-- What a text is, if it is a URL. -/
inductive Reading
  | common (u : Url)
  | other (scheme : String)

/-- Whether a character is a slash of either kind. -/
def isSlash (c : Char) : Bool := c = '/' || c = '\\'

/-- Reads a URL. -/
def parse (text : String) : Except Error Reading := do
  match scheme? (significant text) with
  | none => throw .relative
  | some (scheme, cs) =>
    match usualPorts.find? (·.1 = scheme) with
    | some (_, usual) => return .common (← afterSlashes scheme usual (cs.dropWhile isSlash))
    | none =>
      if scheme = "file" then checkFile cs
      else match cs with
        | '/' :: '/' :: rest => checkOther rest
        | _ => pure ()
      return .other scheme

/-- The usual port of a scheme. -/
def usualPort (scheme : String) : Nat := ((usualPorts.find? (·.1 = scheme)).map (·.2)).getD 0

/-- The URL that a path leads to from another URL. A path that begins with two slashes names a host
of its own. -/
def join (u : Url) (path : String) : Except Error Url :=
  match path.toList with
  | '/' :: '/' :: rest => afterSlashes u.scheme (usualPort u.scheme) rest
  | _ :: rest => .ok { u with path := String.ofList (readPath rest) }
  | [] => .ok u

end Url

end CalloutHost
