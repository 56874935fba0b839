import CalloutHost.Bytes
import CalloutHost.Crypto.Ed25519
import CalloutHost.Encoding.Base32

/-!
# Named keys

A key is an Ed25519 key with a kind, and its text begins with a letter for the kind. The text of a
public key is the base-32 form of one kind byte, the 32 key bytes and a checksum; the text of a
seed begins with the letter `S` and has the kind in the 8 bits after the first five. The checksum is
a cyclic redundancy check of 16 bits with the polynomial `x^16 + x^12 + x^5 + 1`, most significant
bit first, from zero and without a final exclusive or.

`KeyPair.ofSeed` makes a pair that can sign, `KeyPair.ofPublicText` one that can only verify.
-/

namespace CalloutHost.Checksum

/-- The remainder after one more zero bit. -/
def shift (crc : Nat) : Nat :=
  if 0x8000 ≤ crc then (2 * crc % 0x10000) ^^^ 0x1021 else 2 * crc

/-- The remainder after one more byte. -/
def step (crc : Nat) (b : UInt8) : Nat :=
  shift (shift (shift (shift (shift (shift (shift (shift (crc ^^^ (b.toNat * 256)))))))))

/-- The checksum of a byte string. -/
def crc16 (b : Bytes) : Nat := b.foldl step 0

end CalloutHost.Checksum

namespace CalloutHost.Nkey

/-- What a key is for. -/
inductive Kind
  | server
  | cluster
  | operator
  | module
  | account
  | user
  | service
  | curve
  deriving DecidableEq, Repr

/-- The byte in front of a public key, whose top five bits are the letter of the kind. -/
def Kind.byte : Kind → UInt8
  | .server => 104
  | .cluster => 16
  | .operator => 112
  | .module => 96
  | .account => 0
  | .user => 160
  | .service => 168
  | .curve => 184

/-- The kind that a byte in front of a public key stands for. -/
def Kind.ofByte? (b : UInt8) : Option Kind :=
  [.server, .cluster, .operator, .module, .account, .user, .service, .curve].find? (·.byte = b)

/-- Why a key or a signature is refused. -/
inductive Error
  | seedLength (length : Nat)
  | keyLength (length : Nat)
  | encoding (cause : Base32.Error)
  | checksum
  /-- A seed text that begins with this character instead of `S`. -/
  | seedLetter (first : Char)
  | keyByte (byte : UInt8)
  /-- The key is not a point of the curve. -/
  | point
  | signatureLength
  | signature
  /-- A key without its seed cannot sign. -/
  | noSeed
  deriving DecidableEq, Repr

/-- The text of an error. -/
def Error.message : Error → String
  | .seedLength n => s!"Invalid key length: Bad seed length: {n}"
  | .keyLength n => s!"Invalid key length: Bad key length: {n}"
  | .encoding cause => "Codec failure: Data encoding failure: " ++ cause.message
  | .checksum => "Checksum match failure: Checksum mismatch"
  | .seedLetter first => "Invalid byte prefix: Incorrect byte prefix: " ++ first.toString
  | .keyByte byte => s!"Invalid byte prefix: Not a valid public key prefix: {byte.toNat}"
  | .point => "Signature verification failure: Could not read public key"
  | .signatureLength => "Invalid signature length: Signature did not match expected length"
  | .signature => "Signature failure: Signature error: signature error"
  | .noSeed => "Signature failure: Cannot sign without a seed key"

/-- The text of raw bytes: their base-32 form, with the checksum behind them. -/
def armour (raw : Bytes) : String :=
  String.ofList (Bytes.toCharacters
    (Base32.encode (raw ++ Bytes.ofNatLE 2 (Checksum.crc16 raw))))

/-- The raw bytes of a text, if the checksum behind them fits. -/
def disarm (text : String) : Except Error Bytes := do
  let all ← (Base32.decode (Bytes.ofText text)).mapError .encoding
  let size := all.length - 2
  let raw := all.take size
  if Bytes.toNatLE (all.drop size) = Checksum.crc16 raw then return raw else throw .checksum

/-- An Ed25519 key with a kind. -/
structure KeyPair where
  kind : Kind
  point : Bytes
  /-- The 32 bytes of the seed, for a key that can sign. -/
  seed : Option Bytes
  point_eq : ∀ s, seed = some s → point = Ed25519.publicKey s

namespace KeyPair

/-- The pair of a seed. -/
def ofSeed (kind : Kind) (seed : Bytes) : KeyPair where
  kind
  point := Ed25519.publicKey seed
  seed := some seed
  point_eq := by simp

/-- A pair that cannot sign. -/
def ofPoint (kind : Kind) (point : Bytes) : KeyPair where
  kind
  point
  seed := none
  point_eq := by simp

/-- The text of the public key. -/
def publicText (k : KeyPair) : String := armour (k.kind.byte :: k.point)

/-- The text of a seed of a kind. -/
def seedTextOf (kind : Kind) (seed : Bytes) : String :=
  armour (UInt8.ofNat (144 + kind.byte.toNat / 32) ::
    UInt8.ofNat (kind.byte.toNat % 32 * 8) :: seed)

/-- Reads the text of a seed. A kind byte that stands for nothing counts as an operator's. -/
def ofSeedText (text : String) : Except Error KeyPair := do
  let size := text.utf8ByteSize
  if size ≠ 58 then throw (.seedLength size)
  let raw ← disarm text
  match raw with
  | a :: b :: seed =>
    if a.toNat / 8 ≠ 18 then throw (.seedLetter (text.toList.headD 'S'))
    let byte := UInt8.ofNat (a.toNat % 8 * 32 + b.toNat / 8)
    return ofSeed ((Kind.ofByte? byte).getD .operator) seed
  | _ => throw (.seedLength size)

/-- Reads the text of a public key. -/
def ofPublicText (text : String) : Except Error KeyPair := do
  let size := text.utf8ByteSize
  if size ≠ 56 then throw (.keyLength size)
  let raw ← disarm text
  match raw with
  | byte :: point =>
    match Kind.ofByte? byte with
    | none => throw (.keyByte byte)
    | some kind =>
      if (Ed25519.Point.ofBytes? point).isNone then throw .point
      return ofPoint kind point
  | [] => throw (.keyLength size)

/-- Signs a message. -/
def sign (k : KeyPair) (message : Bytes) : Except Error Bytes :=
  match k.seed with
  | some seed => .ok (Ed25519.sign seed k.point message)
  | none => .error .noSeed

/-- Checks a signature on a message. -/
def verify (k : KeyPair) (message signature : Bytes) : Except Error Unit :=
  if signature.length ≠ 64 then .error .signatureLength
  else if Ed25519.verify k.point message signature then .ok ()
  else .error .signature

end KeyPair

end CalloutHost.Nkey
