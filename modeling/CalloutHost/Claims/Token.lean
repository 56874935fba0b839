import CalloutHost.Claims.Basic
import CalloutHost.Crypto.Sha512
import CalloutHost.Encoding.Base64Url
import CalloutHost.Nkey
import CalloutHost.Text.Split

/-!
# Tokens

A token is the text of signed claims: three segments of base 64 between dots, a header that names
the algorithm, the claims, and a signature on the text of the first two. Their identifier is a
digest of the claims as they are without it.

`Claims.encode` writes a token and `Claims.decode` reads one, checking in this order: the segments,
the header, the algorithm, the claims, their type, the issuer's key, the signature
(`Claims.authentic`), and the time.
-/

namespace CalloutHost

/-- Seconds since the epoch by a clock; a time before the epoch counts as the epoch. -/
def clockSeconds (now : Int) : Int64 := Int64.ofInt (max 0 now)

/-- The header of a token. -/
structure TokenHeader where
  type : String
  algorithm : String
  deriving DecidableEq, Repr

namespace TokenHeader

/-- The header that is written. -/
def standard : TokenHeader := ⟨"JWT", "ed25519-nkey"⟩

/-- The form of a header. -/
def record : Json.Record TokenHeader where
  title := "Header"
  fields :=
    [.required "typ" .text (·.type) (fun x h => { h with type := x }),
     .required "alg" .text (·.algorithm) (fun x h => { h with algorithm := x })]
  initial := ⟨"", ""⟩
  strict := false

end TokenHeader

/-- Why claims are not signed, or a token is refused. -/
inductive TokenError
  | segments
  | encoding (cause : Base64Url.Error)
  | json (cause : Json.Refusal)
  /-- The token is signed in another way. -/
  | algorithm (found : String)
  /-- The claims are of another type. -/
  | claimType (expected found : String)
  /-- Keys of this kind do not sign such claims. -/
  | signer (typeName issuer : String)
  | signature (cause : Nkey.Error)
  | expired
  | notYetValid
  deriving DecidableEq, Repr

/-- The text of an error. -/
def TokenError.message : TokenError → String
  | .segments => "malformed token: expected three dot-separated segments"
  | .encoding cause => "invalid base64 segment: " ++ cause.message
  | .json cause => "invalid claims json: " ++ cause.message
  | .algorithm found => "unsupported algorithm " ++ Text.quoted found
  | .claimType expected found => "expected " ++ expected ++ " claims, found " ++ Text.quoted found
  | .signer typeName issuer => typeName ++ " claims cannot be signed by " ++ issuer
  | .signature cause => "signature error: " ++ cause.message
  | .expired => "token expired"
  | .notYetValid => "token not yet valid"

/-- The base-64 segment of bytes. -/
def segment (raw : Bytes) : List Char := Bytes.toCharacters (Base64Url.encode raw)

/-- The bytes of a base-64 segment. -/
def unsegment (cs : List Char) : Except TokenError Bytes :=
  (Base64Url.decode (Bytes.ofText (String.ofList cs))).mapError .encoding

/-- The text that is signed. -/
def signedText (header payload : List Char) : Bytes :=
  Bytes.ofText (String.ofList (header ++ '.' :: payload))

namespace Claims

variable {β : Type} [ClaimBody β]

/-- The identifier of claims: a digest of the claims without it. -/
def digest (c : Claims β) : String :=
  let bare : Claims β := { c with registered := { c.registered with id := "" } }
  String.ofList (Bytes.toCharacters (Base32.encode (Sha512.digest256 (codec.toBytes bare))))

/-- The claims as an issuer signs them at a time. -/
def issue (c : Claims β) (issuer : String) (now : Int) : Claims β :=
  let named : Claims β :=
    { registered := { c.registered with issuer, issuedAt := clockSeconds now }
      body := ClaimBody.stamp c.body }
  { named with registered := { named.registered with id := named.digest } }

/-- The token of claims that a key signs at a time, and the claims in it. -/
def encode (c : Claims β) (key : Nkey.KeyPair) (now : Int) :
    Except TokenError (String × Claims β) := do
  let issuer := key.publicText
  if issuer.toList.head? ≠ some (ClaimBody.signerLetter β) then
    throw (.signer (ClaimBody.typeName β) issuer)
  let issued := c.issue issuer now
  let header := segment (TokenHeader.record.codec.toBytes .standard)
  let payload := segment (codec.toBytes issued)
  let signature ← (key.sign (signedText header payload)).mapError .signature
  return (String.ofList (Text.join '.' [header, payload, segment signature]), issued)

/-- Whether the time is within the bounds of the claims. -/
def checkTime (c : Claims β) (now : Int) : Except TokenError Unit :=
  if 0 < c.registered.expires ∧ c.registered.expires < clockSeconds now then .error .expired
  else if 0 < c.registered.notBefore ∧ clockSeconds now < c.registered.notBefore then
    .error .notYetValid
  else .ok ()

/-- The claims of a token, whatever the time. -/
def authentic (token : String) : Except TokenError (Claims β) := do
  match Text.split '.' (Text.trim token.toList) with
  | [header, payload, signature] =>
    let found ← (TokenHeader.record.codec.ofBytes (← unsegment header)).mapError .json
    if found.algorithm ≠ TokenHeader.standard.algorithm then throw (.algorithm found.algorithm)
    let claims : Claims β ← (codec.ofBytes (← unsegment payload)).mapError .json
    let found := (ClaimBody.descriptor claims.body).type
    if found ≠ ClaimBody.typeName β then throw (.claimType (ClaimBody.typeName β) found)
    let key ← (Nkey.KeyPair.ofPublicText claims.registered.issuer).mapError .signature
    let raw ← unsegment signature
    (key.verify (signedText header payload) raw).mapError .signature
    return claims
  | _ => throw .segments

/-- The claims of a token at a time. -/
def decode (token : String) (now : Int) : Except TokenError (Claims β) := do
  let claims ← authentic token
  claims.checkTime now
  return claims

end Claims

end CalloutHost
