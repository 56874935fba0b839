import CalloutHost.Json.Record

/-!
# Claims

Claims say something about a subject, signed by an issuer. All claims have the registered data in
common; what they are about is their body, and a body has a descriptor that names its type. In the
JSON form the registered data stands beside the body, which is the member `nats`.
-/

namespace CalloutHost

/-- The claims that every token may make. -/
structure Registered where
  /-- The identifier, a digest of the rest. -/
  id : String
  /-- When the token was issued, in seconds. -/
  issuedAt : Int64
  issuer : String
  subject : String
  /-- For whom the token is meant. -/
  audience : String
  name : String
  /-- The last second of validity; none if not positive. -/
  expires : Int64
  /-- The first second of validity; none if not positive. -/
  notBefore : Int64
  deriving DecidableEq, Repr

namespace Registered

/-- No claim is made. -/
def empty : Registered := ⟨"", 0, "", "", "", "", 0, 0⟩

/-- The fields; empty texts and zeros are left out. -/
def fields : List (Json.Field Registered) :=
  [.optional "jti" .text (·.isEmpty) (·.id) (fun x r => { r with id := x }),
   .optional "iat" .int64 (· = 0) (·.issuedAt) (fun x r => { r with issuedAt := x }),
   .optional "iss" .text (·.isEmpty) (·.issuer) (fun x r => { r with issuer := x }),
   .optional "sub" .text (·.isEmpty) (·.subject) (fun x r => { r with subject := x }),
   .optional "aud" .text (·.isEmpty) (·.audience) (fun x r => { r with audience := x }),
   .optional "name" .text (·.isEmpty) (·.name) (fun x r => { r with name := x }),
   .optional "exp" .int64 (· = 0) (·.expires) (fun x r => { r with expires := x }),
   .optional "nbf" .int64 (· = 0) (·.notBefore) (fun x r => { r with notBefore := x })]

end Registered

/-- What kind of body it is. -/
structure Descriptor where
  tags : List String
  type : String
  version : UInt8
  deriving DecidableEq, Repr

namespace Descriptor

/-- No type. -/
def empty : Descriptor := ⟨[], "", 0⟩

/-- The fields. -/
def fields : List (Json.Field Descriptor) :=
  [.optional "tags" (.list .text) (·.isEmpty) (·.tags) (fun x d => { d with tags := x }),
   .defaulted "type" .text (·.type) (fun x d => { d with type := x }),
   .defaulted "version" .uint8 (·.version) (fun x d => { d with version := x })]

/-- The version that is written. -/
def currentVersion : UInt8 := 2

end Descriptor

/-- A type of bodies of claims. -/
class ClaimBody (β : Type) where
  typeName : String
  /-- The first letter of the keys that may sign such claims. -/
  signerLetter : Char
  /-- The body that says nothing. -/
  blank : β
  descriptor : β → Descriptor
  /-- The body with another descriptor. -/
  describe : Descriptor → β → β
  codec : Json.Codec β

namespace ClaimBody

/-- The body with the type and the version that are written. -/
def stamp {β : Type} [ClaimBody β] (body : β) : β :=
  describe { descriptor body with type := typeName β, version := Descriptor.currentVersion } body

end ClaimBody

/-- Claims with a body. -/
structure Claims (β : Type) where
  registered : Registered
  body : β
  deriving DecidableEq, Repr

namespace Claims

variable {β : Type} [ClaimBody β]

/-- Fresh claims about a subject. -/
def new (subject : String) : Claims β where
  registered := { Registered.empty with subject }
  body := ClaimBody.stamp ClaimBody.blank

/-- The form of claims: the registered data spread beside the body. -/
def layout : Json.FlatRecord (Claims β) where
  title := "Claims"
  parts :=
    [.spread (Registered.fields.map
       (.within (·.registered) fun x c => { c with registered := x })),
     .own (.required "nats" ClaimBody.codec (·.body) fun x c => { c with body := x })]
  initial := ⟨.empty, ClaimBody.blank⟩

/-- Reads and writes claims. -/
def codec : Json.Codec (Claims β) := layout.codec

end Claims

end CalloutHost
