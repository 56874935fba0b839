import CalloutHost.Claims.Basic
import CalloutHost.Text.Quoted

/-!
# Authorization requests and responses

A server asks what a client may do that wants to connect: it says which server it is, what it knows
of the client and what the client sent. A server key signs a request. The answer is a token for the
user or the reason why there is none, and an account key signs it.
-/

namespace CalloutHost

/-- The server that asks. -/
structure ServerId where
  name : String
  host : String
  /-- Its public key. -/
  id : String
  version : String
  cluster : String
  tags : List String
  /-- Its key for encryption. -/
  curveKey : String
  deriving DecidableEq, Repr

namespace ServerId

/-- Nothing is known. -/
def empty : ServerId := ⟨"", "", "", "", "", [], ""⟩

/-- The form of a server's identity. -/
def record : Json.Record ServerId where
  title := "ServerId"
  fields :=
    [.defaulted "name" .text (·.name) (fun x s => { s with name := x }),
     .defaulted "host" .text (·.host) (fun x s => { s with host := x }),
     .defaulted "id" .text (·.id) (fun x s => { s with id := x }),
     .optional "version" .text (·.isEmpty) (·.version) (fun x s => { s with version := x }),
     .optional "cluster" .text (·.isEmpty) (·.cluster) (fun x s => { s with cluster := x }),
     .optional "tags" (.list .text) (·.isEmpty) (·.tags) (fun x s => { s with tags := x }),
     .optional "xkey" .text (·.isEmpty) (·.curveKey) (fun x s => { s with curveKey := x })]
  initial := empty
  strict := false

end ServerId

/-- What the server knows of the client. -/
structure ClientInfo where
  host : String
  /-- The number of its connection. -/
  id : UInt64
  user : String
  name : String
  tags : List String
  nameTag : String
  kind : String
  type : String
  mqtt : String
  /-- The nonce that the server sent. -/
  nonce : String
  deriving DecidableEq, Repr

namespace ClientInfo

/-- Nothing is known. -/
def empty : ClientInfo := ⟨"", 0, "", "", [], "", "", "", "", ""⟩

/-- The form of what is known of a client. -/
def record : Json.Record ClientInfo where
  title := "ClientInformation"
  fields :=
    [.optional "host" .text (·.isEmpty) (·.host) (fun x i => { i with host := x }),
     .optional "id" .uint64 (· = 0) (·.id) (fun x i => { i with id := x }),
     .optional "user" .text (·.isEmpty) (·.user) (fun x i => { i with user := x }),
     .optional "name" .text (·.isEmpty) (·.name) (fun x i => { i with name := x }),
     .optional "tags" (.list .text) (·.isEmpty) (·.tags) (fun x i => { i with tags := x }),
     .optional "name_tag" .text (·.isEmpty) (·.nameTag) (fun x i => { i with nameTag := x }),
     .optional "kind" .text (·.isEmpty) (·.kind) (fun x i => { i with kind := x }),
     .optional "type" .text (·.isEmpty) (·.type) (fun x i => { i with type := x }),
     .optional "mqtt_id" .text (·.isEmpty) (·.mqtt) (fun x i => { i with mqtt := x }),
     .optional "nonce" .text (·.isEmpty) (·.nonce) (fun x i => { i with nonce := x })]
  initial := empty
  strict := false

end ClientInfo

/-- What the client sent to connect. -/
structure ConnectOptions where
  jwt : String
  nkey : String
  /-- The nonce as it signed it. -/
  signature : String
  /-- A connect token. -/
  token : String
  username : String
  password : String
  name : String
  lang : String
  version : String
  protocol : Int64
  deriving DecidableEq, Repr

namespace ConnectOptions

/-- Nothing was sent. -/
def empty : ConnectOptions := ⟨"", "", "", "", "", "", "", "", "", 0⟩

/-- The form of what a client sends. -/
def record : Json.Record ConnectOptions where
  title := "ConnectOptions"
  fields :=
    [.optional "jwt" .text (·.isEmpty) (·.jwt) (fun x o => { o with jwt := x }),
     .optional "nkey" .text (·.isEmpty) (·.nkey) (fun x o => { o with nkey := x }),
     .optional "sig" .text (·.isEmpty) (·.signature) (fun x o => { o with signature := x }),
     .optional "auth_token" .text (·.isEmpty) (·.token) (fun x o => { o with token := x }),
     .optional "user" .text (·.isEmpty) (·.username) (fun x o => { o with username := x }),
     .optional "pass" .text (·.isEmpty) (·.password) (fun x o => { o with password := x }),
     .optional "name" .text (·.isEmpty) (·.name) (fun x o => { o with name := x }),
     .optional "lang" .text (·.isEmpty) (·.lang) (fun x o => { o with lang := x }),
     .optional "version" .text (·.isEmpty) (·.version) (fun x o => { o with version := x }),
     .defaulted "protocol" .int64 (·.protocol) (fun x o => { o with protocol := x })]
  initial := empty
  strict := false

/-- The word for a truth value. -/
def word (b : Bool) : String := if b then "true" else "false"

/-- What may be shown of it in a log: of the secrets, only whether there are any. -/
def redacted (o : ConnectOptions) : String :=
  "ConnectOptions \x7b username: " ++ Text.quoted o.username ++
    ", has_token: " ++ word (!o.token.isEmpty) ++
    ", has_password: " ++ word (!o.password.isEmpty) ++
    ", name: " ++ Text.quoted o.name ++
    ", lang: " ++ Text.quoted o.lang ++
    ", version: " ++ Text.quoted o.version ++
    ", protocol: " ++ toString o.protocol.toInt ++ ", .. \x7d"

end ConnectOptions

/-- The body of an authorization request. -/
structure AuthRequest where
  server : ServerId
  /-- The public key that the user is to have. -/
  userKey : String
  client : ClientInfo
  connect : ConnectOptions
  nonce : String
  descriptor : Descriptor
  deriving DecidableEq, Repr

namespace AuthRequest

/-- Nothing is asked. -/
def blank : AuthRequest := ⟨.empty, "", .empty, .empty, "", .empty⟩

/-- The form of the body of a request. -/
def layout : Json.FlatRecord AuthRequest where
  title := "AuthorizationRequest"
  parts :=
    [.own (.defaulted "server_id" ServerId.record.codec (·.server)
       fun x r => { r with server := x }),
     .own (.defaulted "user_nkey" .text (·.userKey) fun x r => { r with userKey := x }),
     .own (.defaulted "client_info" ClientInfo.record.codec (·.client)
       fun x r => { r with client := x }),
     .own (.defaulted "connect_opts" ConnectOptions.record.codec (·.connect)
       fun x r => { r with connect := x }),
     .own (.optional "request_nonce" .text (·.isEmpty) (·.nonce) fun x r => { r with nonce := x }),
     .spread (Descriptor.fields.map (.within (·.descriptor) fun x r => { r with descriptor := x }))]
  initial := blank

instance : ClaimBody AuthRequest where
  typeName := "authorization_request"
  signerLetter := 'N'
  blank := blank
  descriptor := AuthRequest.descriptor
  describe x r := { r with descriptor := x }
  codec := layout.codec

end AuthRequest

/-! ## Responses -/

/-- The body of an authorization response. -/
structure AuthResponse where
  jwt : String
  error : String
  /-- The account on whose behalf the claims are signed. -/
  issuerAccount : String
  descriptor : Descriptor
  deriving DecidableEq, Repr

namespace AuthResponse

/-- Nothing is answered. -/
def blank : AuthResponse := ⟨"", "", "", .empty⟩

/-- The form of the body of a response. -/
def layout : Json.FlatRecord AuthResponse where
  title := "AuthorizationResponse"
  parts :=
    [.own (.optional "jwt" .text (·.isEmpty) (·.jwt) fun x r => { r with jwt := x }),
     .own (.optional "error" .text (·.isEmpty) (·.error) fun x r => { r with error := x }),
     .own (.optional "issuer_account" .text (·.isEmpty) (·.issuerAccount)
       fun x r => { r with issuerAccount := x }),
     .spread (Descriptor.fields.map (.within (·.descriptor) fun x r => { r with descriptor := x }))]
  initial := blank

instance : ClaimBody AuthResponse where
  typeName := "authorization_response"
  signerLetter := 'A'
  blank := blank
  descriptor := AuthResponse.descriptor
  describe x r := { r with descriptor := x }
  codec := layout.codec

end AuthResponse

end CalloutHost
