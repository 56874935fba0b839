import CalloutHost.Dict
import CalloutHost.Json.Record
import CalloutHost.Text.Search

/-!
# Options of the engine

All that the messaging engine is told: where it listens, which accounts and users it has, and who
decides on connections. The options are written as the engine's JSON configuration, where a member
is there only if it says something: empty lists, empty texts and options that are not set are left
out. A reload that is refused because a running engine cannot change an option is told by its text,
which names the options.
-/

namespace CalloutHost

/-- The account of a server without named accounts. -/
def globalAccount : String := "$G"

/-- The account of the system itself. -/
def systemAccount : String := "$SYS"

/-- A user that the engine knows. -/
structure EngineUser where
  name : String
  password : String
  deriving DecidableEq, Repr

namespace EngineUser

/-- The form of a user. -/
def record : Json.Record EngineUser where
  title := "UserOptions"
  fields :=
    [.required "user" .text (·.name) (fun x u => { u with name := x }),
     .required "password" .text (·.password) (fun x u => { u with password := x })]
  initial := ⟨"", ""⟩
  strict := false

/-- What may be shown of a user in a log. -/
def redacted (u : EngineUser) : String :=
  "UserOptions \x7b user: " ++ Text.quoted u.name ++ ", password: " ++ Text.quoted "***" ++ " \x7d"

end EngineUser

/-- An account of the engine. -/
structure EngineAccount where
  users : List EngineUser
  jetstream : Bool
  deriving DecidableEq, Repr

/-- An account without users. -/
def EngineAccount.empty : EngineAccount := ⟨[], false⟩

/-- Who is asked about connections. -/
structure AuthCallout where
  issuer : String
  /-- The users that connect without being asked about. -/
  users : List String
  account : String
  /-- The key for encryption. -/
  curveKey : Option String
  deriving DecidableEq, Repr

/-- Who may connect. -/
structure EngineAuthorization where
  /-- The token of all clients. -/
  token : Option String
  /-- The name of the only user. -/
  user : Option String
  password : Option String
  users : List EngineUser
  callout : Option AuthCallout
  deriving DecidableEq, Repr

/-- Nothing is said about who may connect. -/
def EngineAuthorization.empty : EngineAuthorization := ⟨none, none, none, [], none⟩

/-- How streams are stored. -/
structure StreamStorage where
  directory : Option String
  deriving DecidableEq, Repr

/-- What the engine is told. -/
structure EngineOptions where
  serverName : String
  host : String
  port : UInt16
  /-- On which port it answers to monitoring. -/
  httpPort : Option UInt16
  debug : Bool
  trace : Bool
  accounts : Dict EngineAccount
  authorization : Option EngineAuthorization
  /-- The user of a client that does not say who it is. -/
  noAuthUser : Option String
  systemAccount : Option String
  operators : List String
  jetstream : Option StreamStorage
  deriving DecidableEq

namespace EngineOptions

/-- What the engine is told when nothing is configured. -/
def default : EngineOptions where
  serverName := ""
  host := "0.0.0.0"
  port := 4222
  httpPort := none
  debug := false
  trace := false
  accounts := .empty
  authorization := none
  noAuthUser := none
  systemAccount := none
  operators := []
  jetstream := none

/-- The hosts that stand for every address of the machine. -/
def anyHosts : List String := ["", "0.0.0.0", "::", "[::]"]

/-- Where clients of the same machine find the engine. -/
def clientUrl (o : EngineOptions) : String :=
  let host := if anyHosts.contains o.host then "127.0.0.1" else o.host
  "nats://" ++ host ++ ":" ++ toString o.port.toNat

/-- Whether the engine has an account. The global account is there unless others are named. -/
def hasAccount (o : EngineOptions) (name : String) : Bool :=
  if name = globalAccount then o.accounts.isEmpty || o.accounts.contains name
  else if name = CalloutHost.systemAccount then true
  else o.accounts.contains name

/-- Who is asked about connections. -/
def callout (o : EngineOptions) : Option AuthCallout := o.authorization.bind (·.callout)

/-- The users with one added, in place of those of its name. -/
def addUser (users : List EngineUser) (user : EngineUser) : List EngineUser :=
  users.filter (·.name ≠ user.name) ++ [user]

/-- The callout with a user that is not asked about. -/
def exempt (callout : AuthCallout) (name : String) : AuthCallout :=
  if callout.users.contains name then callout else { callout with users := callout.users ++ [name] }

/-- The options with a user of an account that the callout does not ask about. -/
def withAuthUser (o : EngineOptions) (account : String) (user : EngineUser) : EngineOptions :=
  let a := o.authorization.getD .empty
  let a := { a with callout := a.callout.map (exempt · user.name) }
  if account = globalAccount ∧ o.accounts.isEmpty then
    { o with authorization := some { a with users := addUser a.users user } }
  else
    let entry := (o.accounts.get? account).getD .empty
    { o with
      authorization := some a
      accounts := o.accounts.insert account { entry with users := addUser entry.users user } }

/-- The options that differ and that a running engine cannot change. -/
def blockers (o other : EngineOptions) : List String :=
  (if o.serverName ≠ other.serverName then ["server_name"] else []) ++
  (if o.host ≠ other.host then ["host"] else []) ++
  (if o.port ≠ other.port then ["port"] else []) ++
  (if o.httpPort ≠ other.httpPort then ["http_port"] else []) ++
  (if o.jetstream ≠ other.jetstream then ["jetstream"] else []) ++
  (if o.operators ≠ other.operators then ["trusted_operators"] else [])

end EngineOptions

/-! ## What goes wrong -/

/-- What goes wrong with an engine. -/
inductive EngineFault
  | create (reason : String)
  | start (reason : String)
  | reload (reason : String)
  | noAccount (name : String)
  /-- The system fails. -/
  | io (reason : String)
  deriving DecidableEq, Repr

namespace EngineFault

/-- How the refusal of options begins that a running engine cannot change. -/
def notSupported : String := "config reload not supported for"

/-- The refusal to change options in a running engine. -/
def reloadNotSupported (options : List String) : EngineFault :=
  .reload (notSupported ++ " " ++ ", ".intercalate options)

/-- The text of a fault. -/
def message : EngineFault → String
  | .create reason => "failed to create server: " ++ reason
  | .start reason => "failed to start server: " ++ reason
  | .reload reason => reason
  | .noAccount name => "account " ++ name ++ " not found"
  | .io reason => reason

/-- Whether a fresh engine would take the options that this one refuses. -/
def needsRestart : EngineFault → Bool
  | .reload reason => Text.occurs notSupported.toList reason.toList
  | _ => false

end EngineFault

/-! ## The configuration -/

open Json (Value)

/-- A member that is left out if there is nothing to say. -/
def memberIf {α : Type} (name : String) (write : α → Value) : Option α → List (String × Value)
  | some a => [(name, write a)]
  | none => []

/-- A member with a list that is left out if it is empty. -/
def memberList {α : Type} (name : String) (write : α → Value) :
    List α → List (String × Value)
  | [] => []
  | values => [(name, .array (values.map write))]

/-- An account in the configuration. -/
def EngineAccount.config (a : EngineAccount) : Value :=
  .object (memberList "users" EngineUser.record.codec.write a.users ++
    if a.jetstream then [("jetstream", .string "enabled")] else [])

/-- The callout in the configuration. -/
def AuthCallout.config (c : AuthCallout) : Value :=
  .object ([("issuer", .string c.issuer), ("auth_users", .array (c.users.map .string)),
    ("account", .string c.account)] ++ memberIf "xkey" .string c.curveKey)

/-- The authorization in the configuration. -/
def EngineAuthorization.config (a : EngineAuthorization) : Value :=
  .object (memberIf "token" .string a.token ++ memberIf "user" .string a.user ++
    memberIf "password" .string a.password ++
    memberList "users" EngineUser.record.codec.write a.users ++
    memberIf "auth_callout" AuthCallout.config a.callout)

/-- The storage of streams in the configuration. -/
def StreamStorage.config (s : StreamStorage) : Value :=
  .object (memberIf "store_dir" .string s.directory)

namespace EngineOptions

/-- A port in the configuration. -/
def portValue (port : UInt16) : Value := .integer port.toNat

/-- The configuration. -/
def config (o : EngineOptions) : Value :=
  .object ((if o.serverName = "" then [] else [("server_name", .string o.serverName)]) ++
    [("host", .string o.host), ("port", portValue o.port)] ++
    memberIf "http_port" portValue o.httpPort ++
    [("debug", .boolean o.debug), ("trace", .boolean o.trace)] ++
    (if o.accounts.isEmpty then [] else
      [("accounts", .object (o.accounts.toList.map fun (name, a) => (name, a.config)))]) ++
    memberIf "authorization" EngineAuthorization.config o.authorization ++
    memberIf "no_auth_user" .string o.noAuthUser ++
    memberIf "system_account" .string o.systemAccount ++
    memberList "operator" .string o.operators ++
    memberIf "jetstream" StreamStorage.config o.jetstream)

/-- The text of the configuration. -/
def configText (o : EngineOptions) : Bytes := o.config.pretty

end EngineOptions

end CalloutHost
