import CalloutHost.Access.Policy
import CalloutHost.Access.SigningKeys
import CalloutHost.Engine.Options
import CalloutHost.Messaging.Flow

/-!
# Settings

The JSON configuration of a host. Most parts reject members that they do not know, and everything
may be left out.
-/

namespace CalloutHost

/-- How streams are stored. -/
def StreamStorage.record : Json.Record StreamStorage where
  title := "JetStreamConfig"
  fields :=
    [.defaulted "store_dir" (.option .text) (·.directory) (fun x s => { s with directory := x })]
  initial := ⟨none⟩
  strict := true

/-- Who may connect. -/
structure AuthorizationSettings where
  token : Option String
  user : Option String
  password : Option String
  users : List EngineUser
  deriving DecidableEq, Repr

/-- The form of these settings. -/
def AuthorizationSettings.record : Json.Record AuthorizationSettings where
  title := "AuthorizationConfig"
  fields :=
    [.defaulted "token" (.option .text) (·.token) (fun x s => { s with token := x }),
     .defaulted "user" (.option .text) (·.user) (fun x s => { s with user := x }),
     .defaulted "password" (.option .text) (·.password) (fun x s => { s with password := x }),
     .defaulted "users" (.list EngineUser.record.codec) (·.users)
       (fun x s => { s with users := x })]
  initial := ⟨none, none, none, []⟩
  strict := true

/-- An account. -/
structure AccountSettings where
  name : String
  users : List EngineUser
  jetstream : Bool
  policies : List PolicySetting
  flows : List Flow
  deriving DecidableEq, Repr

/-- The form of these settings. -/
def AccountSettings.record : Json.Record AccountSettings where
  title := "AccountConfig"
  fields :=
    [.defaulted "name" .text (·.name) (fun x s => { s with name := x }),
     .defaulted "users" (.list EngineUser.record.codec) (·.users)
       (fun x s => { s with users := x }),
     .defaulted "jetstream" .boolean (·.jetstream) (fun x s => { s with jetstream := x }),
     .defaulted "authorization_policies" (.list PolicySetting.record.codec) (·.policies)
       (fun x s => { s with policies := x }),
     .defaulted "flows" (.list Flow.union.codec) (·.flows) (fun x s => { s with flows := x })]
  initial := ⟨"", [], false, [], []⟩
  strict := true

/-- A store of signing keys. -/
inductive KeyStoreSettings
  /-- The seeds of accounts, by name or public key. -/
  | memory (seeds : Dict String)
  deriving DecidableEq

namespace KeyStoreSettings

/-- The seeds. -/
def seeds : KeyStoreSettings → Dict String
  | .memory seeds => seeds

/-- The store. -/
def build : KeyStoreSettings → KeyStore
  | .memory seeds => .memory seeds

/-- The fields of a store in memory. -/
def memoryFields : Json.Record (Dict String) where
  title := "KeyStoreConfig::Memory"
  fields := [.required "keys" (.dict .text) id fun x _ => x]
  initial := .empty
  strict := false

/-- The forms of a store. -/
def union : Json.Union KeyStoreSettings where
  title := "KeyStoreConfig"
  tagName := "type"
  forms := [.ofRecord "memory" memoryFields .memory fun
    | .memory seeds => some seeds]

end KeyStoreSettings

/-- Who is asked about connections. -/
structure CalloutSettings where
  account : Option String
  issuer : Option String
  /-- The seed that signs everything. -/
  signingKey : Option String
  keyStore : Option KeyStoreSettings
  /-- The users that connect without being asked about. -/
  users : List String
  queueGroup : Option String
  curveKey : Option String
  deriving DecidableEq

/-- The form of these settings. -/
def CalloutSettings.record : Json.Record CalloutSettings where
  title := "AuthCalloutConfig"
  fields :=
    [.defaulted "account" (.option .text) (·.account) (fun x s => { s with account := x }),
     .defaulted "issuer" (.option .text) (·.issuer) (fun x s => { s with issuer := x }),
     .defaulted "signing_key" (.option .text) (·.signingKey)
       (fun x s => { s with signingKey := x }),
     .defaulted "signing_key_store" (.option KeyStoreSettings.union.codec) (·.keyStore)
       (fun x s => { s with keyStore := x }),
     .defaulted "auth_users" (.list .text) (·.users) (fun x s => { s with users := x }),
     .defaulted "queue_group" (.option .text) (·.queueGroup)
       (fun x s => { s with queueGroup := x }),
     .defaulted "xkey" (.option .text) (·.curveKey) (fun x s => { s with curveKey := x })]
  initial := ⟨none, none, none, none, [], none, none⟩
  strict := true

/-- Which metrics are collected. -/
structure MetricsSettings where
  label : Option String
  url : Option String
  /-- How often to look, in seconds. -/
  interval : Option UInt64
  deriving DecidableEq, Repr

/-- The form of these settings. -/
def MetricsSettings.record : Json.Record MetricsSettings where
  title := "MetricsConfig"
  fields :=
    [.defaulted "server_label" (.option .text) (·.label) (fun x s => { s with label := x }),
     .defaulted "server_url" (.option .text) (·.url) (fun x s => { s with url := x }),
     .defaulted "interval" (.option .uint64) (·.interval) (fun x s => { s with interval := x })]
  initial := ⟨none, none, none⟩
  strict := true

/-- The settings of a host. -/
structure Settings where
  /-- Nothing is to run. -/
  disabled : Bool
  name : String
  host : Option String
  port : Option UInt16
  /-- On which port it answers to monitoring. -/
  httpPort : Option UInt16
  debug : Bool
  trace : Bool
  /-- The user of a client that does not say who it is. -/
  noAuthUser : Option String
  systemAccount : Option String
  operators : Option (List String)
  jetstream : Option StreamStorage
  authorization : Option AuthorizationSettings
  accounts : Option (List AccountSettings)
  callout : Option CalloutSettings
  metrics : Option MetricsSettings
  deriving DecidableEq

namespace Settings

/-- Nothing is set. -/
def empty : Settings :=
  ⟨false, "", none, none, none, false, false, none, none, none, none, none, none, none, none⟩

/-- The form of the settings. -/
def record : Json.Record Settings where
  title := "Options"
  fields :=
    [.defaulted "disabled" .boolean (·.disabled) (fun x s => { s with disabled := x }),
     .defaulted "name" .text (·.name) (fun x s => { s with name := x }),
     .defaulted "host" (.option .text) (·.host) (fun x s => { s with host := x }),
     .defaulted "port" (.option .uint16) (·.port) (fun x s => { s with port := x }),
     .defaulted "http_port" (.option .uint16) (·.httpPort) (fun x s => { s with httpPort := x }),
     .defaulted "debug" .boolean (·.debug) (fun x s => { s with debug := x }),
     .defaulted "trace" .boolean (·.trace) (fun x s => { s with trace := x }),
     .defaulted "no_auth_user" (.option .text) (·.noAuthUser)
       (fun x s => { s with noAuthUser := x }),
     .defaulted "system_account" (.option .text) (·.systemAccount)
       (fun x s => { s with systemAccount := x }),
     .defaulted "operators" (.option (.list .text)) (·.operators)
       (fun x s => { s with operators := x }),
     .defaulted "jetstream" (.option StreamStorage.record.codec) (·.jetstream)
       (fun x s => { s with jetstream := x }),
     .defaulted "authorization" (.option AuthorizationSettings.record.codec) (·.authorization)
       (fun x s => { s with authorization := x }),
     .defaulted "accounts" (.option (.list AccountSettings.record.codec)) (·.accounts)
       (fun x s => { s with accounts := x }),
     .defaulted "auth_callout" (.option CalloutSettings.record.codec) (·.callout)
       (fun x s => { s with callout := x }),
     .defaulted "metrics" (.option MetricsSettings.record.codec) (·.metrics)
       (fun x s => { s with metrics := x })]
  initial := empty
  strict := true

/-- Whether operators are trusted. -/
def hasOperators (s : Settings) : Bool := !(s.operators.getD []).isEmpty

end Settings

end CalloutHost
