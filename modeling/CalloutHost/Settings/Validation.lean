import CalloutHost.Settings.Options

/-!
# Valid settings

Settings can contradict themselves. The checks are made in a fixed order and the first that fails
is reported.
-/

namespace CalloutHost

/-- How settings contradict themselves or lack something. -/
inductive SettingsFault
  | noAccounts
  | accountsWithOperators
  | accountsWithAuthorization
  | unnamedAccount
  | duplicateAccount (name : String)
  | noAuthUserWithOperators
  | authorizationWithCallout
  | tokenWithUser
  /-- The authorization has only one of user and password. -/
  | userAlone
  | keyWithIssuer
  | storeWithoutIssuer
  | metricsWithoutPort
  /-- The metrics have no label and the server no name. -/
  | metricsWithoutLabel
  | signingKey (cause : Nkey.Error)
  | signingKeyKind
  /-- The keys of the callout do not go together. -/
  | keys (cause : KeyError)
  deriving DecidableEq, Repr

/-- The text of a fault. -/
def SettingsFault.message : SettingsFault → String
  | .noAccounts => "accounts must not be an empty list"
  | .accountsWithOperators => "accounts cannot be configured together with operators"
  | .accountsWithAuthorization => "authorization cannot be configured together with accounts"
  | .unnamedAccount => "account name must not be empty"
  | .duplicateAccount name => "duplicate account " ++ name
  | .noAuthUserWithOperators => "no_auth_user cannot be configured together with operators"
  | .authorizationWithCallout => "authorization cannot be configured together with auth_callout"
  | .tokenWithUser => "authorization token and user are mutually exclusive"
  | .userAlone => "authorization user and password must be set together"
  | .keyWithIssuer => "auth_callout signing_key and issuer are mutually exclusive"
  | .storeWithoutIssuer => "auth_callout signing_key_store requires issuer"
  | .metricsWithoutPort => "metrics require http_port to be configured"
  | .metricsWithoutLabel => "metrics server_label is required when name is not set"
  | .signingKey cause => "invalid auth_callout signing_key: " ++ cause.message
  | .signingKeyKind => "auth_callout signing_key must be an account seed"
  | .keys cause => "auth_callout: " ++ cause.message

/-- Why there are no settings. -/
inductive ConfigError
  | unreadable
  | parse (cause : Json.Refusal)
  | invalid (fault : SettingsFault)
  deriving DecidableEq, Repr

/-- The text of an error. -/
def ConfigError.message : ConfigError → String
  | .unreadable => "failed to read config"
  | .parse cause => "invalid config: " ++ cause.message
  | .invalid fault => fault.message

namespace Settings

/-- Reads settings. -/
def ofText (text : String) : Except ConfigError Settings :=
  (record.codec.ofText text).mapError .parse

/-- The settings of a file, of which the bytes are given if it can be read. -/
def load (file : Option Bytes) : Except ConfigError Settings :=
  match file with
  | some bytes => (record.codec.ofBytes bytes).mapError .parse
  | none => .error .unreadable

/-- Every account has a name of its own; `seen` has the names of those before. -/
def checkNames : List String → List AccountSettings → Except SettingsFault Unit
  | _, [] => .ok ()
  | seen, account :: accounts =>
    if account.name = "" then .error .unnamedAccount
    else if seen.contains account.name then .error (.duplicateAccount account.name)
    else checkNames (account.name :: seen) accounts

/-- The accounts do not contradict the rest. -/
def checkAccounts (s : Settings) : Except SettingsFault Unit :=
  match s.accounts with
  | none => .ok ()
  | some accounts =>
    if accounts.isEmpty then .error .noAccounts
    else if s.hasOperators then .error .accountsWithOperators
    else if s.authorization.isSome then .error .accountsWithAuthorization
    else checkNames [] accounts

/-- The authorization does not contradict the rest. -/
def checkAuthorization (s : Settings) : Except SettingsFault Unit :=
  match s.authorization with
  | none => .ok ()
  | some a =>
    if s.callout.isSome then .error .authorizationWithCallout
    else if a.token.isSome ∧ a.user.isSome then .error .tokenWithUser
    else if a.user.isSome ≠ a.password.isSome then .error .userAlone
    else .ok ()

/-- The callout does not contradict itself. -/
def checkCallout (s : Settings) : Except SettingsFault Unit :=
  match s.callout with
  | none => .ok ()
  | some c =>
    if c.signingKey.isSome ∧ c.issuer.isSome then .error .keyWithIssuer
    else if c.keyStore.isSome ∧ c.issuer.isNone then .error .storeWithoutIssuer
    else .ok ()

/-- The settings do not contradict themselves. -/
def validate (s : Settings) : Except SettingsFault Unit := do
  s.checkAccounts
  if s.noAuthUser.isSome ∧ s.hasOperators then throw .noAuthUserWithOperators
  s.checkAuthorization
  s.checkCallout
  if s.metrics.isSome ∧ s.httpPort.isNone then throw .metricsWithoutPort

end Settings

end CalloutHost
