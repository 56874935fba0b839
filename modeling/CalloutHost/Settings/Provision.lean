import CalloutHost.Access.Issuer
import CalloutHost.Access.Secrets
import CalloutHost.Metrics.Collector
import CalloutHost.Settings.Validation

/-!
# Provisioning

Settings are turned into what a generation needs to start: the options of the engine and of the
collector, the plan for answering authorization requests, and the flows. This may make the key that
signs, and it may fail (`Settings.Making`); what was made before a failure stays made.

A process keeps its secrets for as long as it runs. Settings are provisioned time and again, the
responder's user is asked for in between, and each call finds the secrets as the call before left
them.
-/

namespace CalloutHost

/-- How authorization requests are answered. -/
structure AuthPlan where
  account : String
  /-- What answers; nothing here if somebody else does. -/
  issuer : Option Issuer
  policies : List Policy

/-- A flow and the account that it is in. -/
structure AccountFlow where
  account : String
  flow : Flow
  deriving DecidableEq, Repr

/-- What a generation needs to start. -/
structure Provisioned where
  enabled : Bool
  engine : EngineOptions
  collector : Option CollectorOptions
  auth : Option AuthPlan
  flows : List AccountFlow

namespace Settings

/-- The account that answers where accounts are named and none is chosen. -/
def defaultAuthAccount : String := "AUTH"

/-- The account that answers authorization requests: the chosen one, else the global one if no
accounts are named. -/
def authAccount (s : Settings) : Option String := do
  let callout ← s.callout
  match callout.account.filter (· ≠ ""), s.accounts with
  | some account, _ => return account
  | none, none => return globalAccount
  | none, some _ => return defaultAuthAccount

/-- The options of the engine, without the callout. -/
def engineOptions (s : Settings) : EngineOptions where
  serverName := s.name
  host := s.host.getD EngineOptions.default.host
  port := s.port.getD EngineOptions.default.port
  httpPort := s.httpPort
  debug := s.debug
  trace := s.trace
  accounts := .ofList ((s.accounts.getD []).map fun a => (a.name, ⟨a.users, a.jetstream⟩))
  authorization := s.authorization.map fun a => ⟨a.token, a.user, a.password, a.users, none⟩
  noAuthUser := s.noAuthUser
  systemAccount := s.systemAccount
  operators := s.operators.getD []
  jetstream := s.jetstream

/-- The options of the collector, if metrics are collected. -/
def collectorOptions (s : Settings) : Except SettingsFault (Option CollectorOptions) :=
  match s.metrics with
  | none => .ok none
  | some m =>
    match s.httpPort with
    | none => .error .metricsWithoutPort
    | some port =>
      match m.label.filter (· ≠ "") <|> (some s.name).filter (· ≠ "") with
      | none => .error .metricsWithoutLabel
      | some label => .ok (some {
          label
          url := (m.url.filter (· ≠ "")).getD ("http://localhost:" ++ toString port.toNat)
          interval := ((m.interval.filter (0 < ·)).map fun n => seconds n.toNat).getD
            CollectorOptions.defaultInterval })

/-- The policies of all accounts, in their order. -/
def policies (s : Settings) : List Policy :=
  (s.accounts.getD []).flatMap fun a => a.policies.map (PolicySetting.build a.name)

/-- The flows of all accounts, in their order. -/
def flows (s : Settings) : List AccountFlow :=
  (s.accounts.getD []).flatMap fun a => a.flows.map fun flow => ⟨a.name, flow⟩

/-- The key of an account's seed. -/
def readSigningKey (seed : String) : Except SettingsFault Nkey.KeyPair := do
  let key ← (Nkey.KeyPair.ofSeedText seed).mapError .signingKey
  if key.publicText.toList.head? ≠ some 'A' then throw .signingKeyKind
  return key

/-- What may make secrets, and may fail. The secrets are what they are by then, in either case. -/
abbrev Making (α : Type) := ExceptT SettingsFault (StateM Secrets) α

/-- Who signs the answers: the keys, if they are here, and the public key that the engine trusts. -/
def signers (c : CalloutSettings) : Making (Option KeyResolver × String) := do
  let key ← (c.signingKey.mapM readSigningKey : Except SettingsFault _)
  let store := c.keyStore.map (·.build)
  match key, store, c.issuer with
  | none, none, some issuer => return (none, issuer)
  | none, none, none =>
    let keys := KeyResolver.ofKey (← modifyGet (·.signingKey))
    return (some keys, keys.issuer)
  | key, store, issuer =>
    let issuer := (issuer <|> key.map (·.publicText)).getD ""
    let keys ← (KeyResolver.new key store issuer).mapError SettingsFault.keys
    return (some keys, keys.issuer)

/-- The engine options with a callout to an account. -/
def addCallout (o : EngineOptions) (c : CalloutSettings) (account issuer : String) :
    EngineOptions :=
  let accounts :=
    if account ≠ globalAccount ∨ !o.accounts.isEmpty then
      o.accounts.insert account ((o.accounts.get? account).getD .empty)
    else o.accounts
  let authorization := { o.authorization.getD .empty with
    callout := some ⟨issuer, c.users, account, c.curveKey⟩ }
  { o with accounts, authorization := some authorization }

/-- The issuer of a callout. -/
def issuerOf (c : CalloutSettings) (policies : List Policy) (keys : KeyResolver) : Issuer where
  keys
  policies
  queueGroup := (c.queueGroup.filter (· ≠ "")).getD Issuer.defaultQueueGroup

/-- What a generation needs to start. -/
def plan (s : Settings) : Making Provisioned := do
  s.validate
  let engine := s.engineOptions
  let collector ← s.collectorOptions
  let base : Provisioned := ⟨!s.disabled, engine, collector, none, s.flows⟩
  match s.callout, s.authAccount with
  | some c, some account =>
    let (keys, issuer) ← signers c
    let auth : AuthPlan := ⟨account, keys.map (issuerOf c s.policies), s.policies⟩
    return { base with engine := addCallout engine c account issuer, auth := some auth }
  | _, _ => return base

/-- What a generation needs to start, and the secrets after it was asked for. -/
def provision (s : Settings) (secrets : Secrets) : Except ConfigError Provisioned × Secrets :=
  let (outcome, secrets) := s.plan secrets
  (outcome.mapError .invalid, secrets)

end Settings

/-! ## Calls for secrets -/

/-- A call that may need a secret. -/
inductive SecretCall
  | provision (s : Settings)
  | bootstrapUser

/-- What is made when it is first asked for. -/
inductive SecretKind
  /-- The key that signs where none is configured. -/
  | signing
  | bootstrap
  deriving DecidableEq, Repr

namespace Secrets

/-- The seed of a secret, if it was made. -/
def seed? (x : Secrets) : SecretKind → Option Bytes
  | .signing => x.signing
  | .bootstrap => x.bootstrap

/-- The secrets after a call. -/
def serve (x : Secrets) : SecretCall → Secrets
  | .provision s => (s.provision x).2
  | .bootstrapUser => x.bootstrapUser.2

/-- The secrets after calls, one after the other. -/
def serveAll (x : Secrets) (calls : List SecretCall) : Secrets := calls.foldl serve x

/-- What a call makes: all that has another seed after it. -/
def made (x : Secrets) (c : SecretCall) : List SecretKind :=
  [.signing, .bootstrap].filter fun kind => (x.serve c).seed? kind ≠ x.seed? kind

/-- What calls make, one after the other. -/
def madeBy (x : Secrets) : List SecretCall → List SecretKind
  | [] => []
  | c :: calls => x.made c ++ (x.serve c).madeBy calls

end Secrets

end CalloutHost
