import CalloutHost.Lifecycle.Supervision

/-!
# Servers and their host

A server is one generation of settings: it is provisioned, started and stopped. Only the server of
the latest generation takes the engine and the collector down when it stops.

The host runs one server at a time. A reload starts a server for the new settings before the old
one stops; if that fails, the old settings are started again, as a generation of their own.
-/

namespace CalloutHost

/-- How far a server has come. -/
inductive ServerState
  | unprovisioned
  /-- It was provisioned, to run or not. -/
  | provisioned (enabled : Bool)
  | started
  | stopped
  deriving DecidableEq, Repr

/-- The name of a state. -/
def ServerState.text : ServerState → String
  | .unprovisioned => "unprovisioned"
  | .provisioned true => "provisioned"
  | .provisioned false => "disabled"
  | .started => "started"
  | .stopped => "stopped"

/-- A server. -/
structure Server where
  settings : Settings
  state : ServerState
  /-- Its generation, once it was captured. -/
  generation : Option Generation
  /-- What it needs to start, once it was provisioned. -/
  plan : Option Provisioned
  clients : List Nat

namespace Server

open Program (perform)

/-- A server that has done nothing. -/
def new (settings : Settings) : Server := ⟨settings, .unprovisioned, none, none, []⟩

/-- The refusal of an action in the present state. -/
def refuse (s : Server) (action : String) : ServerError := .invalidState action s.state.text

/-- Whether the server's generation is the latest. -/
def isCurrent (s : Server) : Program Bool :=
  match s.generation with
  | some g => perform (.isCurrent g)
  | none => return false

/-- Captures a generation and finds out what the settings need. -/
def provision (s : Server) : Program (Except ServerError Generation × Server) := do
  if s.state ≠ .unprovisioned then return (.error (s.refuse "provision"), s)
  let g ← perform .capture
  let s := { s with generation := some g }
  match ← perform (.provision s.settings) with
  | .error cause => return (.error (.config cause), s)
  | .ok plan => return (.ok g, { s with state := .provisioned plan.enabled, plan := some plan })

/-- Takes down the collector and the engine. -/
def takeDown : Program Unit := do
  Supervision.shutdownCollector
  Supervision.shutdownEngine

/-- Ends the work of the server's clients, and takes collector and engine down if no later
generation needs them. -/
def stop (s : Server) : Program Server := do
  if s.state = .stopped then return s
  perform (.closeClients s.clients)
  if s.state ≠ .unprovisioned then
    if ← s.isCurrent then takeDown
  return { s with state := .stopped, clients := [] }

/-- The credentials of the users of an account: there must be one user, or none at all. -/
def credentialsOf (account : String) : List EngineUser → Except ServerError Credentials
  | [] => .ok .anonymous
  | [user] => .ok (.password user.name user.password)
  | _ => .error (.noCredentials ("multiple users are configured for account " ++ account))

/-- The users that a client of an account may be: the account's, or else those of the
authorization. -/
def usersOf (o : EngineOptions) (account : String) : List EngineUser :=
  match o.accounts.get? account with
  | some a => a.users
  | none => ((o.authorization.map (·.users)).getD [])

/-- The credentials that the authorization has for all clients. -/
def sharedCredentials (a : EngineAuthorization) : Option Credentials :=
  match a.token, a.user, a.password with
  | some token, _, _ => some (.token token)
  | none, some user, some password => some (.password user password)
  | none, _, _ => none

/-- The credentials by which a client in the process reaches an account. -/
def credentials (s : Server) (account : String) : Program (Except ServerError Credentials) :=
  match s.plan with
  | none => return .error (s.refuse "authenticate against")
  | some plan =>
    let o := plan.engine
    if !o.operators.isEmpty then
      return .error (.noCredentials "trusted operators are configured")
    else if !o.hasAccount account then
      return .error (.noCredentials ("account " ++ account ++ " not found"))
    else if 1 < ((o.authorization.map (·.users)).getD []).length then
      return .error (.noCredentials "multiple users are configured")
    else match o.authorization.bind sharedCredentials with
      | some credentials => return .ok credentials
      | none =>
        if (plan.auth.bind (·.issuer)).isSome then do
          let token ← perform (.pinnedToken account)
          return .ok (.token token)
        else return credentialsOf account (usersOf o account)

/-- What the responder of a plan needs: the issuer and the account that answers. An engine that
trusts operators does not let the responder in. -/
def responder? (plan : Provisioned) : Option (Issuer × String) := do
  let auth ← plan.auth
  let issuer ← auth.issuer
  if plan.engine.operators.isEmpty then return (issuer, auth.account) else none

/-- Asks the engine for accounts, one after the other. -/
def lookupAll (e : Nat) : List String → Program (Except EngineFault Unit)
  | [] => return .ok ()
  | name :: names => do
    match ← perform (.lookupAccount e name) with
    | .ok () => lookupAll e names
    | .error fault => return .error fault

/-- The name by which the responder connects. -/
def responderName : String := "harbor-auth-callout"

/-- The name by which the flows of an account connect. -/
def flowName (account : String) : String := "harbor-flow-" ++ account

/-- Connects a client and adds it to the server's. -/
def connectClient (s : Server) (settings : ClientSettings) (worker : Worker) :
    Program (Except ServerError Unit × Server) := do
  match ← perform (.connect settings worker) with
  | .ok client => return (.ok (), { s with clients := s.clients ++ [client] })
  | .error cause => return (.error (.connect cause), s)

/-- Connects the responder, if there is one. -/
def connectResponder (s : Server) (url : String) :
    Option (Issuer × EngineUser) → Program (Except ServerError Unit × Server)
  | none => return (.ok (), s)
  | some (issuer, user) =>
    s.connectClient ⟨[url], .password user.name user.password, some responderName⟩
      (.responder issuer)

/-- Connects the flows, one after the other. -/
def connectFlows (s : Server) (url : String) :
    List AccountFlow → Program (Except ServerError Unit × Server)
  | [] => return (.ok (), s)
  | flow :: flows => do
    match ← s.credentials flow.account with
    | .error e => return (.error e, s)
    | .ok credentials =>
      match ← s.connectClient ⟨[url], credentials, some (flowName flow.account)⟩
          (.flow flow.flow) with
      | (.error e, s) => return (.error e, s)
      | (.ok (), s) => connectFlows s url flows

/-- The collector as the plan has it; where it has none, the latest generation stops it. -/
def attachCollector (s : Server) : Option CollectorOptions → Program (Except ServerError Unit)
  | some o => do
    match ← Supervision.ensureCollector o with
    | .ok _ => return .ok ()
    | .error cause => return .error (.collector cause)
  | none => do
    if ← s.isCurrent then Supervision.shutdownCollector
    return .ok ()

/-- What comes after the engine: it gets ready and has all accounts, the responder and the flows
connect, and the collector is as it should be. -/
def attach (s : Server) (plan : Provisioned) (e : Nat) (o : EngineOptions)
    (responder : Option (Issuer × EngineUser)) : Program (Except ServerError Unit × Server) := do
  match ← Supervision.awaitEngine e with
  | .error waited => return (.error (.notReady waited), s)
  | .ok () =>
  let accounts := o.accounts.toList.map (·.1) ++ (plan.auth.map (·.account)).toList
  match ← lookupAll e accounts with
  | .error fault => return (.error (.engine fault), s)
  | .ok () =>
  let url ← perform (.engineUrl e)
  match ← s.connectResponder url responder with
  | (.error e, s) => return (.error e, s)
  | (.ok (), s) =>
  match ← s.connectFlows url plan.flows with
  | (.error e, s) => return (.error e, s)
  | (.ok (), s) =>
  match ← s.attachCollector plan.collector with
  | .error e => return (.error e, s)
  | .ok () => return (.ok (), s)

/-- The responder with its user, and the engine options that let it in. -/
def prepare (plan : Provisioned) :
    Program (Option (Issuer × EngineUser) × EngineOptions) :=
  match responder? plan with
  | none => return (none, plan.engine)
  | some (issuer, account) => do
    let user ← perform .bootstrapUser
    return (some (issuer, user), plan.engine.withAuthUser account user)

/-- Starts a server that is to run. -/
def launch (s : Server) (plan : Provisioned) : Program (Except ServerError Unit × Server) := do
  let (responder, o) ← prepare plan
  match ← Supervision.ensureEngine o with
  | .error fault => return (.error (.engine fault), s)
  | .ok e =>
    match ← s.attach plan e o responder with
    | (.ok (), s) => return (.ok (), { s with state := .started })
    | (.error cause, s) => return (.error cause, ← s.stop)

/-- Starts a server. One that is disabled takes down what runs, if its generation is the latest. -/
def start (s : Server) : Program (Except ServerError Unit × Server) :=
  match s.state, s.plan with
  | .provisioned true, some plan => s.launch plan
  | .provisioned false, _ => do
    if ← s.isCurrent then takeDown
    return (.ok (), { s with state := .started })
  | _, _ => return (.error (s.refuse "start"), s)

end Server

/-! ## The host -/

/-- The host. -/
structure Host where
  current : Option Server

namespace Host

/-- Nothing runs. -/
def idle : Host := ⟨none⟩

/-- Provisions and starts a server. -/
def launch (settings : Settings) : Program (Except ServerError Unit × Server) := do
  match ← (Server.new settings).provision with
  | (.ok _, server) => server.start
  | (.error e, server) => return (.error e, server)

/-- Starts again with the settings that were in force, after the next server failed. -/
def restore (previous next : Server) : Program Host := do
  let (outcome, restored) ← launch previous.settings
  let _ ← next.stop
  let _ ← previous.stop
  match outcome with
  | .ok () => return ⟨some restored⟩
  | .error _ =>
    let _ ← restored.stop
    return idle

/-- Runs other settings. -/
def reload (h : Host) (settings : Settings) : Program (Except ServerError Unit × Host) := do
  match ← launch settings, h.current with
  | (.ok (), next), previous => do
    match previous with
    | some previous => let _ ← previous.stop
    | none => pure ()
    return (.ok (), ⟨some next⟩)
  | (.error e, next), none => do
    let _ ← next.stop
    return (.error e, idle)
  | (.error e, next), some previous => return (.error e, ← restore previous next)

/-- Runs settings. -/
def start (h : Host) (settings : Settings) : Program (Except ServerError Unit × Host) := do
  if h.current.isSome then h.reload settings
  else
    match ← launch settings with
    | (.ok (), server) => return (.ok (), ⟨some server⟩)
    | (.error e, server) =>
      let _ ← server.stop
      return (.error e, idle)

/-- Stops what runs. -/
def shutdown (h : Host) : Program Host := do
  match h.current with
  | some server =>
    let _ ← server.stop
    return idle
  | none => return h

end Host

end CalloutHost
