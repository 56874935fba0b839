import CalloutHost.Access.PinnedStore
import CalloutHost.Access.Policy
import CalloutHost.Access.SigningKeys
import CalloutHost.Claims.Authorization
import CalloutHost.Claims.Token
import CalloutHost.Messaging.Memory

/-!
# The issuer

The issuer answers authorization requests. A pinned token decides at once; otherwise the policies
do. Either the user's token or the reason why there is none goes into a response, which the auth
account's key signs. A payload that is no request gets no answer, and neither does one whose answer
cannot be signed.

The responder listens for requests, shares them with the others of its queue group, and sends the
issuer's answer to where the request wants replies. A request that wants none, or has no answer, is
passed over. The responder answers from the store of pinned tokens while others call the store, so
what happens to a `Service` is a list of events: something happens to the responder's client, or
someone takes a step on the store.
-/

namespace CalloutHost

/-- Why a user gets no token. -/
inductive IssueError
  | policy (cause : PolicyError)
  | key (cause : KeyError)
  | token (cause : TokenError)
  deriving DecidableEq, Repr

/-- The text of an error. -/
def IssueError.message : IssueError → String
  | .policy cause => cause.message
  | .key cause => cause.message
  | .token cause => cause.message

/-- What answers authorization requests. -/
structure Issuer where
  keys : KeyResolver
  policies : List Policy
  queueGroup : String

namespace Issuer

/-- The queue group where none is configured. -/
def defaultQueueGroup : String := "auth_callout"

/-- An issuer without policies. -/
def new (keys : KeyResolver) : Issuer := ⟨keys, [], defaultQueueGroup⟩

/-- The claims for the user of a request. -/
def decision (issuer : Issuer) (store : PinnedStore) (request : Claims AuthRequest) :
    Except IssueError (Claims User) :=
  match store.lookup request.body.connect.token with
  | some (account, claims) =>
    .ok { claims with registered :=
      { claims.registered with subject := request.body.userKey, audience := account } }
  | none => (Policy.evaluate request issuer.policies).mapError .policy

/-- The token for the user of a request. -/
def userToken (issuer : Issuer) (store : PinnedStore) (request : Claims AuthRequest) (now : Int) :
    Except IssueError String := do
  let claims ← issuer.decision store request
  let key ← (issuer.keys.resolve claims.registered.audience).mapError .key
  let (token, _) ← (claims.encode key now).mapError .token
  return token

/-- A response to a request. -/
def response (request : Claims AuthRequest) (outcome : Except IssueError String) :
    Claims AuthResponse :=
  let fresh : Claims AuthResponse := .new request.body.userKey
  { registered := { fresh.registered with audience := request.body.server.id }
    body := match outcome with
      | .ok jwt => { fresh.body with jwt }
      | .error cause => { fresh.body with error := cause.message } }

/-- The signed answer to a payload, if there is one. -/
def handle (issuer : Issuer) (store : PinnedStore) (payload : Bytes) (now : Int) :
    Option String := do
  let text ← Bytes.toText? payload
  let request ← (Claims.decode text now : Except TokenError (Claims AuthRequest)).toOption
  let answer := response request (issuer.userToken store request now)
  let key ← issuer.keys.resolveAuth.toOption
  let (token, _) ← (answer.encode key now).toOption
  return token

end Issuer

/-! ## The responder -/

/-- Where servers send their requests. -/
def requestSubject : String := "$SYS.REQ.USER.AUTH"

namespace Issuer

/-- Where the responder listens. -/
def subscription (issuer : Issuer) : Subscription := ⟨requestSubject, some issuer.queueGroup⟩

/-- What the responder publishes for a message. -/
def respond (issuer : Issuer) (store : PinnedStore) (now : Int) (m : Message) : Option Message := do
  let reply ← m.reply
  let jwt ← issuer.handle store m.payload now
  return ⟨reply, none, .empty, Bytes.ofText jwt⟩

/-- The responder of an issuer, begun over a client. -/
def serve (issuer : Issuer) (client : MemoryClient) : ListenTask :=
  .start client issuer.subscription

/-- A step of the responder. -/
def serveStep (issuer : Issuer) (store : PinnedStore) (now : Int) (t : ListenTask)
    (event : ListenTask.Event) : ListenTask :=
  t.step (issuer.respond store now) event

end Issuer

/-! ## The responder beside the callers of the store -/

/-- What happens to a responder and to the store that it reads. -/
inductive ServiceEvent
  | client (now : Int) (event : ListenTask.Event)
  | pins (e : PinnedStep)

/-- A responder and the store that it reads. -/
structure Service where
  task : ListenTask
  pins : SharedPins

namespace Issuer

/-- The responder of an issuer, begun over a client, beside a store. -/
def service (issuer : Issuer) (client : MemoryClient) (pins : SharedPins) : Service :=
  ⟨issuer.serve client, pins⟩

/-- A step of the responder or of the store. -/
def serviceStep (issuer : Issuer) (s : Service) : ServiceEvent → Service
  | .client now event => { s with task := issuer.serveStep s.pins.store now s.task event }
  | .pins e => { s with pins := (s.pins.step e).2 }

/-- A run of the responder and the store. -/
def serviceRun (issuer : Issuer) (s : Service) (events : List ServiceEvent) : Service :=
  events.foldl issuer.serviceStep s

end Issuer

end CalloutHost
