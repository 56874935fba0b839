import CalloutHost.Access.Template

/-!
# Policies

Policies are asked one after the other whether they decide on a request; the first that does not
say no decides. A policy that allows issues claims for an account, one that denies has a message,
and one whose question fails ends the search without a decision.
-/

namespace CalloutHost

/-- What a policy that refuses tells the client; it always tells something. -/
structure Denial where
  text : String
  text_ne : text ≠ ""
  deriving DecidableEq, Repr

namespace Denial

/-- What the client is told when no message is configured. -/
def default : Denial := ⟨"access denied", by decide⟩

/-- The configured message, if there is one that is not empty. -/
def ofMessage : Option String → Denial
  | some text => if h : text = "" then default else ⟨text, h⟩
  | none => default

end Denial

/-- A policy. -/
inductive Policy
  /-- Issues claims for an account, by a template if there is one. -/
  | allow (account : String) (template : Option UserTemplate)
  | deny (denial : Denial)
  | abstain
  /-- Fails when it is asked. -/
  | faulty (reason : String)
  deriving DecidableEq, Repr

/-- Why no claims are issued. -/
inductive PolicyError
  | noMatch
  | denied (message : String)
  | noAccount
  deriving DecidableEq, Repr

/-- The text of an error, as the client is told. -/
def PolicyError.message : PolicyError → String
  | .noMatch => "no matching policy"
  | .denied message => message
  | .noAccount => "no target account specified"

namespace Policy

/-- What a policy answers when it is asked. -/
inductive Vote
  | decides
  | passes
  | fails
  deriving DecidableEq, Repr

/-- Asks a policy. -/
def vote : Policy → Vote
  | .allow _ _ => .decides
  | .deny _ => .decides
  | .abstain => .passes
  | .faulty _ => .fails

/-- The claims that a template makes for the user of a request. -/
def issue (template : Option UserTemplate) (request : Claims AuthRequest) : Claims User :=
  let fresh : Claims User := .new request.body.userKey
  match template with
  | some template => template.render request fresh
  | none => fresh

/-- The decision of a policy. -/
def decide (request : Claims AuthRequest) : Policy → Except PolicyError (Claims User)
  | .allow account template =>
    let audience := Placeholder.expand request.body true account
    let user := issue template request
    if audience = "" then .error .noAccount
    else .ok { user with registered := { user.registered with audience } }
  | .deny denial => .error (.denied denial.text)
  | .abstain => .error .noMatch
  | .faulty reason => .error (.denied reason)

/-- The decision of the first policy that does not pass. -/
def evaluate (request : Claims AuthRequest) : List Policy → Except PolicyError (Claims User)
  | [] => .error .noMatch
  | policy :: rest =>
    match policy.vote with
    | .decides => policy.decide request
    | .passes => evaluate request rest
    | .fails => .error .noMatch

end Policy

/-- A policy as it is configured, for the account under which it stands. -/
inductive PolicySetting
  | allow (template : Option UserTemplate)
  | deny (message : Option String)
  deriving DecidableEq, Repr

namespace PolicySetting

/-- The policy for an account. -/
def build (account : String) : PolicySetting → Policy
  | .allow template => .allow account template
  | .deny message => .deny (.ofMessage message)

/-- The fields of a policy that allows. -/
def allowFields : Json.Record (Option UserTemplate) where
  title := "CalloutConfig::Allow"
  fields := [.defaulted "template" (.option UserTemplate.record.codec) id fun x _ => x]
  initial := none
  strict := false

/-- The fields of a policy that denies. -/
def denyFields : Json.Record (Option String) where
  title := "CalloutConfig::Deny"
  fields := [.defaulted "message" (.option .text) id fun x _ => x]
  initial := none
  strict := false

/-- The forms of a configured policy. -/
def union : Json.Union PolicySetting where
  title := "CalloutConfig"
  tagName := "module"
  forms :=
    [.ofRecord "allow" allowFields .allow fun
       | .allow template => some template
       | .deny _ => none,
     .ofRecord "deny" denyFields .deny fun
       | .allow _ => none
       | .deny message => some message]

/-- The form of a configured policy: a record with the one member `callout`. -/
def record : Json.Record PolicySetting where
  title := "PolicyConfig"
  fields := [.required "callout" union.codec id fun x _ => x]
  initial := .deny none
  strict := false

end PolicySetting

end CalloutHost
