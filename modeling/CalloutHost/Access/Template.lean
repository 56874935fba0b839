import CalloutHost.Access.Placeholder
import CalloutHost.Claims.User

/-!
# User templates

A template sets some fields of user claims and leaves the others as they are. Texts in it are
expanded for the request at hand.
-/

namespace CalloutHost

/-- What is to be set in user claims. -/
structure UserTemplate where
  publish : Option SubjectRule
  subscribe : Option SubjectRule
  reply : Option ReplyRule
  subscriptions : Option Int64
  data : Option Int64
  payload : Option Int64
  /-- The networks it may come from. -/
  sources : Option (List String)
  /-- The place whose clock counts. -/
  timeZone : Option String
  connectionTypes : Option (List String)
  /-- The token alone is to be enough to connect. -/
  bearer : Bool
  deriving DecidableEq, Repr

namespace UserTemplate

/-- Nothing is set. -/
def empty : UserTemplate := ⟨none, none, none, none, none, none, none, none, none, false⟩

/-- The form of a template. -/
def record : Json.Record UserTemplate where
  title := "UserTemplate"
  fields :=
    [.optional "pub" (.option SubjectRule.record.codec) (·.isNone) (·.publish)
       (fun x t => { t with publish := x }),
     .optional "sub" (.option SubjectRule.record.codec) (·.isNone) (·.subscribe)
       (fun x t => { t with subscribe := x }),
     .optional "resp" (.option ReplyRule.record.codec) (·.isNone) (·.reply)
       (fun x t => { t with reply := x }),
     .optional "subs" (.option .int64) (·.isNone) (·.subscriptions)
       (fun x t => { t with subscriptions := x }),
     .optional "data" (.option .int64) (·.isNone) (·.data) (fun x t => { t with data := x }),
     .optional "payload" (.option .int64) (·.isNone) (·.payload)
       (fun x t => { t with payload := x }),
     .optional "src" (.option (.list .text)) (·.isNone) (·.sources)
       (fun x t => { t with sources := x }),
     .optional "times_location" (.option .text) (·.isNone) (·.timeZone)
       (fun x t => { t with timeZone := x }),
     .optional "allowed_connection_types" (.option (.list .text)) (·.isNone) (·.connectionTypes)
       (fun x t => { t with connectionTypes := x }),
     .defaulted "bearer_token" .boolean (·.bearer) (fun x t => { t with bearer := x })]
  initial := empty
  strict := false

/-- The texts, each expanded; unknown groups stay. -/
def expandAll (request : AuthRequest) (texts : List String) : List String :=
  texts.map (Placeholder.expand request false)

/-- The rule with all its subjects expanded. -/
def expandRule (request : AuthRequest) (rule : SubjectRule) : SubjectRule :=
  ⟨expandAll request rule.allow, expandAll request rule.deny⟩

/-- The permissions with what the template sets. -/
def applyPermissions (t : UserTemplate) (request : AuthRequest) (p : Permissions) :
    Permissions where
  publish := (t.publish.map (expandRule request)).getD p.publish
  subscribe := (t.subscribe.map (expandRule request)).getD p.subscribe
  reply := t.reply <|> p.reply

/-- The limits with what the template sets. -/
def applyLimits (t : UserTemplate) (request : AuthRequest) (l : Limits) : Limits where
  sources := (t.sources.map (expandAll request)).getD l.sources
  times := l.times
  timeZone := (t.timeZone.map (Placeholder.expand request false)).getD l.timeZone
  subscriptions := t.subscriptions.getD l.subscriptions
  data := t.data.getD l.data
  payload := t.payload.getD l.payload

/-- The user with what the template sets. -/
def apply (t : UserTemplate) (request : AuthRequest) (u : User) : User where
  permissions := t.applyPermissions request u.permissions
  limits := t.applyLimits request u.limits
  bearer := u.bearer || t.bearer
  connectionTypes := (t.connectionTypes.map (expandAll request)).getD u.connectionTypes
  issuerAccount := u.issuerAccount
  descriptor := u.descriptor

/-- The claims with what the template sets. -/
def render (t : UserTemplate) (request : Claims AuthRequest) (c : Claims User) : Claims User where
  registered := c.registered
  body := t.apply request.body c.body

end UserTemplate

end CalloutHost
