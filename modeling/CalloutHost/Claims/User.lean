import CalloutHost.Claims.Basic

/-!
# User claims

What a user may do: on which subjects it may publish and subscribe, whether it may reply, from
where, when and how much, and how it may connect. An account key signs user claims.
-/

namespace CalloutHost

/-- The subjects that are open and those that are closed. -/
structure SubjectRule where
  allow : List String
  deny : List String
  deriving DecidableEq, Repr

namespace SubjectRule

/-- No rule. -/
def empty : SubjectRule := ⟨[], []⟩

/-- Whether nothing is said. -/
def isEmpty (rule : SubjectRule) : Bool := rule.allow.isEmpty && rule.deny.isEmpty

/-- The form of a rule. -/
def record : Json.Record SubjectRule where
  title := "Permission"
  fields :=
    [.optional "allow" (.list .text) (·.isEmpty) (·.allow) (fun x r => { r with allow := x }),
     .optional "deny" (.list .text) (·.isEmpty) (·.deny) (fun x r => { r with deny := x })]
  initial := empty
  strict := false

end SubjectRule

/-- How far a user may reply to what it received. -/
structure ReplyRule where
  count : Int64
  /-- How long it may reply, in nanoseconds. -/
  duration : Int64
  deriving DecidableEq, Repr

/-- The form of a rule for replies. -/
def ReplyRule.record : Json.Record ReplyRule where
  title := "ResponsePermission"
  fields :=
    [.defaulted "max" .int64 (·.count) (fun x r => { r with count := x }),
     .defaulted "ttl" .int64 (·.duration) (fun x r => { r with duration := x })]
  initial := ⟨0, 0⟩
  strict := false

/-- On which subjects a user may act. -/
structure Permissions where
  publish : SubjectRule
  subscribe : SubjectRule
  reply : Option ReplyRule
  deriving DecidableEq, Repr

namespace Permissions

/-- No rule. -/
def empty : Permissions := ⟨.empty, .empty, none⟩

/-- The fields; rules that say nothing are left out. -/
def fields : List (Json.Field Permissions) :=
  [.optional "pub" SubjectRule.record.codec (·.isEmpty) (·.publish)
     (fun x p => { p with publish := x }),
   .optional "sub" SubjectRule.record.codec (·.isEmpty) (·.subscribe)
     (fun x p => { p with subscribe := x }),
   .optional "resp" (.option ReplyRule.record.codec) (·.isNone) (·.reply)
     (fun x p => { p with reply := x })]

end Permissions

/-- A range of times of the day. -/
structure TimeRange where
  first : String
  last : String
  deriving DecidableEq, Repr

/-- The form of a range of times. -/
def TimeRange.record : Json.Record TimeRange where
  title := "TimeRange"
  fields :=
    [.required "start" .text (·.first) (fun x t => { t with first := x }),
     .required "end" .text (·.last) (fun x t => { t with last := x })]
  initial := ⟨"", ""⟩
  strict := false

/-- From where, when and how much a user may do. -/
structure Limits where
  sources : List String
  times : List TimeRange
  /-- The place whose clock counts. -/
  timeZone : String
  subscriptions : Int64
  data : Int64
  payload : Int64
  deriving DecidableEq, Repr

namespace Limits

/-- The number that stands for no limit. -/
def unlimited : Int64 := -1

/-- Nothing is limited. -/
def none : Limits := ⟨[], [], "", unlimited, unlimited, unlimited⟩

/-- The fields. -/
def fields : List (Json.Field Limits) :=
  [.optional "src" (.list .text) (·.isEmpty) (·.sources) (fun x l => { l with sources := x }),
   .optional "times" (.list TimeRange.record.codec) (·.isEmpty) (·.times)
     (fun x l => { l with times := x }),
   .optional "times_location" .text (·.isEmpty) (·.timeZone) (fun x l => { l with timeZone := x }),
   .defaulted "subs" .int64 (·.subscriptions) (fun x l => { l with subscriptions := x }),
   .defaulted "data" .int64 (·.data) (fun x l => { l with data := x }),
   .defaulted "payload" .int64 (·.payload) (fun x l => { l with payload := x })]

end Limits

/-- What a user may do. -/
structure User where
  permissions : Permissions
  limits : Limits
  /-- The token alone is enough to connect. -/
  bearer : Bool
  /-- How it may connect; any way if empty. -/
  connectionTypes : List String
  issuerAccount : String
  descriptor : Descriptor
  deriving DecidableEq, Repr

namespace User

/-- Nothing is permitted in particular and nothing limited. -/
def blank : User := ⟨.empty, .none, false, [], "", .empty⟩

/-- The form of the body of user claims. -/
def layout : Json.FlatRecord User where
  title := "User"
  parts :=
    [.spread (Permissions.fields.map
       (.within (·.permissions) fun x u => { u with permissions := x })),
     .spread (Limits.fields.map (.within (·.limits) fun x u => { u with limits := x })),
     .own (.optional "bearer_token" .boolean (!·) (·.bearer) fun x u => { u with bearer := x }),
     .own (.optional "allowed_connection_types" (.list .text) (·.isEmpty) (·.connectionTypes)
       fun x u => { u with connectionTypes := x }),
     .own (.optional "issuer_account" .text (·.isEmpty) (·.issuerAccount)
       fun x u => { u with issuerAccount := x }),
     .spread (Descriptor.fields.map (.within (·.descriptor) fun x u => { u with descriptor := x }))]
  initial := blank

instance : ClaimBody User where
  typeName := "user"
  signerLetter := 'A'
  blank := blank
  descriptor := User.descriptor
  describe x u := { u with descriptor := x }
  codec := layout.codec

end User

end CalloutHost
