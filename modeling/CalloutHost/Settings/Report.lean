import CalloutHost.Engine.Options
import CalloutHost.Settings.Provision

/-!
# Reports of settings

What is shown of settings and of what was made of them. Of a store of keys only the keys are shown.
-/

namespace CalloutHost

open Json (Value)

/-- Changes the value at a path of members. -/
def changeAt (change : Value → Value) : List String → Value → Value
  | [], v => change v
  | name :: path, .object members =>
    .object (members.map fun (key, v) => (key, if key = name then changeAt change path v else v))
  | _, v => v

/-- The value of a member. -/
def memberOf (name : String) : Value → Value
  | .object members => ((members.find? (·.1 = name)).map (·.2)).getD .null
  | _ => .null

/-- All settings. -/
def Settings.report (s : Settings) : Value :=
  changeAt (memberOf "keys") ["auth_callout", "signing_key_store"] (record.codec.write s)

/-- The options of a collector. -/
def CollectorOptions.report (o : CollectorOptions) : Value :=
  .object [("server_label", .string o.label), ("server_url", .string o.url),
    ("interval_ms", .string (toString (o.interval / milliseconds 1)))]

/-- A flow. -/
def AccountFlow.report (f : AccountFlow) : Value :=
  .object [("account", .string f.account), ("name", .string f.flow.name),
    ("flow", Flow.union.codec.write f.flow)]

/-- Where the key of the answers comes from. -/
def Issuer.identityName (issuer : Issuer) : String :=
  match issuer.keys.identity with
  | some (.fixed _) => "static"
  | some (.store _) => "store"
  | none => "none"

/-- An issuer. -/
def Issuer.report (issuer : Issuer) : Value :=
  .object [("queue_group", .string issuer.queueGroup), ("issuer", .string issuer.keys.issuer),
    ("identity", .string issuer.identityName)]

/-- How requests are answered. -/
def AuthPlan.report (a : AuthPlan) : Value :=
  .object [("account", .string a.account), ("policies", .integer a.policies.length),
    ("issuer", (a.issuer.map Issuer.report).getD .null)]

/-- What a generation starts with. -/
def Provisioned.report (p : Provisioned) : Value :=
  .object [("enabled", .boolean p.enabled), ("engine", p.engine.config),
    ("collector", (p.collector.map CollectorOptions.report).getD .null),
    ("flows", .array (p.flows.map AccountFlow.report)),
    ("auth", (p.auth.map AuthPlan.report).getD .null)]

end CalloutHost
