import CalloutHost.Text.Quoted

/-!
# Credentials of a client

How a client says who it is when it connects, and where it connects to. What is shown of them in a
log has no secrets.
-/

namespace CalloutHost

/-- How a client says who it is. -/
inductive Credentials
  | password (user password : String)
  | token (token : String)
  | anonymous
  deriving DecidableEq, Repr

namespace Credentials

/-- The name of the method. -/
def method : Credentials → String
  | .password _ _ => "user/password"
  | .token _ => "token"
  | .anonymous => "none"

/-- What may be shown of them in a log. -/
def redacted : Credentials → String
  | .password user _ =>
    "UserPassword \x7b user: " ++ Text.quoted user ++ ", password: " ++ Text.quoted "***" ++ " \x7d"
  | .token _ => "Token(" ++ Text.quoted "***" ++ ")"
  | .anonymous => "None"

end Credentials

/-- What a client needs to connect. -/
structure ClientSettings where
  servers : List String
  credentials : Credentials
  name : Option String
  deriving DecidableEq, Repr

/-- Why a client does not connect. -/
inductive ConnectError
  | noServers
  | unreachable (servers : List String)
  deriving DecidableEq, Repr

/-- The text of an error. -/
def ConnectError.message : ConnectError → String
  | .noServers => "no NATS servers configured"
  | .unreachable servers => "NATS servers " ++ Text.quotedList servers ++ " unreachable"

namespace ClientSettings

/-- A client without a name that does not say who it is. -/
def ofUrl (url : String) : ClientSettings := ⟨[url], .anonymous, none⟩

/-- What may be shown of them in a log. -/
def redacted (s : ClientSettings) : String :=
  let name := match s.name with
    | some name => "Some(" ++ Text.quoted name ++ ")"
    | none => "None"
  "NatsConfig \x7b servers: " ++ Text.quotedList s.servers ++ ", auth: " ++
    s.credentials.redacted ++ ", name: " ++ name ++ " \x7d"

/-- Connects, where some servers can be reached. -/
def connect (reachable : String → Bool) (s : ClientSettings) : Except ConnectError Unit :=
  if s.servers = [] then .error .noServers
  else if s.servers.any reachable then .ok ()
  else .error (.unreachable s.servers)

end ClientSettings

end CalloutHost
