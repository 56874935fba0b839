import CalloutHost.Json.Record
import CalloutHost.Messaging.Memory

/-!
# Flows

A flow moves messages in the background. There is one kind: it publishes every message of a subject
again on another one, payload and headers as they are.
-/

namespace CalloutHost

/-- A flow as it is configured. -/
inductive Flow
  /-- Publishes what comes on one subject on another. -/
  | republish (source target : String)
  deriving DecidableEq, Repr

namespace Flow

/-- The name of its kind. -/
def name : Flow → String
  | .republish _ _ => "republish"

/-- The fields of a republishing flow. -/
def republishFields : Json.Record (String × String) where
  title := "FlowConfig::Republish"
  fields :=
    [.required "from" .text (·.1) (fun x p => (x, p.2)),
     .required "to" .text (·.2) (fun x p => (p.1, x))]
  initial := ("", "")
  strict := false

/-- The forms of a flow. -/
def union : Json.Union Flow where
  title := "FlowConfig"
  tagName := "type"
  forms :=
    [.ofRecord "republish" republishFields (fun p => .republish p.1 p.2) fun
      | .republish source target => some (source, target)]

/-- Where a flow listens. -/
def subscription : Flow → Subscription
  | .republish source _ => ⟨source, none⟩

/-- What a flow publishes for a message. -/
def react : Flow → Message → Option Message
  | .republish _ target, m => some ⟨target, none, m.headers, m.payload⟩

/-- A flow that begins over a client. -/
def start (flow : Flow) (client : MemoryClient) : ListenTask := .start client flow.subscription

/-- A step of a flow. -/
def step (flow : Flow) (t : ListenTask) (event : ListenTask.Event) : ListenTask :=
  t.step flow.react event

/-- A run of a flow that begins over a client. -/
def run (flow : Flow) (client : MemoryClient) (events : List ListenTask.Event) : ListenTask :=
  (flow.start client).run flow.react events

end Flow

end CalloutHost
