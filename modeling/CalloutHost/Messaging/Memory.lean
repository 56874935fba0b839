import CalloutHost.Bytes
import CalloutHost.Dict

/-!
# A messaging client in memory

A message goes to a subject and may name a subject for replies. Its headers have one or more values
for each name.

The client lists its subscriptions and records what is published. A task listens on one subject and
publishes at most one message for each that it receives; it ends when it is cancelled, when its
subscription is closed, or at once if it cannot subscribe. A step runs until there is nothing left
to do, so a delivered message is answered within its step.
-/

namespace CalloutHost

/-- The values of each header. -/
abbrev Headers := Dict (List String)

namespace Headers

/-- Adds a value to those of a header. -/
def append (h : Headers) (name value : String) : Headers :=
  h.insert name ((h.get? name).getD [] ++ [value])

/-- The headers of a list of names and values. -/
def ofPairs (pairs : List (String × String)) : Headers :=
  pairs.foldl (fun h (name, value) => h.append name value) .empty

end Headers

/-- A message. -/
structure Message where
  subject : String
  reply : Option String
  headers : Headers
  payload : Bytes

/-- Why a task cannot listen. -/
structure SubscribeError where
  subject : String
  reason : String
  deriving DecidableEq, Repr

/-- The text of an error. -/
def SubscribeError.message (e : SubscribeError) : String :=
  "failed to subscribe to " ++ e.subject ++ ": " ++ e.reason

/-- A subscription, as the client lists it. -/
structure Subscription where
  subject : String
  queueGroup : Option String
  deriving DecidableEq, Repr

/-- A client that keeps everything in memory. -/
structure MemoryClient where
  refusing : Bool
  /-- So many publishes are still to fail. -/
  failures : Nat
  /-- The subscriptions that were not closed. -/
  subscriptions : List Subscription
  published : List Message

namespace MemoryClient

/-- A client that has done nothing. -/
def new (refusing : Bool) : MemoryClient := ⟨refusing, 0, [], []⟩

/-- Adds a subscription. -/
def subscribe (c : MemoryClient) (s : Subscription) : Except SubscribeError MemoryClient :=
  if c.refusing then .error ⟨s.subject, "subscribe to " ++ s.subject ++ " refused"⟩
  else .ok { c with subscriptions := c.subscriptions ++ [s] }

/-- Publishes a message, or fails to. -/
def publish (c : MemoryClient) (m : Message) : MemoryClient :=
  match c.failures with
  | 0 => { c with published := c.published ++ [m] }
  | n + 1 => { c with failures := n }

/-- How many subscriptions there are on a subject. -/
def count (c : MemoryClient) (subject : String) : Nat :=
  c.subscriptions.countP (·.subject = subject)

end MemoryClient

/-- A task that listens. -/
structure ListenTask where
  client : MemoryClient
  /-- How it ended, if it did. -/
  outcome : Option (Except SubscribeError Unit)

namespace ListenTask

/-- What happens to a task. -/
inductive Event
  | deliver (m : Message)
  /-- The next publishes are to fail. -/
  | failPublishes (count : Nat)
  | close
  | cancel

/-- A task that begins with a subscription. -/
def start (c : MemoryClient) (s : Subscription) : ListenTask :=
  match c.subscribe s with
  | .ok c => ⟨c, none⟩
  | .error e => ⟨c, some (.error e)⟩

/-- The task, ended if it has not ended before. -/
def finish (t : ListenTask) : ListenTask := { t with outcome := t.outcome <|> some (.ok ()) }

/-- How many subscriptions of a task a message on a subject reaches. -/
def reach (t : ListenTask) (subject : String) : Nat :=
  if t.outcome.isSome then 0 else t.client.count subject

/-- A step of a task that publishes what `react` gives for a message. -/
def step (react : Message → Option Message) (t : ListenTask) : Event → ListenTask
  | .deliver m =>
    if t.reach m.subject = 0 then t
    else match react m with
      | some out => { t with client := t.client.publish out }
      | none => t
  | .failPublishes count => { t with client := { t.client with failures := count } }
  | .close => { t with client := { t.client with subscriptions := [] } }.finish
  | .cancel => t.finish

/-- A run of a task. -/
def run (react : Message → Option Message) (t : ListenTask) (events : List Event) : ListenTask :=
  events.foldl (step react) t

end ListenTask

end CalloutHost
