import CalloutHost.Engine.Options
import CalloutHost.Messaging.Credentials
import CalloutHost.Metrics.Collector
import CalloutHost.Settings.Provision

/-!
# Programs

Every provisioning of settings captures a generation, one above all before it. The latest one owns
the engine and the collector.

What a server does to the process it lives in is a program: one action after the other, where each
may depend on the answers before it. An action is the smallest step that others can come between;
starting an engine takes two, so that others can come between its beginning and its end.
-/

namespace CalloutHost

/-- A generation of settings. -/
structure Generation where
  number : UInt64
  deriving DecidableEq, Repr

namespace Generation

/-- The order of two generations. -/
def compare (g h : Generation) : Ordering := Ord.compare g.number.toNat h.number.toNat

/-- The text of a generation. -/
def text (g : Generation) : String := toString g.number.toNat

end Generation

/-- Hands out generations. -/
structure Generations where
  /-- The number of the latest generation, zero if there is none. -/
  count : UInt64
  deriving DecidableEq, Repr

namespace Generations

/-- No generation was captured. -/
def new : Generations := ⟨0⟩

/-- The next generation. -/
def capture (g : Generations) : Generation × Generations := (⟨g.count + 1⟩, ⟨g.count + 1⟩)

/-- The latest generation. -/
def latest (g : Generations) : Option Generation := if g.count = 0 then none else some ⟨g.count⟩

/-- Whether a generation is the latest. -/
def isCurrent (g : Generations) (x : Generation) : Bool := g.count = x.number

end Generations

/-! ## Actions -/

/-- What a client is there for. -/
inductive Worker
  | responder (issuer : Issuer)
  | flow (flow : Flow)

/-- The smallest steps. Engines, collectors and clients are known by their numbers. -/
inductive Action
  | currentEngine
  | installEngine (e : Nat)
  /-- Empties the slot of the engine. -/
  | takeEngine
  /-- Empties the slot of the engine if it still holds this one. -/
  | releaseEngine (e : Nat)
  | createEngine (o : EngineOptions)
  | beginStart (e : Nat)
  /-- Ends the start of an engine. -/
  | finishStart (e : Nat)
  | reloadEngine (e : Nat) (o : EngineOptions)
  /-- Waits until an engine accepts connections. -/
  | awaitEngine (e : Nat)
  | lookupAccount (e : Nat) (name : String)
  | engineUrl (e : Nat)
  | shutdownEngine (e : Nat)
  | currentCollector
  | installCollector (c : Nat)
  /-- Empties the slot of the collector. -/
  | takeCollector
  /-- Empties the slot of the collector if it still holds this one. -/
  | releaseCollector (c : Nat)
  | createCollector (o : CollectorOptions)
  | startCollector (c : Nat)
  | reloadCollector (c : Nat) (o : CollectorOptions)
  | stopCollector (c : Nat)
  | capture
  | isCurrent (g : Generation)
  | provision (s : Settings)
  | bootstrapUser
  | pinnedToken (account : String)
  /-- Connects a client and sets it to work. -/
  | connect (s : ClientSettings) (w : Worker)
  /-- Ends the work of clients and closes them. -/
  | closeClients (clients : List Nat)

/-- What an action answers. -/
abbrev Action.Answer : Action → Type
  | .currentEngine => Option Nat
  | .installEngine _ => Option Nat
  | .takeEngine => Option Nat
  | .releaseEngine _ => Bool
  | .createEngine _ => Except EngineFault Nat
  | .beginStart _ => Unit
  | .finishStart _ => Except EngineFault Unit
  | .reloadEngine _ _ => Except EngineFault Unit
  | .awaitEngine _ => Except Nanoseconds Unit
  | .lookupAccount _ _ => Except EngineFault Unit
  | .engineUrl _ => String
  | .shutdownEngine _ => Unit
  | .currentCollector => Option Nat
  | .installCollector _ => Option Nat
  | .takeCollector => Option Nat
  | .releaseCollector _ => Bool
  | .createCollector _ => Except CollectorFault Nat
  | .startCollector _ => Except CollectorFault Unit
  | .reloadCollector _ _ => Except CollectorFault Unit
  | .stopCollector _ => Unit
  | .capture => Generation
  | .isCurrent _ => Bool
  | .provision _ => Except ConfigError Provisioned
  | .bootstrapUser => EngineUser
  | .pinnedToken _ => String
  | .connect _ _ => Except ConnectError Nat
  | .closeClients _ => Unit

/-- A program that ends with a result. -/
inductive Program (α : Type) : Type
  | done (result : α)
  | act (a : Action) (next : a.Answer → Program α)

namespace Program

/-- One program after another. -/
def bind {α β : Type} : Program α → (α → Program β) → Program β
  | .done a, f => f a
  | .act a next, f => .act a fun answer => bind (next answer) f

instance : Monad Program where
  pure := .done
  bind := bind

/-- The program of one action. -/
def perform (a : Action) : Program a.Answer := .act a .done

end Program

end CalloutHost
