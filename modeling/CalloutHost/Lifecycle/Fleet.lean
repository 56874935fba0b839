import CalloutHost.Lifecycle.Server
import CalloutHost.Lifecycle.World
import Mathlib.Logic.Function.Basic

/-!
# Servers that share a process

Any number of servers may share a process. Each is told for itself to provision, to start or to
stop, in any order, and does so or refuses; they meet only in the process.

While one server is stopped another may be provisioned and started (`Overlap`). Nothing keeps the
two apart: the actions of either may come between any two actions of the other. What has happened is
noted, so that it can be told who did what, and when.
-/

namespace CalloutHost

/-- What a server is told. -/
inductive ServerCommand
  | provision
  | start
  | stop
  deriving DecidableEq, Repr

/-- Does what it is told, successfully or not. -/
def Server.obey (s : Server) : ServerCommand → Program Server
  | .provision => do return (← s.provision).2
  | .start => do return (← s.start).2
  | .stop => s.stop

/-- What one of the servers is told. -/
structure FleetCommand where
  server : Nat
  what : ServerCommand
  deriving DecidableEq, Repr

/-- What a server was told last. -/
def FleetCommand.last (commands : List FleetCommand) (i : Nat) : Option ServerCommand :=
  (commands.filter (·.server = i)).getLast?.map (·.what)

/-- A process and the servers in it. -/
structure Fleet (σ : Type) where
  servers : Nat → Server
  world : World σ

namespace Fleet

variable {σ : Type}

/-- Servers that have done nothing, in a process in which nothing has happened. -/
def new (outside : σ) (supply : SeedSupply) (patience : Nanoseconds) (settings : Nat → Settings) :
    Fleet σ where
  servers i := .new (settings i)
  world := .new outside supply patience

variable [Outside σ]

/-- One of the servers does what it is told. -/
def obey (f : Fleet σ) (c : FleetCommand) : Fleet σ :=
  let (s, world) := f.world.run ((f.servers c.server).obey c.what)
  { servers := Function.update f.servers c.server s, world }

/-- The servers do what they are told, one command after the other. -/
def obeyAll (f : Fleet σ) (commands : List FleetCommand) : Fleet σ := commands.foldl obey f

/-- Whether a command makes a server capture a generation. It does so when it is told to provision
and was not provisioned before, even if its settings turn out to be no good. -/
def captures (f : Fleet σ) (c : FleetCommand) : Bool :=
  c.what = .provision ∧ (f.servers c.server).state = .unprovisioned

/-- The generations that are captured, in their order. -/
def captured (f : Fleet σ) : List FleetCommand → List Generation
  | [] => []
  | c :: commands =>
    let g := f.obey c
    (if f.captures c then (g.servers c.server).generation.toList else []) ++ g.captured commands

end Fleet

/-! ## Servers that change over -/

/-- The two servers that change over. -/
inductive Party
  | leaving
  | coming
  deriving DecidableEq

namespace Server

/-- Stops the server. -/
def leave (s : Server) : Program (Except ServerError Unit × Server) := do return (.ok (), ← s.stop)

/-- Provisions the server, successfully or not, and starts it. -/
def come (s : Server) : Program (Except ServerError Unit × Server) := do
  let (_, s) ← s.provision
  s.start

end Server

/-- A process and two servers that change over in it. -/
structure Overlap (σ : Type) where
  world : World σ
  /-- What is left to do for each server, or how it ended. -/
  rest : Party → Program (Except ServerError Unit × Server)
  /-- What has happened, in order. -/
  past : List (Party × Action)

namespace Action

/-- An action that empties the slot of this kind of services. -/
def empties : ServiceKind → Action → Bool
  | .engine, .takeEngine => true
  | .collector, .takeCollector => true
  | _, _ => false

/-- An action that looks into the slot of this kind of services, or puts one there. -/
def visits : ServiceKind → Action → Bool
  | .engine, .currentEngine => true
  | .engine, .installEngine _ => true
  | .collector, .currentCollector => true
  | .collector, .installCollector _ => true
  | _, _ => false

/-- An action that captures a generation. -/
def captures : Action → Bool
  | .capture => true
  | _ => false

/-- An action that asks whether a generation is the latest. -/
def asks : Action → Bool
  | .isCurrent _ => true
  | _ => false

end Action

namespace Overlap

variable {σ : Type}

/-- Neither server has done anything yet. -/
def new (world : World σ) (leaving coming : Server) : Overlap σ where
  world
  rest
    | .leaving => leaving.leave
    | .coming => coming.come
  past := []

/-- Whether the slot was emptied for the server that is stopped, after the other one had looked into
it, or put something there, for the last time. -/
def emptied (x : Overlap σ) (k : ServiceKind) : Bool :=
  x.past.foldl
    (fun emptied (party, a) =>
      match party with
      | .leaving => emptied || a.empties k
      | .coming => emptied && !a.visits k)
    false

/-- Whether the server that is provisioned has captured its generation, and whether the other one
has asked only afterwards whether its own is the latest. -/
def questions (x : Overlap σ) : Bool × Bool :=
  x.past.foldl
    (fun (captured, late) (party, a) =>
      match party with
      | .leaving => (captured, late && (captured || !a.asks))
      | .coming => (captured || a.captures, late))
    (false, true)

variable [Outside σ]

/-- The next action for one of the servers. -/
def step (x : Overlap σ) (party : Party) : Overlap σ :=
  match x.rest party with
  | .done _ => x
  | .act a next =>
    let (answer, world) := x.world.exec a
    { world
      rest := Function.update x.rest party (next answer)
      past := x.past ++ [(party, a)] }

/-- The servers take turns, in any order. -/
def run (x : Overlap σ) (turns : List Party) : Overlap σ := turns.foldl step x

end Overlap

end CalloutHost
