import CalloutHost.Lifecycle.Interleave
import CalloutHost.Lifecycle.Supervision
import CalloutHost.Lifecycle.World
import Mathlib.Logic.Function.Basic

/-!
# Supervision with many callers

Any number of calls to the supervision may be in progress at the same time. A call takes one action
after the other, and the actions of others may come between any two of them. An engine is waited for
by those only who have been given it, by a call or by a look into the slot.
-/

namespace CalloutHost

/-- A call to the supervision. -/
inductive SupervisorCall
  | ensureEngine (o : EngineOptions)
  | awaitEngine (e : Nat)
  | shutdownEngine
  | ensureCollector (o : CollectorOptions)
  | shutdownCollector

namespace SupervisorCall

/-- What the call is about. -/
def kind : SupervisorCall → ServiceKind
  | .ensureEngine _ | .awaitEngine _ | .shutdownEngine => .engine
  | .ensureCollector _ | .shutdownCollector => .collector

/-- What a call does. It ends with the engine that it has given to its caller. -/
def program : SupervisorCall → Program (Option Nat)
  | .ensureEngine o => do return (← Supervision.ensureEngine o).toOption
  | .awaitEngine e => do
    let _ ← Supervision.awaitEngine e
    return none
  | .shutdownEngine => do
    Supervision.shutdownEngine
    return none
  | .ensureCollector o => do
    let _ ← Supervision.ensureCollector o
    return none
  | .shutdownCollector => do
    Supervision.shutdownCollector
    return none

end SupervisorCall

/-- A call that is in progress. -/
structure OngoingCall where
  call : SupervisorCall
  rest : Program (Option Nat)

/-- A process and the calls to its supervision. -/
structure Supervised (σ : Type) where
  world : World σ
  /-- The calls that are in progress, by the places where they were made. -/
  calls : Nat → Option OngoingCall
  /-- The engines that callers have been given. -/
  given : List Nat

/-- What happens next. -/
inductive SupervisedStep
  /-- A call is made at a place. -/
  | begin (place : Nat) (call : SupervisorCall)
  /-- The call at a place takes its next action. -/
  | proceed (place : Nat)
  /-- Somebody looks which engine serves. -/
  | look

namespace Supervised

variable {σ : Type}

/-- Nobody has called yet, in a process in which nothing has happened. -/
def new (outside : σ) (supply : SeedSupply) (patience : Nanoseconds) : Supervised σ where
  world := .new outside supply patience
  calls _ := none
  given := []

/-- Whether a call can be made: an engine that is waited for must have been given to somebody. -/
def allows (s : Supervised σ) : SupervisorCall → Bool
  | .awaitEngine e => s.given.contains e
  | _ => true

/-- A call has come this far. It is over when nothing is left of it. -/
def put (s : Supervised σ) (place : Nat) (call : SupervisorCall)
    (rest : Program (Option Nat)) : Supervised σ :=
  { s with
    calls := Function.update s.calls place
      (if rest.result?.isSome then none else some ⟨call, rest⟩)
    given := rest.result?.join.toList ++ s.given }

variable [Outside σ]

/-- One step: there is one call at a place at most, and what cannot happen does not. -/
def step (s : Supervised σ) : SupervisedStep → Supervised σ
  | .begin place call =>
    if (s.calls place).isNone && s.allows call then s.put place call call.program else s
  | .proceed place =>
    match s.calls place with
    | some ⟨call, .act a next⟩ =>
      let (answer, world) := s.world.exec a
      { s with world }.put place call (next answer)
    | _ => s
  | .look => { s with given := s.world.engineSlot.holder.toList ++ s.given }

/-- One step after the other. -/
def run (s : Supervised σ) (steps : List SupervisedStep) : Supervised σ := steps.foldl step s

end Supervised

/-- Whether an action puts a service into the slot or stops it. -/
def Action.disposes : ServiceKind → Nat → Action → Bool
  | .engine, x, .installEngine e => e = x
  | .engine, x, .shutdownEngine e => e = x
  | .collector, x, .installCollector c => c = x
  | .collector, x, .stopCollector c => c = x
  | _, _, _ => false

/-- Whatever is answered, the program puts this service into the slot or stops it before it ends. -/
def Program.Disposes {α : Type} (k : ServiceKind) (x : Nat) : Program α → Prop
  | .done _ => False
  | .act a next => a.disposes k x = true ∨ ∀ answer, (next answer).Disposes k x

end CalloutHost
