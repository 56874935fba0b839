import CalloutHost.Lifecycle.Program

/-!
# Supervision

The process has at most one engine and at most one collector that serve. Each is reused where it
takes the new options, replaced where it cannot take them while it runs, and left alone where it
refuses them for another reason.

A span of time in a message is written in the largest of the units second, millisecond, microsecond
and nanosecond that it reaches, with as many decimal places as it needs.
-/

namespace CalloutHost

namespace Duration

/-- The units, largest first: how many nanoseconds, their sign, and the decimal places that they
leave for smaller units. -/
def units : List (Nat × String × Nat) :=
  [(1000000000, "s", 9), (1000000, "ms", 6), (1000, "µs", 3), (1, "ns", 0)]

/-- The decimal places of a remainder, without the zeros behind the last other digit. -/
def places (width rest : Nat) : List Char :=
  let digits := Nat.toDigits 10 rest
  let padded := List.replicate (width - digits.length) '0' ++ digits
  (padded.reverse.dropWhile (· = '0')).reverse

/-- The text of a span of nanoseconds. -/
def text (n : Nat) : String :=
  let (size, sign, width) := (units.find? fun unit => unit.1 ≤ n).getD (1, "ns", 0)
  let fraction := if n % size = 0 then [] else '.' :: places width (n % size)
  toString (n / size) ++ String.ofList fraction ++ sign

end Duration

/-- What goes wrong in the life of a server. -/
inductive ServerError
  | config (cause : ConfigError)
  | engine (cause : EngineFault)
  | collector (cause : CollectorFault)
  /-- The engine does not get ready in time. -/
  | notReady (waited : Nanoseconds)
  | invalidState (action state : String)
  /-- There are no credentials for a client in the process. -/
  | noCredentials (reason : String)
  | connect (cause : ConnectError)
  deriving DecidableEq, Repr

/-- The text of an error. -/
def ServerError.message : ServerError → String
  | .config cause => cause.message
  | .engine cause => cause.message
  | .collector cause => cause.message
  | .notReady waited => "server not ready for connections after " ++ Duration.text waited
  | .invalidState action state => "cannot " ++ action ++ " a server that is " ++ state
  | .noCredentials reason => "cannot create internal client: " ++ reason
  | .connect cause => cause.message

namespace Supervision

open Program (perform)

/-- Creates an engine, starts it, and puts it into the slot; one that got there in the meantime is
shut down. -/
def launchEngine (o : EngineOptions) : Program (Except EngineFault Nat) := do
  match ← perform (.createEngine o) with
  | .error fault => return .error fault
  | .ok e =>
    perform (.beginStart e)
    match ← perform (.finishStart e) with
    | .error fault =>
      perform (.shutdownEngine e)
      return .error fault
    | .ok () =>
      match ← perform (.installEngine e) with
      | some previous => perform (.shutdownEngine previous)
      | none => pure ()
      return .ok e

/-- The engine, with these options. -/
def ensureEngine (o : EngineOptions) : Program (Except EngineFault Nat) := do
  match ← perform .currentEngine with
  | none => launchEngine o
  | some e =>
    match ← perform (.reloadEngine e o) with
    | .ok () => return .ok e
    | .error fault =>
      if fault.needsRestart then
        perform (.shutdownEngine e)
        let _ ← perform (.releaseEngine e)
        launchEngine o
      else return .error fault

/-- Waits until an engine accepts connections; one that does not is shut down. -/
def awaitEngine (e : Nat) : Program (Except Nanoseconds Unit) := do
  match ← perform (.awaitEngine e) with
  | .ok () => return .ok ()
  | .error waited =>
    perform (.shutdownEngine e)
    let _ ← perform (.releaseEngine e)
    return .error waited

/-- Shuts the engine down. -/
def shutdownEngine : Program Unit := do
  match ← perform .takeEngine with
  | some e => perform (.shutdownEngine e)
  | none => return ()

/-- Creates a collector, starts it, and puts it into the slot; one that got there in the meantime is
stopped. -/
def launchCollector (o : CollectorOptions) : Program (Except CollectorFault Nat) := do
  match ← perform (.createCollector o) with
  | .error fault => return .error fault
  | .ok c =>
    match ← perform (.startCollector c) with
    | .error fault => return .error fault
    | .ok () =>
      match ← perform (.installCollector c) with
      | some previous => perform (.stopCollector previous)
      | none => pure ()
      return .ok c

/-- The collector, with these options. -/
def ensureCollector (o : CollectorOptions) : Program (Except CollectorFault Nat) := do
  match ← perform .currentCollector with
  | none => launchCollector o
  | some c =>
    match ← perform (.reloadCollector c o) with
    | .ok () => return .ok c
    | .error .reloadUnsupported =>
      perform (.stopCollector c)
      let _ ← perform (.releaseCollector c)
      launchCollector o
    | .error fault => return .error fault

/-- Stops the collector. -/
def shutdownCollector : Program Unit := do
  match ← perform .takeCollector with
  | some c => perform (.stopCollector c)
  | none => return ()

end Supervision

end CalloutHost
