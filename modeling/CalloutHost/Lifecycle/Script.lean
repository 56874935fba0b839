import CalloutHost.Lifecycle.World
import CalloutHost.Metrics.Collector

/-!
# Scripted surroundings

Engines, collectors and a network that answer as a script says. What a script says of a start and
of readiness holds for the engines created from then on; a refusal of new options is used up by the
next engine that is given some.
-/

namespace CalloutHost

/-- What a scripted engine does. -/
structure ScriptedEngine where
  startError : Option String
  neverReady : Bool
  deriving DecidableEq, Repr

/-- A script. -/
structure Script where
  createError : Option String
  /-- What the next engines do. -/
  next : ScriptedEngine
  /-- Why the next engine that is given options does not take them. -/
  reloadError : Option EngineFault
  /-- The accounts that no engine has. -/
  missingAccounts : List String
  collectorStartFails : Bool
  collectorReloadFails : Bool
  reachable : Bool
  engines : List ScriptedEngine

namespace Script

/-- Everything works, as far as clients reach the engine. -/
def new (reachable : Bool) : Script where
  createError := none
  next := ⟨none, false⟩
  reloadError := none
  missingAccounts := []
  collectorStartFails := false
  collectorReloadFails := false
  reachable
  engines := []

/-- What an engine does. -/
def engine (s : Script) (e : Nat) : ScriptedEngine := (s.engines[e]?).getD s.next

/-- Whether an engine is created. -/
def createEngine (s : Script) : Except EngineFault Unit × Script :=
  match s.createError with
  | some reason => (.error (.create reason), s)
  | none => (.ok (), { s with engines := s.engines ++ [s.next] })

/-- Whether an engine starts. -/
def startEngine (s : Script) (e : Nat) : Except EngineFault Unit :=
  match (s.engine e).startError with
  | some reason => .error (.start reason)
  | none => .ok ()

/-- Whether an engine takes other options: not if it would have to be created again for them. -/
def takes (o other : EngineOptions) : Except EngineFault Unit :=
  match o.blockers other with
  | [] => .ok ()
  | blockers => .error (.reloadNotSupported blockers)

/-- Whether an engine takes new options. -/
def reloadEngine (s : Script) (o other : EngineOptions) : Except EngineFault Unit × Script :=
  match s.reloadError with
  | some fault => (.error fault, { s with reloadError := none })
  | none => (takes o other, s)

/-- Whether an engine has an account. -/
def lookupAccount (s : Script) (o : EngineOptions) (name : String) : Except EngineFault Unit :=
  if s.missingAccounts.contains name ∨ !o.hasAccount name then .error (.noAccount name) else .ok ()

/-- Whether a collector is created. -/
def createCollector (o : CollectorOptions) : Except CollectorFault Unit :=
  (metricsEndpoint o.url).map fun _ => ()

/-- Whether a collector starts. -/
def startCollector (s : Script) (c : CollectorRecord) : Except CollectorFault Unit :=
  if s.collectorStartFails ∨ c.started then .error .alreadyStarted else .ok ()

/-- Whether a collector takes new options. -/
def reloadCollector (s : Script) (c : CollectorRecord) (o : CollectorOptions) :
    Except CollectorFault Unit :=
  if s.collectorReloadFails then .error .alreadyStarted
  else if c.options = o then .ok ()
  else .error .reloadUnsupported

instance : Outside Script where
  createEngine _ _ s := s.createEngine
  startEngine e s := (s.startEngine e, s)
  reloadEngine _ x o s := s.reloadEngine x.options o
  engineReady e x s := (!(s.engine e).neverReady && x.running, s)
  lookupAccount _ x name s := (s.lookupAccount x.options name, s)
  createCollector _ o s := (createCollector o, s)
  startCollector _ c s := (s.startCollector c, s)
  reloadCollector _ c o s := (s.reloadCollector c o, s)
  connect x s := (x.connect fun _ => s.reachable, s)

end Script

end CalloutHost
