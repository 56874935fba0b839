import CalloutHost.Access.Issuer
import CalloutHost.Lifecycle.Program

/-!
# The process

The process holds every engine, collector and client that was ever made in it, the slots for the
engine and the collector that serve, the count of generations and the secrets. A slot holds at most
one thing, by its number. What engines, collectors and the network answer comes from outside.

Engines and collectors lead the same life: they are created, started, put into a slot and stopped.
So a process can be asked for its services of either kind (`World.services`). Its clients listen to
messages and publish others (`World.traffic`); a message goes to every open client that listens on
exactly its subject.
-/

namespace CalloutHost

/-- A place for at most one thing. -/
structure Slot where
  holder : Option Nat
  deriving DecidableEq, Repr

namespace Slot

/-- Nothing is held. -/
def empty : Slot := ⟨none⟩

/-- Holds a thing in place of what it held. -/
def put (_ : Slot) (x : Nat) : Slot := ⟨some x⟩

/-- Lets go of a thing, if it still holds it. -/
def release (s : Slot) (x : Nat) : Slot := if s.holder = some x then empty else s

end Slot

/-- An engine of the process. -/
structure EngineRecord where
  /-- The options that it was created with or took last. -/
  options : EngineOptions
  /-- It was started and not shut down. -/
  running : Bool
  reloads : Nat

/-- A collector of the process. -/
structure CollectorRecord where
  options : CollectorOptions
  started : Bool
  stopped : Bool

/-- Whether a collector runs. -/
def CollectorRecord.running (c : CollectorRecord) : Bool := c.started && !c.stopped

/-- A client of the process. -/
structure ClientRecord where
  settings : ClientSettings
  /-- What it is there for. -/
  worker : Worker
  isOpen : Bool

/-- A call to an engine or a collector. -/
inductive Call
  | createdEngine (e : Nat)
  | createEngineFailed
  | startEngine (e : Nat)
  | reloadEngine (e : Nat)
  /-- An engine was waited for. -/
  | readyEngine (e : Nat)
  | lookup (e : Nat) (account : String)
  | shutdownEngine (e : Nat)
  | createdCollector (c : Nat)
  | createCollectorFailed
  | startCollector (c : Nat)
  | reloadCollector (c : Nat)
  | stopCollector (c : Nat)
  deriving DecidableEq, Repr

namespace Call

/-- Names an engine and what it was told. -/
def ofEngine (e : Nat) (what : String) : String := "engine" ++ toString (e + 1) ++ " " ++ what

/-- Names a collector and what it was told. -/
def ofCollector (c : Nat) (what : String) : String := "collector" ++ toString (c + 1) ++ " " ++ what

/-- The text of a call; engines and collectors are counted from one. -/
def text : Call → String
  | .createdEngine e => ofEngine e "create"
  | .createEngineFailed => "engine create failed"
  | .startEngine e => ofEngine e "start"
  | .reloadEngine e => ofEngine e "reload"
  | .readyEngine e => ofEngine e "ready?"
  | .lookup e account => ofEngine e ("lookup " ++ account)
  | .shutdownEngine e => ofEngine e "shutdown"
  | .createdCollector c => ofCollector c "create"
  | .createCollectorFailed => "collector create failed"
  | .startCollector c => ofCollector c "start"
  | .reloadCollector c => ofCollector c "reload"
  | .stopCollector c => ofCollector c "stop"

end Call

/-- What answers from outside, in a state of its own. -/
class Outside (σ : Type) where
  createEngine : Nat → EngineOptions → σ → Except EngineFault Unit × σ
  startEngine : Nat → σ → Except EngineFault Unit × σ
  reloadEngine : Nat → EngineRecord → EngineOptions → σ → Except EngineFault Unit × σ
  /-- Whether an engine gets ready. -/
  engineReady : Nat → EngineRecord → σ → Bool × σ
  /-- Whether an engine has an account. -/
  lookupAccount : Nat → EngineRecord → String → σ → Except EngineFault Unit × σ
  createCollector : Nat → CollectorOptions → σ → Except CollectorFault Unit × σ
  startCollector : Nat → CollectorRecord → σ → Except CollectorFault Unit × σ
  reloadCollector : Nat → CollectorRecord → CollectorOptions → σ → Except CollectorFault Unit × σ
  connect : ClientSettings → σ → Except ConnectError Unit × σ

/-- The process. -/
structure World (σ : Type) where
  /-- What answers from outside. -/
  outside : σ
  engines : List EngineRecord
  collectors : List CollectorRecord
  clients : List ClientRecord
  /-- The engine that serves. -/
  engineSlot : Slot
  collectorSlot : Slot
  generations : Generations
  secrets : Secrets
  /-- How long an engine is waited for. -/
  patience : Nanoseconds
  calls : List Call

namespace World

variable {σ : Type}

/-- How long an engine is waited for when nothing else is said. -/
def defaultPatience : Nanoseconds := seconds 5

/-- A process in which nothing has happened. -/
def new (outside : σ) (supply : SeedSupply) (patience : Nanoseconds) : World σ where
  outside
  engines := []
  collectors := []
  clients := []
  engineSlot := .empty
  collectorSlot := .empty
  generations := .new
  secrets := .new supply
  patience
  calls := []

/-- Notes a call. -/
def note (w : World σ) (call : Call) : World σ := { w with calls := w.calls ++ [call] }

/-- Changes an engine. -/
def setEngine (w : World σ) (e : Nat) (f : EngineRecord → EngineRecord) : World σ :=
  { w with engines := w.engines.modify e f }

/-- Changes a collector. -/
def setCollector (w : World σ) (c : Nat) (f : CollectorRecord → CollectorRecord) : World σ :=
  { w with collectors := w.collectors.modify c f }

/-- What is said of an engine that was never created. -/
def unknownEngine : EngineRecord := ⟨.default, false, 0⟩

/-- What is said of a collector that was never created. -/
def unknownCollector : CollectorRecord := ⟨⟨"", "", 0⟩, false, false⟩

/-- An engine by its number. -/
def engine (w : World σ) (e : Nat) : EngineRecord := (w.engines[e]?).getD unknownEngine

/-- A collector by its number. -/
def collector (w : World σ) (c : Nat) : CollectorRecord := (w.collectors[c]?).getD unknownCollector

/-- Whether an engine runs. -/
def engineRuns (w : World σ) (e : Nat) : Bool := (w.engine e).running

/-- Whether a collector runs. -/
def collectorRuns (w : World σ) (c : Nat) : Bool := (w.collector c).running

variable [Outside σ]

/-- Performs an action. An engine counts as running from the beginning of its start until it is
shut down. -/
def exec (w : World σ) : (a : Action) → a.Answer × World σ
  | .currentEngine => (w.engineSlot.holder, w)
  | .installEngine e => (w.engineSlot.holder, { w with engineSlot := w.engineSlot.put e })
  | .takeEngine => (w.engineSlot.holder, { w with engineSlot := .empty })
  | .releaseEngine e =>
    (w.engineSlot.holder = some e, { w with engineSlot := w.engineSlot.release e })
  | .createEngine o =>
    match Outside.createEngine w.engines.length o w.outside with
    | (.ok (), outside) =>
      (.ok w.engines.length,
        World.note { w with outside, engines := w.engines ++ [⟨o, false, 0⟩] }
          (.createdEngine w.engines.length))
    | (.error fault, outside) => (.error fault, { w with outside }.note .createEngineFailed)
  | .beginStart e =>
    ((), (w.setEngine e fun x => { x with running := true }).note (.startEngine e))
  | .finishStart e =>
    let (answer, outside) := Outside.startEngine e w.outside
    (answer, { w with outside })
  | .reloadEngine e o =>
    match Outside.reloadEngine e (w.engine e) o w.outside with
    | (.ok (), outside) =>
      (.ok (), ({ w with outside }.setEngine e fun x =>
        { x with options := o, reloads := x.reloads + 1 }).note (.reloadEngine e))
    | (.error fault, outside) => (.error fault, { w with outside }.note (.reloadEngine e))
  | .awaitEngine e =>
    let (ready, outside) := Outside.engineReady e (w.engine e) w.outside
    (if ready then .ok () else .error w.patience, { w with outside }.note (.readyEngine e))
  | .lookupAccount e name =>
    let (answer, outside) := Outside.lookupAccount e (w.engine e) name w.outside
    (answer, { w with outside }.note (.lookup e name))
  | .engineUrl e => ((w.engine e).options.clientUrl, w)
  | .shutdownEngine e =>
    ((), (w.setEngine e fun x => { x with running := false }).note (.shutdownEngine e))
  | .currentCollector => (w.collectorSlot.holder, w)
  | .installCollector c =>
    (w.collectorSlot.holder, { w with collectorSlot := w.collectorSlot.put c })
  | .takeCollector => (w.collectorSlot.holder, { w with collectorSlot := .empty })
  | .releaseCollector c =>
    (w.collectorSlot.holder = some c, { w with collectorSlot := w.collectorSlot.release c })
  | .createCollector o =>
    match Outside.createCollector w.collectors.length o w.outside with
    | (.ok (), outside) =>
      (.ok w.collectors.length,
        World.note { w with outside, collectors := w.collectors ++ [⟨o, false, false⟩] }
          (.createdCollector w.collectors.length))
    | (.error fault, outside) => (.error fault, { w with outside }.note .createCollectorFailed)
  | .startCollector c =>
    match Outside.startCollector c (w.collector c) w.outside with
    | (.ok (), outside) =>
      (.ok (), ({ w with outside }.setCollector c fun x => { x with started := true }).note
        (.startCollector c))
    | (.error fault, outside) => (.error fault, { w with outside }.note (.startCollector c))
  | .reloadCollector c o =>
    match Outside.reloadCollector c (w.collector c) o w.outside with
    | (.ok (), outside) =>
      (.ok (), ({ w with outside }.setCollector c fun x => { x with options := o }).note
        (.reloadCollector c))
    | (.error fault, outside) => (.error fault, { w with outside }.note (.reloadCollector c))
  | .stopCollector c =>
    ((), (w.setCollector c fun x => { x with stopped := true }).note (.stopCollector c))
  | .capture =>
    let (g, generations) := w.generations.capture
    (g, { w with generations })
  | .isCurrent g => (w.generations.isCurrent g, w)
  | .provision s =>
    let (answer, secrets) := s.provision w.secrets
    (answer, { w with secrets })
  | .bootstrapUser =>
    let (user, secrets) := w.secrets.bootstrapUser
    (user, { w with secrets })
  | .pinnedToken account =>
    let (token, secrets) := w.secrets.pinnedToken account
    (token, { w with secrets })
  | .connect s worker =>
    match Outside.connect s w.outside with
    | (.ok (), outside) =>
      (.ok w.clients.length, { w with outside, clients := w.clients ++ [⟨s, worker, true⟩] })
    | (.error e, outside) => (.error e, { w with outside })
  | .closeClients clients =>
    ((), { w with clients := w.clients.mapIdx fun i c =>
      if clients.contains i then { c with isOpen := false } else c })

/-- Runs a program to its end, nothing coming between its actions. -/
def run {α : Type} (w : World σ) : Program α → α × World σ
  | .done a => (a, w)
  | .act a next => (w.exec a).2.run (next (w.exec a).1)

end World

/-! ## Services of a kind -/

/-- What a process has at most one of that serves. -/
inductive ServiceKind
  | engine
  | collector
  deriving DecidableEq

/-- What services of a kind are told. -/
abbrev ServiceKind.Options : ServiceKind → Type
  | .engine => EngineOptions
  | .collector => CollectorOptions

/-- The services of a kind in a process. -/
@[ext]
structure Services (k : ServiceKind) where
  slot : Slot
  count : Nat
  runs : Nat → Bool
  /-- Which of them run once they are started. -/
  ready : Nat → Bool
  options : Nat → k.Options

/-- The services of a kind. -/
def World.services {σ : Type} (w : World σ) : (k : ServiceKind) → Services k
  | .engine =>
    { slot := w.engineSlot
      count := w.engines.length
      runs := w.engineRuns
      ready e := e < w.engines.length
      options e := (w.engine e).options }
  | .collector =>
    { slot := w.collectorSlot
      count := w.collectors.length
      runs := w.collectorRuns
      ready c := c < w.collectors.length && !(w.collector c).stopped
      options c := (w.collector c).options }

/-! ## Traffic -/

/-- Where a worker listens. -/
def Worker.subscription : Worker → Subscription
  | .responder issuer => issuer.subscription
  | .flow f => f.subscription

/-- What a worker publishes for a message. -/
def Worker.react (store : PinnedStore) (now : Int) : Worker → Message → Option Message
  | .responder issuer, m => issuer.respond store now m
  | .flow f, m => f.react m

namespace World

variable {σ : Type}

/-- The workers that a message on a subject reaches. -/
def listeners (w : World σ) (subject : String) : List Worker :=
  (w.clients.filter fun c => c.isOpen && c.worker.subscription.subject = subject).map (·.worker)

/-- What is published when a message comes in. -/
def traffic (w : World σ) (now : Int) (m : Message) : List Message :=
  (w.listeners m.subject).filterMap fun worker => worker.react w.secrets.pinned now m

end World

end CalloutHost
