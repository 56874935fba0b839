import CalloutHost.Engine.Log
import CalloutHost.Engine.Options

/-!
# An engine in a process of its own

The engine reads its configuration from a file. To reload, the file is written and the process is
told by a signal; what it makes of it is read from its log. A reload that fails writes the old
configuration back.

An engine is started and then given options after options for as long as it lives. Whatever comes of
a call, the next one finds the engine and its file as that call left them.
-/

namespace CalloutHost

/-- How the file was written. -/
inductive FileWrite
  | done
  /-- It failed, and this is what is left in the file. -/
  | failed (reason : String) (left : Option Bytes)
  deriving DecidableEq, Repr

/-- What a reload meets. -/
structure ReloadCourse where
  write : FileWrite
  signal : Except EngineFault Unit
  /-- What the log says of reloads after the signal, before the wait is over. -/
  verdicts : List Verdict
  /-- How the old configuration is written, should it come to that. -/
  restore : FileWrite

/-- An engine in a process of its own. -/
structure ServerProcess where
  /-- The number in the name of its file. -/
  number : Nat
  /-- The options that it was created with or took last. -/
  options : EngineOptions
  file : Option Bytes
  running : Bool

namespace ServerProcess

/-- The engine with a number; clients have to know its port. -/
def create (number : Nat) (o : EngineOptions) : Except EngineFault ServerProcess :=
  if o.port = 0 then .error (.create "a fixed client port is required")
  else .ok ⟨number, o, none, false⟩

/-- The name of its file. -/
def fileName (p : ServerProcess) : String := "nats-server-" ++ toString p.number ++ ".json"

/-- Writes a configuration. -/
def write (p : ServerProcess) (o : EngineOptions) :
    FileWrite → Except EngineFault Unit × ServerProcess
  | .done => (.ok (), { p with file := some o.configText })
  | .failed reason left => (.error (.io reason), { p with file := left })

/-- Writes the configuration and begins a process, in place of the one that runs. -/
def start (p : ServerProcess) (written : FileWrite) (spawned : Except String Unit) :
    Except EngineFault Unit × ServerProcess :=
  match p.write p.options written with
  | (.error e, p) => (.error e, p)
  | (.ok (), p) =>
    match spawned with
    | .error reason => (.error (.start reason), p)
    | .ok () => (.ok (), { p with running := true })

/-- So many verdicts are kept until they are looked at. -/
def verdictLimit : Nat := 8

/-- What the first verdict says. One that is lost because there were too many, or that never comes,
is taken for a good one. -/
def confirm (verdicts : List Verdict) : Except EngineFault Unit :=
  if verdictLimit < verdicts.length then .ok ()
  else match verdicts with
    | .failed reason :: _ => .error (.reload reason)
    | _ => .ok ()

/-- Writes a configuration and has the process read it. -/
def apply (p : ServerProcess) (o : EngineOptions) (course : ReloadCourse) :
    Except EngineFault Unit × ServerProcess :=
  match p.write o course.write with
  | (.error e, p) => (.error e, p)
  | (.ok (), p) =>
    match course.signal with
    | .error e => (.error e, p)
    | .ok () => (confirm course.verdicts, p)

/-- Takes other options while it runs. -/
def reload (p : ServerProcess) (o : EngineOptions) (course : ReloadCourse) :
    Except EngineFault Unit × ServerProcess :=
  match p.options.blockers o with
  | blocker :: blockers => (.error (.reloadNotSupported (blocker :: blockers)), p)
  | [] =>
    if !p.running then (.error (.reload "server is not running"), p)
    else match p.apply o course with
      | (.ok (), applied) => (.ok (), { applied with options := o })
      | (.error e, failed) => (.error e, (failed.write p.options course.restore).2)

/-- The process is gone. -/
def stop (p : ServerProcess) : ServerProcess := { p with running := false }

/-- Whether it has an account. -/
def lookupAccount (p : ServerProcess) (name : String) : Except EngineFault Unit :=
  if p.options.hasAccount name then .ok () else .error (.noAccount name)

end ServerProcess

/-- The fault of a signal that could not be sent to a process. -/
def EngineFault.signalFailed (signal process : String) (status : Nat) : EngineFault :=
  .reload ("signal " ++ signal ++ " to pid " ++ process ++ " failed with exit status: " ++
    toString status)

/-! ## Calls, one after the other -/

/-- A call to an engine, and what it meets. -/
inductive ProcessCall
  | start (written : FileWrite) (spawned : Except String Unit)
  | reload (o : EngineOptions) (course : ReloadCourse)
  /-- The engine is stopped, or its process ends by itself. -/
  | stop

/-- Where the call comes to write the options that the engine has, they are written whole. -/
def ProcessCall.Restores : ProcessCall → Prop
  | .start written _ => written = .done
  | .reload _ course => course.restore = .done
  | .stop => True

namespace ServerProcess

/-- What a call answers, and the engine after it. -/
def serve (p : ServerProcess) : ProcessCall → Except EngineFault Unit × ServerProcess
  | .start written spawned => p.start written spawned
  | .reload o course => p.reload o course
  | .stop => (.ok (), p.stop)

/-- The engine after calls, one after the other. -/
def serveAll (p : ServerProcess) (calls : List ProcessCall) : ServerProcess :=
  calls.foldl (fun p c => (p.serve c).2) p

end ServerProcess

end CalloutHost
