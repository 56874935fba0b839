import CalloutHost.Engine.Log
import CalloutHost.Engine.ServerProcess

/-!
# An engine process that follows a script

The process writes its log when it starts and when it gets a signal to reload, and may end by
itself. Its lines are repeated as they are read.
-/

namespace CalloutHost

/-- What a process does. -/
structure ProcessScript where
  spawnError : Option String
  startLog : Bytes
  /-- It ends after the log of its start. -/
  exits : Bool
  reloadLog : Bytes
  /-- The status of the command that signals a reload; no signal is sent unless it is zero. -/
  signalStatus : Nat
  process : String

/-- A process and what was read of its log. -/
structure ScriptedProcess where
  engine : ServerProcess
  script : ProcessScript
  reader : LogReader

namespace ScriptedProcess

/-- An engine whose process was never begun. -/
def new (engine : ServerProcess) (script : ProcessScript) : ScriptedProcess :=
  ⟨engine, script, .new⟩

/-- The process is gone, and with it the stream of its log. -/
def stop (p : ScriptedProcess) : ScriptedProcess × List LogLine :=
  ({ p with engine := p.engine.stop, reader := .new }, p.reader.finish)

/-- Starts the engine; the log of a process that it replaces ends. -/
def start (p : ScriptedProcess) : Except EngineFault Unit × ScriptedProcess × List LogLine :=
  match p.script.spawnError with
  | some reason =>
    let (answer, engine) := p.engine.start .done (.error reason)
    (answer, { p with engine }, [])
  | none =>
    let (answer, engine) := p.engine.start .done (.ok ())
    let (read, reader) := LogReader.new.feed p.script.startLog
    let started : ScriptedProcess := { p with engine, reader }
    if p.script.exits then
      let (ended, last) := started.stop
      (answer, ended, p.reader.finish ++ read ++ last)
    else (answer, started, p.reader.finish ++ read)

/-- What the log is read to say for a signal to reload. -/
def afterSignal (p : ScriptedProcess) : List LogLine × LogReader :=
  if p.script.signalStatus = 0 then p.reader.feed p.script.reloadLog else ([], p.reader)

/-- Whether the signal to reload is sent. -/
def signal (p : ScriptedProcess) : Except EngineFault Unit :=
  if p.script.signalStatus = 0 then .ok ()
  else .error (.signalFailed "reload" p.script.process p.script.signalStatus)

/-- Gives other options to the engine. A process that gets no signal logs nothing. -/
def reload (p : ScriptedProcess) (o : EngineOptions) :
    Except EngineFault Unit × ScriptedProcess × List LogLine :=
  let (read, reader) := p.afterSignal
  let (answer, engine) :=
    p.engine.reload o ⟨.done, p.signal, read.filterMap (·.verdict?), .done⟩
  if p.engine.running ∧ p.engine.options.blockers o = [] then
    (answer, { p with engine, reader }, read)
  else (answer, { p with engine }, [])

end ScriptedProcess

end CalloutHost
