import CalloutHost.Access.PinnedStore
import CalloutHost.Lifecycle.World

/-!
# Programs side by side

Two programs may run side by side: any of them performs its next action, then any again. A
scheduler that takes turns runs each as far as it goes without waiting; only the end of an engine's
start is waited for.

Many programs run in a process, and its store of pinned tokens is called without any. So what
happens to a shared `Process` is a list of steps, and a program is carried out in it
(`Process.Happens`) when its actions are among the steps, in their order, each going on with what
the process answered.
-/

namespace CalloutHost

namespace Program

/-- Whether the next action is waited for. -/
def waits {α : Type} : Program α → Bool
  | .act (.finishStart _) _ => true
  | _ => false

/-- The result, if the program is at its end. -/
def result? {α : Type} : Program α → Option α
  | .done a => some a
  | .act _ _ => none

end Program

namespace World

variable {σ α : Type} [Outside σ]

/-- Performs the next action of a program. -/
def step (w : World σ) : Program α → Program α × World σ
  | .done a => (.done a, w)
  | .act a next => (next (w.exec a).1, (w.exec a).2)

/-- Runs a program to its end or to an action that is waited for. -/
def advance (w : World σ) : Program α → Program α × World σ
  | .done a => (.done a, w)
  | .act a next =>
    if (Program.act a next).waits then (.act a next, w)
    else (w.exec a).2.advance (next (w.exec a).1)

/-- Performs the action that a program waits for, and runs it on. -/
def resume (w : World σ) (p : Program α) : Program α × World σ :=
  if p.waits then
    let (p, w) := w.step p
    w.advance p
  else (p, w)

/-- Runs two programs that take turns, where a start is over after so many turns. Who comes first
changes with every turn. -/
def runBoth (w : World σ) (p q : Program α) (turns : Nat) : Option α × Option α × World σ :=
  if turns = 0 then
    let (a, w) := w.run p
    let (b, w) := w.run q
    (some a, some b, w)
  else
    let (p, w) := w.advance p
    let (q, w) := w.advance q
    if turns % 2 = 0 then
      let (p, w) := w.resume p
      let (q, w) := w.resume q
      (p.result?, q.result?, w)
    else
      let (q, w) := w.resume q
      let (p, w) := w.resume p
      (p.result?, q.result?, w)

end World

/-! ## A process that is shared -/

/-- What happens next in a process. -/
inductive ProcessStep
  | act (a : Action)
  | pins (e : PinnedStep)

/-- A process that is shared. -/
structure Process (σ : Type) where
  world : World σ
  /-- The accounts of the calls to the store that have found no token and have to look again. -/
  waiting : List String

namespace Process

variable {σ : Type}

/-- A process in which nothing has happened. -/
def new (outside : σ) (supply : SeedSupply) (patience : Nanoseconds) : Process σ :=
  ⟨.new outside supply patience, []⟩

/-- The store of pinned tokens, as its callers share it. -/
def pins (x : Process σ) : SharedPins := ⟨x.world.secrets.pinned, x.waiting⟩

variable [Outside σ]

/-- A step of a process. -/
def step (x : Process σ) : ProcessStep → Process σ
  | .act a => { x with world := (x.world.exec a).2 }
  | .pins e =>
    let after := (x.pins.step e).2
    { world := { x.world with secrets := { x.world.secrets with pinned := after.store } }
      waiting := after.waiting }

/-- A run of a process. -/
def run (x : Process σ) (steps : List ProcessStep) : Process σ := steps.foldl step x

/-- While these steps happen a program is carried out to its end, with this result. -/
inductive Happens {α : Type} : Process σ → List ProcessStep → Program α → α → Prop
  | done {x : Process σ} {steps : List ProcessStep} {result : α} :
      Happens x steps (.done result) result
  | act {x : Process σ} {a : Action} {steps : List ProcessStep} {next : a.Answer → Program α}
      {result : α} (rest : Happens (x.step (.act a)) steps (next (x.world.exec a).1) result) :
      Happens x (.act a :: steps) (.act a next) result
  /-- Something else happens. -/
  | wait {x : Process σ} {e : ProcessStep} {steps : List ProcessStep} {p : Program α} {result : α}
      (rest : Happens (x.step e) steps p result) : Happens x (e :: steps) p result

end Process

end CalloutHost
