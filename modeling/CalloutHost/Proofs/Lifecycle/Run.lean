import CalloutHost.Lifecycle.World

/-!
# Running programs

Running a program one action after the other composes (`run_bind`), and so does what a program
ensures of its result and of the process (`World.Ensures`). Every action touches one area of the
process, and a program that stays within some areas (`Program.Within`) leaves the others as they
are: `ensures_engines`, `ensures_collectors`, `ensures_generations` and `ensures_outside`.

A slot governs things that can run if exactly what it holds runs (`Slot.Governs`). Where the two
slots of a process govern its engines and its collectors (`World.EnginesSettled`,
`World.CollectorsSettled`), at most one of each runs, and nothing runs that nobody can stop.
-/

namespace CalloutHost

open Program (perform)

/-- The areas of a process. -/
inductive Area
  | engines
  | collectors
  | clients
  | generations
  | secrets
  /-- None: the action only asks. -/
  | none
  deriving DecidableEq

/-- The area that an action touches. -/
@[simp] def Action.area : Action → Area
  | .installEngine _ | .takeEngine | .releaseEngine _ | .createEngine _ | .beginStart _
  | .reloadEngine _ _ | .shutdownEngine _ => .engines
  | .installCollector _ | .takeCollector | .releaseCollector _ | .createCollector _
  | .startCollector _ | .reloadCollector _ _ | .stopCollector _ => .collectors
  | .currentEngine | .finishStart _ | .awaitEngine _ | .lookupAccount _ _ | .engineUrl _
  | .currentCollector | .isCurrent _ => .none
  | .capture => .generations
  | .provision _ | .bootstrapUser | .pinnedToken _ => .secrets
  | .connect _ _ | .closeClients _ => .clients

namespace Program

variable {α β : Type}

/-- Whatever is answered, the program's actions touch these areas only. -/
def Within (areas : List Area) : Program α → Prop
  | .done _ => True
  | .act a next => a.area ∈ areas ∧ ∀ answer, (next answer).Within areas

variable {areas : List Area}

theorem within_pure (a : α) : (pure a : Program α).Within areas := trivial

theorem within_perform {a : Action} (h : a.area ∈ areas) : (perform a).Within areas :=
  ⟨h, fun _ => trivial⟩

theorem within_bind {p : Program α} {f : α → Program β} (hp : p.Within areas)
    (hf : ∀ a, (f a).Within areas) : (p >>= f).Within areas := by
  induction p with
  | done a => exact hf a
  | act a next ih => exact ⟨hp.1, fun answer => ih answer (hp.2 answer)⟩

theorem within_act {a : Action} {f : a.Answer → Program β} (h : a.area ∈ areas)
    (hf : ∀ answer, (f answer).Within areas) : (perform a >>= f).Within areas :=
  within_bind (within_perform h) hf

theorem Within.mono {p : Program α} (hp : p.Within areas) {more : List Area}
    (h : ∀ x ∈ areas, x ∈ more) : p.Within more := by
  induction p with
  | done a => trivial
  | act a next ih => exact ⟨h _ hp.1, fun answer => ih answer (hp.2 answer)⟩

end Program

namespace World

variable {σ α β : Type} [Outside σ]

theorem run_bind (w : World σ) (p : Program α) (f : α → Program β) :
    w.run (p >>= f) = (w.run p).2.run (f (w.run p).1) := by
  induction p generalizing w with
  | done a => rfl
  | act a next ih => exact ih (w.exec a).1 (w.exec a).2

/-! ## What a program ensures -/

/-- When the program is run in this process, its result and the process after it are such. -/
def Ensures (w : World σ) (p : Program α) (Q : α → World σ → Prop) : Prop :=
  Q (w.run p).1 (w.run p).2

variable {w : World σ} {Q R : α → World σ → Prop}

/-- A program that is run to its end yields what it ensures. -/
theorem Ensures.of_run {p : Program α} {a : α} {x : World σ} (h : w.Ensures p Q)
    (hrun : w.run p = (a, x)) : Q a x := by
  rwa [Ensures, hrun] at h

/-- What a program yields when it is run, it ensures. -/
theorem ensures_of_run {p : Program α} {a : α} {x : World σ} (hrun : w.run p = (a, x))
    (h : Q a x) : w.Ensures p Q := by
  rwa [Ensures, hrun]

theorem ensures_pure {a : α} (h : Q a w) : w.Ensures (pure a) Q := h

theorem ensures_of_forall {p : Program α} (h : ∀ a x, Q a x) : w.Ensures p Q := h _ _

theorem Ensures.mono {p : Program α} (h : w.Ensures p Q) (hQ : ∀ a x, Q a x → R a x) :
    w.Ensures p R := hQ _ _ h

theorem Ensures.and {p : Program α} (hQ : w.Ensures p Q) (hR : w.Ensures p R) :
    w.Ensures p fun a x => Q a x ∧ R a x := ⟨hQ, hR⟩

theorem ensures_bind {p : Program β} {f : β → Program α}
    (h : w.Ensures p fun b x => x.Ensures (f b) Q) : w.Ensures (p >>= f) Q := by
  rw [Ensures, run_bind]
  exact h

theorem Ensures.bind {p : Program β} {f : β → Program α} {P : β → World σ → Prop}
    (h : w.Ensures p P) (hf : ∀ b x, P b x → x.Ensures (f b) Q) : w.Ensures (p >>= f) Q :=
  ensures_bind (h.mono hf)

/-- A program begins with an action whose answer and effect are known. -/
theorem ensures_act {a : Action} {f : a.Answer → Program α} {r : a.Answer} {x : World σ}
    (ha : w.exec a = (r, x)) (h : x.Ensures (f r) Q) : w.Ensures (perform a >>= f) Q := by
  refine ensures_bind ?_
  change (w.exec a).2.Ensures (f (w.exec a).1) Q
  rw [ha]
  exact h

theorem ensures_perform {a : Action} {f : a.Answer → Program α}
    (h : (w.exec a).2.Ensures (f (w.exec a).1) Q) : w.Ensures (perform a >>= f) Q :=
  ensures_act rfl h

/-! ## What an action leaves alone -/

theorem exec_engines (w : World σ) {a : Action} (h : a.area ≠ .engines) :
    (w.exec a).2.engines = w.engines ∧ (w.exec a).2.engineSlot = w.engineSlot := by
  cases a <;> first
    | exact absurd rfl h
    | exact ⟨rfl, rfl⟩
    | (rw [exec]; split <;> exact ⟨rfl, rfl⟩)

theorem exec_collectors (w : World σ) {a : Action} (h : a.area ≠ .collectors) :
    (w.exec a).2.collectors = w.collectors ∧ (w.exec a).2.collectorSlot = w.collectorSlot := by
  cases a <;> first
    | exact absurd rfl h
    | exact ⟨rfl, rfl⟩
    | (rw [exec]; split <;> exact ⟨rfl, rfl⟩)

theorem exec_clients (w : World σ) {a : Action} (h : a.area ≠ .clients) :
    (w.exec a).2.clients = w.clients := by
  cases a <;> first | exact absurd rfl h | rfl | (rw [exec]; split <;> rfl)

theorem exec_generations (w : World σ) {a : Action} (h : a.area ≠ .generations) :
    (w.exec a).2.generations = w.generations := by
  cases a <;> first | exact absurd rfl h | rfl | (rw [exec]; split <;> rfl)

theorem exec_secrets (w : World σ) {a : Action} (h : a.area ≠ .secrets) :
    (w.exec a).2.secrets = w.secrets := by
  cases a <;> first | exact absurd rfl h | rfl | (rw [exec]; split <;> rfl)

/-- Nothing outside hears of generations and secrets. -/
theorem exec_outside (w : World σ) {a : Action} (h : a.area ∈ [Area.generations, .secrets]) :
    (w.exec a).2.outside = w.outside := by
  cases a <;> first | rfl | exact absurd h (by simp)

/-! ## What a program leaves alone -/

/-- What every action keeps, every program keeps. -/
theorem run_invariant {P : World σ → Prop} (hP : ∀ (w : World σ) (a : Action), P w → P (w.exec a).2)
    (p : Program α) {w : World σ} (hw : P w) : P (w.run p).2 := by
  induction p generalizing w with
  | done a => exact hw
  | act a next ih => exact ih (w.exec a).1 (hP w a hw)

/-- What every action of a program keeps, the whole program keeps. -/
theorem run_keeps {areas : List Area} {P : World σ → Prop} {p : Program α} (hp : p.Within areas)
    (hP : ∀ (w : World σ) (a : Action), a.area ∈ areas → P w → P (w.exec a).2) {w : World σ}
    (hw : P w) : P (w.run p).2 := by
  induction p generalizing w with
  | done a => exact hw
  | act a next ih => exact ih (w.exec a).1 (hp.2 _) (hP w a hp.1 hw)

variable {areas : List Area} {p : Program α}

theorem ensures_engines (hp : p.Within areas) (h : Area.engines ∉ areas) (w : World σ) :
    w.Ensures p fun _ x => x.engines = w.engines ∧ x.engineSlot = w.engineSlot := by
  refine run_keeps (P := fun x => x.engines = w.engines ∧ x.engineSlot = w.engineSlot) hp
    (fun x a ha hx => ?_) ⟨rfl, rfl⟩
  have hne : a.area ≠ .engines := fun he => h (he ▸ ha)
  rw [(x.exec_engines hne).1, (x.exec_engines hne).2]
  exact hx

theorem ensures_collectors (hp : p.Within areas) (h : Area.collectors ∉ areas) (w : World σ) :
    w.Ensures p fun _ x => x.collectors = w.collectors ∧ x.collectorSlot = w.collectorSlot := by
  refine run_keeps (P := fun x => x.collectors = w.collectors ∧ x.collectorSlot = w.collectorSlot)
    hp (fun x a ha hx => ?_) ⟨rfl, rfl⟩
  have hne : a.area ≠ .collectors := fun he => h (he ▸ ha)
  rw [(x.exec_collectors hne).1, (x.exec_collectors hne).2]
  exact hx

theorem ensures_generations (hp : p.Within areas) (h : Area.generations ∉ areas) (w : World σ) :
    w.Ensures p fun _ x => x.generations = w.generations := by
  refine run_keeps (P := fun x => x.generations = w.generations) hp (fun x a ha hx => ?_) rfl
  rw [x.exec_generations fun he => h (he ▸ ha), hx]

theorem ensures_outside (hp : p.Within [.generations, .secrets]) (w : World σ) :
    w.Ensures p fun _ x => x.outside = w.outside :=
  run_keeps (P := fun x => x.outside = w.outside) hp
    (fun x _ ha hx => (x.exec_outside ha).trans hx) rfl

end World

/-! ## What runs is what is held -/

namespace Slot

/-- What runs is exactly what the slot holds. -/
def Governs (s : Slot) (runs : Nat → Bool) : Prop := ∀ x, runs x = true ↔ s.holder = some x

variable {s : Slot} {runs runs' : Nat → Bool} {x : Nat}

theorem Governs.eq_false (h : s.Governs runs) (hs : s.holder = none) (y : Nat) :
    runs y = false := by
  have := h y
  simpa [hs] using this

/-- What the slot holds is all that runs. -/
theorem Governs.runs_iff (h : s.Governs runs) (hs : s.holder = some x) (y : Nat) :
    runs y = true ↔ y = x := by
  rw [h y, hs, Option.some.injEq, eq_comm]

theorem governs_empty (h : ∀ y, runs y = false) : Slot.empty.Governs runs := by
  intro y
  simp [h y, Slot.empty]

theorem governs_put (h : ∀ y, runs y = true ↔ y = x) : (s.put x).Governs runs := by
  intro y
  simp [h y, Slot.put, eq_comm]

/-- Ending what the slot holds, and emptying it. -/
theorem Governs.take (h : s.Governs runs) (hs : s.holder = some x)
    (hx : ∀ y, runs' y = true ↔ y ≠ x ∧ runs y = true) : Slot.empty.Governs runs' := by
  refine governs_empty fun y => ?_
  rw [Bool.eq_false_iff, Ne, hx y, h y, hs]
  rintro ⟨hne, heq⟩
  exact hne (Option.some.inj heq).symm

/-- Ending something, and letting go of it if the slot holds it. -/
theorem Governs.release (h : s.Governs runs)
    (hx : ∀ y, runs' y = true ↔ y ≠ x ∧ runs y = true) : (s.release x).Governs runs' := by
  unfold Slot.release
  split
  · next hs => exact h.take hs hx
  · next hs =>
    intro y
    rw [hx y, h y]
    exact ⟨fun hy => hy.2, fun hy => ⟨fun hyx => hs (hyx ▸ hy), hy⟩⟩

end Slot

namespace World

variable {σ : Type}

/-- An engine runs exactly if the slot holds it. -/
def EnginesSettled (w : World σ) : Prop := w.engineSlot.Governs w.engineRuns

/-- A collector runs exactly if the slot holds it. -/
def CollectorsSettled (w : World σ) : Prop := w.collectorSlot.Governs w.collectorRuns

/-- The slot holds this engine, which has these options. -/
def HoldsEngine (w : World σ) (e : Nat) (o : EngineOptions) : Prop :=
  w.engineSlot.holder = some e ∧ (w.engine e).options = o

/-- The slot holds this collector, which has these options. -/
def HoldsCollector (w : World σ) (c : Nat) (o : CollectorOptions) : Prop :=
  w.collectorSlot.holder = some c ∧ (w.collector c).options = o

end World

end CalloutHost
