import CalloutHost.Lifecycle.Supervision
import CalloutHost.Proofs.Lifecycle.Run

/-!
# The engine under supervision

Between two operations of the supervision, an engine runs exactly if the slot holds it. Each
operation keeps this (`ensureEngine_spec`, `awaitEngine_spec`, `shutdownEngine_spec`), and an
engine that was asked for is in the slot and has the options.
-/

namespace CalloutHost

namespace World

variable {σ : Type}

/-! ## Engines by their number -/

theorem engine_congr {w w' : World σ} (h : w'.engines = w.engines) : w'.engine = w.engine := by
  funext e
  rw [engine, engine, h]

theorem engineRuns_congr {w w' : World σ} (h : w'.engines = w.engines) :
    w'.engineRuns = w.engineRuns := by
  funext e
  rw [engineRuns, engineRuns, engine_congr h]

theorem EnginesSettled.congr {w w' : World σ} (h : w.EnginesSettled)
    (he : w'.engines = w.engines ∧ w'.engineSlot = w.engineSlot) : w'.EnginesSettled := by
  rw [EnginesSettled, engineRuns_congr he.1, he.2]
  exact h

theorem HoldsEngine.congr {w w' : World σ} {e : Nat} {o : EngineOptions} (h : w.HoldsEngine e o)
    (he : w'.engines = w.engines ∧ w'.engineSlot = w.engineSlot) : w'.HoldsEngine e o := by
  rw [HoldsEngine, he.2, engine_congr he.1]
  exact h

theorem engine_setEngine (w : World σ) (e : Nat) (f : EngineRecord → EngineRecord) (x : Nat) :
    (w.setEngine e f).engine x =
      if x = e ∧ e < w.engines.length then f (w.engine e) else w.engine x := by
  simp only [engine, setEngine, List.getElem?_modify]
  by_cases hx : x = e
  · subst hx
    by_cases hlt : x < w.engines.length <;> simp [hlt]
  · simp [hx, Ne.symm hx]

theorem running_engine_of_le {w : World σ} {e : Nat} (h : w.engines.length ≤ e) :
    (w.engine e).running = false := by
  rw [engine, List.getElem?_eq_none h]
  rfl

variable [Outside σ]

/-- An engine is created with the next number, or it is not. -/
theorem exec_createEngine_cases (w : World σ) (o : EngineOptions) :
    (∃ fault w', w.exec (.createEngine o) = (.error fault, w') ∧
      w'.engines = w.engines ∧ w'.engineSlot = w.engineSlot) ∨
    (∃ w', w.exec (.createEngine o) = (.ok w.engines.length, w') ∧
      w'.engines = w.engines ++ [⟨o, false, 0⟩] ∧ w'.engineSlot = w.engineSlot) := by
  rw [exec]
  split
  · exact .inr ⟨_, rfl, rfl, rfl⟩
  · exact .inl ⟨_, _, rfl, rfl, rfl⟩

/-- An engine takes new options, or it does not. -/
theorem exec_reloadEngine_cases (w : World σ) (e : Nat) (o : EngineOptions) :
    (∃ fault w', w.exec (.reloadEngine e o) = (.error fault, w') ∧
      w'.engines = w.engines ∧ w'.engineSlot = w.engineSlot) ∨
    (∃ w', w.exec (.reloadEngine e o) = (.ok (), w') ∧
      (∀ x, w'.engineRuns x = w.engineRuns x) ∧
      (w.engineRuns e = true → (w'.engine e).options = o) ∧ w'.engineSlot = w.engineSlot) := by
  rw [exec]
  split
  · next outside _ =>
    refine .inr ⟨_, rfl, fun x => ?_, fun h => ?_, rfl⟩
    · change ((World.setEngine { w with outside } e _).engine x).running = _
      rw [engine_setEngine]
      split
      · next hx => rw [hx.1]; rfl
      · rfl
    · change ((World.setEngine { w with outside } e _).engine e).options = o
      rw [engine_setEngine, if_pos]
      refine ⟨rfl, Nat.lt_of_not_le fun hle => ?_⟩
      rw [engineRuns, running_engine_of_le (w := w) hle] at h
      exact absurd h (by decide)
  · exact .inl ⟨_, _, rfl, rfl, rfl⟩

theorem engineRuns_exec_shutdownEngine (w : World σ) (e x : Nat) :
    (w.exec (.shutdownEngine e)).2.engineRuns x = true ↔ x ≠ e ∧ w.engineRuns x = true := by
  change ((w.setEngine e _).engine x).running = true ↔ x ≠ e ∧ (w.engine x).running = true
  rw [engine_setEngine]
  by_cases hx : x = e
  · subst hx
    by_cases hlt : x < w.engines.length
    · simp [hlt]
    · simp [hlt, running_engine_of_le (Nat.le_of_not_lt hlt)]
  · simp [hx]

/-- Shutting an engine down and letting go of it, whether or not it was held. -/
theorem EnginesSettled.discard {w : World σ} (h : w.EnginesSettled) (e : Nat) :
    ((w.exec (.shutdownEngine e)).2.exec (.releaseEngine e)).2.EnginesSettled :=
  Slot.Governs.release h fun x => w.engineRuns_exec_shutdownEngine e x

/-- An engine that begins to start runs, and nothing else changes. -/
theorem engine_exec_beginStart (w : World σ) {e : Nat} (h : e < w.engines.length) (x : Nat) :
    (w.exec (.beginStart e)).2.engine x =
      if x = e then { w.engine e with running := true } else w.engine x := by
  change (w.setEngine e _).engine x = _
  rw [engine_setEngine]
  simp [h]

end World

namespace Supervision

variable {σ : Type}

/-- What is left when an engine was asked for: what runs is what is held, and an engine that was
given has the options and is held. -/
def EngineOutcome (o : EngineOptions) (answer : Except EngineFault Nat) (w : World σ) : Prop :=
  w.EnginesSettled ∧ ∀ e, answer = .ok e → w.HoldsEngine e o

theorem engineOutcome_error {w : World σ} (h : w.EnginesSettled) (o : EngineOptions)
    (fault : EngineFault) : EngineOutcome o (.error fault) w := ⟨h, fun _ he => nomatch he⟩

theorem engineOutcome_ok {w : World σ} (h : w.EnginesSettled) {e : Nat} {o : EngineOptions}
    (he : w.HoldsEngine e o) : EngineOutcome o (.ok e) w :=
  ⟨h, fun _ hx => Except.ok.inj hx ▸ he⟩

variable [Outside σ]

/-- A fresh engine that has begun to start is the only one that runs. -/
theorem exec_beginStart_fresh {w w₁ : World σ} (h : w.EnginesSettled)
    (hs : w.engineSlot.holder = none) {o : EngineOptions}
    (hadded : w₁.engines = w.engines ++ [⟨o, false, 0⟩]) :
    (∀ x, (w₁.exec (.beginStart w.engines.length)).2.engineRuns x = true ↔ x = w.engines.length) ∧
      ((w₁.exec (.beginStart w.engines.length)).2.engine w.engines.length).options = o := by
  generalize hn : w.engines.length = n
  have hlt : n < w₁.engines.length := by simp [hadded, hn]
  have hnew : w₁.engine n = ⟨o, false, 0⟩ := by simp [World.engine, hadded, ← hn]
  refine ⟨fun x => ?_, by rw [w₁.engine_exec_beginStart hlt, if_pos rfl, hnew]⟩
  rw [World.engineRuns, w₁.engine_exec_beginStart hlt]
  rcases Nat.lt_trichotomy x n with hx | rfl | hx
  · have hold : w₁.engine x = w.engine x := by
      rw [World.engine, World.engine, hadded, List.getElem?_append_left (hn ▸ hx)]
    rw [if_neg (by omega), hold, show (w.engine x).running = false from h.eq_false hs x]
    simp only [Bool.false_eq_true, false_iff]
    omega
  · simp
  · have hnone : w₁.engines.length ≤ x := by
      rw [hadded, List.length_append, hn]
      exact hx
    rw [if_neg (by omega), World.running_engine_of_le hnone]
    simp only [Bool.false_eq_true, false_iff]
    omega

/-- An engine that is started where none runs is the only one that runs, and in the slot; or it does
not start and none runs. -/
theorem launchEngine_spec {w : World σ} (h : w.EnginesSettled) (hs : w.engineSlot.holder = none)
    (o : EngineOptions) : w.Ensures (launchEngine o) (EngineOutcome o) := by
  unfold launchEngine
  rcases w.exec_createEngine_cases o with ⟨fault, w₁, hw₁, hkept⟩ | ⟨w₁, hw₁, hadded, hslot⟩
  · exact World.ensures_act hw₁ (World.ensures_pure (engineOutcome_error (h.congr hkept) o fault))
  refine World.ensures_act hw₁ ?_
  obtain ⟨hruns, hoptions⟩ := exec_beginStart_fresh h hs hadded
  generalize w.engines.length = n at hruns hoptions ⊢
  generalize hw₂ : (w₁.exec (.beginStart n)).2 = w₂ at hruns hoptions
  have hslot₂ : w₂.engineSlot.holder = none := by rw [← hw₂, ← hs, ← hslot]; rfl
  refine World.ensures_act (x := w₂) (by rw [← hw₂]) ?_
  -- only what is outside learns that the start is over
  have hfinish : w₂.exec (.finishStart n) = ((Outside.startEngine n w₂.outside).1,
    { w₂ with outside := (Outside.startEngine n w₂.outside).2 }) := rfl
  refine World.ensures_act hfinish ?_
  generalize hw₃ : ({ w₂ with outside := (Outside.startEngine n w₂.outside).2 } : World σ) = w₃
  have hruns₃ (x : Nat) : w₃.engineRuns x = true ↔ x = n := by rw [← hw₃]; exact hruns x
  rcases (Outside.startEngine n w₂.outside).1 with fault | _
  · refine World.ensures_perform (World.ensures_pure ?_)
    refine engineOutcome_error (fun x => ?_) o fault
    have hslot₃ : (w₃.exec (.shutdownEngine n)).2.engineSlot.holder = none := by
      rw [← hslot₂, ← hw₃]
      rfl
    rw [w₃.engineRuns_exec_shutdownEngine, hruns₃, hslot₃]
    simp
  · refine World.ensures_act (r := none) (x := (w₃.exec (.installEngine n)).2) ?_ ?_
    · rw [← hslot₂, ← hw₃]
      rfl
    have hsettled : (w₃.exec (.installEngine n)).2.EnginesSettled :=
      Slot.governs_put (s := w₃.engineSlot) hruns₃
    refine World.ensures_pure (engineOutcome_ok hsettled ⟨rfl, ?_⟩)
    rw [← hw₃]
    exact hoptions

/-- The engine that is asked for is the only one that runs, and in the slot. -/
theorem ensureEngine_spec {w : World σ} (h : w.EnginesSettled) (o : EngineOptions) :
    w.Ensures (ensureEngine o) (EngineOutcome o) := by
  unfold ensureEngine
  refine World.ensures_act (r := w.engineSlot.holder) (x := w) rfl ?_
  rcases hs : w.engineSlot.holder with _ | e
  · exact launchEngine_spec h hs o
  rcases w.exec_reloadEngine_cases e o with ⟨fault, w₁, hw₁, hkept⟩ | ⟨w₁, hw₁, hruns, ho, hslot⟩
  · refine World.ensures_act hw₁ ?_
    have h₁ := h.congr hkept
    dsimp only
    split
    · -- an engine that has to be created again makes room first
      refine World.ensures_perform (World.ensures_perform ?_)
      refine launchEngine_spec (h₁.discard e) ?_ o
      change (w₁.engineSlot.release e).holder = none
      rw [hkept.2, Slot.release, if_pos hs]
      rfl
    · exact World.ensures_pure (engineOutcome_error h₁ o fault)
  · refine World.ensures_act hw₁ (World.ensures_pure (engineOutcome_ok ?_ ⟨hslot ▸ hs, ?_⟩))
    · intro x
      rw [hruns, hslot]
      exact h x
    · exact ho ((h e).2 hs)

/-- An engine that is waited for stays as it was, or is gone. -/
theorem awaitEngine_spec {w : World σ} (h : w.EnginesSettled) (e : Nat) :
    w.Ensures (awaitEngine e) fun answer x => x.EnginesSettled ∧
      (answer = .ok () → x.engines = w.engines ∧ x.engineSlot = w.engineSlot) := by
  unfold awaitEngine
  generalize hw₁ : (w.exec (.awaitEngine e)).2 = w₁
  have hkept : w₁.engines = w.engines ∧ w₁.engineSlot = w.engineSlot := by
    rw [← hw₁]
    exact ⟨rfl, rfl⟩
  refine World.ensures_act (x := w₁) (by rw [← hw₁]) ?_
  rcases (w.exec (.awaitEngine e)).1 with waited | _
  · refine World.ensures_perform (World.ensures_perform (World.ensures_pure ⟨?_, nofun⟩))
    exact (h.congr hkept).discard e
  · exact World.ensures_pure ⟨h.congr hkept, fun _ => hkept⟩

/-- No engine is left. -/
theorem shutdownEngine_spec {w : World σ} (h : w.EnginesSettled) :
    w.Ensures shutdownEngine fun _ x => x.EnginesSettled ∧ x.engineSlot.holder = none := by
  unfold shutdownEngine
  refine World.ensures_act (r := w.engineSlot.holder) (x := (w.exec .takeEngine).2) rfl ?_
  rcases hs : w.engineSlot.holder with _ | e
  · exact World.ensures_pure ⟨Slot.governs_empty fun y => h.eq_false hs y, rfl⟩
  · refine ⟨?_, rfl⟩
    exact h.take hs fun y => (w.exec .takeEngine).2.engineRuns_exec_shutdownEngine e y

end Supervision

end CalloutHost
