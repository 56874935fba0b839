import CalloutHost.Lifecycle.Supervision
import CalloutHost.Proofs.Lifecycle.Run

/-!
# The collector under supervision

Between two operations of the supervision, a collector runs exactly if the slot holds it. Each
operation keeps this (`ensureCollector_spec`, `shutdownCollector_spec`), and a collector that was
asked for is in the slot and has the options.
-/

namespace CalloutHost

namespace World

variable {σ : Type}

/-! ## Collectors by their number -/

theorem collector_congr {w w' : World σ} (h : w'.collectors = w.collectors) :
    w'.collector = w.collector := by
  funext c
  rw [collector, collector, h]

theorem collectorRuns_congr {w w' : World σ} (h : w'.collectors = w.collectors) :
    w'.collectorRuns = w.collectorRuns := by
  funext c
  rw [collectorRuns, collectorRuns, collector_congr h]

theorem CollectorsSettled.congr {w w' : World σ} (h : w.CollectorsSettled)
    (hc : w'.collectors = w.collectors ∧ w'.collectorSlot = w.collectorSlot) :
    w'.CollectorsSettled := by
  rw [CollectorsSettled, collectorRuns_congr hc.1, hc.2]
  exact h

theorem HoldsCollector.congr {w w' : World σ} {c : Nat} {o : CollectorOptions}
    (h : w.HoldsCollector c o)
    (hc : w'.collectors = w.collectors ∧ w'.collectorSlot = w.collectorSlot) :
    w'.HoldsCollector c o := by
  rw [HoldsCollector, hc.2, collector_congr hc.1]
  exact h

theorem collector_setCollector (w : World σ) (c : Nat) (f : CollectorRecord → CollectorRecord)
    (x : Nat) :
    (w.setCollector c f).collector x =
      if x = c ∧ c < w.collectors.length then f (w.collector c) else w.collector x := by
  simp only [collector, setCollector, List.getElem?_modify]
  by_cases hx : x = c
  · subst hx
    by_cases hlt : x < w.collectors.length <;> simp [hlt]
  · simp [hx, Ne.symm hx]

theorem collectorRuns_of_le {w : World σ} {c : Nat} (h : w.collectors.length ≤ c) :
    w.collectorRuns c = false := by
  rw [collectorRuns, collector, List.getElem?_eq_none h]
  rfl

variable [Outside σ]

/-- A collector is created with the next number, or it is not. -/
theorem exec_createCollector_cases (w : World σ) (o : CollectorOptions) :
    (∃ fault w', w.exec (.createCollector o) = (.error fault, w') ∧
      w'.collectors = w.collectors ∧ w'.collectorSlot = w.collectorSlot) ∨
    (∃ w', w.exec (.createCollector o) = (.ok w.collectors.length, w') ∧
      w'.collectors = w.collectors ++ [⟨o, false, false⟩] ∧
      w'.collectorSlot = w.collectorSlot) := by
  rw [exec]
  split
  · exact .inr ⟨_, rfl, rfl, rfl⟩
  · exact .inl ⟨_, _, rfl, rfl, rfl⟩

/-- A collector starts, or it stays as it was. -/
theorem exec_startCollector_cases (w : World σ) (c : Nat) :
    (∃ fault w', w.exec (.startCollector c) = (.error fault, w') ∧
      w'.collectors = w.collectors ∧ w'.collectorSlot = w.collectorSlot) ∨
    (∃ w', w.exec (.startCollector c) = (.ok (), w') ∧
      (∀ x, w'.collector x = if x = c ∧ c < w.collectors.length then
        { w.collector c with started := true } else w.collector x) ∧
      w'.collectorSlot = w.collectorSlot) := by
  rw [exec]
  split
  · exact .inr ⟨_, rfl, collector_setCollector _ c _, rfl⟩
  · exact .inl ⟨_, _, rfl, rfl, rfl⟩

/-- A collector takes new options, or it stays as it was. -/
theorem exec_reloadCollector_cases (w : World σ) (c : Nat) (o : CollectorOptions) :
    (∃ fault w', w.exec (.reloadCollector c o) = (.error fault, w') ∧
      w'.collectors = w.collectors ∧ w'.collectorSlot = w.collectorSlot) ∨
    (∃ w', w.exec (.reloadCollector c o) = (.ok (), w') ∧
      (∀ x, w'.collectorRuns x = w.collectorRuns x) ∧
      (w.collectorRuns c = true → (w'.collector c).options = o) ∧
      w'.collectorSlot = w.collectorSlot) := by
  rw [exec]
  split
  · next outside _ =>
    refine .inr ⟨_, rfl, fun x => ?_, fun h => ?_, rfl⟩
    · change ((World.setCollector { w with outside } c _).collector x).running = _
      rw [collector_setCollector]
      split
      · next hx => rw [hx.1]; rfl
      · rfl
    · change ((World.setCollector { w with outside } c _).collector c).options = o
      rw [collector_setCollector, if_pos]
      refine ⟨rfl, Nat.lt_of_not_le fun hle => ?_⟩
      rw [collectorRuns_of_le (w := w) hle] at h
      exact absurd h (by decide)
  · exact .inl ⟨_, _, rfl, rfl, rfl⟩

theorem collectorRuns_exec_stopCollector (w : World σ) (c x : Nat) :
    (w.exec (.stopCollector c)).2.collectorRuns x = true ↔ x ≠ c ∧ w.collectorRuns x = true := by
  change ((w.setCollector c _).collector x).running = true ↔ x ≠ c ∧ (w.collector x).running = true
  rw [collector_setCollector]
  by_cases hx : x = c
  · subst hx
    by_cases hlt : x < w.collectors.length
    · simp [hlt, CollectorRecord.running]
    · have hoff : (w.collector x).running = false := collectorRuns_of_le (Nat.le_of_not_lt hlt)
      simp [hlt, hoff]
  · simp [hx]

/-- Stopping a collector and letting go of it, whether or not it was held. -/
theorem CollectorsSettled.discard {w : World σ} (h : w.CollectorsSettled) (c : Nat) :
    ((w.exec (.stopCollector c)).2.exec (.releaseCollector c)).2.CollectorsSettled :=
  Slot.Governs.release h fun x => w.collectorRuns_exec_stopCollector c x

end World

namespace Supervision

variable {σ : Type}

/-- What is left when a collector was asked for: what runs is what is held, and a collector that was
given has the options and is held. -/
def CollectorOutcome (o : CollectorOptions) (answer : Except CollectorFault Nat) (w : World σ) :
    Prop := w.CollectorsSettled ∧ ∀ c, answer = .ok c → w.HoldsCollector c o

theorem collectorOutcome_error {w : World σ} (h : w.CollectorsSettled) (o : CollectorOptions)
    (fault : CollectorFault) : CollectorOutcome o (.error fault) w := ⟨h, fun _ hc => nomatch hc⟩

theorem collectorOutcome_ok {w : World σ} (h : w.CollectorsSettled) {c : Nat}
    {o : CollectorOptions} (hc : w.HoldsCollector c o) : CollectorOutcome o (.ok c) w :=
  ⟨h, fun _ hx => Except.ok.inj hx ▸ hc⟩

/-- A fresh collector does not run, and nothing else has changed. -/
theorem collectorRuns_fresh {w w₁ : World σ} (h : w.CollectorsSettled)
    (hs : w.collectorSlot.holder = none) {o : CollectorOptions}
    (hadded : w₁.collectors = w.collectors ++ [⟨o, false, false⟩]) (x : Nat) :
    w₁.collectorRuns x = false := by
  rcases Nat.lt_trichotomy x w.collectors.length with hx | rfl | hx
  · have hold : w₁.collector x = w.collector x := by
      rw [World.collector, World.collector, hadded, List.getElem?_append_left hx]
    rw [World.collectorRuns, hold]
    exact h.eq_false hs x
  · simp [World.collectorRuns, World.collector, hadded, CollectorRecord.running]
  · exact World.collectorRuns_of_le (by rw [hadded, List.length_append]; exact hx)

variable [Outside σ]

/-- A collector that is started where none runs is the only one that runs, and in the slot; or it
does not start and none runs. -/
theorem launchCollector_spec {w : World σ} (h : w.CollectorsSettled)
    (hs : w.collectorSlot.holder = none) (o : CollectorOptions) :
    w.Ensures (launchCollector o) (CollectorOutcome o) := by
  unfold launchCollector
  rcases w.exec_createCollector_cases o with ⟨fault, w₁, hw₁, hkept⟩ | ⟨w₁, hw₁, hadded, hslot⟩
  · exact World.ensures_act hw₁
      (World.ensures_pure (collectorOutcome_error (h.congr hkept) o fault))
  refine World.ensures_act hw₁ ?_
  have hidle := collectorRuns_fresh h hs hadded
  have hsettled : w₁.CollectorsSettled := fun x => by simp [hidle, hslot, hs]
  generalize hn : w.collectors.length = n
  have hlt : n < w₁.collectors.length := by simp [hadded, hn]
  have hnew : w₁.collector n = ⟨o, false, false⟩ := by simp [World.collector, hadded, ← hn]
  rcases w₁.exec_startCollector_cases n with ⟨fault, w₂, hw₂, hkept⟩ | ⟨w₂, hw₂, hbegun, hslot₂⟩
  · exact World.ensures_act hw₂
      (World.ensures_pure (collectorOutcome_error (hsettled.congr hkept) o fault))
  refine World.ensures_act hw₂ ?_
  have hruns (x : Nat) : w₂.collectorRuns x = true ↔ x = n := by
    rw [World.collectorRuns, hbegun]
    by_cases hx : x = n
    · simp [hx, hlt, hnew, CollectorRecord.running]
    · rw [if_neg fun hxn => hx hxn.1, show (w₁.collector x).running = false from hidle x]
      simp [hx]
  refine World.ensures_act (r := none) (x := (w₂.exec (.installCollector n)).2) ?_ ?_
  · rw [← hs, ← hslot, ← hslot₂]
    rfl
  have hinstalled : (w₂.exec (.installCollector n)).2.CollectorsSettled :=
    Slot.governs_put (s := w₂.collectorSlot) hruns
  refine World.ensures_pure (collectorOutcome_ok hinstalled ⟨rfl, ?_⟩)
  change (w₂.collector n).options = o
  rw [hbegun, if_pos ⟨rfl, hlt⟩, hnew]

/-- The collector that is asked for is the only one that runs, and in the slot. -/
theorem ensureCollector_spec {w : World σ} (h : w.CollectorsSettled) (o : CollectorOptions) :
    w.Ensures (ensureCollector o) (CollectorOutcome o) := by
  unfold ensureCollector
  refine World.ensures_act (r := w.collectorSlot.holder) (x := w) rfl ?_
  rcases hs : w.collectorSlot.holder with _ | c
  · exact launchCollector_spec h hs o
  rcases w.exec_reloadCollector_cases c o with
    ⟨fault, w₁, hw₁, hkept⟩ | ⟨w₁, hw₁, hruns, ho, hslot⟩
  · refine World.ensures_act hw₁ ?_
    have h₁ := h.congr hkept
    split
    · next heq => exact nomatch heq
    · -- a collector that has to be created again makes room first
      refine World.ensures_perform (World.ensures_perform ?_)
      refine launchCollector_spec (h₁.discard c) ?_ o
      change (w₁.collectorSlot.release c).holder = none
      rw [hkept.2, Slot.release, if_pos hs]
      rfl
    · exact World.ensures_pure (collectorOutcome_error h₁ o _)
  · refine World.ensures_act hw₁ (World.ensures_pure (collectorOutcome_ok ?_ ⟨hslot ▸ hs, ?_⟩))
    · intro x
      rw [hruns, hslot]
      exact h x
    · exact ho ((h c).2 hs)

/-- No collector is left. -/
theorem shutdownCollector_spec {w : World σ} (h : w.CollectorsSettled) :
    w.Ensures shutdownCollector fun _ x => x.CollectorsSettled ∧ x.collectorSlot.holder = none := by
  unfold shutdownCollector
  refine World.ensures_act (r := w.collectorSlot.holder) (x := (w.exec .takeCollector).2) rfl
    ?_
  rcases hs : w.collectorSlot.holder with _ | c
  · exact World.ensures_pure ⟨Slot.governs_empty fun y => h.eq_false hs y, rfl⟩
  · refine ⟨?_, rfl⟩
    exact h.take hs fun y => (w.exec .takeCollector).2.collectorRuns_exec_stopCollector c y

end Supervision

end CalloutHost
