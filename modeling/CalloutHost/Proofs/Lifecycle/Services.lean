import CalloutHost.Lifecycle.World
import CalloutHost.Proofs.Lifecycle.Collectors
import CalloutHost.Proofs.Lifecycle.Engines
import Mathlib.Logic.Function.Basic

/-!
# What actions do to services

An action has one of a few effects on the services of a kind, which its answer tells
(`Action.effect`). The services after an action are those that its effect makes of the services
before (`World.services_exec`), and what it answers is the truth about these (`World.effect_fits`).
-/

namespace CalloutHost

/-! ## Effects -/

/-- What an action has done to the services of a kind, and what it was answered about them. -/
inductive Effect (k : ServiceKind)
  | none
  | looked (found : Option Nat)
  | created (x : Nat) (o : k.Options)
  | started (x : Nat)
  /-- One was not started. -/
  | failed (x : Nat)
  | installed (x : Nat) (previous : Option Nat)
  | stopped (x : Nat)
  | taken (found : Option Nat)
  /-- The slot has let go of one. -/
  | released (x : Nat)
  | told (x : Nat) (o : k.Options)
  | awaited (x : Nat)

/-- What an action has done to the services of a kind, by its answer. An engine runs from the
beginning of its start, a collector when its start has succeeded. -/
def Action.effect : (k : ServiceKind) → (a : Action) → a.Answer → Effect k
  | .engine, .currentEngine, found => .looked found
  | .engine, .installEngine e, previous => .installed e previous
  | .engine, .takeEngine, found => .taken found
  | .engine, .releaseEngine e, _ => .released e
  | .engine, .createEngine o, .ok e => .created e o
  | .engine, .beginStart e, _ => .started e
  | .engine, .reloadEngine e o, .ok () => .told e o
  | .engine, .awaitEngine e, _ => .awaited e
  | .engine, .shutdownEngine e, _ => .stopped e
  | .collector, .currentCollector, found => .looked found
  | .collector, .installCollector c, previous => .installed c previous
  | .collector, .takeCollector, found => .taken found
  | .collector, .releaseCollector c, _ => .released c
  | .collector, .createCollector o, .ok c => .created c o
  | .collector, .startCollector c, .ok () => .started c
  | .collector, .startCollector c, .error _ => .failed c
  | .collector, .reloadCollector c o, .ok () => .told c o
  | .collector, .stopCollector c, _ => .stopped c
  | _, _, _ => .none

namespace Effect

variable {k : ServiceKind}

/-- The services after an effect. A collector that was stopped is never started again. -/
def apply (v : Services k) : Effect k → Services k
  | .created x o => { v with
      count := v.count + 1
      ready := Function.update v.ready x true
      options := Function.update v.options x o }
  | .started x => { v with runs := fun y => v.runs y || (y = x && v.ready x) }
  | .installed x _ => { v with slot := v.slot.put x }
  | .stopped x => { v with
      runs := Function.update v.runs x false
      ready := match k with
        | .engine => v.ready
        | .collector => Function.update v.ready x false }
  | .taken _ => { v with slot := .empty }
  | .released x => { v with slot := v.slot.release x }
  | .told x o => { v with options := fun y => if y = x ∧ x < v.count then o else v.options y }
  | _ => v

/-- The answer is the truth about the services before. -/
def Fits (v : Services k) : Effect k → Prop
  | .looked found => found = v.slot.holder
  | .created x _ => x = v.count
  | .installed _ previous => previous = v.slot.holder
  | .taken found => found = v.slot.holder
  | _ => True

theorem runs_apply_stopped (v : Services k) (x y : Nat) :
    ((stopped x).apply v).runs y = if y = x then false else v.runs y :=
  Function.update_apply ..

theorem ready_apply_stopped (v : Services k) {x y : Nat} (h : y ≠ x) :
    ((stopped x).apply v).ready y = v.ready y := by
  cases k with
  | engine => rfl
  | collector => exact Function.update_of_ne h ..

theorem holder_apply_released (v : Services k) (x : Nat) :
    ((released x).apply v).slot.holder =
      if v.slot.holder = some x then Option.none else v.slot.holder := by
  change (v.slot.release x).holder = _
  rw [Slot.release]
  split <;> rfl

end Effect

/-! ## The effects of actions -/

namespace World

variable {σ : Type}

theorem getD_concat {α : Type} (l : List α) (r d : α) (x : Nat) :
    ((l ++ [r])[x]?).getD d = if x = l.length then r else (l[x]?).getD d := by
  rcases Nat.lt_trichotomy x l.length with h | rfl | h
  · rw [List.getElem?_append_left h, if_neg (Nat.ne_of_lt h)]
  · simp
  · rw [if_neg (Nat.ne_of_gt h), List.getElem?_eq_none (by simp; omega),
      List.getElem?_eq_none (Nat.le_of_lt h)]

theorem engine_concat {w w' : World σ} {r : EngineRecord} (h : w'.engines = w.engines ++ [r])
    (x : Nat) : w'.engine x = if x = w.engines.length then r else w.engine x := by
  rw [engine, engine, h, getD_concat]

theorem collector_concat {w w' : World σ} {r : CollectorRecord}
    (h : w'.collectors = w.collectors ++ [r]) (x : Nat) :
    w'.collector x = if x = w.collectors.length then r else w.collector x := by
  rw [collector, collector, h, getD_concat]

/-- Engines are ready from their creation on. -/
theorem services_engine_eq {w : World σ} {v : Services .engine} (hslot : w.engineSlot = v.slot)
    (hcount : w.engines.length = v.count) (hready : ∀ e, v.ready e = decide (e < v.count))
    (hengine : ∀ e, (w.engine e).running = v.runs e ∧ (w.engine e).options = v.options e) :
    w.services .engine = v := by
  ext e
  · rw [← hslot]
    rfl
  · exact hcount
  · exact (hengine e).1
  · rw [hready, ← hcount]
    rfl
  · exact (hengine e).2

/-- Collectors are ready as long as they were not stopped. -/
theorem services_collector_eq {w : World σ} {v : Services .collector}
    (hslot : w.collectorSlot = v.slot) (hcount : w.collectors.length = v.count)
    (hcollector : ∀ c, (w.collector c).running = v.runs c ∧
      (decide (c < v.count) && !(w.collector c).stopped) = v.ready c ∧
        (w.collector c).options = v.options c) :
    w.services .collector = v := by
  ext c
  · rw [← hslot]
    rfl
  · exact hcount
  · exact (hcollector c).1
  · rw [← (hcollector c).2.1, ← hcount]
    rfl
  · exact (hcollector c).2.2

variable [Outside σ]

theorem services_exec_engine (w : World σ) (a : Action) :
    (w.exec a).2.services .engine = (a.effect .engine (w.exec a).1).apply (w.services .engine) := by
  cases a with
  | createEngine o =>
    obtain ⟨fault, w', hexec, hengines, hslot⟩ | ⟨w', hexec, hengines, hslot⟩ :=
      w.exec_createEngine_cases o
    · rw [hexec]
      exact services_engine_eq hslot (by rw [hengines]; rfl) (fun _ => rfl) fun x => by
        rw [engine_congr hengines]
        exact ⟨rfl, rfl⟩
    · have hnone : (w.engine w.engines.length).running = false :=
        running_engine_of_le (Nat.le_refl _)
      rw [hexec]
      refine services_engine_eq hslot (by rw [hengines, List.length_append]; rfl) (fun x => ?_)
        fun x => ?_
      · change Function.update (fun e => decide (e < w.engines.length)) _ true x =
          decide (x < w.engines.length + 1)
        grind
      · rw [engine_concat hengines]
        change _ = w.engineRuns x ∧
          _ = Function.update (fun e => (w.engine e).options) w.engines.length o x
        grind [engineRuns]
  | beginStart e =>
    refine services_engine_eq rfl (List.length_modify ..) (fun _ => rfl) fun x => ?_
    rw [show (w.exec (.beginStart e)).2.engine x = _ from engine_setEngine w e _ x]
    change _ = (w.engineRuns x || (x = e && decide (e < w.engines.length))) ∧
      _ = (w.engine x).options
    grind [engineRuns]
  | reloadEngine e o =>
    rw [exec]
    split
    · next outside _ =>
      refine services_engine_eq rfl (List.length_modify ..) (fun _ => rfl) fun x => ?_
      generalize hw' : World.note _ _ = w'
      have hrecord : w'.engine x = if x = e ∧ e < w.engines.length then
          { w.engine e with options := o, reloads := (w.engine e).reloads + 1 }
          else w.engine x := by
        rw [← hw']
        exact engine_setEngine { w with outside } e _ x
      change _ = w.engineRuns x ∧
        _ = if x = e ∧ e < w.engines.length then o else (w.engine x).options
      grind [engineRuns]
    · rfl
  | shutdownEngine e =>
    refine services_engine_eq rfl (List.length_modify ..) (fun _ => rfl) fun x => ?_
    rw [show (w.exec (.shutdownEngine e)).2.engine x = _ from engine_setEngine w e _ x]
    change _ = Function.update w.engineRuns e false x ∧ _ = (w.engine x).options
    have := running_engine_of_le (w := w) (e := e)
    grind [engineRuns]
  | _ => first | rfl | (rw [exec]; split <;> rfl)

theorem services_exec_collector (w : World σ) (a : Action) :
    (w.exec a).2.services .collector =
      (a.effect .collector (w.exec a).1).apply (w.services .collector) := by
  cases a with
  | createCollector o =>
    obtain ⟨fault, w', hexec, hcollectors, hslot⟩ | ⟨w', hexec, hcollectors, hslot⟩ :=
      w.exec_createCollector_cases o
    · rw [hexec]
      exact services_collector_eq hslot (by rw [hcollectors]; rfl) fun x => by
        rw [collector_congr hcollectors]
        exact ⟨rfl, rfl, rfl⟩
    · have hnone := collectorRuns_of_le (w := w) (Nat.le_refl _)
      rw [hexec]
      refine services_collector_eq hslot (by rw [hcollectors, List.length_append]; rfl)
        fun x => ?_
      rw [collector_concat hcollectors]
      change _ = w.collectorRuns x ∧
        (decide (x < w.collectors.length + 1) && _) = Function.update
          (fun c => c < w.collectors.length && !(w.collector c).stopped)
          w.collectors.length true x ∧
        _ = Function.update (fun c => (w.collector c).options) w.collectors.length o x
      grind [collectorRuns, CollectorRecord.running]
  | startCollector c =>
    rw [exec]
    split
    · next outside _ =>
      refine services_collector_eq rfl (List.length_modify ..) fun x => ?_
      generalize hw' : World.note _ _ = w'
      have hrecord : w'.collector x = if x = c ∧ c < w.collectors.length then
          { w.collector c with started := true } else w.collector x := by
        rw [← hw']
        exact collector_setCollector { w with outside } c _ x
      change _ = (w.collectorRuns x ||
          (x = c && (c < w.collectors.length && !(w.collector c).stopped))) ∧
        (decide (x < w.collectors.length) && _) =
          (decide (x < w.collectors.length) && !(w.collector x).stopped) ∧
        _ = (w.collector x).options
      grind [collectorRuns, CollectorRecord.running]
    · rfl
  | reloadCollector c o =>
    rw [exec]
    split
    · next outside _ =>
      refine services_collector_eq rfl (List.length_modify ..) fun x => ?_
      generalize hw' : World.note _ _ = w'
      have hrecord : w'.collector x = if x = c ∧ c < w.collectors.length then
          { w.collector c with options := o } else w.collector x := by
        rw [← hw']
        exact collector_setCollector { w with outside } c _ x
      change _ = w.collectorRuns x ∧
        (decide (x < w.collectors.length) && _) =
          (decide (x < w.collectors.length) && !(w.collector x).stopped) ∧
        _ = if x = c ∧ c < w.collectors.length then o else (w.collector x).options
      grind [collectorRuns, CollectorRecord.running]
    · next fault _ _ => cases fault <;> rfl
  | stopCollector c =>
    refine services_collector_eq rfl (List.length_modify ..) fun x => ?_
    rw [show (w.exec (.stopCollector c)).2.collector x = _ from collector_setCollector w c _ x]
    change _ = Function.update w.collectorRuns c false x ∧
      (decide (x < w.collectors.length) && _) = Function.update
        (fun c => c < w.collectors.length && !(w.collector c).stopped) c false x ∧
      _ = (w.collector x).options
    have := collectorRuns_of_le (w := w) (c := c)
    grind [collectorRuns, CollectorRecord.running]
  | _ => first | rfl | (rw [exec]; split <;> rfl)

/-- After an action, the services are what its effect makes of them. -/
theorem services_exec (w : World σ) (a : Action) (k : ServiceKind) :
    (w.exec a).2.services k = (a.effect k (w.exec a).1).apply (w.services k) :=
  match k with
  | .engine => services_exec_engine w a
  | .collector => services_exec_collector w a

/-- What an action answers is the truth about the services. -/
theorem effect_fits (w : World σ) (a : Action) (k : ServiceKind) :
    (a.effect k (w.exec a).1).Fits (w.services k) := by
  cases k with
  | engine =>
    cases a with
    | currentEngine | installEngine _ | takeEngine => rfl
    | createEngine o =>
      rw [exec]
      split
      · rfl
      · trivial
    | reloadEngine e o =>
      rw [exec]
      split <;> trivial
    | _ => trivial
  | collector =>
    cases a with
    | currentCollector | installCollector _ | takeCollector => rfl
    | createCollector o =>
      rw [exec]
      split
      · rfl
      · trivial
    | startCollector c =>
      rw [exec]
      split <;> trivial
    | reloadCollector c o =>
      rw [exec]
      split
      · trivial
      · next fault _ _ => cases fault <;> trivial
    | _ => trivial

end World

end CalloutHost
