import CalloutHost.Proofs.Lifecycle.Servers
import CalloutHost.Proofs.Lifecycle.Services

/-!
# Who has to do with a service

Several parties may have to do with the services of a process. Each keeps a ledger: which services
it has learned of, and with which one it still has something to do (`Ledger.duty`). What a party may
do next, and what it has to do then, is said once (`Ledger.Takes`).

A service is in custody (`Custody`) if whatever runs is held by the slot or is to be put there or to
be stopped, and whatever the slot holds runs or is to be let go. As long as every party does only
what it may, all services stay in custody (`Custody.step`).
-/

namespace CalloutHost

/-- What is to be done with a service before somebody is done with the services of its kind. -/
inductive Role
  | made
  /-- It was started and is to be put into the slot or to be stopped. -/
  | raised
  | removed
  /-- It was stopped, and the slot is to let go of it. -/
  | dismissed
  deriving DecidableEq

/-- What somebody knows of the services of a kind, and what they have to do. -/
structure Ledger (k : ServiceKind) where
  known : List Nat
  /-- The service with which there is something to do, if there is one. -/
  duty : Option (Role × Nat)
  /-- What the slot held, after what they did to it last or found in it. -/
  seen : Option (Option Nat)
  told : Option (Nat × k.Options)
  awaited : List Nat

namespace Ledger

variable {k : ServiceKind}

/-- Nothing was done yet, and these services are known. -/
def new (known : List Nat) : Ledger k := ⟨known, none, none, none, []⟩

/-- What somebody may do, and what they have to do then. -/
inductive Takes (m : Ledger k) : Effect k → Ledger k → Prop
  | none : m.Takes .none m
  | looked (found : Option Nat) :
    m.Takes (.looked found) { m with known := found.toList ++ m.known, seen := some found }
  | created (x : Nat) (o : k.Options) (h : m.duty = Option.none) :
    m.Takes (.created x o) { m with duty := some (.made, x), told := some (x, o) }
  | started (x : Nat) (h : m.duty = some (.made, x)) :
    m.Takes (.started x) { m with duty := some (.raised, x) }
  | failed (x : Nat) (h : m.duty = some (.made, x)) :
    m.Takes (.failed x) { m with duty := Option.none }
  /-- Whoever puts it into the slot has to stop what was there. -/
  | installed (x : Nat) (previous : Option Nat) (h : m.duty = some (.raised, x)) :
    m.Takes (.installed x previous)
      { m with known := x :: m.known, duty := previous.map (.removed, ·), seen := some (some x) }
  | stopped (x : Nat) (h : m.duty = some (.raised, x) ∨ m.duty = some (.removed, x)) :
    m.Takes (.stopped x) { m with duty := Option.none }
  /-- Whoever stops a service that they have learned of has to let the slot go of it. -/
  | dismissed (x : Nat) (h : m.duty = Option.none) (hx : x ∈ m.known) :
    m.Takes (.stopped x) { m with duty := some (.dismissed, x) }
  /-- Whoever empties the slot has to stop what was there. -/
  | taken (found : Option Nat) (h : m.duty = Option.none) :
    m.Takes (.taken found)
      { m with duty := found.map (.removed, ·), seen := some Option.none }
  | released (x : Nat) (h : m.duty = some (.dismissed, x)) :
    m.Takes (.released x)
      { m with
        duty := Option.none
        seen := m.seen.map fun found => if found = some x then Option.none else found }
  | told (x : Nat) (o : k.Options) : m.Takes (.told x o) { m with told := some (x, o) }
  | awaited (x : Nat) : m.Takes (.awaited x) { m with awaited := x :: m.awaited }

end Ledger

variable {ι : Type} {k : ServiceKind}

/-- The parties have this service in custody. -/
structure Custody (v : Services k) (m : ι → Ledger k) (x : Nat) : Prop where
  /-- If it runs it is held, or somebody has to put it into the slot or to stop it. -/
  owned : v.runs x = true →
    v.slot.holder = some x ∨ ∃ i, (m i).duty = some (.raised, x) ∨ (m i).duty = some (.removed, x)
  /-- If it is held it runs, or somebody has to let the slot go of it. -/
  alive : v.slot.holder = some x → v.runs x = true ∨ ∃ i, (m i).duty = some (.dismissed, x)
  held : v.slot.holder = some x → x < v.count
  known : ∀ i, x ∈ (m i).known → x < v.count
  bounded : ∀ i r, (m i).duty = some (r, x) → x < v.count
  /-- As long as it is to be started or to be put into the slot it is not held. -/
  unheld : ∀ i, (m i).duty = some (.made, x) ∨ (m i).duty = some (.raised, x) →
    v.slot.holder ≠ some x
  /-- Nobody knows it before it is in the slot. -/
  unknown : ∀ i j, (m i).duty = some (.made, x) ∨ (m i).duty = some (.raised, x) →
    x ∉ (m j).known
  /-- Nobody else has to do with it before it is in the slot. -/
  unshared : ∀ i j r, (m i).duty = some (.made, x) ∨ (m i).duty = some (.raised, x) →
    (m j).duty = some (r, x) → j = i
  made : ∀ i, (m i).duty = some (.made, x) → v.ready x = true
  raised : ∀ i, (m i).duty = some (.raised, x) → v.runs x = true
  removed : ∀ i, (m i).duty = some (.removed, x) → v.slot.holder ≠ some x
  dismissed : ∀ i, (m i).duty = some (.dismissed, x) → v.runs x = false

namespace Custody

variable {v v' : Services k} {m m' : ι → Ledger k} {x y : Nat}

/-- Services with which nothing is done stay in custody, also when others learn of them from the
slot or from somebody who knows. -/
theorem congr (h : Custody v m x) (hheld : v'.slot.holder = some x ↔ v.slot.holder = some x)
    (hruns : v'.runs x = v.runs x) (hready : v'.ready x = v.ready x) (hcount : v.count ≤ v'.count)
    (hduty : ∀ i r, (m' i).duty = some (r, x) ↔ (m i).duty = some (r, x))
    (hknown : ∀ i, x ∈ (m' i).known → (∃ j, x ∈ (m j).known) ∨ v.slot.holder = some x) :
    Custody v' m' x := by
  have hpublic (i : ι) (hx : x ∈ (m' i).known) : x < v.count ∧
      ∀ j, ¬((m j).duty = some (.made, x) ∨ (m j).duty = some (.raised, x)) := by
    rcases hknown i hx with ⟨j, hj⟩ | hslot
    · exact ⟨h.known j hj, fun i hi => h.unknown i j hi hj⟩
    · exact ⟨h.held hslot, fun i hi => h.unheld i hi hslot⟩
  exact
    { owned := by simpa only [hruns, hheld, hduty] using h.owned
      alive := by simpa only [hruns, hheld, hduty] using h.alive
      held := fun hx => Nat.lt_of_lt_of_le (h.held (hheld.1 hx)) hcount
      known := fun i hx => Nat.lt_of_lt_of_le (hpublic i hx).1 hcount
      bounded := fun i r hx => Nat.lt_of_lt_of_le (h.bounded i r ((hduty i r).1 hx)) hcount
      unheld := by simpa only [ne_eq, hheld, hduty] using h.unheld
      unknown := fun i j hi hx => (hpublic j hx).2 i (by simpa only [hduty] using hi)
      unshared := by simpa only [hduty] using h.unshared
      made := by simpa only [hready, hduty] using h.made
      raised := by simpa only [hruns, hduty] using h.raised
      removed := by simpa only [ne_eq, hheld, hduty] using h.removed
      dismissed := by simpa only [hruns, hduty] using h.dismissed }

variable [DecidableEq ι]

/-- Anybody may learn of services that somebody knows of. -/
theorem learn (h : Custody v m x) (i : ι) {l : List Nat} (hl : x ∈ l → ∃ j, x ∈ (m j).known) :
    Custody v (Function.update m i { m i with known := l ++ (m i).known }) x := by
  refine h.congr Iff.rfl rfl rfl (Nat.le_refl _) (fun j r => ?_) fun j hx => .inl ?_
  · by_cases hj : j = i <;> simp [hj]
  · rw [Function.update_apply] at hx
    split at hx
    · exact (List.mem_append.1 hx).elim hl fun hx => ⟨i, hx⟩
    · exact ⟨j, hx⟩

variable {i : ι} {after : Ledger k}
  (hm : ∀ j, m' j = if j = i then after else m j)

include hm

theorem create (h : Custody v m y) {o : k.Options} (hfits : x = v.count)
    (hduty : (m i).duty = none)
    (hafter : after = { m i with duty := some (.made, x), told := some (x, o) }) :
    Custody ((Effect.created x o).apply v) m' y := by
  have hslot : ((Effect.created x o).apply v).slot = v.slot := rfl
  have hcount : ((Effect.created x o).apply v).count = v.count + 1 := rfl
  have hruns : ((Effect.created x o).apply v).runs = v.runs := rfl
  have hready : ((Effect.created x o).apply v).ready y = if y = x then true else v.ready y :=
    Function.update_apply ..
  generalize (Effect.created x o).apply v = v' at hslot hcount hruns hready ⊢
  obtain ⟨_, _, _, _, _, _, _, _, _, _, _, _⟩ := h
  constructor <;> grind

theorem start (h : Custody v m y) (hduty : (m i).duty = some (.made, x))
    (hafter : after = { m i with duty := some (.raised, x) }) :
    Custody ((Effect.started x).apply v) m' y := by
  have hslot : ((Effect.started x).apply v).slot = v.slot := rfl
  have hcount : ((Effect.started x).apply v).count = v.count := rfl
  have hruns : ((Effect.started x).apply v).runs y = (v.runs y || (y = x && v.ready x)) := rfl
  have hready : ((Effect.started x).apply v).ready = v.ready := rfl
  generalize (Effect.started x).apply v = v' at hslot hcount hruns hready ⊢
  obtain ⟨_, _, _, _, _, _, _, _, _, _, _, _⟩ := h
  constructor <;> grind

theorem fail (h : Custody v m y) (hduty : (m i).duty = some (.made, x))
    (hafter : after = { m i with duty := none }) : Custody v m' y := by
  obtain ⟨_, _, _, _, _, _, _, _, _, _, _, _⟩ := h
  constructor <;> grind

/-- What was in the slot before is still there to be stopped, and whoever put another one there does
it. -/
theorem install (h : Custody v m y) {previous : Option Nat} (hx : Custody v m x)
    (hfits : previous = v.slot.holder) (hduty : (m i).duty = some (.raised, x))
    (hafter : after = { m i with
      known := x :: (m i).known, duty := previous.map (.removed, ·), seen := some (some x) }) :
    Custody ((Effect.installed x previous).apply v) m' y := by
  have hslot : ((Effect.installed x previous).apply v).slot.holder = some x := rfl
  have hcount : ((Effect.installed x previous).apply v).count = v.count := rfl
  have hruns : ((Effect.installed x previous).apply v).runs = v.runs := rfl
  have hready : ((Effect.installed x previous).apply v).ready = v.ready := rfl
  generalize (Effect.installed x previous).apply v = v' at hslot hcount hruns hready ⊢
  have hbounded := hx.bounded
  have hunshared := hx.unshared
  have hheld := hx.unheld i (.inr hduty)
  obtain ⟨_, _, _, _, _, _, _, _, _, _, _, _⟩ := h
  clear hx
  constructor <;> cases previous <;> grind

theorem stop (h : Custody v m y)
    (hduty : (m i).duty = some (.raised, x) ∨ (m i).duty = some (.removed, x))
    (hafter : after = { m i with duty := none }) :
    Custody ((Effect.stopped x).apply v) m' y := by
  have hslot : ((Effect.stopped x).apply v).slot = v.slot := rfl
  have hcount : ((Effect.stopped x).apply v).count = v.count := rfl
  have hruns := Effect.runs_apply_stopped v x y
  have hready := Effect.ready_apply_stopped v (x := x) (y := y)
  generalize (Effect.stopped x).apply v = v' at hslot hcount hruns hready ⊢
  obtain ⟨_, _, _, _, _, _, _, _, _, _, _, _⟩ := h
  constructor <;> grind

/-- Whoever has learned of a service may stop it, as nobody is about to start it or to put it into
the slot. -/
theorem dismiss (h : Custody v m y) (hduty : (m i).duty = none) (hx : x ∈ (m i).known)
    (hafter : after = { m i with duty := some (.dismissed, x) }) :
    Custody ((Effect.stopped x).apply v) m' y := by
  have hslot : ((Effect.stopped x).apply v).slot = v.slot := rfl
  have hcount : ((Effect.stopped x).apply v).count = v.count := rfl
  have hruns := Effect.runs_apply_stopped v x y
  have hready := Effect.ready_apply_stopped v (x := x) (y := y)
  generalize (Effect.stopped x).apply v = v' at hslot hcount hruns hready ⊢
  obtain ⟨_, _, _, _, _, _, _, _, _, _, _, _⟩ := h
  constructor <;> grind

theorem take (h : Custody v m y) {found : Option Nat} (hfits : found = v.slot.holder)
    (hduty : (m i).duty = none)
    (hafter : after = { m i with duty := found.map (.removed, ·), seen := some none }) :
    Custody ((Effect.taken found).apply v) m' y := by
  have hslot : ((Effect.taken found).apply v).slot.holder = none := rfl
  have hcount : ((Effect.taken found).apply v).count = v.count := rfl
  have hruns : ((Effect.taken found).apply v).runs = v.runs := rfl
  have hready : ((Effect.taken found).apply v).ready = v.ready := rfl
  generalize (Effect.taken found).apply v = v' at hslot hcount hruns hready ⊢
  obtain ⟨_, _, _, _, _, _, _, _, _, _, _, _⟩ := h
  constructor <;> cases found <;> grind

theorem release (h : Custody v m y) (hduty : (m i).duty = some (.dismissed, x))
    (hafter : after = { m i with
      duty := none, seen := (m i).seen.map fun found => if found = some x then none else found }) :
    Custody ((Effect.released x).apply v) m' y := by
  have hslot : ((Effect.released x).apply v).slot.holder =
      if v.slot.holder = some x then none else v.slot.holder :=
    Effect.holder_apply_released v x
  have hcount : ((Effect.released x).apply v).count = v.count := rfl
  have hruns : ((Effect.released x).apply v).runs = v.runs := rfl
  have hready : ((Effect.released x).apply v).ready = v.ready := rfl
  generalize (Effect.released x).apply v = v' at hslot hcount hruns hready ⊢
  obtain ⟨_, _, _, _, _, _, _, _, _, _, _, _⟩ := h
  constructor <;> grind

omit hm in
/-- As long as one party after the other does what it may, all services stay in custody. -/
theorem step (h : ∀ x, Custody v m x) {eff : Effect k} (ht : (m i).Takes eff (m' i))
    (hothers : ∀ j, j ≠ i → m' j = m j) (hfits : eff.Fits v) (y : Nat) :
    Custody (eff.apply v) m' y := by
  have hm (j : ι) : m' j = if j = i then m' i else m j := by
    split
    · next hj => rw [hj]
    · next hj => exact hothers j hj
  generalize hafter : m' i = after at ht hm
  cases ht with
  | none => exact (h y).congr Iff.rfl rfl rfl (Nat.le_refl _) (by grind) (by grind)
  | looked found =>
    have hfound : found = v.slot.holder := hfits
    exact (h y).congr Iff.rfl rfl rfl (Nat.le_refl _) (by grind) (by grind)
  | created x o hduty => exact (h y).create hm hfits hduty rfl
  | started x hduty => exact (h y).start hm hduty rfl
  | failed x hduty => exact (h y).fail hm hduty rfl
  | installed x previous hduty => exact (h y).install hm (h x) hfits hduty rfl
  | stopped x hduty => exact (h y).stop hm hduty rfl
  | dismissed x hduty hx => exact (h y).dismiss hm hduty hx rfl
  | taken found hduty => exact (h y).take hm hfits hduty rfl
  | released x hduty => exact (h y).release hm hduty rfl
  | told x o => exact (h y).congr Iff.rfl rfl rfl (Nat.le_refl _) (by grind) (by grind)
  | awaited x => exact (h y).congr Iff.rfl rfl rfl (Nat.le_refl _) (by grind) (by grind)

end Custody

/-- Where what runs is what the slots hold, all services are in the custody of whoever has done
nothing yet. -/
theorem World.Settled.custody {σ : Type} {w : World σ} (h : w.Settled) (k : ServiceKind) (x : Nat) :
    Custody (w.services k) (fun _ : ι => Ledger.new []) x := by
  have hruns : (w.services k).runs x = true ↔ (w.services k).slot.holder = some x := by
    cases k with
    | engine => exact h.engines x
    | collector => exact h.collectors x
  have hlt (hx : (w.services k).runs x = true) : x < (w.services k).count := by
    refine Nat.lt_of_not_le fun hle => ?_
    cases k with
    | engine => exact Bool.false_ne_true ((running_engine_of_le hle).symm.trans hx)
    | collector => exact Bool.false_ne_true ((collectorRuns_of_le hle).symm.trans hx)
  constructor <;> simp_all [Ledger.new]

end CalloutHost
