import CalloutHost.Lifecycle.Script
import CalloutHost.Lifecycle.Supervised
import CalloutHost.Proofs.Lifecycle.Follows
import CalloutHost.Proofs.Lifecycle.HostRuns

/-!
# At most one engine and one collector

However many calls to the supervision are in progress, and however their actions alternate: whatever
runs is in the slot, or a call that is still in progress puts it there or stops it. So when no call
is in progress, what runs is what the slot holds (`Supervised.at_most_one`).

Every caller keeps a ledger, and one more is kept of the engines that somebody has been given. All
services are in the custody of these, and every step keeps that (`Kept.step`).
-/

namespace CalloutHost

open Program (Follows Yields yields_bind yields_true)

/-! ## Duties are done -/

section Duties

variable {k : ServiceKind} {x : Nat}

/-- An effect that puts a service into the slot or stops it. -/
def Effect.Disposes (x : Nat) : Effect k → Prop
  | .installed y _ => y = x
  | .stopped y => y = x
  | _ => False

/-- Such an effect has only an action that is about this service. -/
theorem Action.disposes_of_effect {a : Action} {answer : a.Answer}
    (h : (a.effect k answer).Disposes x) : a.disposes k x = true := by
  cases k <;> cases a <;> first
    | exact decide_eq_true h
    | exact h.elim
    | (rcases answer with _ | _ <;> exact h.elim)

/-- Whoever has to put a service into the slot or to stop it has to do so until they have. -/
theorem Ledger.Takes.duty_of_not {m m' : Ledger k} {eff : Effect k} (ht : m.Takes eff m')
    (hx : m.duty = some (.raised, x) ∨ m.duty = some (.removed, x)) (hnot : ¬eff.Disposes x) :
    m'.duty = m.duty := by
  cases ht <;> grind [Effect.Disposes]

/-- Whoever is to put a service into the slot or to stop it does so, as nothing is left to do in the
end. -/
theorem Program.Follows.disposes {α : Type} {p : Program α} {m : Ledger k}
    {Q : α → Ledger k → Prop} (h : p.Follows m Q) (hQ : ∀ a m', Q a m' → m'.duty = none)
    (hx : m.duty = some (.raised, x) ∨ m.duty = some (.removed, x)) : p.Disposes k x := by
  induction p generalizing m with
  | done a =>
    rw [hQ a m h] at hx
    exact hx.elim nofun nofun
  | act a next ih =>
    by_cases ha : a.disposes k x = true
    · exact .inl ha
    refine .inr fun answer => ?_
    obtain ⟨m', ht, hrest⟩ := h answer
    have hsame := ht.duty_of_not hx fun he => ha (Action.disposes_of_effect he)
    exact ih answer hrest (hsame ▸ hx)

end Duties

/-! ## Calls -/

namespace SupervisorCall

variable {k : ServiceKind}

/-- At the end of a call nothing is left to do, and its caller knows the engine that it has given to
them. -/
def Ends (given : Option Nat) (m : Ledger k) : Prop :=
  m.duty = none ∧ (k = .engine → ∀ e, given = some e → e ∈ m.known)

/-- A call does nothing to the services that it is not about. -/
theorem program_avoids {call : SupervisorCall} (h : call.kind ≠ k) : call.program.Avoids k := by
  cases k <;> cases call <;> first
    | exact absurd rfl h
    | exact (Supervision.ensureEngine_avoids _).bind fun _ => trivial
    | exact (Supervision.awaitEngine_avoids _).bind fun _ => trivial
    | exact Supervision.shutdownEngine_avoids.bind fun _ => trivial
    | exact (Supervision.ensureCollector_avoids _).bind fun _ => trivial
    | exact Supervision.shutdownCollector_avoids.bind fun _ => trivial

/-- A call on collectors gives no engine to anybody. -/
theorem program_yields {call : SupervisorCall} (h : call.kind = .collector) :
    call.program.Yields fun given => given = none := by
  cases call with
  | ensureCollector o =>
    exact yields_bind yields_true fun _ _ => rfl
  | shutdownCollector =>
    exact yields_bind yields_true fun _ _ => rfl
  | _ => exact nomatch h

/-- A call that its caller may make begins and ends with nothing to do. -/
theorem program_follows (call : SupervisorCall) {m : Ledger k} (h : m.duty = none)
    (hknown : k = .engine → ∀ e, call = .awaitEngine e → e ∈ m.known) :
    call.program.Follows m Ends := by
  by_cases hkind : call.kind = k
  · subst hkind
    cases call with
    | ensureEngine o =>
      refine (Supervision.ensureEngine_follows o h).bind fun r m' hm => ⟨hm.idle, fun _ e he => ?_⟩
      cases r with
      | error fault => exact nomatch he
      | ok e' => exact (hm.ok e (congrArg _ (Option.some.inj he))).1
    | awaitEngine e =>
      exact (Supervision.awaitEngine_follows h (hknown rfl e rfl)).bind
        fun _ _ hm => ⟨hm.1, fun _ => nofun⟩
    | shutdownEngine =>
      exact (Supervision.shutdownEngine_follows h).bind fun _ _ hm => ⟨hm, fun _ => nofun⟩
    | ensureCollector o =>
      exact (Supervision.ensureCollector_follows o h).bind
        fun _ _ hm => ⟨hm.idle, fun _ => nofun⟩
    | shutdownCollector =>
      exact (Supervision.shutdownCollector_follows h).bind fun _ _ hm => ⟨hm, fun _ => nofun⟩
  · cases k with
    | engine =>
      have hcollector : call.kind = .collector := by
        cases hc : call.kind with
        | engine => exact absurd hc hkind
        | collector => rfl
      refine (program_avoids hkind).follows (program_yields hcollector) fun given hnone => ?_
      exact ⟨h, fun _ e he => nomatch hnone.symm.trans he⟩
    | collector =>
      exact (program_avoids hkind).follows yields_true
        fun _ _ => ⟨h, nofun⟩

end SupervisorCall

/-! ## Steps -/

namespace Supervised

variable {σ : Type} {k : ServiceKind}

/-- What there is to do at a place. -/
def Minds (m : Ledger k) : Option OngoingCall → Prop
  | none => m.duty = none
  | some c =>
    c.rest.Follows m SupervisorCall.Ends ∧ (c.call.kind ≠ k → c.rest.Avoids k ∧ m.duty = none)

/-- All services are in custody of the callers, each with a ledger of their own, and of the ledger
of the engines that were given to somebody. -/
structure Kept (s : Supervised σ) (m : Option Nat → Ledger k) : Prop where
  custody : ∀ x, Custody (s.world.services k) m x
  /-- Who only knows engines has nothing to do. -/
  idle : (m none).duty = none
  given : k = .engine → ∀ e ∈ s.given, e ∈ (m none).known
  calls : ∀ place, Minds (m (some place)) (s.calls place)

variable {s : Supervised σ} {m : Option Nat → Ledger k} {place : Nat}

/-- A call has come this far, and its caller does what is left of it. Where nothing is left, others
may learn of the engine that was given to the caller. -/
theorem Kept.put {call : SupervisorCall} {rest : Program (Option Nat)}
    (hcustody : ∀ x, Custody (s.world.services k) m x) (hidle : (m none).duty = none)
    (hgiven : k = .engine → ∀ e ∈ s.given, e ∈ (m none).known)
    (hothers : ∀ p, p ≠ place → Minds (m (some p)) (s.calls p))
    (hrest : Minds (m (some place)) (some ⟨call, rest⟩)) :
    ∃ m', Kept (k := k) (s.put place call rest) m' := by
  -- what others learn of is what was given to the caller
  obtain ⟨l, hl, hlearnt⟩ : ∃ l : List Nat, (∀ x ∈ l, ∃ j, x ∈ (m j).known) ∧
      (k = .engine → ∀ e ∈ rest.result?.join.toList, e ∈ l) := by
    cases k with
    | collector => exact ⟨[], nofun, nofun⟩
    | engine =>
      refine ⟨rest.result?.join.toList, fun x hx => ⟨some place, ?_⟩, fun _ _ he => he⟩
      cases rest with
      | done given => exact hrest.1.2 rfl x (Option.mem_toList.1 hx)
      | act a next => exact nomatch hx
  refine ⟨Function.update m none { m none with known := l ++ (m none).known },
    fun x => (hcustody x).learn none (hl x), ?_, fun hk e he => ?_, fun p => ?_⟩
  · rw [Function.update_self]
    exact hidle
  · rw [Function.update_self]
    exact List.mem_append.2 ((List.mem_append.1 he).imp (hlearnt hk e) (hgiven hk e))
  · rw [Function.update_of_ne (by simp)]
    change Minds _ (Function.update s.calls place _ p)
    by_cases hp : p = place
    · subst hp
      rw [Function.update_self]
      cases rest with
      | done given => exact hrest.1.1
      | act a next => exact hrest
    · rw [Function.update_of_ne hp]
      exact hothers p hp

/-- A caller who begins knows all engines that were given to somebody. -/
theorem Kept.begin (h : Kept s m) {call : SupervisorCall} (hplace : s.calls place = none)
    (hallows : s.allows call = true) : ∃ m', Kept (k := k) (s.put place call call.program) m' := by
  have hidle : (m (some place)).duty = none := by
    have := h.calls place
    rwa [hplace] at this
  have hknown (hk : k = .engine) (e : Nat) (he : call = .awaitEngine e) :
      e ∈ (m none).known ++ (m (some place)).known := by
    subst he
    exact List.mem_append_left _ (h.given hk e (List.contains_iff_mem.1 hallows))
  refine Kept.put (m := Function.update m (some place)
      { m (some place) with known := (m none).known ++ (m (some place)).known })
    (fun x => (h.custody x).learn (some place) fun hx => ⟨none, hx⟩) ?_ ?_ (fun p hp => ?_) ?_
  · rw [Function.update_of_ne (by simp)]
    exact h.idle
  · rw [Function.update_of_ne (by simp)]
    exact h.given
  · rw [Function.update_of_ne (by simpa using hp)]
    exact h.calls p
  · rw [Function.update_self]
    exact ⟨call.program_follows hidle hknown, fun hk => ⟨call.program_avoids hk, hidle⟩⟩

variable [Outside σ]

/-- Whatever a caller is answered, what they do is what their ledger lets them do. -/
theorem Kept.proceed (h : Kept s m) {call : SupervisorCall} {a : Action}
    {next : a.Answer → Program (Option Nat)} (hplace : s.calls place = some ⟨call, .act a next⟩) :
    ∃ m', Kept (k := k) (Supervised.put { s with world := (s.world.exec a).2 } place call
      (next (s.world.exec a).1)) m' := by
  have hcall := h.calls place
  rw [hplace] at hcall
  obtain ⟨hfollows, hother⟩ := hcall
  obtain ⟨after, ht, hrest⟩ := hfollows (s.world.exec a).1
  have hself : Function.update m (some place) after (some place) = after := Function.update_self ..
  refine Kept.put (m := Function.update m (some place) after) (fun x => ?_) ?_ ?_ (fun p hp => ?_)
    ⟨by rwa [hself], fun hk => ?_⟩
  · change Custody ((s.world.exec a).2.services k) _ x
    rw [World.services_exec]
    exact Custody.step h.custody (i := some place) (by rwa [hself])
      (fun j hj => Function.update_of_ne hj ..) (s.world.effect_fits a k) x
  · rw [Function.update_of_ne (by simp)]
    exact h.idle
  · rw [Function.update_of_ne (by simp)]
    exact h.given
  · rw [Function.update_of_ne (by simpa using hp)]
    exact h.calls p
  · -- a call about services of the other kind has done nothing to these
    obtain ⟨havoids, hidle⟩ := hother hk
    obtain ⟨hnone, hrest'⟩ := havoids (s.world.exec a).1
    rw [hnone] at ht
    cases ht
    rw [hself]
    exact ⟨hrest', hidle⟩

/-- Whoever looks which engine serves learns of the one that the slot holds. -/
theorem Kept.look (h : Kept s m) : ∃ m', Kept (k := k) (s.step .look) m' := by
  let found := (s.world.services k).slot.holder
  let after : Ledger k :=
    { m none with known := found.toList ++ (m none).known, seen := some found }
  have hself : Function.update m none after none = after := Function.update_self ..
  refine ⟨Function.update m none after, fun x => ?_, ?_, fun hk e he => ?_, fun p => ?_⟩
  · have htakes : (m none).Takes (.looked found) (Function.update m none after none) := by
      rw [hself]
      exact .looked found
    exact Custody.step h.custody htakes (fun j hj => Function.update_of_ne hj ..) rfl x
  · rw [hself]
    exact h.idle
  · rw [hself]
    subst hk
    exact List.mem_append.2 ((List.mem_append.1 he).imp id (h.given rfl e))
  · rw [Function.update_of_ne (by simp)]
    exact h.calls p

/-- What is in custody stays in custody. -/
theorem Kept.step (h : Kept s m) (e : SupervisedStep) : ∃ m', Kept (k := k) (s.step e) m' := by
  cases e with
  | begin place call =>
    rw [Supervised.step]
    split
    · next hmay =>
      rw [Bool.and_eq_true, Option.isNone_iff_eq_none] at hmay
      exact h.begin hmay.1 hmay.2
    · exact ⟨m, h⟩
  | proceed place =>
    rw [Supervised.step]
    split
    · next hplace => exact h.proceed hplace
    · exact ⟨m, h⟩
  | look => exact h.look

theorem Kept.run (h : Kept s m) (steps : List SupervisedStep) :
    ∃ m', Kept (k := k) (s.run steps) m' := by
  induction steps generalizing s m with
  | nil => exact ⟨m, h⟩
  | cons e steps ih =>
    obtain ⟨m', h'⟩ := h.step e
    exact ih h'

omit [Outside σ] in
theorem kept_new (outside : σ) (supply : SeedSupply) (patience : Nanoseconds) (k : ServiceKind) :
    Kept (k := k) (new outside supply patience) fun _ => .new [] where
  custody := (Host.consistent_new outside supply patience).settled.custody k
  idle := rfl
  given _ := nofun
  calls _ := rfl

omit [Outside σ] in
/-- Whoever has something to do is in a call about these services. -/
theorem Kept.busy (h : Kept s m) {i : Option Nat} {r : Role} {x : Nat}
    (hi : (m i).duty = some (r, x)) :
    ∃ place c, i = some place ∧ s.calls place = some c ∧ c.call.kind = k ∧
      c.rest.Follows (m i) SupervisorCall.Ends := by
  rcases i with _ | place
  · exact nomatch h.idle.symm.trans hi
  have hplace := h.calls place
  rcases hc : s.calls place with _ | c
  · rw [hc] at hplace
    exact nomatch hplace.symm.trans hi
  · rw [hc] at hplace
    refine ⟨place, c, rfl, hc, ?_, hplace.1⟩
    by_contra hk
    exact nomatch (hplace.2 hk).2.symm.trans hi

/-- Whatever callers do, and whatever is answered from outside: whatever engine or collector runs is
in the slot, or a call that is still in progress puts it there or stops it. When no call that is
about engines is in progress, then either nothing is in the slot and no engine runs, or there is
just one engine that runs, and it is in the slot; and so it is with collectors. -/
theorem at_most_one (outside : σ) (supply : SeedSupply) (patience : Nanoseconds)
    (steps : List SupervisedStep) (k : ServiceKind) :
    let s := (new outside supply patience).run steps
    let v := s.world.services k
    (∀ x, v.runs x = true → v.slot.holder = some x ∨
      ∃ place c, s.calls place = some c ∧ c.call.kind = k ∧ c.rest.Disposes k x) ∧
    ((∀ place c, s.calls place = some c → c.call.kind ≠ k) →
      (v.slot.holder = none ∧ ∀ x, v.runs x = false) ∨
        ∃ x, v.slot.holder = some x ∧ ∀ y, v.runs y = true ↔ y = x) := by
  intro s v
  obtain ⟨m, h⟩ := (kept_new outside supply patience k).run steps
  refine ⟨fun x hx => ?_, fun hnone => ?_⟩
  · refine ((h.custody x).owned hx).imp_right fun ⟨i, hi⟩ => ?_
    obtain ⟨place, c, rfl, hc, hk, hfollows⟩ : ∃ place c, i = some place ∧
        s.calls place = some c ∧ c.call.kind = k ∧
          c.rest.Follows (m i) SupervisorCall.Ends := hi.elim h.busy h.busy
    exact ⟨place, c, hc, hk, hfollows.disposes (fun _ _ hm => hm.1) hi⟩
  · have hidle (i : Option Nat) (r : Role) (x : Nat) : (m i).duty ≠ some (r, x) := fun hi => by
      obtain ⟨place, c, -, hc, hk, -⟩ := h.busy hi
      exact hnone place c hc hk
    have hruns (x : Nat) : v.runs x = true ↔ v.slot.holder = some x := by
      constructor
      · exact fun hx => ((h.custody x).owned hx).resolve_right fun ⟨i, hi⟩ =>
          hi.elim (hidle i _ x) (hidle i _ x)
      · exact fun hx => ((h.custody x).alive hx).resolve_right fun ⟨i, hi⟩ => hidle i _ x hi
    cases hslot : v.slot.holder with
    | none =>
      refine .inl ⟨rfl, fun x => Bool.eq_false_iff.2 fun hx => ?_⟩
      exact nomatch hslot.symm.trans ((hruns x).1 hx)
    | some x =>
      refine .inr ⟨x, rfl, fun y => ?_⟩
      rw [hruns y, hslot, Option.some.injEq, eq_comm]

/-- Two callers find the slot empty, and both start an engine. After the second one has put its own
into the slot, two run, and the call goes on to shut the first one down. -/
example :
    let calls : List SupervisedStep :=
      [.begin 0 (.ensureEngine .default), .begin 1 (.ensureEngine .default), .proceed 0, .proceed 1]
    let first : List SupervisedStep := List.replicate 4 (.proceed 0)
    let second : List SupervisedStep := List.replicate 4 (.proceed 1)
    let s := (new (Script.new true) ⟨fun _ => [], 0⟩ World.defaultPatience).run
      (calls ++ first ++ second)
    let last := s.step (.proceed 1)
    s.world.engineSlot.holder = some 1 ∧ s.world.engineRuns 0 = true ∧
      s.world.engineRuns 1 = true ∧ (s.calls 0).isNone = true ∧ (s.calls 1).isSome = true ∧
      last.world.engineSlot.holder = some 1 ∧ last.world.engineRuns 0 = false ∧
      last.world.engineRuns 1 = true ∧ (last.calls 1).isNone = true := by
  decide +kernel

end Supervised

end CalloutHost
