import CalloutHost.Proofs.Lifecycle.Fleets

/-!
# Servers that refuse

A server that is told something out of order refuses and does nothing. One that tries and fails is
as far as it was, or stopped, and has no clients; one that was stopped does nothing ever after, no
matter what others have in the process (`Fleet.Orderly`).

So it is in every process whose servers were told things one after the other
(`Fleet.orderly_of_reached`): each of them lists as its clients what it has open (`Server.Tidy`,
`Server.Reached.tidy`). Every fleet that began with servers that had done nothing is such a process
(`Fleet.reached_new`, `Fleet.Reached.obeyAll`).
-/

namespace CalloutHost

/-! ## A server that is told things -/

namespace Server

variable {s : Server} {own : List Nat}

/-- A server whose clients are those that it has open. -/
structure Tidy (s : Server) (own : List Nat) : Prop where
  clients : own = s.clients
  idle : s.state ≠ .started → s.clients = []
  unplanned : s.state = .unprovisioned → s.plan = none

/-- No command makes a server untidy. -/
theorem obey_tends (h : s.Tidy own) (what : ServerCommand) :
    (s.obey what).Tends own fun t own' => t.Tidy own' := by
  cases what with
  | provision =>
    by_cases hs : s.state = .unprovisioned
    · have hnone : s.clients = [] := h.idle (by simp [hs])
      refine (provision_tends hs own).bind fun r own' hr => ?_
      obtain ⟨hown, hclients, hend⟩ := hr
      refine Program.tends_pure ⟨hown.trans (h.clients.trans hclients.symm),
        fun _ => hclients.trans hnone, fun hstate => ?_⟩
      rcases hend with ⟨_, _, _, hplan⟩ | ⟨_, enabled, _, hstate'⟩
      · exact hplan.trans (h.unplanned hs)
      · cases hstate'.symm.trans hstate
    · rw [obey, provision_refused hs]
      exact h
  | start =>
    by_cases hready : ∃ enabled, s.state = .provisioned enabled
    · obtain ⟨enabled, hs⟩ := hready
      have hnone : s.clients = [] := h.idle (by simp [hs])
      rw [h.clients, hnone]
      refine (start_tends hs hnone).bind fun r own' hend => ?_
      obtain ⟨answer, t⟩ := r
      refine Program.tends_pure ⟨hend.clients, fun hstate => ?_, fun hstate => ?_⟩
      · rcases answer with e | _
        · exact (hend.error e rfl).2
        · exact absurd (hend.ok rfl) hstate
      · rcases answer with e | _
        · rcases (hend.error e rfl).1 with hsame | hstopped
          · cases hs.symm.trans (hsame.symm.trans hstate)
          · cases hstopped.symm.trans hstate
        · cases (hend.ok rfl).symm.trans hstate
    · rw [obey, start_refused fun enabled hs => hready ⟨enabled, hs⟩]
      exact h
  | stop =>
    rw [h.clients]
    refine (stop_tends fun hs => h.idle (by simp [hs])).mono fun t own' ht => ?_
    obtain ⟨hown, hnone, hstopped, -⟩ := ht
    exact ⟨hown.trans hnone.symm, fun _ => hnone,
      fun hstate => absurd (hstopped.symm.trans hstate) (by decide)⟩

/-- What a server has come to that was told things one after the other, and which clients it has
open: whatever it was answered, and so whatever others did to the process in the meantime. -/
inductive Reached : Server → List Nat → Prop
  | new (settings : Settings) : Reached (.new settings) []
  /-- It was told something, and has done it or refused. -/
  | told {s t : Server} {own own' : List Nat} {what : ServerCommand} (h : Reached s own)
      (hends : (s.obey what).Ends own t own') : Reached t own'

theorem Reached.tidy (h : s.Reached own) : s.Tidy own := by
  induction h with
  | new settings => exact ⟨rfl, fun _ => rfl, fun _ => rfl⟩
  | told _ hends ih => exact (obey_tends ih _).of_ends hends

end Server

namespace Fleet

variable {σ : Type} {f : Fleet σ}

/-- Every server was told things one after the other, whatever it was answered and whatever happened
in the process. -/
def Reached (f : Fleet σ) : Prop := ∀ i, ∃ own, (f.servers i).Reached own

theorem reached_new (outside : σ) (supply : SeedSupply) (patience : Nanoseconds)
    (settings : Nat → Settings) : (new outside supply patience settings).Reached :=
  fun i => ⟨[], .new (settings i)⟩

theorem Reached.tidy (h : f.Reached) (i : Nat) : (f.servers i).Tidy (f.servers i).clients := by
  obtain ⟨own, hi⟩ := h i
  exact hi.tidy.clients ▸ hi.tidy

/-- A server that was provisioned starts, or fails and has no clients. -/
theorem Reached.start_tends (h : f.Reached) {i : Nat} {enabled : Bool}
    (hs : (f.servers i).state = .provisioned enabled) :
    (f.servers i).start.Tends [] fun r own => (f.servers i).StartEnds r.1 r.2 own :=
  Server.start_tends hs ((h.tidy i).idle (by simp [hs]))

variable [Outside σ]

theorem Reached.obey (h : f.Reached) (c : FleetCommand) : (f.obey c).Reached := by
  intro i
  obtain ⟨own, hi⟩ := h i
  by_cases hc : i = c.server
  · subst hc
    obtain ⟨own', hends, -⟩ := f.world.ends_run own ((f.servers c.server).obey c.what)
    rw [servers_obey]
    exact ⟨own', .told hi hends⟩
  · rw [servers_obey_of_ne f hc]
    exact ⟨own, hi⟩

theorem Reached.obeyAll (h : f.Reached) (commands : List FleetCommand) :
    (f.obeyAll commands).Reached := by
  induction commands generalizing f with
  | nil => exact h
  | cons c commands ih => exact ih (h.obey c)

/-- A server that was stopped stays as it is, whatever the others are told. -/
theorem servers_obeyAll_of_stopped {i : Nat} (h : (f.servers i).state = .stopped)
    (commands : List FleetCommand) : (f.obeyAll commands).servers i = f.servers i := by
  induction commands generalizing f with
  | nil => rfl
  | cons c commands ih =>
    have hkept : (f.obey c).servers i = f.servers i := by
      by_cases hc : i = c.server
      · subst hc
        rw [obey_of_stopped h]
      · exact servers_obey_of_ne f hc
    rw [obeyAll_cons, ih (hkept ▸ h), hkept]

/-! ## In order -/

/-- What a server does in time and what it refuses. -/
structure Orderly (f : Fleet σ) (i : Nat) : Prop where
  provision_refused : (f.servers i).state ≠ .unprovisioned →
    (f.servers i).provision =
        pure (.error (.invalidState "provision" (f.servers i).state.text), f.servers i) ∧
      f.obey ⟨i, .provision⟩ = f
  start_refused : (∀ enabled, (f.servers i).state ≠ .provisioned enabled) →
    (f.servers i).start =
        pure (.error (.invalidState "start" (f.servers i).state.text), f.servers i) ∧
      f.obey ⟨i, .start⟩ = f
  /-- A server that fails to be provisioned is not provisioned and has no plan, whatever it was
  answered. -/
  provision_failed : (f.servers i).state = .unprovisioned → ∀ {own own' : List Nat}
    {e : ServerError} {t : Server}, (f.servers i).provision.Ends own (.error e, t) own' →
      t.state = .unprovisioned ∧ t.plan = none
  clients : ∀ own, (f.servers i).Reached own → own = (f.servers i).clients ∧
    ((f.servers i).state ≠ .started → own = [])
  /-- A server that fails to start is provisioned or stopped and has no clients open, whatever it
  was answered. -/
  start_failed : ∀ enabled, (f.servers i).state = .provisioned enabled → ∀ {own : List Nat}
    {e : ServerError} {t : Server}, (f.servers i).start.Ends [] (.error e, t) own →
      (t.state = .provisioned enabled ∨ t.state = .stopped) ∧ t.clients = [] ∧ own = []
  /-- No client is open in the process that was not there before a start that fails. -/
  start_closes : ∀ enabled, (f.servers i).state = .provisioned enabled →
    ∀ e, (f.world.run (f.servers i).start).1.1 = .error e →
      ∀ client, f.world.clients.length ≤ client → ¬(f.obey ⟨i, .start⟩).world.IsOpen client
  /-- A server that was told to stop is stopped for good, and does nothing that it is told, whatever
  the others have done since. -/
  stopped : ∀ later : List FleetCommand,
    let g := (f.obey ⟨i, .stop⟩).obeyAll later
    (g.servers i).state = .stopped ∧
      ∀ what, (g.servers i).obey what = pure (g.servers i) ∧ g.obey ⟨i, what⟩ = g

/-- Where servers were told things one after the other, every one of them keeps its order. -/
theorem orderly_of_reached (h : f.Reached) (i : Nat) : f.Orderly i where
  provision_refused hs := by
    have hrefused := Server.provision_refused hs
    exact ⟨hrefused, obey_of_pure (c := ⟨i, .provision⟩) (by rw [Server.obey, hrefused]; rfl)⟩
  start_refused hs := by
    have hrefused := Server.start_refused hs
    exact ⟨hrefused, obey_of_pure (c := ⟨i, .start⟩) (by rw [Server.obey, hrefused]; rfl)⟩
  provision_failed hs := by
    intro own own' e t hends
    obtain ⟨-, -, ⟨_, _, hstate, hplan⟩ | ⟨g, enabled, hok, -⟩⟩ :=
      (Server.provision_tends hs own).of_ends hends
    · exact ⟨hstate, hplan.trans ((h.tidy i).unplanned hs)⟩
    · cases hok
  clients own hown :=
    ⟨hown.tidy.clients, fun hs => hown.tidy.clients.trans (hown.tidy.idle hs)⟩
  start_failed enabled hs := by
    intro own e t hends
    have hend := (h.start_tends hs).of_ends hends
    obtain ⟨hstate, hnone⟩ := hend.error e rfl
    exact ⟨hs ▸ hstate, hnone, hend.clients.trans hnone⟩
  start_closes enabled hs e herror client hn hopen := by
    -- of the clients that are new, only those of the server could be open
    obtain ⟨own, hends, hnew⟩ := f.world.ends_run [] (f.servers i).start
    have hend := (h.start_tends hs).of_ends hends
    have hworld : (f.obey ⟨i, .start⟩).world = (f.world.run (f.servers i).start).2 := by
      rw [obey, Server.obey, World.run_bind]
      rfl
    have hmem := hnew client hn (hworld ▸ hopen)
    rw [hend.clients, (hend.error e herror).2] at hmem
    cases hmem
  stopped later := by
    have hstopped : ((f.obey ⟨i, .stop⟩).servers i).state = .stopped :=
      f.obey_stops (c := ⟨i, .stop⟩) rfl
    generalize hg : (f.obey ⟨i, .stop⟩).obeyAll later = g
    have hkept : g.servers i = (f.obey ⟨i, .stop⟩).servers i :=
      hg ▸ servers_obeyAll_of_stopped hstopped later
    have hstate : (g.servers i).state = .stopped := hkept ▸ hstopped
    exact ⟨hstate, fun what =>
      ⟨Server.obey_stopped hstate what, obey_of_stopped (c := ⟨i, what⟩) hstate⟩⟩

/-- The second server has the latest generation and was stopped before the first one started. The
engine of the first is safe from it. -/
theorem orderly_of_reached_stopped :
    let script : Script := Script.new true
    let supply : SeedSupply := ⟨fun n => List.replicate 32 (UInt8.ofNat n), 0⟩
    let settings (_ : Nat) : Settings := { Settings.empty with port := some 4500 }
    let commands : List FleetCommand :=
      [⟨0, .provision⟩, ⟨1, .provision⟩, ⟨1, .stop⟩, ⟨0, .start⟩]
    let f := (new script supply World.defaultPatience settings).obeyAll commands
    f.Reached ∧ (f.servers 1).generation = some ⟨2⟩ ∧ f.world.generations.isCurrent ⟨2⟩ = true ∧
      f.world.engineRuns 0 = true ∧ f.Orderly 1 := by
  intro script supply settings commands f
  have hreached : f.Reached :=
    (reached_new script supply World.defaultPatience settings).obeyAll commands
  exact ⟨hreached, by decide +kernel, by decide +kernel, by decide +kernel,
    orderly_of_reached hreached 1⟩

end Fleet

end CalloutHost
