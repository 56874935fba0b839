import CalloutHost.Lifecycle.Script
import CalloutHost.Proofs.Lifecycle.HostRuns
import CalloutHost.Proofs.Lifecycle.Settling
import Mathlib.Algebra.Group.Nat.Defs

/-!
# Servers that take turns

Servers that share a process are provisioned, started and stopped in any order. Every command keeps
it that what runs is what the slots hold, and that the state of a server goes with its plan
(`Fleet.Sound`); it either captures the next generation and touches nothing that runs, or leaves the
generations alone (`Server.obey_capture`, `Server.obey_advances`).

So the latest generation is the one that was captured last (`Fleet.Fresh.isLatest_iff`), its server
leaves nothing when it is stopped for the first time, and no other server takes anything down
(`Fleet.stop_gated`). The first time is not always when a server is told to stop: a start that
fails after the engine came up stops the server on its own, and whatever is started afterwards stays
when the server is then told to stop (`Fleet.stop_after_failure`).
-/

namespace CalloutHost

/-- As long as the count does not wrap, the next generation is one above. -/
theorem Generations.toNat_capture {g : Generations} (h : g.count.toNat + 1 < 2 ^ 64) :
    g.capture.1.number.toNat = g.count.toNat + 1 := by
  rw [capture, UInt64.toNat_add]
  exact Nat.mod_eq_of_lt h

/-! ## What a server does when it is told something -/

namespace Server

/-- The state of a server goes with its plan. -/
structure Sound (s : Server) : Prop where
  unplanned : s.state = .unprovisioned → s.plan = none
  /-- A server that was provisioned has a plan, to run or not. -/
  planned : ∀ enabled, s.state = .provisioned enabled →
    ∃ plan, s.plan = some plan ∧ plan.enabled = enabled

/-- The server has come further at most. -/
structure Advances (s t : Server) : Prop extends s.SameOrigin t where
  state : t.state = s.state ∨ t.state = .started ∨ t.state = .stopped

variable {s t u : Server}

theorem Advances.refl (s : Server) : s.Advances s := ⟨.refl s, .inl rfl⟩

theorem Advances.trans (h : s.Advances t) (h' : t.Advances u) : s.Advances u := by
  refine ⟨h.toSameOrigin.trans h'.toSameOrigin, ?_⟩
  rcases h'.state with hsame | hnew
  · rw [hsame]
    exact h.state
  · exact .inr hnew

theorem Sound.advance (h : s.Sound) (ht : s.Advances t) : t.Sound := by
  constructor
  · intro hstate
    rcases ht.state with hsame | hnew | hnew
    · exact ht.plan.trans (h.unplanned (hsame ▸ hstate))
    all_goals exact nomatch hstate.symm.trans hnew
  · intro enabled hstate
    rcases ht.state with hsame | hnew | hnew
    · rw [ht.plan]
      exact h.planned enabled (hsame ▸ hstate)
    all_goals exact nomatch hstate.symm.trans hnew

variable {σ : Type} [Outside σ]

theorem attach_result (s : Server) (plan : Provisioned) (e : Nat) (o : EngineOptions)
    (responder : Option (Issuer × EngineUser)) (w : World σ) :
    w.Ensures (s.attach plan e o responder) fun r _ => s.SameButClients r.2 :=
  ((s.attach_tends plan e o responder).ensures w).mono fun _ _ ⟨_, h⟩ => h.2

theorem start_advances (s : Server) (w : World σ) :
    w.Ensures s.start fun r _ => s.Advances r.2 := by
  unfold start
  split
  · next plan hs hp =>
    refine World.ensures_bind (World.ensures_of_forall fun ⟨responder, o⟩ w₁ => ?_)
    refine World.ensures_bind (World.ensures_of_forall fun answer w₂ => ?_)
    rcases answer with fault | e
    · exact World.ensures_pure (.refl s)
    refine (s.attach_result plan e o responder w₂).bind fun ⟨answer, t⟩ w₃ ht => ?_
    rcases answer with error | _
    · refine (t.stop_result w₃).bind fun u _ ⟨hstopped, hu⟩ => World.ensures_pure ?_
      exact ⟨ht.toSameOrigin.trans hu, .inr (.inr hstopped)⟩
    · exact World.ensures_pure ⟨ht.toSameOrigin.trans ⟨rfl, rfl, rfl⟩, .inr (.inl rfl)⟩
  · refine World.ensures_bind (World.ensures_of_forall fun current w₁ => ?_)
    split
    · refine World.ensures_bind (World.ensures_of_forall fun _ _ => ?_)
      exact World.ensures_pure ⟨⟨rfl, rfl, rfl⟩, .inr (.inl rfl)⟩
    · exact World.ensures_pure ⟨⟨rfl, rfl, rfl⟩, .inr (.inl rfl)⟩
  · exact World.ensures_pure (.refl s)

/-- A server that was provisioned before refuses to be provisioned, and does nothing. -/
theorem provision_refused (hs : s.state ≠ .unprovisioned) :
    s.provision = pure (.error (.invalidState "provision" s.state.text), s) := by
  unfold provision
  rw [if_pos hs]
  rfl

/-- A server that is not ready to start refuses to start, and does nothing. -/
theorem start_refused (hnot : ∀ enabled, s.state ≠ .provisioned enabled) :
    s.start = pure (.error (.invalidState "start" s.state.text), s) := by
  unfold start
  split
  · next h _ => exact absurd h (hnot true)
  · next h => exact absurd h (hnot false)
  · rfl

/-- A server that was stopped stays as it is, whatever it is told, and does nothing. -/
theorem obey_stopped (hs : s.state = .stopped) (what : ServerCommand) : s.obey what = pure s := by
  cases what with
  | provision =>
    rw [obey, provision_refused (by simp [hs])]
    rfl
  | start =>
    rw [obey, start_refused (by simp [hs])]
    rfl
  | stop =>
    unfold obey stop
    exact if_pos hs

theorem run_provision_refused (hs : s.state ≠ .unprovisioned) (w : World σ) :
    w.run (s.obey .provision) = (s, w) := by
  rw [obey, provision_refused hs]
  rfl

theorem run_start_refused (hnot : ∀ enabled, s.state ≠ .provisioned enabled) (w : World σ) :
    w.run (s.obey .start) = (s, w) := by
  rw [obey, start_refused hnot]
  rfl

/-- A server that is provisioned for the first time captures the next generation, and nothing that
runs is touched. -/
theorem obey_capture (hs : s.state = .unprovisioned) (w : World σ) :
    w.Ensures (s.obey .provision) fun t x =>
      w.SameServices x ∧ x.generations = w.generations.capture.2 ∧
      t.generation = some w.generations.capture.1 ∧
      ((t.plan = s.plan ∧ t.state = .unprovisioned) ∨
        ∃ plan, t.plan = some plan ∧ t.state = .provisioned plan.enabled) := by
  refine (provision_spec hs w).bind fun ⟨answer, t⟩ x ⟨hsame, hgen, _, hcaptured, _, hanswer⟩ => ?_
  refine World.ensures_pure ⟨hsame, hgen, hcaptured, ?_⟩
  rcases answer with error | g
  · exact .inl hanswer.2
  · obtain ⟨plan, -, hplan, hstate⟩ := hanswer
    exact .inr ⟨plan, hplan, hstate⟩

/-- Told anything else, a server comes further at most, and the generations stay. -/
theorem obey_advances {what : ServerCommand} (h : what = .provision → s.state ≠ .unprovisioned)
    (w : World σ) :
    w.Ensures (s.obey what) fun t x => x.generations = w.generations ∧ s.Advances t := by
  cases what with
  | provision =>
    exact World.ensures_of_run (run_provision_refused (h rfl) w) ⟨rfl, .refl s⟩
  | start =>
    exact ((World.ensures_generations s.start_within (by decide) w).and (s.start_advances w)).bind
      fun _ _ hx => World.ensures_pure hx
  | stop =>
    exact ((World.ensures_generations s.stop_within (by decide) w).and (s.stop_result w)).mono
      fun _ _ ⟨hgen, hstopped, hsame⟩ => ⟨hgen, hsame, .inr (.inr hstopped)⟩

theorem obey_sound (hs : s.Sound) (what : ServerCommand) (w : World σ) :
    w.Ensures (s.obey what) fun t _ => t.Sound := by
  by_cases h : what = .provision ∧ s.state = .unprovisioned
  · obtain ⟨rfl, hstate⟩ := h
    refine (obey_capture hstate w).mono fun t _ ⟨_, _, _, ht⟩ => ?_
    rcases ht with ⟨hplan, hstate'⟩ | ⟨plan, hplan, hstate'⟩
    · exact ⟨fun _ => hplan.trans (hs.unplanned hstate),
        fun _ hne => nomatch hstate'.symm.trans hne⟩
    · refine ⟨fun hne => (nomatch hstate'.symm.trans hne), fun enabled he => ⟨plan, hplan, ?_⟩⟩
      exact ServerState.provisioned.inj (hstate'.symm.trans he)
  · exact (obey_advances (fun hwhat hstate => h ⟨hwhat, hstate⟩) w).mono
      fun _ _ ⟨_, ht⟩ => hs.advance ht

/-- A server of the latest generation that was provisioned and is stopped, by a command to stop or
by a start that fails, leaves nothing. -/
theorem obey_takes_down {w : World σ} (h : w.Settled) (hs : s.Sound) (hp : s.plan.isSome = true)
    (hl : s.IsLatest w) (hrunning : s.state ≠ .stopped) (what : ServerCommand) :
    w.Ensures (s.obey what) fun t x => t.state = .stopped → x.Quiet := by
  have hprovisioned : s.state ≠ .unprovisioned := fun hstate => by
    rw [hs.unplanned hstate] at hp
    exact nomatch hp
  -- a server that refuses is not stopped
  have hkept : s.state = .stopped → w.Quiet := fun hstopped => absurd hstopped hrunning
  cases what with
  | provision =>
    exact World.ensures_of_run (run_provision_refused hprovisioned w) hkept
  | start =>
    by_cases hready : ∃ enabled, s.state = .provisioned enabled
    · obtain ⟨enabled, hstate⟩ := hready
      obtain ⟨plan, hplan, rfl⟩ := hs.planned enabled hstate
      refine (start_spec h hl hstate hplan).bind fun ⟨answer, t⟩ x hstarted => ?_
      refine World.ensures_pure fun hstopped => ?_
      rcases answer with error | _
      · exact (hstarted.error error rfl).idle (.inl hstopped)
      · exact nomatch (hstarted.ok rfl).1.symm.trans hstopped
    · exact World.ensures_of_run (run_start_refused (fun enabled he => hready ⟨enabled, he⟩) w)
        hkept
  | stop =>
    exact (s.stop_spec h).mono fun _ _ ⟨_, hquiet, _⟩ _ => hquiet hrunning hprovisioned hl

end Server

/-! ## One command -/

namespace Fleet

variable {σ : Type}

/-- The process is settled, and the state of every server goes with its plan. -/
structure Sound (f : Fleet σ) : Prop where
  settled : f.world.Settled
  servers : ∀ i, (f.servers i).Sound

/-- Nothing has happened yet. -/
structure Fresh (f : Fleet σ) : Prop where
  quiet : f.world.Quiet
  generations : f.world.generations = .new
  servers : ∀ i, ∃ settings, f.servers i = .new settings

theorem fresh_new (outside : σ) (supply : SeedSupply) (patience : Nanoseconds)
    (settings : Nat → Settings) : (new outside supply patience settings).Fresh where
  quiet := Host.consistent_new outside supply patience
  generations := rfl
  servers i := ⟨settings i, rfl⟩

variable {f : Fleet σ} {c : FleetCommand}

theorem Fresh.sound (h : f.Fresh) : f.Sound where
  settled := h.quiet.settled
  servers i := by
    obtain ⟨settings, hserver⟩ := h.servers i
    rw [hserver]
    exact ⟨fun _ => rfl, fun _ => nofun⟩

theorem captures_iff :
    f.captures c = true ↔ c.what = .provision ∧ (f.servers c.server).state = .unprovisioned :=
  decide_eq_true_iff

variable [Outside σ]

theorem servers_obey (f : Fleet σ) (c : FleetCommand) :
    (f.obey c).servers c.server = (f.world.run ((f.servers c.server).obey c.what)).1 :=
  Function.update_self ..

theorem servers_obey_of_ne (f : Fleet σ) {i : Nat} (h : i ≠ c.server) :
    (f.obey c).servers i = f.servers i :=
  Function.update_of_ne h ..

/-- What a command ensures of the server and of the process. -/
theorem of_obey {Q : Server → World σ → Prop}
    (h : f.world.Ensures ((f.servers c.server).obey c.what) Q) :
    Q ((f.obey c).servers c.server) (f.obey c).world := by
  rw [servers_obey]
  exact h

/-- A command that makes a server do nothing changes nothing. -/
theorem obey_of_pure
    (h : (f.servers c.server).obey c.what = pure (f.servers c.server)) : f.obey c = f := by
  have hrun : f.world.run ((f.servers c.server).obey c.what) = (f.servers c.server, f.world) := by
    rw [h]
    rfl
  rw [obey, hrun]
  simp

/-- A command to a server that was stopped changes nothing. -/
theorem obey_of_stopped (h : (f.servers c.server).state = .stopped) : f.obey c = f :=
  obey_of_pure (Server.obey_stopped h c.what)

/-- No command makes servers unsound. -/
theorem Sound.obey (h : f.Sound) (c : FleetCommand) : (f.obey c).Sound where
  settled := ((f.servers c.server).obey_settles c.what).run f.world h.settled
  servers i := by
    by_cases hi : i = c.server
    · subst hi
      exact of_obey (Server.obey_sound (h.servers c.server) c.what f.world)
    · rw [servers_obey_of_ne f hi]
      exact h.servers i

/-- A command that captures no generation leaves the generations alone, and every server comes
further at most. -/
theorem obey_advances (h : f.captures c = false) :
    (f.obey c).world.generations = f.world.generations ∧
      ∀ i, (f.servers i).Advances ((f.obey c).servers i) := by
  have hnot : c.what = .provision → (f.servers c.server).state ≠ .unprovisioned :=
    fun hwhat hstate => Bool.false_ne_true (h.symm.trans (captures_iff.2 ⟨hwhat, hstate⟩))
  obtain ⟨hgen, hserver⟩ := of_obey ((f.servers c.server).obey_advances hnot f.world)
  refine ⟨hgen, fun i => ?_⟩
  by_cases hi : i = c.server
  · subst hi
    exact hserver
  · rw [servers_obey_of_ne f hi]
    exact .refl _

/-- A command that captures one makes the next generation that server's, which is not stopped. -/
theorem obey_captures (h : f.captures c = true) :
    (f.obey c).world.generations = f.world.generations.capture.2 ∧
      ((f.obey c).servers c.server).generation = some f.world.generations.capture.1 ∧
      ((f.obey c).servers c.server).state ≠ .stopped := by
  obtain ⟨hwhat, hstate⟩ := captures_iff.1 h
  obtain ⟨-, hgen, hcaptured, hserver⟩ :=
    of_obey (f := f) (c := c) (hwhat ▸ Server.obey_capture hstate f.world)
  refine ⟨hgen, hcaptured, fun hstopped => ?_⟩
  rcases hserver with ⟨-, hstate'⟩ | ⟨plan, -, hstate'⟩ <;>
    exact nomatch hstate'.symm.trans hstopped

/-- A server that is told to stop is stopped. -/
theorem obey_stops (f : Fleet σ) {c : FleetCommand} (hwhat : c.what = .stop) :
    ((f.obey c).servers c.server).state = .stopped := by
  refine of_obey (Q := fun t _ => t.state = .stopped) ?_
  rw [hwhat]
  exact ((f.servers c.server).stop_result f.world).mono fun _ _ hx => hx.1

/-! ## Many commands -/

@[simp] theorem obeyAll_nil (f : Fleet σ) : f.obeyAll [] = f := rfl

@[simp] theorem obeyAll_cons (f : Fleet σ) (c : FleetCommand) (commands : List FleetCommand) :
    f.obeyAll (c :: commands) = (f.obey c).obeyAll commands := rfl

theorem obeyAll_append (f : Fleet σ) (before after : List FleetCommand) :
    f.obeyAll (before ++ after) = (f.obeyAll before).obeyAll after := List.foldl_append

theorem captured_cons_of_captures (h : f.captures c = true) (commands : List FleetCommand) :
    f.captured (c :: commands) = f.world.generations.capture.1 :: (f.obey c).captured commands := by
  rw [captured, if_pos h, (obey_captures h).2.1]
  rfl

theorem captured_cons_of_not (h : f.captures c = false) (commands : List FleetCommand) :
    f.captured (c :: commands) = (f.obey c).captured commands := by
  rw [captured, h]
  rfl

variable {commands : List FleetCommand}

theorem captured_cons_eq_nil (h : f.captured (c :: commands) = []) :
    f.captures c = false ∧ (f.obey c).captured commands = [] := by
  cases hc : f.captures c with
  | true =>
    rw [captured_cons_of_captures hc] at h
    exact nomatch h
  | false => exact ⟨rfl, (captured_cons_of_not hc commands).symm.trans h⟩

theorem Sound.obeyAll (h : f.Sound) (commands : List FleetCommand) :
    (f.obeyAll commands).Sound := by
  induction commands generalizing f with
  | nil => exact h
  | cons c commands ih => exact ih (h.obey c)

/-- Where no generation is captured, the generations stay and every server comes further at most. -/
theorem obeyAll_advances (h : f.captured commands = []) :
    (f.obeyAll commands).world.generations = f.world.generations ∧
      ∀ i, (f.servers i).Advances ((f.obeyAll commands).servers i) := by
  induction commands generalizing f with
  | nil => exact ⟨rfl, fun i => .refl _⟩
  | cons c commands ih =>
    obtain ⟨hc, hrest⟩ := captured_cons_eq_nil h
    obtain ⟨hgen, hservers⟩ := obey_advances hc
    obtain ⟨hgen', hservers'⟩ := ih hrest
    exact ⟨hgen'.trans hgen, fun i => (hservers i).trans (hservers' i)⟩

/-- The count ends at the generation that was captured last. -/
theorem count_obeyAll (f : Fleet σ) (commands : List FleetCommand) :
    (f.obeyAll commands).world.generations.count =
      ((f.captured commands).getLast?.map (·.number)).getD f.world.generations.count := by
  induction commands generalizing f with
  | nil => rfl
  | cons c commands ih =>
    rw [obeyAll_cons, ih (f.obey c)]
    cases hc : f.captures c with
    | true =>
      rw [captured_cons_of_captures hc, (obey_captures hc).1, List.getLast?_cons]
      cases ((f.obey c).captured commands).getLast? <;> rfl
    | false => rw [captured_cons_of_not hc, (obey_advances hc).1]

/-- As long as the count does not wrap, every generation that is captured is above all before it. -/
theorem captured_ascending
    (h : f.world.generations.count.toNat + (f.captured commands).length < 2 ^ 64) :
    (∀ g ∈ f.captured commands, f.world.generations.count < g.number) ∧
      (f.captured commands).Pairwise (·.number < ·.number) := by
  induction commands generalizing f with
  | nil => exact ⟨nofun, .nil⟩
  | cons c commands ih =>
    cases hc : f.captures c with
    | true =>
      rw [captured_cons_of_captures hc, List.length_cons] at h
      rw [captured_cons_of_captures hc]
      -- the count after the command is the number that it captures
      have hcount : (f.obey c).world.generations.count = f.world.generations.capture.1.number := by
        rw [(obey_captures hc).1]
        rfl
      have hnext := Generations.toNat_capture (g := f.world.generations) (by omega)
      obtain ⟨habove, hascending⟩ := ih (f := f.obey c) (by rw [hcount]; omega)
      rw [hcount] at habove
      have hfirst : f.world.generations.count < f.world.generations.capture.1.number := by
        rw [UInt64.lt_iff_toNat_lt]
        omega
      refine ⟨fun g hg => ?_, .cons habove hascending⟩
      rcases List.mem_cons.1 hg with rfl | hg
      · exact hfirst
      · exact UInt64.lt_trans hfirst (habove g hg)
    | false =>
      rw [captured_cons_of_not hc] at h ⊢
      rw [← (obey_advances hc).1] at h ⊢
      exact ih h

/-- Where no generation was captured, no server has one or a plan. -/
theorem Fresh.of_captured_nil (hf : f.Fresh) (h : f.captured commands = []) (i : Nat) :
    ((f.obeyAll commands).servers i).generation = none ∧
      ((f.obeyAll commands).servers i).plan = none := by
  have horigin := ((obeyAll_advances h).2 i).toSameOrigin
  obtain ⟨settings, hserver⟩ := hf.servers i
  rw [hserver] at horigin
  exact ⟨horigin.generation, horigin.plan⟩

/-- A server is of the latest generation if it has one, and it is the one that was captured last. -/
theorem Fresh.isLatest_iff (hf : f.Fresh) (commands : List FleetCommand) (i : Nat) :
    ((f.obeyAll commands).servers i).IsLatest (f.obeyAll commands).world ↔
      ∃ g, ((f.obeyAll commands).servers i).generation = some g ∧
        (f.captured commands).getLast? = some g := by
  have hcount := f.count_obeyAll commands
  refine exists_congr fun g => and_congr_right fun hg => ?_
  rw [Generations.isCurrent, decide_eq_true_iff, hcount]
  cases hlast : (f.captured commands).getLast? with
  | none =>
    -- no server has a generation then
    have hnone := (hf.of_captured_nil (List.getLast?_eq_none_iff.1 hlast) i).1
    exact absurd (hg.symm.trans hnone) (Option.some_ne_none g)
  | some last =>
    obtain ⟨number⟩ := last
    obtain ⟨number'⟩ := g
    simp

/-! ## Who takes down -/

/-- What stopping a server does where these generations were captured, in this order. -/
structure Gated (f : Fleet σ) (captured : List Generation) : Prop where
  /-- A server that is told to stop, and whose generation was not captured last, leaves all that
  runs and all that is held as it was. -/
  superseded : ∀ i, (f.servers i).generation ≠ captured.getLast? →
    f.world.SameServices (f.obey ⟨i, .stop⟩).world
  /-- A server that was provisioned successfully, and whose generation was captured last, leaves
  nothing as soon as a command stops it, be it told to stop or to start and fail. -/
  latest : ∀ c : FleetCommand, (f.servers c.server).plan.isSome = true →
    (f.servers c.server).generation = captured.getLast? → (f.servers c.server).state ≠ .stopped →
    ((f.obey c).servers c.server).state = .stopped → (f.obey c).world.Quiet
  stopped : ∀ c : FleetCommand, c.what = .stop → ((f.obey c).servers c.server).state = .stopped
  /-- The generations ascend, unless so many were captured that the count has wrapped. -/
  ascending : captured.length < 2 ^ 64 → captured.Pairwise (·.number < ·.number)

/-- In a fresh process, whatever its servers were told and whatever was answered from outside: the
server that is stopped takes down what runs if its generation is the latest, and else nothing. -/
theorem stop_gated (outside : σ) (supply : SeedSupply) (patience : Nanoseconds)
    (settings : Nat → Settings) (commands : List FleetCommand) :
    let f := new outside supply patience settings
    (f.obeyAll commands).Gated (f.captured commands) := by
  intro f
  have hfresh : f.Fresh := fresh_new outside supply patience settings
  have hsound := hfresh.sound.obeyAll commands
  have hlatest := hfresh.isLatest_iff commands
  have hnone (h : f.captured commands = []) := hfresh.of_captured_nil h
  have hascending (h : (f.captured commands).length < 2 ^ 64) :
      (f.captured commands).Pairwise (·.number < ·.number) := by
    refine (captured_ascending ?_).2
    rw [hfresh.generations]
    simpa [Generations.new] using h
  generalize f.obeyAll commands = g at hsound hlatest hnone ⊢
  generalize f.captured commands = captured at hlatest hnone hascending ⊢
  refine ⟨fun i hne => ?_, fun c hplan hgen hrunning hstopped => ?_, fun c => g.obey_stops,
    hascending⟩
  · have hnot : ¬(g.servers i).IsLatest g.world := fun hl => by
      obtain ⟨x, hx, hlast⟩ := (hlatest i).1 hl
      exact hne (hx.trans hlast.symm)
    obtain ⟨-, -, hsame⟩ := of_obey (c := ⟨i, .stop⟩) ((g.servers i).stop_spec hsound.settled)
    exact hsame (.inr (.inr hnot))
  · have hl : (g.servers c.server).IsLatest g.world := by
      refine (hlatest c.server).2 ?_
      cases hlast : captured.getLast? with
      | none =>
        rw [(hnone (List.getLast?_eq_none_iff.1 hlast) c.server).2] at hplan
        exact nomatch hplan
      | some x => exact ⟨x, hgen.trans hlast, rfl⟩
    exact of_obey (Server.obey_takes_down hsound.settled (hsound.servers c.server) hplan hl hrunning
      c.what) hstopped

/-- The second server takes over the engine of the first, whose stop then leaves it alone. -/
theorem stop_gated_handover :
    let script : Script := Script.new true
    let supply : SeedSupply := ⟨fun n => List.replicate 32 (UInt8.ofNat n), 0⟩
    let settings (_ : Nat) : Settings := { Settings.empty with port := some 4500 }
    let commands : List FleetCommand :=
      [⟨0, .provision⟩, ⟨0, .start⟩, ⟨1, .provision⟩, ⟨1, .start⟩]
    let f := new script supply World.defaultPatience settings
    let g := f.obeyAll commands
    g.world.engineSlot.holder = some 0 ∧ g.world.engineRuns 0 = true ∧
      g.world.SameServices (g.obey ⟨0, .stop⟩).world ∧ (g.obey ⟨1, .stop⟩).world.Quiet := by
  intro script supply settings commands f g
  have hgated : g.Gated (f.captured commands) :=
    stop_gated script supply World.defaultPatience settings commands
  refine ⟨by decide +kernel, by decide +kernel, ?_, ?_⟩
  · exact hgated.superseded 0 (by decide +kernel)
  · exact hgated.latest ⟨1, .stop⟩ (by decide +kernel) (by decide +kernel) (by decide +kernel)
      (hgated.stopped ⟨1, .stop⟩ rfl)

/-- The second server fails to start, which stops it, and then the first one starts. When the second
one is told to stop, for the first time, the engine of the first keeps running, although the
generation of the second is the latest. -/
theorem stop_after_failure :
    let script : Script := { Script.new true with missingAccounts := ["B"] }
    let supply : SeedSupply := ⟨fun n => List.replicate 32 (UInt8.ofNat n), 0⟩
    let settings (i : Nat) : Settings :=
      if i = 0 then { Settings.empty with port := some 4500 }
      else { Settings.empty with accounts := some [⟨"B", [], false, [], []⟩] }
    let commands : List FleetCommand :=
      [⟨0, .provision⟩, ⟨1, .provision⟩, ⟨1, .start⟩, ⟨0, .start⟩]
    let f := new script supply World.defaultPatience settings
    let g := f.obeyAll commands
    let stopped := g.obey ⟨1, .stop⟩
    (∀ c ∈ commands, c.server = 1 → c.what ≠ .stop) ∧
      (g.servers 1).plan.isSome = true ∧
      f.captured commands = [⟨1⟩, ⟨2⟩] ∧ (g.servers 1).generation = some ⟨2⟩ ∧
      stopped.world.engineSlot.holder = some 1 ∧ stopped.world.engineRuns 1 = true := by
  decide +kernel

end Fleet

end CalloutHost
