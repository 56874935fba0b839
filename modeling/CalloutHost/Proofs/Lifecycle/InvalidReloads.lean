import CalloutHost.Proofs.Lifecycle.EngineChoices
import CalloutHost.Proofs.Lifecycle.Rollback

/-!
# A reload with settings that are no good

Settings that cannot be provisioned never reach the engine, but the reload still launches the
previous settings again, and so gives the engine its own options once more. Whether the engine stays
is up to its answer and to the rest of that launch (`Host.reload_invalid`): the same engine serves
the same settings if it takes its options and the launch succeeds, a fresh one serves them if it
would have to be created again, and nothing is left if the launch fails. The engine of
`Host.reload_invalid_refused` refuses its own options and is shut down.
-/

namespace CalloutHost

namespace World

variable {σ : Type} [Outside σ]

/-- What the engine that serves would answer if it were given its own options again. -/
def verdict (w : World σ) (e : Nat) : Except EngineFault Unit :=
  (Outside.reloadEngine e (w.engine e) (w.engine e).options w.outside).1

theorem verdict_congr {w x : World σ} (hengines : x.engines = w.engines)
    (houtside : x.outside = w.outside) (e : Nat) : x.verdict e = w.verdict e := by
  rw [verdict, verdict, engine_congr hengines, houtside]

end World

/-- Which engine serves after one was given its own options again. -/
inductive Succeeds : Except EngineFault Unit → Nat → Nat → Prop
  | kept (e : Nat) : Succeeds (.ok ()) e e
  /-- It could only take them by being created again, and another one serves. -/
  | replaced {fault : EngineFault} {e e' : Nat} (hrestart : fault.needsRestart = true)
      (hne : e' ≠ e) : Succeeds (.error fault) e e'

theorem Succeeds.eq_iff {verdict : Except EngineFault Unit} {e e' : Nat}
    (h : Succeeds verdict e e') : e' = e ↔ verdict = .ok () := by
  cases h with
  | kept => simp
  | replaced hrestart hne => simp [hne]

namespace Supervision

variable {σ : Type} [Outside σ] {w : World σ}

/-- An engine that is asked for with the options that it has. -/
theorem ensureEngine_succeeds (h : w.EnginesSettled) {e : Nat} {o : EngineOptions}
    (he : w.HoldsEngine e o) :
    w.Ensures (ensureEngine o) fun answer _ =>
      ∀ e', answer = .ok e' → Succeeds (w.verdict e) e e' := by
  obtain ⟨hslot, rfl⟩ := he
  have hverdict : w.verdict e = (w.offer e (w.engine e).options).1 := rfl
  refine (ensureEngine_choice h _).mono fun answer x hchoice e' he' => ?_
  rw [hverdict]
  cases hchoice with
  | kept hslot' hoffer =>
    cases hslot.symm.trans hslot'
    rw [hoffer, Except.ok.inj he']
    exact .kept e'
  | refused => cases he'
  | launched hlacks hlaunched =>
    cases hlacks with
    | absent hnone => cases hslot.symm.trans hnone
    | outdated hslot' hoffer hwords =>
      cases hslot.symm.trans hslot'
      rw [hoffer]
      refine .replaced (EngineFault.needsRestart_iff.2 hwords) ?_
      -- a fresh engine has the next number
      have hlt := World.engines_length_of_runs ((h e).2 hslot)
      subst he'
      cases hlaunched
      exact Nat.ne_of_gt hlt

end Supervision

namespace Server

variable {σ : Type} [Outside σ] {w : World σ}

/-- A server that starts where an engine with its options serves has that engine, or another one,
as the engine decides. -/
theorem launch_succeeds {s : Server} {plan : Provisioned} {e : Nat} {o : EngineOptions}
    (h : w.Settled) (hl : s.IsLatest w) (ho : plan.Effective w.secrets o)
    (he : w.HoldsEngine e o) :
    w.Ensures (s.launch plan) fun r x => r.1 = .ok () →
      ∃ e', x.HoldsEngine e' o ∧ Succeeds (w.verdict e) e e' := by
  unfold launch
  have hprepare := prepare_within plan
  refine (((prepare_spec plan w).and (World.ensures_sameServices hprepare (by decide) (by decide)
    w)).and ((World.ensures_generations hprepare (by decide) w).and ((World.ensures_outside
    (hprepare.mono (by decide)) w).and (w.ensures_keeps _)))).bind
    fun ⟨responder, o'⟩ w₁ ⟨⟨ho', hsame⟩, hgen, houtside, hkeeps⟩ => ?_
  obtain rfl := (ho.keeps hkeeps).unique ho'
  have h₁ := h.congr hsame
  have hensure := Supervision.ensureEngine_within o
  refine (((Supervision.ensureEngine_spec h₁.engines o).and (Supervision.ensureEngine_succeeds
    h₁.engines (he.congr hsame.engines))).and
    ((World.ensures_collectors hensure (by decide) w₁).and
    (World.ensures_generations hensure (by decide) w₁))).bind
    fun answer w₂ ⟨⟨hengine, hsucceeds⟩, hcollectors, hgen'⟩ => ?_
  rcases answer with fault | e'
  · exact World.ensures_pure nofun
  have hsucceeds := hsucceeds e' rfl
  rw [World.verdict_congr hsame.engines.1 houtside] at hsucceeds
  have hattaching : Attaching s s e' o w₂ :=
    ⟨⟨hengine.1, h₁.collectors.congr hcollectors⟩, .refl s, (hl.congr hgen).congr hgen',
      hengine.2 e' rfl⟩
  refine (attach_spec hattaching plan responder).bind fun ⟨answer, t⟩ w₃ ⟨_, _, hok⟩ => ?_
  rcases answer with error | _
  · exact World.ensures_bind (World.ensures_of_forall fun _ _ => World.ensures_pure nofun)
  · exact World.ensures_pure fun _ => ⟨e', (hok rfl).1, hsucceeds⟩

end Server

namespace Host

variable {σ : Type} {w w₁ w₂ : World σ} {h : Host} {previous failed restored : Server}
  {settings : Settings} {e e' : ServerError}

/-- When two more launches have captured their generations, the one that failed and the server
before it are not the latest any more. -/
theorem superseded {plan : Provisioned} {answer : Except ServerError Unit}
    (hforce : previous.InForce w plan) (hlaunched : Launched settings w answer failed w₁)
    (hgen : w₂.generations = w₁.generations.capture.2) :
    ¬failed.IsLatest w₂ ∧ ¬previous.IsLatest w₂ := by
  obtain ⟨g, hg, hlatest⟩ := hforce.latest
  rw [hlaunched.generations] at hgen
  refine ⟨Server.not_isLatest hlaunched.generation ?_, Server.not_isLatest hg ?_⟩
  · rw [hgen]
    exact Generations.not_isCurrent_capture w.generations.isCurrent_capture
  · rw [hgen]
    exact Generations.not_isCurrent_capture_capture hlatest

variable [Outside σ]

/-- So it is with settings that are launched where an engine with their options serves. -/
theorem launch_succeeds {plan : Provisioned} {e : Nat} {o : EngineOptions}
    (h : w.Settled) (hplan : (settings.provision w.secrets).1 = .ok plan)
    (henabled : plan.enabled = true) (ho : plan.Effective w.secrets o) (he : w.HoldsEngine e o) :
    w.Ensures (launch settings) fun r x => r.1 = .ok () →
      ∃ e', x.HoldsEngine e' o ∧ Succeeds (w.verdict e) e e' := by
  unfold launch
  refine (((Server.provision_spec (s := .new settings) rfl w).and (World.ensures_outside
    (Server.provision_within _) w)).and (w.ensures_keeps _)).bind
    fun ⟨answer, s⟩ w₁ ⟨⟨⟨hsame, hgen, _, hcaptured, _, hanswer⟩, houtside⟩, hkeeps⟩ => ?_
  rcases answer with error | g
  · exact World.ensures_pure nofun
  obtain ⟨plan', hprovision, hs, hstate⟩ := hanswer
  obtain rfl := Except.ok.inj (hplan.symm.trans hprovision)
  have hstart : s.start = s.launch plan := by
    rw [Server.start, hstate, hs, henabled]
  have hlatest : s.IsLatest w₁ := ⟨_, hcaptured, hgen ▸ w.generations.isCurrent_capture⟩
  dsimp only
  rw [hstart, ← World.verdict_congr hsame.engines.1 houtside]
  exact Server.launch_succeeds (h.congr hsame) hlatest (ho.keeps hkeeps) (he.congr hsame.engines)

/-- Settings that are no good are told so, and nothing has happened to the services. -/
theorem launch_invalid {cause : ConfigError}
    (hinvalid : (settings.provision w.secrets).1 = .error cause) :
    w.Ensures (launch settings) fun r x => r.1 = .error (.config cause) ∧
      w.SameServices x ∧ x.outside = w.outside ∧ w.secrets.Keeps x.secrets := by
  unfold launch
  refine (((Server.provision_spec (s := .new settings) rfl w).and (World.ensures_outside
    (Server.provision_within _) w)).and (w.ensures_keeps _)).bind
    fun ⟨answer, s⟩ w₁ ⟨⟨⟨hsame, _, _, _, _, hanswer⟩, houtside⟩, hkeeps⟩ => ?_
  rcases answer with error | g
  · obtain ⟨⟨cause', hcause, rfl⟩, -⟩ := hanswer
    obtain rfl := Except.error.inj (hinvalid.symm.trans hcause)
    exact World.ensures_pure ⟨rfl, hsame, houtside, hkeeps⟩
  · obtain ⟨plan, hplan, -⟩ := hanswer
    exact nomatch hinvalid.symm.trans hplan

/-- A reload that fails and is not undone leaves no server. -/
theorem run_reload_lost (hcurrent : h.current = some previous)
    (hfailed : w.run (launch settings) = ((.error e, failed), w₁))
    (hlost : w₁.run (launch previous.settings) = ((.error e', restored), w₂)) :
    (w.run (h.reload settings)).1 = (.error e, idle) := by
  have hrestore : (w₁.run (restore previous failed)).1 = idle := by
    simp only [restore, World.run_bind, hlost]
    rfl
  rw [reload, World.run_bind, hfailed, hcurrent]
  simp only [World.run_bind, hrestore]
  rfl

/-- A host with an enabled server is given settings that are no good. It says so, and has launched
the settings of that server again. If that went well they are served again, and its engine is the
same one exactly if it has taken its own options; another one with these options serves if it could
only take them by being created again. If it went wrong nothing is left. -/
theorem reload_invalid {cause : ConfigError} (hw : h.Reached w)
    (hcurrent : h.current = some previous) (henabled : previous.settings.disabled = false)
    (hinvalid : (settings.provision w.secrets).1 = .error cause) :
    let relaunched := (w.run (launch settings)).2.run (launch previous.settings)
    let after := w.run (h.reload settings)
    ∃ e o, w.HoldsEngine e o ∧ (∀ x, w.engineRuns x = true ↔ x = e) ∧
      after.1.1 = .error (.config cause) ∧
      (relaunched.1.1 = .ok () → ∃ restored e', after.1.2.current = some restored ∧
        restored.settings = previous.settings ∧ after.2.HoldsEngine e' o ∧
        (∀ x, after.2.engineRuns x = true ↔ x = e') ∧ Succeeds (w.verdict e) e e') ∧
      (relaunched.1.1 ≠ .ok () → after.1.2.current = none ∧ after.2.Quiet) := by
  intro relaunched after
  have hconsistent := hw.consistent
  have hafter := consistent_reload hconsistent settings
  rw [Consistent, hcurrent] at hconsistent
  obtain ⟨plan, hforce⟩ := hconsistent
  have hplan : plan.enabled = true := by
    rw [(Settings.of_provision hforce.provisioned).1, henabled]
    rfl
  obtain ⟨e, o, ho, he⟩ := ((if_pos hplan).mp hforce.serves : w.Serves plan).engine
  refine ⟨e, o, he, hforce.settled.engines.runs_iff he.1, ?_⟩
  -- the launch that fails leaves the engine and all that is outside alone
  rcases hfailed : w.run (launch settings) with ⟨⟨answer, failed⟩, w₁⟩
  obtain ⟨hanswer, hsame, houtside, hkeeps⟩ := (launch_invalid hinvalid).of_run hfailed
  have hlaunched := (launch_spec settings hforce.settled).of_run hfailed
  obtain rfl : answer = .error (.config cause) := hanswer
  have hagain : (previous.settings.provision w₁.secrets).1 = .ok plan :=
    congrArg Prod.fst (Settings.provision_again (congrArg Prod.fst hforce.provisioned)
      (by rw [hforce.provisioned]; exact hkeeps))
  have hsucceeds := launch_succeeds hlaunched.settled hagain hplan (ho.keeps hkeeps)
    (he.congr hsame.engines)
  rw [World.verdict_congr hsame.engines.1 houtside] at hsucceeds
  rcases hrun : w₁.run (launch previous.settings) with ⟨⟨error | _, restored⟩, w₂⟩
  · have hlost : after.1 = (.error (.config cause), idle) := run_reload_lost hcurrent hfailed hrun
    have hrelaunch : relaunched.1.1 = .error error := by simp only [relaunched, hfailed, hrun]
    have hidle : Consistent after.1.2 after.2 := hafter
    rw [hlost] at hidle ⊢
    have hnot : relaunched.1.1 ≠ .ok () := by simp [hrelaunch]
    exact ⟨rfl, fun hok => absurd hok hnot, fun _ => ⟨rfl, hidle⟩⟩
  · have hrestored := run_reload_restored hcurrent hfailed hrun
    have hrelaunch : relaunched.1.1 = .ok () := by simp only [relaunched, hfailed, hrun]
    have hrelaunched := (launch_spec previous.settings hlaunched.settled).of_run hrun
    obtain ⟨hnext, hprevious⟩ := superseded hforce hlaunched hrelaunched.generations
    obtain ⟨-, -, hx⟩ := stopBoth_spec hrelaunched.settled hnext hprevious
    obtain ⟨e', he', hsucceeds⟩ := hsucceeds.of_run hrun rfl
    have hserves := he'.congr hx.engines
    rw [show after = _ from hrestored]
    refine ⟨rfl, fun _ => ⟨restored, e', rfl, hrelaunched.origin, hserves, ?_, hsucceeds⟩,
      fun hne => absurd hrelaunch hne⟩
    exact (hrelaunched.settled.congr hx.toSameServices).engines.runs_iff hserves.1

/-- Settings without accounts do not cost the engine, which takes its own options again. -/
theorem reload_invalid_kept :
    let supply : SeedSupply := ⟨fun n => List.replicate 32 (UInt8.ofNat n), 0⟩
    let settings : Settings := { Settings.empty with port := some 4500 }
    let other : Settings := { Settings.empty with accounts := some [] }
    let started := (World.new (Script.new true) supply World.defaultPatience).run
      (idle.obey (.start settings))
    let after := started.2.run (started.1.reload other)
    after.1.1 = .error (.config (.invalid .noAccounts)) ∧ after.1.2.current.isSome = true ∧
      after.2.engineSlot.holder = some 0 ∧ after.2.engineRuns 0 = true := by
  intro supply settings other started
  have hreached : started.1.Reached started.2 := .obeyed (.start settings) (.fresh _ supply _)
  obtain ⟨previous, hcurrent⟩ := Option.isSome_iff_exists.1
    (show started.1.current.isSome = true by decide +kernel)
  have hsettings : previous.settings = settings := by
    have hsome : started.1.current.map (·.settings) = some settings := by decide +kernel
    rw [hcurrent] at hsome
    exact Option.some.inj hsome
  have hinvalid (s : Secrets) : (other.provision s).1 = .error (.invalid .noAccounts) := rfl
  obtain ⟨e, o, he, -, hanswer, hkept, -⟩ :=
    reload_invalid hreached hcurrent (by rw [hsettings]; rfl) (hinvalid _)
  have hrelaunched : ((started.2.run (launch other)).2.run (launch previous.settings)).1.1 =
      .ok () := by
    rw [hsettings]
    decide +kernel
  obtain ⟨restored, e', hrestored, -, he', hruns, hsucceeds⟩ := hkept hrelaunched
  -- the engine that serves is the first one, and takes its own options
  obtain rfl : e = 0 := Option.some.inj (he.1.symm.trans (by decide +kernel))
  obtain rfl : e' = 0 := hsucceeds.eq_iff.2 (by decide +kernel)
  exact ⟨hanswer, Option.isSome_iff_exists.2 ⟨restored, hrestored⟩, he'.1, (hruns 0).2 rfl⟩

/-- Settings without accounts cost the engine, which does not take its own options again. -/
theorem reload_invalid_refused :
    let script : Script :=
      { Script.new true with reloadError := some (.reload "permission denied") }
    let supply : SeedSupply := ⟨fun n => List.replicate 32 (UInt8.ofNat n), 0⟩
    let settings : Settings := { Settings.empty with port := some 4500 }
    let other : Settings := { Settings.empty with accounts := some [] }
    let started := (World.new script supply World.defaultPatience).run (idle.obey (.start settings))
    let after := started.2.run (started.1.reload other)
    started.1.Reached started.2 ∧
      started.1.current.map (·.state) = some .started ∧
      started.1.current.map (·.settings.disabled) = some false ∧
      started.2.engineSlot.holder = some 0 ∧ started.2.engineRuns 0 = true ∧
      after.1.1 = .error (.config (.invalid .noAccounts)) ∧
      after.1.2.current.isNone = true ∧ after.2.engineSlot.holder = none ∧
      after.2.engineRuns 0 = false := by
  intro script supply settings other started after
  refine ⟨.obeyed (.start settings) (.fresh script supply _), ?_⟩
  decide +kernel

end Host

end CalloutHost
