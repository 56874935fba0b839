import CalloutHost.Lifecycle.Script
import CalloutHost.Lifecycle.Server
import CalloutHost.Proofs.Lifecycle.Launch

/-!
# What holds after every command to the host

After every command that a host obeys, whatever engines, collectors and the network answer, either
nothing runs or the host's server is in force (`Host.Consistent`): `consistent_start`,
`consistent_reload` and `consistent_shutdown` are the steps, `consistent_obeyAll` the run. What this
means for the engines and collectors is spelled out in `Host.Accounted`.
-/

namespace CalloutHost

/-! ## Generations -/

namespace Generations

theorem isCurrent_capture (g : Generations) : g.capture.2.isCurrent g.capture.1 = true := by
  simp [capture, isCurrent]

/-- A generation that was the latest is not any more when another is captured. -/
theorem not_isCurrent_capture {g : Generations} {x : Generation} (h : g.isCurrent x = true) :
    g.capture.2.isCurrent x = false := by
  simp only [isCurrent, decide_eq_true_eq, capture] at h ⊢
  grind

/-- Nor is it when two more are captured; the count may wrap, but not so soon. -/
theorem not_isCurrent_capture_capture {g : Generations} {x : Generation}
    (h : g.isCurrent x = true) : g.capture.2.capture.2.isCurrent x = false := by
  simp only [isCurrent, decide_eq_true_eq, capture] at h ⊢
  grind

/-- After the latest generation and one more comes the second after the latest. -/
theorem capture_capture {g : Generations} {x : Generation} (h : g.isCurrent x = true) :
    g.capture.2.capture.1 = ⟨x.number + 2⟩ := by
  have hcount : g.count = x.number := of_decide_eq_true h
  simp only [capture, hcount, UInt64.add_assoc]
  rfl

end Generations

/-! ## Servers in force -/

namespace World

variable {σ : Type} {w x y : World σ}

theorem Quiet.settled (h : w.Quiet) : w.Settled where
  engines e := by simp [h.engineSlot, h.engines e]
  collectors c := by simp [h.collectorSlot, h.collectors c]

/-- Nothing has changed on which a server in force depends. -/
structure Undisturbed (w x : World σ) : Prop extends w.SameServices x where
  generations : x.generations = w.generations
  secrets : w.secrets.Keeps x.secrets

theorem Undisturbed.trans (h : w.Undisturbed x) (h' : x.Undisturbed y) : w.Undisturbed y :=
  ⟨h.toSameServices.trans h'.toSameServices, h'.generations.trans h.generations,
    h.secrets.trans h'.secrets⟩

end World

namespace Server

variable {σ : Type}

/-- The server is started, it is the latest one, and the process has what it is to have. -/
structure InForce (s : Server) (w : World σ) (plan : Provisioned) : Prop where
  started : s.state = .started
  latest : s.IsLatest w
  planned : s.plan = some plan
  /-- Its settings come to this plan, now and ever after. -/
  provisioned : s.settings.provision w.secrets = (.ok plan, w.secrets)
  settled : w.Settled
  /-- The plan is served, or nothing is if the server is disabled. -/
  serves : if plan.enabled then w.Serves plan else w.Quiet

theorem InForce.congr {s : Server} {w x : World σ} {plan : Provisioned} (h : s.InForce w plan)
    (hx : w.Undisturbed x) : s.InForce x plan where
  started := h.started
  latest := h.latest.congr hx.generations
  planned := h.planned
  provisioned := Settings.provision_again (congrArg Prod.fst h.provisioned)
    (by rw [h.provisioned]; exact hx.secrets)
  settled := h.settled.congr hx.toSameServices
  serves := by
    have hserves := h.serves
    split at hserves
    · next he => exact (if_pos he).mpr (hserves.congr hx.toSameServices hx.secrets)
    · next he => exact (if_neg he).mpr (hserves.congr hx.toSameServices)

theorem Clears.congr {s : Server} {w x : World σ} (h : s.Clears w) (hx : w.Undisturbed x) :
    s.Clears x :=
  ⟨h.settled.congr hx.toSameServices, fun hs => (h.idle hs).congr hx.toSameServices,
    fun hs hs' => (h.latest hs hs').congr hx.generations⟩

variable [Outside σ] {w : World σ}

/-- Provisioning for the first time captures a generation and asks the secrets. -/
theorem provision_spec {s : Server} (hs : s.state = .unprovisioned) (w : World σ) :
    w.Ensures s.provision fun r x =>
      w.SameServices x ∧ x.generations = w.generations.capture.2 ∧
      r.2.settings = s.settings ∧ r.2.generation = some w.generations.capture.1 ∧
      x.secrets = (s.settings.provision w.secrets).2 ∧
      match r.1 with
      | .ok _ => ∃ plan, (s.settings.provision w.secrets).1 = .ok plan ∧ r.2.plan = some plan ∧
          r.2.state = .provisioned plan.enabled
      | .error e => (∃ cause, (s.settings.provision w.secrets).1 = .error cause ∧
          e = .config cause) ∧ r.2.plan = s.plan ∧ r.2.state = .unprovisioned := by
  unfold provision
  rw [if_neg (by simp [hs])]
  refine World.ensures_perform ?_
  generalize hw₁ : (w.exec .capture).2 = w₁
  have hsecrets : w₁.secrets = w.secrets := by rw [← hw₁]; rfl
  refine World.ensures_act (r := (s.settings.provision w.secrets).1)
    (x := { w₁ with secrets := (s.settings.provision w.secrets).2 }) (by rw [← hsecrets]; rfl) ?_
  have hsame : w.SameServices { w₁ with secrets := (s.settings.provision w.secrets).2 } := by
    rw [← hw₁]
    exact ⟨⟨rfl, rfl⟩, ⟨rfl, rfl⟩⟩
  have hgen : w₁.generations = w.generations.capture.2 := by rw [← hw₁]; rfl
  rcases hp : (s.settings.provision w.secrets).1 with cause | plan
  · exact World.ensures_pure ⟨hsame, hgen, rfl, rfl, rfl, ⟨cause, rfl, rfl⟩, rfl, hs⟩
  · exact World.ensures_pure ⟨hsame, hgen, rfl, rfl, rfl, plan, rfl, rfl, rfl⟩

end Server

namespace Host

variable {σ : Type} {w : World σ}

/-- What the host says of itself is so: either nothing runs, or its server is in force. -/
def Consistent (h : Host) (w : World σ) : Prop :=
  match h.current with
  | none => w.Quiet
  | some s => ∃ plan, s.InForce w plan

theorem Consistent.settled {h : Host} (hw : h.Consistent w) : w.Settled := by
  rcases h with ⟨_ | s⟩
  · exact World.Quiet.settled hw
  · obtain ⟨plan, hs⟩ := hw
    exact hs.settled

/-- How a launch ends: with a server in force, or with one that clears, or with settings that cannot
be provisioned and nothing changed. -/
structure Launched (settings : Settings) (w : World σ) (answer : Except ServerError Unit)
    (t : Server) (x : World σ) : Prop where
  settled : x.Settled
  origin : t.settings = settings
  generations : x.generations = w.generations.capture.2
  generation : t.generation = some w.generations.capture.1
  ok : answer = .ok () → ∃ plan, t.InForce x plan
  /-- A server that was not launched clears, unless its settings were no good. -/
  error : ∀ e, answer = .error e → t.Clears x ∨ (w.SameServices x ∧ t.state = .unprovisioned ∧
    ∃ cause, (settings.provision w.secrets).1 = .error cause)

/-- Where nothing runs, a server that was not launched leaves nothing when it is stopped. -/
theorem Launched.clears {settings : Settings} {e : ServerError} {t : Server} {x : World σ}
    (h : Launched settings w (.error e) t x) (hw : w.Quiet) : t.Clears x := by
  rcases h.error e rfl with hclears | ⟨hsame, hstate, -⟩
  · exact hclears
  · exact ⟨h.settled, fun _ => hw.congr hsame, fun _ hne => absurd hstate hne⟩

variable [Outside σ]

theorem launch_spec (settings : Settings) (h : w.Settled) :
    w.Ensures (launch settings) fun r x => Launched settings w r.1 r.2 x := by
  unfold launch
  refine (Server.provision_spec (s := .new settings) rfl w).bind
    fun ⟨answer, s⟩ w₁ ⟨hsame, hgen, hsettings, hcaptured, hsecrets, hanswer⟩ => ?_
  have h₁ := h.congr hsame
  rcases answer with error | g
  · obtain ⟨⟨cause, hcause, -⟩, -, hstate⟩ := hanswer
    exact World.ensures_pure
      ⟨h₁, hsettings, hgen, hcaptured, nofun, fun _ _ => .inr ⟨hsame, hstate, cause, hcause⟩⟩
  obtain ⟨plan, hprovision, hplan, hstate⟩ := hanswer
  have hlatest : s.IsLatest w₁ := ⟨_, hcaptured, hgen ▸ w.generations.isCurrent_capture⟩
  refine ((Server.start_spec h₁ hlatest hstate hplan).and
    ((World.ensures_generations s.start_within (by decide) w₁).and (w₁.ensures_keeps _))).mono
    fun ⟨answer, t⟩ x ⟨hstarted, hgen', hkeeps⟩ => ?_
  refine ⟨hstarted.settled, hstarted.origin.settings.trans hsettings, hgen'.trans hgen,
    hstarted.origin.generation.trans hcaptured, fun hok => ?_,
    fun e he => .inl (hstarted.error e he)⟩
  obtain ⟨hstate', hserves⟩ := hstarted.ok hok
  refine ⟨plan, hstate', (hlatest.congr hgen').same hstarted.origin,
    hstarted.origin.plan.trans hplan, ?_, hstarted.settled, hserves⟩
  rw [hstarted.origin.settings, hsettings]
  exact Settings.provision_again hprovision (hsecrets ▸ hkeeps)

/-- A server that is not the latest stops without taking anything down. -/
theorem stop_superseded {s : Server} (h : w.Settled) (hs : ¬s.IsLatest w) :
    w.Ensures s.stop fun _ x => w.Undisturbed x :=
  ((Server.stop_spec s h).and ((World.ensures_generations s.stop_within (by decide) w).and
    (w.ensures_keeps _))).mono fun _ _ ⟨⟨_, _, hsame⟩, hgen, hkeeps⟩ =>
      ⟨hsame (.inr (.inr hs)), hgen, hkeeps⟩

/-- After the next server failed, the settings of the previous one are in force again, or nothing
runs. -/
theorem restore_spec {previous next : Server} (h : w.Settled)
    (hprovision : ∃ plan, (previous.settings.provision w.secrets).1 = .ok plan)
    (hprevious : ∀ x : World σ, x.generations = w.generations.capture.2 → ¬previous.IsLatest x)
    (hnext : ∀ x : World σ, x.generations = w.generations.capture.2 → ¬next.IsLatest x) :
    w.Ensures (restore previous next) Consistent := by
  unfold restore
  refine (launch_spec previous.settings h).bind fun ⟨answer, restored⟩ w₁ hlaunched => ?_
  refine (stop_superseded hlaunched.settled (hnext w₁ hlaunched.generations)).bind
    fun _ w₂ h₂ => ?_
  have hsettled₂ := hlaunched.settled.congr h₂.toSameServices
  have hprevious₂ := hprevious w₂ (h₂.generations.trans hlaunched.generations)
  refine (stop_superseded hsettled₂ hprevious₂).bind fun _ w₃ h₃ => ?_
  rcases answer with error | _
  · have hclears : restored.Clears w₁ := by
      rcases hlaunched.error error rfl with hclears | ⟨-, -, cause, hcause⟩
      · exact hclears
      · obtain ⟨plan, hplan⟩ := hprovision
        exact nomatch hplan.symm.trans hcause
    refine (Server.stop_clears (hclears.congr (h₂.trans h₃))).bind fun _ x ⟨_, hquiet⟩ => ?_
    exact World.ensures_pure hquiet
  · obtain ⟨plan, hforce⟩ := hlaunched.ok rfl
    exact World.ensures_pure ⟨plan, hforce.congr (h₂.trans h₃)⟩

/-- What stands after a start or a reload: the host is consistent, whatever was answered. -/
theorem consistent_reload {h : Host} (hw : h.Consistent w) (settings : Settings) :
    w.Ensures (h.reload settings) fun r x => r.2.Consistent x := by
  unfold reload
  refine ((launch_spec settings hw.settled).and (w.ensures_keeps _)).bind
    fun ⟨answer, next⟩ w₁ ⟨hlaunched, hkeeps⟩ => ?_
  rcases h with ⟨_ | previous⟩
  · rcases answer with error | _
    · refine (Server.stop_clears (hlaunched.clears hw)).bind fun _ x ⟨_, hquiet⟩ => ?_
      exact World.ensures_pure hquiet
    · exact World.ensures_pure (hlaunched.ok rfl)
  obtain ⟨plan, hforce⟩ := hw
  obtain ⟨g, hg, hcurrent⟩ := hforce.latest
  rcases answer with error | _
  · refine (restore_spec hlaunched.settled ?_ (fun x hx => ?_) (fun x hx => ?_)).bind
      fun _ x hx => World.ensures_pure hx
    · have hagain : previous.settings.provision w₁.secrets = (.ok plan, w₁.secrets) :=
        Settings.provision_again (congrArg Prod.fst hforce.provisioned)
          (by rw [hforce.provisioned]; exact hkeeps)
      exact ⟨plan, congrArg Prod.fst hagain⟩
    · refine Server.not_isLatest hg ?_
      rw [hx, hlaunched.generations]
      exact Generations.not_isCurrent_capture_capture hcurrent
    · refine Server.not_isLatest hlaunched.generation ?_
      rw [hx, hlaunched.generations]
      exact Generations.not_isCurrent_capture w.generations.isCurrent_capture
  · obtain ⟨plan', hforce'⟩ := hlaunched.ok rfl
    have hprevious : ¬previous.IsLatest w₁ := by
      refine Server.not_isLatest hg ?_
      rw [hlaunched.generations]
      exact Generations.not_isCurrent_capture hcurrent
    refine (stop_superseded hlaunched.settled hprevious).bind fun _ x hx => ?_
    exact World.ensures_pure ⟨plan', hforce'.congr hx⟩

theorem consistent_start {h : Host} (hw : h.Consistent w) (settings : Settings) :
    w.Ensures (h.start settings) fun r x => r.2.Consistent x := by
  unfold start
  split
  · exact consistent_reload hw settings
  · next hnone =>
    rcases h with ⟨_ | s⟩
    · refine (launch_spec settings hw.settled).bind fun ⟨answer, server⟩ w₁ hlaunched => ?_
      rcases answer with error | _
      · refine (Server.stop_clears (hlaunched.clears hw)).bind fun _ x ⟨_, hquiet⟩ => ?_
        exact World.ensures_pure hquiet
      · exact World.ensures_pure (hlaunched.ok rfl)
    · exact absurd rfl hnone

theorem consistent_shutdown {h : Host} (hw : h.Consistent w) :
    w.Ensures h.shutdown Consistent := by
  unfold shutdown
  rcases h with ⟨_ | s⟩
  · exact World.ensures_pure hw
  · obtain ⟨plan, hforce⟩ := hw
    have hclears : s.Clears w := by
      refine ⟨hforce.settled, ?_, fun _ _ => hforce.latest⟩
      rintro (hstate | hstate) <;> exact nomatch hforce.started.symm.trans hstate
    refine (Server.stop_clears hclears).bind fun _ x ⟨_, hquiet⟩ => ?_
    exact World.ensures_pure hquiet

end Host

/-! ## Runs -/

/-- What a host is told. -/
inductive HostCommand
  | start (settings : Settings)
  | reload (settings : Settings)
  | shutdown

namespace Host

/-- Obeys a command, successfully or not. -/
def obey (h : Host) : HostCommand → Program Host
  | .start settings => do return (← h.start settings).2
  | .reload settings => do return (← h.reload settings).2
  | .shutdown => h.shutdown

/-- Obeys commands, one after the other. -/
def obeyAll (h : Host) : List HostCommand → Program Host
  | [] => return h
  | command :: commands => do (← h.obey command).obeyAll commands

variable {σ : Type} {w : World σ}

theorem consistent_new (outside : σ) (supply : SeedSupply) (patience : Nanoseconds) :
    idle.Consistent (World.new outside supply patience) where
  engineSlot := rfl
  collectorSlot := rfl
  engines _ := rfl
  collectors _ := rfl

section

variable [Outside σ]

/-- No command makes a consistent host inconsistent. -/
theorem consistent_obey {h : Host} (hw : h.Consistent w) (command : HostCommand) :
    w.Ensures (h.obey command) Consistent := by
  cases command with
  | start settings =>
    exact (consistent_start hw settings).bind fun _ x hx => World.ensures_pure hx
  | reload settings =>
    exact (consistent_reload hw settings).bind fun _ x hx => World.ensures_pure hx
  | shutdown => exact consistent_shutdown hw

theorem consistent_obeyAll {h : Host} (hw : h.Consistent w) (commands : List HostCommand) :
    w.Ensures (h.obeyAll commands) Consistent := by
  induction commands generalizing h w with
  | nil => exact World.ensures_pure hw
  | cons command commands ih =>
    exact (consistent_obey hw command).bind fun _ x hx => ih hx

end

/-- The process is as the host has it. If it has no server, both slots are empty and nothing runs.
If it has one, that server is started and of the latest generation, and its settings come to its
plan. If they are enabled, the engine in the slot is the only one that runs and has the plan's
options, and a collector is in its slot, the only one that runs and with the plan's options, exactly
if metrics are configured. -/
def Accounted (h : Host) (w : World σ) : Prop :=
  match h.current with
  | none => w.engineSlot.holder = none ∧ w.collectorSlot.holder = none ∧
      (∀ e, w.engineRuns e = false) ∧ ∀ c, w.collectorRuns c = false
  | some s => s.state = .started ∧
      s.IsLatest w ∧
      ∃ plan, s.plan = some plan ∧ s.settings.provision w.secrets = (.ok plan, w.secrets) ∧
        (s.settings.disabled = false →
          (∃ e, w.engineSlot.holder = some e ∧ (∀ x, w.engineRuns x = true ↔ x = e) ∧
            plan.Effective w.secrets (w.engine e).options) ∧
          plan.collector.isSome = s.settings.metrics.isSome ∧
          match plan.collector with
          | some o => ∃ c, w.collectorSlot.holder = some c ∧
              (∀ x, w.collectorRuns x = true ↔ x = c) ∧ (w.collector c).options = o
          | none => w.collectorSlot.holder = none ∧ ∀ x, w.collectorRuns x = false)

theorem Consistent.accounted {h : Host} (hw : h.Consistent w) : h.Accounted w := by
  rcases h with ⟨_ | s⟩
  · exact ⟨hw.engineSlot, hw.collectorSlot, hw.engines, hw.collectors⟩
  obtain ⟨plan, hforce⟩ := hw
  refine ⟨hforce.started, hforce.latest, plan, hforce.planned, hforce.provisioned, fun hs => ?_⟩
  have henabled : plan.enabled = true := by
    rw [(Settings.of_provision hforce.provisioned).1, hs]
    rfl
  have hserves : w.Serves plan := (if_pos henabled).mp hforce.serves
  refine ⟨?_, Settings.collector_of_provision hforce.provisioned, ?_⟩
  · obtain ⟨e, o, ho, hholds, hoptions⟩ := hserves.engine
    exact ⟨e, hholds, hforce.settled.engines.runs_iff hholds, hoptions ▸ ho⟩
  · have hcollects := hserves.collector
    cases hplan : plan.collector with
    | none =>
      rw [hplan] at hcollects
      exact ⟨hcollects, hforce.settled.collectors.eq_false hcollects⟩
    | some o =>
      rw [hplan] at hcollects
      obtain ⟨c, hholds, hoptions⟩ := hcollects
      exact ⟨c, hholds, hforce.settled.collectors.runs_iff hholds, hoptions⟩

/-- In a fresh process, whatever commands a host obeys and whatever engines, collectors and the
network answer, the process ends up as the host has it. -/
theorem accounted_run [Outside σ] (outside : σ) (supply : SeedSupply) (patience : Nanoseconds)
    (commands : List HostCommand) :
    (World.new outside supply patience).Ensures (idle.obeyAll commands) Accounted :=
  (consistent_obeyAll (consistent_new outside supply patience) commands).mono
    fun _ _ hx => hx.accounted

/-- After a start, a reload, and a reload that is refused, the settings of the second are in force
again: their server is the latest, and its engine and its collector are the only ones that run. -/
theorem accounted_run_restored :
    let supply : SeedSupply := ⟨fun n => List.replicate 32 (UInt8.ofNat n), 0⟩
    let settings : Settings := { Settings.empty with
      port := some 4500, httpPort := some 8222
      metrics := some ⟨some "host", some "http://[::1]:8222", none⟩ }
    let second : Settings := { settings with debug := true }
    let after := (World.new (Script.new true) supply World.defaultPatience).run (idle.obeyAll
      [.start settings, .reload second, .reload { settings with accounts := some [] }])
    ∃ server plan e c, after.1.current = some server ∧ server.settings = second ∧
      server.state = .started ∧ server.IsLatest after.2 ∧ server.plan = some plan ∧
      after.2.engineSlot.holder = some e ∧ (∀ x, after.2.engineRuns x = true ↔ x = e) ∧
      plan.Effective after.2.secrets (after.2.engine e).options ∧
      after.2.collectorSlot.holder = some c ∧ ∀ x, after.2.collectorRuns x = true ↔ x = c := by
  intro supply settings second after
  have hsettings : after.1.current.map (·.settings) = some second := by decide +kernel
  generalize hended : after = ended at hsettings ⊢
  have haccounted : ended.1.Accounted ended.2 :=
    (accounted_run (Script.new true) supply World.defaultPatience _).of_run hended
  obtain ⟨server, hcurrent, hserver⟩ := Option.map_eq_some_iff.1 hsettings
  rw [Accounted, hcurrent] at haccounted
  obtain ⟨hstate, hlatest, plan, hplan, -, hserves⟩ := haccounted
  obtain ⟨⟨e, hholds, honly, hoptions⟩, hmetrics, hcollects⟩ := hserves (by rw [hserver]; rfl)
  rw [hserver] at hmetrics
  obtain ⟨o, ho⟩ := Option.isSome_iff_exists.1 hmetrics
  rw [ho] at hcollects
  obtain ⟨c, hholds', honly', -⟩ := hcollects
  exact ⟨server, plan, e, c, hcurrent, hserver, hstate, hlatest, hplan, hholds, honly, hoptions,
    hholds', honly'⟩

end Host

end CalloutHost
