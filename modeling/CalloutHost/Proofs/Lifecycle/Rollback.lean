import CalloutHost.Lifecycle.Script
import CalloutHost.Proofs.Access.PinnedRuns
import CalloutHost.Proofs.Lifecycle.HostRuns
import CalloutHost.Proofs.Outcomes

/-!
# A reload that fails is undone

When a reload fails and the settings that were in force start again, the process serves as it did
before: with the same engine options and the same collector options, with every pinned token that
was bound, and as the generation after the one that failed (`Host.RolledBack`). `Host.rolls_back`
says so of every host that can come about (`Host.Reached`).

The options are the same because a plan comes to one set of options as long as the secrets that were
asked for are kept (`Server.InForce.options_eq`), and the tokens because no program takes one away
(`World.drawnFrom_run`).
-/

namespace CalloutHost

/-! ## Pinned tokens -/

namespace Secrets

variable {s t : Secrets}

/-- No seed that is drawn from now on, until so many are drawn, makes a token that is bound. -/
def Fresh (s : Secrets) (drawn : Nat) : Prop :=
  ∀ n, s.supply.drawn ≤ n → n < drawn →
    s.pinned.byToken.get? (PinnedStore.mint (s.supply.seeds n)) = none

theorem Fresh.mono {m n : Nat} (h : s.Fresh n) (hmn : m ≤ n) : s.Fresh m :=
  fun i hi him => h i hi (Nat.lt_of_lt_of_le him hmn)

/-- The later secrets come from the earlier ones by drawing seeds. -/
structure DrawnFrom (s t : Secrets) : Prop where
  seeds : t.supply.seeds = s.supply.seeds
  drawn : s.supply.drawn ≤ t.supply.drawn
  /-- What was bound is bound, as long as no seed makes a token again. -/
  pinned : s.Fresh t.supply.drawn → s.pinned.Keeps t.pinned

theorem DrawnFrom.refl (s : Secrets) : s.DrawnFrom s := ⟨rfl, Nat.le_refl _, fun _ => .refl _⟩

/-- A seed that is drawn for something else binds no token. -/
theorem DrawnFrom.tail {u : Secrets} (h : s.DrawnFrom t) (hsupply : u.supply = t.supply.tail)
    (hpinned : u.pinned = t.pinned) : s.DrawnFrom u := by
  have hdrawn : t.supply.drawn ≤ u.supply.drawn := hsupply ▸ Nat.le_succ t.supply.drawn
  refine ⟨?_, Nat.le_trans h.drawn hdrawn, fun hfresh => ?_⟩
  · rw [hsupply, ← h.seeds]
    rfl
  · rw [hpinned]
    exact h.pinned (hfresh.mono hdrawn)

theorem DrawnFrom.signingKey (h : s.DrawnFrom t) : s.DrawnFrom t.signingKey.2 := by
  unfold Secrets.signingKey
  split
  · exact h
  · exact h.tail rfl rfl

theorem DrawnFrom.bootstrapUser (h : s.DrawnFrom t) : s.DrawnFrom t.bootstrapUser.2 := by
  unfold Secrets.bootstrapUser
  split
  · exact h
  · exact h.tail rfl rfl

theorem DrawnFrom.pinnedToken (h : s.DrawnFrom t) (account : String) :
    s.DrawnFrom (t.pinnedToken account).2 := by
  have hsupply : (t.pinnedToken account).2.supply = t.pinned.supplyAfter account t.supply := rfl
  have hpinned : (t.pinnedToken account).2.pinned = (t.pinned.settle t.supply.head account).2 := by
    rw [← PinnedStore.getOrCreate_eq_settle]
    rfl
  by_cases hneeds : t.pinned.needsSeed account = true
  · rw [PinnedStore.supplyAfter, if_pos hneeds] at hsupply
    have hdrawn : (t.pinnedToken account).2.supply.drawn = t.supply.drawn + 1 := by
      rw [hsupply]
      rfl
    refine ⟨?_, ?_, fun hfresh => ?_⟩
    · rw [hsupply, ← h.seeds]
      rfl
    · exact hdrawn ▸ Nat.le_succ_of_le h.drawn
    · -- the seed that makes the token is one of those that are drawn until the end
      rw [hdrawn] at hfresh
      have hfree : s.pinned.byToken.get? (PinnedStore.mint t.supply.head) = none := by
        rw [SeedSupply.head, h.seeds]
        exact hfresh _ h.drawn (Nat.lt_succ_self _)
      rw [hpinned]
      exact (h.pinned (hfresh.mono (Nat.le_succ _))).settle hfree account
  · rw [PinnedStore.supplyAfter, if_neg hneeds] at hsupply
    rw [PinnedStore.needsSeed_iff, ← ne_eq, Option.ne_none_iff_exists'] at hneeds
    obtain ⟨token, htoken⟩ := hneeds
    have hsame : (t.pinnedToken account).2.pinned = t.pinned := by
      rw [hpinned, PinnedStore.settle, htoken]
    refine ⟨hsupply ▸ h.seeds, hsupply ▸ h.drawn, fun hfresh => ?_⟩
    rw [hsame]
    exact h.pinned (hsupply ▸ hfresh)

theorem DrawnFrom.provision (h : s.DrawnFrom t) (settings : Settings) :
    s.DrawnFrom (settings.provision t).2 := by
  rcases settings.provision_cases with ⟨fault, hplan⟩ | ⟨plan, hplan⟩ | ⟨plan, hplan⟩
  · rw [hplan]
    exact h
  · rw [hplan]
    exact h
  · rw [hplan]
    exact h.signingKey

end Secrets

namespace World

variable {σ α : Type} [Outside σ] {w : World σ}

theorem drawnFrom_exec {s : Secrets} (h : s.DrawnFrom w.secrets) (a : Action) :
    s.DrawnFrom (w.exec a).2.secrets := by
  by_cases ha : a.area = .secrets
  · cases a with
    | provision settings => exact h.provision settings
    | bootstrapUser => exact h.bootstrapUser
    | pinnedToken account => exact h.pinnedToken account
    | _ => exact absurd ha (by simp)
  · rw [w.exec_secrets ha]
    exact h

/-- No program takes a token away. -/
theorem drawnFrom_run {s : Secrets} (p : Program α) (h : s.DrawnFrom w.secrets) :
    s.DrawnFrom (w.run p).2.secrets :=
  run_invariant (P := fun x => s.DrawnFrom x.secrets) (fun _ a hx => drawnFrom_exec hx a) p h

end World

/-! ## Options -/

/-- A plan comes to one set of engine options. -/
theorem Provisioned.Effective.unique {plan : Provisioned} {s : Secrets} {o o' : EngineOptions}
    (h : plan.Effective s o) (h' : plan.Effective s o') : o = o' := by
  rcases plan with ⟨enabled, engine, collector, _ | ⟨account, _ | issuer, policies⟩, flows⟩
  · exact Eq.trans h (Eq.symm h')
  · exact Eq.trans h (Eq.symm h')
  · simp only [Effective] at h h'
    split at h
    · next hop =>
      obtain ⟨seed, hseed, rfl⟩ := h
      rw [if_pos hop] at h'
      obtain ⟨seed', hseed', rfl⟩ := h'
      rw [Option.some.inj (hseed.symm.trans hseed')]
    · next hop =>
      rw [if_neg hop] at h'
      exact h.trans h'.symm

namespace World

variable {σ : Type} {w x : World σ}

/-- The options of the engine that serves, if one does. -/
def engineOptions (w : World σ) : Option EngineOptions :=
  w.engineSlot.holder.map fun e => (w.engine e).options

/-- The options of the collector that serves, if one does. -/
def collectorOptions (w : World σ) : Option CollectorOptions :=
  w.collectorSlot.holder.map fun c => (w.collector c).options

theorem HoldsEngine.engineOptions_eq {e : Nat} {o : EngineOptions} (h : w.HoldsEngine e o) :
    w.engineOptions = some o := by
  rw [engineOptions, h.1, Option.map_some, h.2]

theorem CollectsAs.collectorOptions_eq {o : Option CollectorOptions} (h : w.CollectsAs o) :
    w.collectorOptions = o := by
  cases o with
  | none =>
    have hempty : w.collectorSlot.holder = none := h
    rw [collectorOptions, hempty, Option.map_none]
  | some o =>
    obtain ⟨c, hholds, hoptions⟩ := h
    rw [collectorOptions, hholds, Option.map_some, hoptions]

theorem Quiet.options_eq (h : w.Quiet) : w.engineOptions = none ∧ w.collectorOptions = none := by
  rw [engineOptions, collectorOptions, h.engineSlot, h.collectorSlot]
  exact ⟨rfl, rfl⟩

end World

/-- Two servers in force with one plan serve alike, and an engine if the plan is enabled. -/
theorem Server.InForce.options_eq {σ : Type} {s t : Server} {w x : World σ} {plan : Provisioned}
    (hs : s.InForce w plan) (ht : t.InForce x plan) (hk : w.secrets.Keeps x.secrets) :
    x.engineOptions.isSome = plan.enabled ∧ x.engineOptions = w.engineOptions ∧
      x.collectorOptions = w.collectorOptions := by
  have hw := hs.serves
  have hx := ht.serves
  cases henabled : plan.enabled with
  | true =>
    rw [henabled, if_pos rfl] at hw hx
    obtain ⟨e, o, ho, he⟩ := hw.engine
    obtain ⟨e', o', ho', he'⟩ := hx.engine
    obtain rfl := (ho.keeps hk).unique ho'
    rw [he.engineOptions_eq, he'.engineOptions_eq, hw.collector.collectorOptions_eq,
      hx.collector.collectorOptions_eq]
    exact ⟨rfl, rfl, rfl⟩
  | false =>
    rw [henabled, if_neg nofun] at hw hx
    rw [hw.options_eq.1, hw.options_eq.2, hx.options_eq.1, hx.options_eq.2]
    exact ⟨rfl, rfl, rfl⟩

/-! ## Hosts that come about -/

/-- Tokens that are pinned in the process do not disturb what serves. -/
theorem World.undisturbed_pinned {σ : Type} (w : World σ) (pinned : PinnedStore) :
    w.Undisturbed { w with secrets := { w.secrets with pinned } } where
  engines := ⟨rfl, rfl⟩
  collectors := ⟨rfl, rfl⟩
  generations := rfl
  secrets := ⟨fun _ h => h, fun _ h => h⟩

namespace Host

variable {σ : Type}

/-- A host and its process come about in a fresh process, when the host obeys commands, and when
something else happens in the process that leaves the services, the generations and the secrets that
were asked for alone. -/
inductive Reached [Outside σ] : Host → World σ → Prop
  | fresh (outside : σ) (supply : SeedSupply) (patience : Nanoseconds) :
      Reached idle (World.new outside supply patience)
  | obeyed {h : Host} {w : World σ} (command : HostCommand) (hw : Reached h w) :
      Reached (w.run (h.obey command)).1 (w.run (h.obey command)).2
  /-- Something else has happened. -/
  | disturbed {h : Host} {w x : World σ} (hw : Reached h w) (hx : w.Undisturbed x) : Reached h x

/-- A host stays consistent in a process that is not disturbed. -/
theorem Consistent.congr {h : Host} {w x : World σ} (hw : h.Consistent w) (hx : w.Undisturbed x) :
    h.Consistent x := by
  rcases h with ⟨_ | s⟩
  · exact World.Quiet.congr hw hx.toSameServices
  · obtain ⟨plan, hs⟩ := hw
    exact ⟨plan, hs.congr hx⟩

/-- A host that comes about is consistent. -/
theorem Reached.consistent [Outside σ] {h : Host} {w : World σ} (hw : h.Reached w) :
    h.Consistent w := by
  induction hw with
  | fresh outside supply patience => exact consistent_new outside supply patience
  | obeyed command _ ih => exact consistent_obey ih command
  | disturbed _ hx ih => exact ih.congr hx

/-! ## Undoing -/

/-- Stops the server that failed and then the one before it. -/
def stopBoth (failed previous : Server) : Program (Server × Server) := do
  let failed ← failed.stop
  let previous ← previous.stop
  return (failed, previous)

/-- The process serves as it did before. -/
structure RolledBack (w x : World σ) (previous restored : Server) : Prop where
  state : restored.state = .started
  settings : restored.settings = previous.settings
  /-- Its generation is the second after the previous one. -/
  generation : ∃ g, previous.generation = some g ∧ restored.generation = some ⟨g.number + 2⟩
  settled : w.Settled ∧ x.Settled
  serves : x.engineOptions.isSome = !previous.settings.disabled
  engine : x.engineOptions = w.engineOptions
  /-- If there was a collector its options are the same, and if there was none there is none. -/
  collector : x.collectorOptions = w.collectorOptions
  /-- What was bound is bound, as long as no seed that was drawn makes a token again. -/
  pinned : w.secrets.Fresh x.secrets.supply.drawn → w.secrets.pinned.Keeps x.secrets.pinned

variable {w w₁ w₂ : World σ} {previous failed restored : Server}

/-- The settings of a server in force come to the same plan when they are launched again. -/
theorem Launched.inForce_again {plan : Provisioned}
    (h : Launched previous.settings w₁ (.ok ()) restored w₂) (hforce : previous.InForce w plan)
    (hkeeps : w.secrets.Keeps w₂.secrets) : restored.InForce w₂ plan := by
  obtain ⟨plan', hforce'⟩ := h.ok rfl
  have hagain : previous.settings.provision w₂.secrets = (.ok plan, w₂.secrets) :=
    Settings.provision_again (congrArg Prod.fst hforce.provisioned)
      (by rw [hforce.provisioned]; exact hkeeps)
  have hprovisioned := hforce'.provisioned
  rw [h.origin, hagain] at hprovisioned
  obtain rfl := Except.ok.inj (congrArg Prod.fst hprovisioned)
  exact hforce'

variable [Outside σ] {h : Host} {settings : Settings} {e : ServerError}

/-- A reload that fails and is undone: the previous settings are launched, then both servers are
stopped. -/
theorem run_reload_restored (hcurrent : h.current = some previous)
    (hfailed : w.run (launch settings) = ((.error e, failed), w₁))
    (hrestored : w₁.run (launch previous.settings) = ((.ok (), restored), w₂)) :
    w.run (h.reload settings) =
      ((.error e, ⟨some restored⟩), (w₂.run (stopBoth failed previous)).2) := by
  have hrestore : w₁.run (restore previous failed) =
      (⟨some restored⟩, (w₂.run (stopBoth failed previous)).2) := by
    simp only [restore, stopBoth, World.run_bind, hrestored]
    rfl
  rw [reload, World.run_bind, hfailed, hcurrent]
  simp only [World.run_bind, hrestore]
  rfl

/-- Stopping two servers that are not the latest stops them and nothing else. -/
theorem stopBoth_spec (h : w.Settled) (hfailed : ¬failed.IsLatest w)
    (hprevious : ¬previous.IsLatest w) :
    w.Ensures (stopBoth failed previous) fun r x =>
      r.1.state = .stopped ∧ r.2.state = .stopped ∧ w.Undisturbed x := by
  unfold stopBoth
  refine ((failed.stop_result w).and (stop_superseded h hfailed)).bind
    fun failed' w₁ ⟨⟨hstopped, _⟩, h₁⟩ => ?_
  have hprevious₁ : ¬previous.IsLatest w₁ := fun hl => hprevious (hl.congr h₁.generations.symm)
  refine ((previous.stop_result w₁).and (stop_superseded (h.congr h₁.toSameServices)
    hprevious₁)).bind fun previous' x ⟨⟨hstopped', _⟩, hx⟩ => ?_
  exact World.ensures_pure ⟨hstopped, hstopped', h₁.trans hx⟩

/-- Where a reload fails and the settings that were in force can be launched again, the reload
answers why it failed, both the server that failed and the previous one are stopped, and the process
serves as it did before. -/
theorem rolls_back (hw : h.Reached w) (hcurrent : h.current = some previous)
    (hfailed : w.run (launch settings) = ((.error e, failed), w₁))
    (hrestored : w₁.run (launch previous.settings) = ((.ok (), restored), w₂)) :
    ∃ failed' previous' x,
      w.run (h.reload settings) = ((.error e, ⟨some restored⟩), x) ∧
      w₂.run (stopBoth failed previous) = ((failed', previous'), x) ∧
      failed'.state = .stopped ∧ previous'.state = .stopped ∧
      RolledBack w x previous restored := by
  have hreload := run_reload_restored hcurrent hfailed hrestored
  have hconsistent := hw.consistent
  rw [Consistent, hcurrent] at hconsistent
  obtain ⟨plan, hforce⟩ := hconsistent
  obtain ⟨g, hg, hlatest⟩ := hforce.latest
  -- the launch that fails captures the next generation, the other launch the one after it
  obtain ⟨hlaunched, hkeeps₁⟩ :=
    ((launch_spec settings hforce.settled).and (w.ensures_keeps _)).of_run hfailed
  obtain ⟨hrelaunched, hkeeps₂⟩ :=
    ((launch_spec previous.settings hlaunched.settled).and (w₁.ensures_keeps _)).of_run hrestored
  have hgenerations : w₂.generations = w.generations.capture.2.capture.2 := by
    rw [hrelaunched.generations, hlaunched.generations]
  -- so neither of the other servers is the latest any more
  have hnot : ¬failed.IsLatest w₂ ∧ ¬previous.IsLatest w₂ := by
    refine ⟨Server.not_isLatest hlaunched.generation ?_, Server.not_isLatest hg ?_⟩
    · rw [hgenerations]
      exact Generations.not_isCurrent_capture w.generations.isCurrent_capture
    · rw [hgenerations]
      exact Generations.not_isCurrent_capture_capture hlatest
  obtain ⟨hstopped, hstopped', hx⟩ := stopBoth_spec hrelaunched.settled hnot.1 hnot.2
  have hkeeps := hkeeps₁.trans hkeeps₂
  have hforce' := (hrelaunched.inForce_again hforce hkeeps).congr hx
  obtain ⟨hserves, hengine, hcollector⟩ :=
    hforce.options_eq hforce' (hkeeps.trans hx.secrets)
  refine ⟨_, _, _, hreload, rfl, hstopped, hstopped', ?_⟩
  exact {
    state := hforce'.started
    settings := hrelaunched.origin
    generation := by
      refine ⟨g, hg, ?_⟩
      rw [hrelaunched.generation, hlaunched.generations, Generations.capture_capture hlatest]
    settled := ⟨hforce.settled, hforce'.settled⟩
    serves := hserves.trans (Settings.of_provision hforce.provisioned).1
    engine := hengine
    collector := hcollector
    pinned := by
      have hdrawn := World.drawnFrom_run (h.reload settings) (.refl w.secrets)
      rw [hreload] at hdrawn
      exact hdrawn.pinned }

/-- An account is missing, so the launch takes down the engine that has taken the new options, and
the previous settings are served by another one. The token that was pinned meanwhile is bound. -/
theorem rolls_back_scripted :
    let script : Script := { Script.new true with missingAccounts := ["B"] }
    let supply : SeedSupply := ⟨fun n => List.replicate 32 (UInt8.ofNat n), 0⟩
    let settings : Settings := { Settings.empty with port := some 4500 }
    let other : Settings := { settings with accounts := some [⟨"B", [], false, [], []⟩] }
    let started := (World.new script supply World.defaultPatience).run (idle.obey (.start settings))
    let before : World Script := { started.2 with
      secrets := { started.2.secrets with pinned := started.2.secrets.pinned.bind "t" "A" none } }
    let after := before.run (started.1.reload other)
    before.engineSlot.holder = some 0 ∧ after.2.engineSlot.holder = some 1 ∧
      after.1.1 = .error (.engine (.noAccount "B")) ∧
      (∃ previous restored, started.1.current = some previous ∧
        after.1.2.current = some restored ∧ RolledBack before after.2 previous restored) ∧
      after.2.secrets.pinned.lookup "t" = some ("A", PinnedStore.defaultClaims "A") := by
  intro script supply settings other started before after
  have hreached : started.1.Reached before :=
    .disturbed (.obeyed (.start settings) (.fresh script supply _)) (started.2.undisturbed_pinned _)
  obtain ⟨previous, hcurrent⟩ := Option.isSome_iff_exists.1
    (show started.1.current.isSome = true by decide +kernel)
  have hsettings : previous.settings = settings := by
    have hsome : started.1.current.map (·.settings) = some settings := by decide +kernel
    rw [hcurrent] at hsome
    exact Option.some.inj hsome
  let failed := before.run (launch other)
  let restored := failed.2.run (launch settings)
  have hfailed : failed.1.1 = .error (.engine (.noAccount "B")) := by decide +kernel
  have hrestored : restored.1.1 = .ok () := by decide +kernel
  obtain ⟨_, _, x, hreload, -, -, -, hback⟩ := rolls_back hreached hcurrent
    (show before.run (launch other) = ((_, failed.1.2), failed.2) by rw [← hfailed])
    (show failed.2.run (launch previous.settings) = ((_, restored.1.2), restored.2) by
      rw [← hrestored, hsettings])
  have hafter : after = ((_, ⟨some restored.1.2⟩), x) := hreload
  have hback : RolledBack before after.2 previous restored.1.2 := by rwa [hafter]
  -- no seed was drawn
  have hdrawn : after.2.secrets.supply.drawn = 0 := by decide +kernel
  have hfresh : before.secrets.Fresh after.2.secrets.supply.drawn := fun n _ hn =>
    absurd hn (by omega)
  refine ⟨by decide +kernel, by decide +kernel, ?_, ⟨previous, restored.1.2, hcurrent, ?_, hback⟩,
    (hback.pinned hfresh).lookup (by decide +kernel)⟩
  · rw [hafter]
  · rw [hafter]

end Host

end CalloutHost
