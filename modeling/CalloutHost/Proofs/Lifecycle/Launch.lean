import CalloutHost.Proofs.Lifecycle.OwnClients

/-!
# What a server starts

A server of the latest generation that starts leaves an engine and a collector as its plan has them
(`World.Serves`), or it fails and is stopped, or it fails before it has taken over the engine
(`Server.start_spec`). Whenever it fails, stopping it leaves nothing (`Server.stop_failed`).
-/

namespace CalloutHost

/-- The options that the engine of a plan gets: where an issuer of this process answers requests and
no operators are trusted, the responder's user, which was made before, is among the users. -/
def Provisioned.Effective (plan : Provisioned) (secrets : Secrets) (o : EngineOptions) : Prop :=
  match plan.auth with
  | some ⟨account, some _, _⟩ =>
    if plan.engine.operators.isEmpty then
      ∃ seed, secrets.bootstrap = some seed ∧
        o = plan.engine.withAuthUser account (Secrets.userOfSeed seed)
    else o = plan.engine
  | some ⟨_, none, _⟩ => o = plan.engine
  | none => o = plan.engine

theorem Provisioned.Effective.keeps {plan : Provisioned} {s t : Secrets} {o : EngineOptions}
    (h : plan.Effective s o) (ht : s.Keeps t) : plan.Effective t o := by
  unfold Effective at h ⊢
  split at h
  · split at h
    · next hop =>
      obtain ⟨seed, hseed, ho⟩ := h
      rw [if_pos hop]
      exact ⟨seed, ht.bootstrap seed hseed, ho⟩
    · next hop =>
      rw [if_neg hop]
      exact h
  · exact h
  · exact h

namespace World

variable {σ : Type} {w x : World σ}

/-- The engine and the collector are held as a plan has them. -/
structure Serves (w : World σ) (plan : Provisioned) : Prop where
  engine : ∃ e o, plan.Effective w.secrets o ∧ w.HoldsEngine e o
  collector : w.CollectsAs plan.collector

theorem Serves.congr {plan : Provisioned} (h : w.Serves plan) (hx : w.SameServices x)
    (hk : w.secrets.Keeps x.secrets) : x.Serves plan := by
  obtain ⟨e, o, ho, he⟩ := h.engine
  exact ⟨⟨e, o, ho.keeps hk, he.congr hx.engines⟩, h.collector.congr hx.collectors⟩

end World

namespace Server

variable {σ : Type} [Outside σ] {w : World σ}

/-! ## Clients -/

theorem connectResponder_result (s : Server) (url : String)
    (responder : Option (Issuer × EngineUser)) (w : World σ) :
    w.Ensures (s.connectResponder url responder) fun r _ => s.SameButClients r.2 :=
  ((s.connectResponder_tends url responder).ensures w).mono fun _ _ ⟨_, h⟩ => h.2

theorem connectFlows_result (s : Server) (url : String) (flows : List AccountFlow) (w : World σ) :
    w.Ensures (s.connectFlows url flows) fun r _ => s.SameButClients r.2 :=
  ((s.connectFlows_tends url flows).ensures w).mono fun _ _ ⟨_, h⟩ => h.2

/-! ## Engine and collector -/

/-- The engine is to get the options of the plan. -/
theorem prepare_spec (plan : Provisioned) (w : World σ) :
    w.Ensures (prepare plan) fun r x => plan.Effective x.secrets r.2 := by
  rcases plan with ⟨enabled, engine, collector, _ | ⟨account, _ | issuer, policies⟩, flows⟩
  · exact World.ensures_pure rfl
  · exact World.ensures_pure rfl
  by_cases hop : engine.operators.isEmpty = true
  · have hresponder : responder? ⟨enabled, engine, collector, some ⟨account, some issuer, policies⟩,
        flows⟩ = some (issuer, account) := by simp [responder?, hop]
    unfold prepare
    rw [hresponder]
    refine World.ensures_perform (World.ensures_pure ?_)
    simp only [Provisioned.Effective, hop, if_true]
    obtain ⟨seed, hseed, huser⟩ := w.secrets.bootstrapUser_made
    exact ⟨seed, hseed, congrArg _ huser⟩
  · have hresponder : responder? ⟨enabled, engine, collector, some ⟨account, some issuer, policies⟩,
        flows⟩ = none := by simp [responder?, hop]
    unfold prepare
    rw [hresponder]
    refine World.ensures_pure ?_
    simp [Provisioned.Effective, hop]

/-- The collector is as the plan of the latest generation has it. -/
theorem attachCollector_spec {s : Server} (h : w.Settled) (hs : s.IsLatest w)
    (o : Option CollectorOptions) :
    w.Ensures (s.attachCollector o) fun answer x => x.CollectorsSettled ∧
      (answer = .ok () → x.CollectsAs o) := by
  rcases o with _ | o
  · refine (isCurrent_spec s w).bind fun current x ⟨hx, hcurrent⟩ => ?_
    subst hx
    rw [if_pos (hcurrent.2 hs)]
    exact (Supervision.shutdownCollector_spec h.collectors).bind fun _ x ⟨hx, hnone⟩ =>
      World.ensures_pure ⟨hx, fun _ => hnone⟩
  · refine (Supervision.ensureCollector_spec h.collectors o).bind fun answer x hx => ?_
    rcases answer with fault | c
    · exact World.ensures_pure ⟨hx.1, nofun⟩
    · exact World.ensures_pure ⟨hx.1, fun _ => ⟨c, hx.2 c rfl⟩⟩

/-- A server of the latest generation with what its engine is: the state that the steps of
`Server.attach` keep. -/
structure Attaching (s t : Server) (e : Nat) (o : EngineOptions) (w : World σ) : Prop where
  settled : w.Settled
  same : s.SameButClients t
  latest : t.IsLatest w
  engine : w.HoldsEngine e o

/-- What touches clients and secrets at most does not come in the way. -/
theorem Attaching.step {α : Type} {s t : Server} {e : Nat} {o : EngineOptions}
    (h : Attaching s t e o w) {p : Program α} (hp : p.Within [.secrets, .clients, .none]) :
    w.Ensures p fun _ x => ∀ u, t.SameButClients u → Attaching s u e o x := by
  refine ((World.ensures_sameServices hp (by decide) (by decide) w).and
    (World.ensures_generations hp (by decide) w)).mono fun _ x ⟨hsame, hgen⟩ u hu => ?_
  exact ⟨h.settled.congr hsame, h.same.trans hu, (h.latest.congr hgen).same hu.toSameOrigin,
    h.engine.congr hsame.engines⟩

/-- A server that attaches what comes after the engine ends up with the engine and the collector
that it is to have. -/
theorem attach_spec {s : Server} {e : Nat} {o : EngineOptions} (h : Attaching s s e o w)
    (plan : Provisioned) (responder : Option (Issuer × EngineUser)) :
    w.Ensures (s.attach plan e o responder) fun r x => x.Settled ∧ s.SameButClients r.2 ∧
      (r.1 = .ok () → x.HoldsEngine e o ∧ x.CollectsAs plan.collector) := by
  unfold attach
  refine (((Supervision.awaitEngine_spec h.settled.engines e).and
    (World.ensures_collectors (Supervision.awaitEngine_within e) (by decide) w)).and
    (World.ensures_generations (Supervision.awaitEngine_within e) (by decide) w)).bind
    fun answer w₁ ⟨⟨⟨hengines, hready⟩, hcollectors⟩, hgen⟩ => ?_
  have hsettled : w₁.Settled := ⟨hengines, h.settled.collectors.congr hcollectors⟩
  rcases answer with waited | _
  · exact World.ensures_pure ⟨hsettled, .refl s, nofun⟩
  have h₁ : Attaching s s e o w₁ :=
    ⟨hsettled, .refl s, h.latest.congr hgen, h.engine.congr (hready rfl)⟩
  refine (h₁.step ((lookupAll_within e _).mono (by decide))).bind fun answer w₂ h₂ => ?_
  rcases answer with fault | _
  · exact World.ensures_pure ⟨(h₂ s (.refl s)).settled, .refl s, nofun⟩
  refine World.ensures_act (x := w₂) rfl ?_
  refine (((h₂ s (.refl s)).step ((connectResponder_within s _ responder).mono (by decide))).and
    (s.connectResponder_result _ responder w₂)).bind fun ⟨answer, t⟩ w₃ ⟨h₃, ht⟩ => ?_
  rcases answer with error | _
  · exact World.ensures_pure ⟨(h₃ t ht).settled, ht, nofun⟩
  refine (((h₃ t ht).step ((connectFlows_within t _ plan.flows).mono (by decide))).and
    (t.connectFlows_result _ plan.flows w₃)).bind fun ⟨answer, u⟩ w₄ ⟨h₄, hu⟩ => ?_
  obtain ⟨hsettled, hsame, hlatest, hengine⟩ := h₄ u hu
  rcases answer with error | _
  · exact World.ensures_pure ⟨hsettled, hsame, nofun⟩
  refine ((attachCollector_spec hsettled hlatest plan.collector).and
    (World.ensures_engines (attachCollector_within u plan.collector) (by decide) w₄)).bind
    fun answer x ⟨⟨hcollectors, hok⟩, hkept⟩ => ?_
  have hx : x.Settled := ⟨hsettled.engines.congr hkept, hcollectors⟩
  rcases answer with error | _
  · exact World.ensures_pure ⟨hx, hsame, nofun⟩
  · exact World.ensures_pure ⟨hx, hsame, fun _ => ⟨hengine.congr hkept, hok rfl⟩⟩

/-! ## Starting -/

/-- Stopping the server leaves nothing: either it is the latest one, or there is nothing. -/
structure Clears (s : Server) (w : World σ) : Prop where
  settled : w.Settled
  /-- A server that would not take anything down has nothing to take down. -/
  idle : s.state = .stopped ∨ s.state = .unprovisioned → w.Quiet
  /-- A server that would take something down is the latest. -/
  latest : s.state ≠ .stopped → s.state ≠ .unprovisioned → s.IsLatest w

theorem stop_clears {s : Server} (h : s.Clears w) :
    w.Ensures s.stop fun _ x => x.Settled ∧ x.Quiet := by
  refine (stop_spec s h.settled).mono fun _ x ⟨hx, hquiet, hsame⟩ => ⟨hx, ?_⟩
  by_cases hstop : s.state = .stopped
  · exact (h.idle (.inl hstop)).congr (hsame (.inl hstop))
  by_cases hun : s.state = .unprovisioned
  · exact (h.idle (.inr hun)).congr (hsame (.inr (.inl hun)))
  · exact hquiet hstop hun (h.latest hstop hun)

/-- How a start ends: with what the plan has, or with a server that clears. -/
structure Started (s : Server) (plan : Provisioned) (answer : Except ServerError Unit)
    (t : Server) (w : World σ) : Prop where
  settled : w.Settled
  origin : s.SameOrigin t
  /-- A server that is started has what it is to have, and nothing if it is disabled. -/
  ok : answer = .ok () → t.state = .started ∧
    if plan.enabled then w.Serves plan else w.Quiet
  error : ∀ e, answer = .error e → t.Clears w

theorem launch_spec {s : Server} {plan : Provisioned} (h : w.Settled) (hl : s.IsLatest w)
    (hs : s.state = .provisioned true) (he : plan.enabled = true) :
    w.Ensures (s.launch plan) fun r x => Started s plan r.1 r.2 x := by
  unfold launch
  have hprepare := prepare_within plan
  refine ((prepare_spec plan w).and ((World.ensures_sameServices hprepare (by decide) (by decide)
    w).and (World.ensures_generations hprepare (by decide) w))).bind
    fun ⟨responder, o⟩ w₁ ⟨ho, hsame, hgen⟩ => ?_
  have h₁ := h.congr hsame
  have hl₁ := hl.congr hgen
  have hensure := Supervision.ensureEngine_within o
  refine ((Supervision.ensureEngine_spec h₁.engines o).and
    ((World.ensures_collectors hensure (by decide) w₁).and
    ((World.ensures_generations hensure (by decide) w₁).and (w₁.ensures_keeps _)))).bind
    fun answer w₂ ⟨hengine, hkept, hgen, hkeeps⟩ => ?_
  have h₂ : w₂.Settled := ⟨hengine.1, h₁.collectors.congr hkept⟩
  have hl₂ := hl₁.congr hgen
  rcases answer with fault | e
  · refine World.ensures_pure ⟨h₂, .refl s, nofun, fun _ _ => ⟨h₂, ?_, fun _ _ => hl₂⟩⟩
    rintro (hstate | hstate) <;> exact nomatch hs.symm.trans hstate
  have hattaching : Attaching s s e o w₂ := ⟨h₂, .refl s, hl₂, hengine.2 e rfl⟩
  have hattach := attach_within s plan e o responder
  refine ((attach_spec hattaching plan responder).and
    ((World.ensures_generations hattach (by decide) w₂).and (w₂.ensures_keeps _))).bind
    fun ⟨answer, t⟩ w₃ ⟨⟨h₃, ht, hok⟩, hgen, hkeeps'⟩ => ?_
  rcases answer with error | _
  · -- the server stops itself, as the latest one
    have hclears : t.Clears w₃ := by
      refine ⟨h₃, ?_, fun _ _ => (hl₂.congr hgen).same ht.toSameOrigin⟩
      rintro (hstate | hstate) <;> exact nomatch hs.symm.trans (ht.state.symm.trans hstate)
    refine ((stop_clears hclears).and (stop_result t w₃)).bind
      fun u x ⟨⟨hx, hquiet⟩, hstopped, hu⟩ => World.ensures_pure ?_
    refine ⟨hx, ht.toSameOrigin.trans hu, nofun, fun _ _ => ⟨hx, fun _ => hquiet, ?_⟩⟩
    exact fun hne => absurd hstopped hne
  · refine World.ensures_pure ⟨h₃, ht.toSameOrigin.trans ⟨rfl, rfl, rfl⟩, fun _ => ⟨rfl, ?_⟩, nofun⟩
    obtain ⟨hholds, hcollects⟩ := hok rfl
    rw [if_pos he]
    exact ⟨⟨e, o, (ho.keeps hkeeps).keeps hkeeps', hholds⟩, hcollects⟩

/-- A provisioned server of the latest generation starts, or clears. -/
theorem start_spec {s : Server} {plan : Provisioned} (h : w.Settled) (hl : s.IsLatest w)
    (hs : s.state = .provisioned plan.enabled) (hp : s.plan = some plan) :
    w.Ensures s.start fun r x => Started s plan r.1 r.2 x := by
  unfold start
  rw [hs, hp]
  cases he : plan.enabled with
  | true => exact launch_spec h hl (he ▸ hs) he
  | false =>
    refine (isCurrent_spec s w).bind fun current x ⟨hx, hcurrent⟩ => ?_
    subst hx
    rw [if_pos (hcurrent.2 hl)]
    refine (takeDown_spec h).bind fun _ x ⟨hx, hquiet⟩ => World.ensures_pure ?_
    refine ⟨hx, ⟨rfl, rfl, hp.symm⟩, fun _ => ⟨rfl, ?_⟩, nofun⟩
    rw [he]
    exact hquiet

end Server

end CalloutHost
