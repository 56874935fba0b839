import CalloutHost.Proofs.Outcomes
import CalloutHost.Settings.Provision

/-!
# Secrets stay what they are

A secret that was asked for once stays the same (`Secrets.Keeps`). Provisioning fails and makes
nothing, or comes to a plan without the secrets, or makes the key that signs first
(`Settings.provision_cases`). So what settings came to once they come to ever after, and nothing
more is made for them (`Settings.provision_later`). All the ways in which settings come to a plan
are said in `Settings.ComesTo`.
-/

namespace CalloutHost

/-- What was asked for before is the same after. -/
structure Secrets.Keeps (s t : Secrets) : Prop where
  signing : ∀ seed, s.signing = some seed → t.signing = some seed
  bootstrap : ∀ seed, s.bootstrap = some seed → t.bootstrap = some seed

namespace Secrets

theorem Keeps.refl (s : Secrets) : s.Keeps s := ⟨fun _ h => h, fun _ h => h⟩

theorem Keeps.trans {s t u : Secrets} (h : s.Keeps t) (h' : t.Keeps u) : s.Keeps u :=
  ⟨fun seed hs => h'.signing seed (h.signing seed hs),
    fun seed hs => h'.bootstrap seed (h.bootstrap seed hs)⟩

theorem keeps_signingKey (s : Secrets) : s.Keeps s.signingKey.2 := by
  unfold signingKey
  split
  · exact .refl s
  · next h => exact ⟨fun seed hs => absurd (h ▸ hs) (by simp), fun _ hs => hs⟩

theorem pinned_signingKey (s : Secrets) : s.signingKey.2.pinned = s.pinned := by
  unfold signingKey
  split <;> rfl

theorem pinned_bootstrapUser (s : Secrets) : s.bootstrapUser.2.pinned = s.pinned := by
  unfold bootstrapUser
  split <;> rfl

theorem keeps_bootstrapUser (s : Secrets) : s.Keeps s.bootstrapUser.2 := by
  unfold bootstrapUser
  split
  · exact .refl s
  · next h => exact ⟨fun _ hs => hs, fun seed hs => absurd (h ▸ hs) (by simp)⟩

theorem keeps_pinnedToken (s : Secrets) (account : String) : s.Keeps (s.pinnedToken account).2 :=
  ⟨fun _ hs => hs, fun _ hs => hs⟩

/-- The key that was asked for is given again, and nothing is made. -/
theorem signingKey_again {s t : Secrets} (h : s.signingKey.2.Keeps t) :
    t.signingKey = (s.signingKey.1, t) := by
  cases hs : s.signing with
  | some seed =>
    have ht : t.signing = some seed := h.signing seed (by simp [signingKey, hs])
    simp [signingKey, hs, ht]
  | none =>
    have ht : t.signing = some s.supply.head := h.signing _ (by simp [signingKey, hs])
    simp [signingKey, hs, ht]

/-- The user that was asked for is given again, and nothing is made. -/
theorem bootstrapUser_again {s t : Secrets} (h : s.bootstrapUser.2.Keeps t) :
    t.bootstrapUser = (s.bootstrapUser.1, t) := by
  cases hs : s.bootstrap with
  | some seed =>
    have ht : t.bootstrap = some seed := h.bootstrap seed (by simp [bootstrapUser, hs])
    simp [bootstrapUser, hs, ht]
  | none =>
    have ht : t.bootstrap = some s.supply.head := h.bootstrap _ (by simp [bootstrapUser, hs])
    simp [bootstrapUser, hs, ht]

/-- The user that is given was made. -/
theorem bootstrapUser_made (s : Secrets) :
    ∃ seed, s.bootstrapUser.2.bootstrap = some seed ∧ s.bootstrapUser.1 = userOfSeed seed := by
  unfold bootstrapUser
  split
  · next seed h => exact ⟨seed, h, rfl⟩
  · exact ⟨_, rfl, rfl⟩

end Secrets

namespace Settings

theorem making_bind {α β : Type} (x : Making α) (f : α → Making β) (secrets : Secrets) :
    (x >>= f) secrets =
      match x secrets with
      | (.ok a, t) => f a t
      | (.error fault, t) => (.error fault, t) := by
  change ExceptT.bindCont f (x secrets).1 (x secrets).2 = _
  rcases x secrets with ⟨fault | a, t⟩ <;> rfl

/-- Who signs does not depend on the secrets, but for the key that is made. -/
theorem signers_cases (c : CalloutSettings) :
    (∃ fault, ∀ secrets, signers c secrets = (.error fault, secrets)) ∨
    (∃ keys issuer, ∀ secrets, signers c secrets = (.ok (keys, issuer), secrets)) ∨
    (∀ secrets : Secrets, signers c secrets = (.ok (some (.ofKey secrets.signingKey.1),
      (KeyResolver.ofKey secrets.signingKey.1).issuer), secrets.signingKey.2)) := by
  unfold signers
  rcases c.signingKey.mapM readSigningKey with fault | key
  · exact .inl ⟨fault, fun _ => rfl⟩
  rcases key with _ | key <;> rcases c.keyStore with _ | store <;> rcases c.issuer with _ | issuer
  · exact .inr (.inr fun _ => rfl)
  · exact .inr (.inl ⟨_, _, fun _ => rfl⟩)
  · exact .inr (.inl ⟨_, _, fun _ => rfl⟩)
  · exact .inr (.inl ⟨_, _, fun _ => rfl⟩)
  · exact .inr (.inl ⟨_, _, fun _ => rfl⟩)
  · exact .inr (.inl ⟨_, _, fun _ => rfl⟩)
  · exact .inl ⟨_, fun _ => rfl⟩
  · exact .inl ⟨_, fun _ => rfl⟩

/-- The plan of settings with a callout. -/
def calloutPlan (s : Settings) (collector : Option CollectorOptions) (c : CalloutSettings)
    (account : String) (keys : Option KeyResolver) (issuer : String) : Provisioned where
  enabled := !s.disabled
  engine := addCallout s.engineOptions c account issuer
  collector
  auth := some ⟨account, keys.map (issuerOf c s.policies), s.policies⟩
  flows := s.flows

theorem plan_of_callout {s : Settings} {collector : Option CollectorOptions} {c : CalloutSettings}
    {account : String} (hv : s.validate = .ok ()) (ho : s.collectorOptions = .ok collector)
    (hc : s.callout = some c) (ha : s.authAccount = some account) (secrets : Secrets) :
    s.plan secrets = ((signers c secrets).1.map fun (keys, issuer) =>
      s.calloutPlan collector c account keys issuer, (signers c secrets).2) := by
  rw [plan, hv, ho, hc, ha]
  change (signers c >>= _ : Making Provisioned) secrets = _
  rw [making_bind]
  rcases signers c secrets with ⟨fault | ⟨keys, issuer⟩, t⟩ <;> rfl

/-- Provisioning fails whatever the secrets are, or needs no secret, or needs the key that is
made. -/
theorem plan_cases (s : Settings) :
    (∃ fault, ∀ secrets, s.plan secrets = (.error fault, secrets)) ∨
    (∃ plan, ∀ secrets, s.plan secrets = (.ok plan, secrets)) ∨
    (∃ plan : Nkey.KeyPair → Provisioned, ∀ secrets : Secrets,
      s.plan secrets = (.ok (plan secrets.signingKey.1), secrets.signingKey.2)) := by
  rcases hv : s.validate with fault | _
  · exact .inl ⟨fault, fun _ => by rw [plan, hv]; rfl⟩
  rcases ho : s.collectorOptions with fault | collector
  · exact .inl ⟨fault, fun _ => by rw [plan, hv, ho]; rfl⟩
  rcases hc : s.callout with _ | c
  · exact .inr (.inl ⟨_, fun _ => by rw [plan, hv, ho, hc]; rfl⟩)
  rcases ha : s.authAccount with _ | account
  · exact .inr (.inl ⟨_, fun _ => by rw [plan, hv, ho, hc, ha]; rfl⟩)
  rcases signers_cases c with ⟨fault, h⟩ | ⟨keys, issuer, h⟩ | h
  · exact .inl ⟨fault, fun secrets => by rw [plan_of_callout hv ho hc ha, h]; rfl⟩
  · exact .inr (.inl ⟨_, fun secrets => by rw [plan_of_callout hv ho hc ha, h]; rfl⟩)
  · exact .inr (.inr ⟨fun key => s.calloutPlan collector c account (some (.ofKey key))
      (KeyResolver.ofKey key).issuer, fun secrets => by rw [plan_of_callout hv ho hc ha, h]; rfl⟩)

/-- All that provisioning can come to, and what it does to the secrets. -/
theorem provision_cases (s : Settings) :
    (∃ fault, ∀ secrets, s.provision secrets = (.error (.invalid fault), secrets)) ∨
    (∃ plan, ∀ secrets, s.provision secrets = (.ok plan, secrets)) ∨
    (∃ plan : Nkey.KeyPair → Provisioned, ∀ secrets : Secrets,
      s.provision secrets = (.ok (plan secrets.signingKey.1), secrets.signingKey.2)) := by
  rcases s.plan_cases with ⟨fault, h⟩ | ⟨plan, h⟩ | ⟨plan, h⟩
  · exact .inl ⟨fault, fun secrets => by rw [provision, h]; rfl⟩
  · exact .inr (.inl ⟨plan, fun secrets => by rw [provision, h]; rfl⟩)
  · exact .inr (.inr ⟨plan, fun secrets => by rw [provision, h]; rfl⟩)

theorem keeps_provision (s : Settings) (secrets : Secrets) :
    secrets.Keeps (s.provision secrets).2 := by
  rcases s.provision_cases with ⟨fault, h⟩ | ⟨plan, h⟩ | ⟨plan, h⟩
  · rw [h]
    exact .refl secrets
  · rw [h]
    exact .refl secrets
  · rw [h]
    exact secrets.keeps_signingKey

/-- Provisioning binds no token. -/
theorem pinned_provision (s : Settings) (secrets : Secrets) :
    (s.provision secrets).2.pinned = secrets.pinned := by
  rcases s.provision_cases with ⟨fault, h⟩ | ⟨plan, h⟩ | ⟨plan, h⟩
  · rw [h]
  · rw [h]
  · rw [h]
    exact secrets.pinned_signingKey

/-- What settings came to once they come to ever after, failures included, and nothing is made. -/
theorem provision_later {s : Settings} {secrets t : Secrets}
    (h : (s.provision secrets).2.Keeps t) : s.provision t = ((s.provision secrets).1, t) := by
  rcases s.provision_cases with ⟨fault, hp⟩ | ⟨plan, hp⟩ | ⟨plan, hp⟩
  · rw [hp, hp]
  · rw [hp, hp]
  · rw [hp] at h
    rw [hp, hp, Secrets.signingKey_again h]

/-- Settings that were provisioned are provisioned to the same ever after, and nothing is made. -/
theorem provision_again {s : Settings} {secrets t : Secrets} {plan : Provisioned}
    (h : (s.provision secrets).1 = .ok plan) (ht : (s.provision secrets).2.Keeps t) :
    s.provision t = (.ok plan, t) := by
  rw [provision_later ht, h]

theorem plan_of_provision {s : Settings} {secrets t : Secrets} {plan : Provisioned}
    (h : s.provision secrets = (.ok plan, t)) : s.plan secrets = (.ok plan, t) := by
  rw [provision] at h
  rcases hplan : s.plan secrets with ⟨outcome, u⟩
  rw [hplan] at h
  obtain ⟨houtcome, rfl⟩ := Prod.mk.inj h
  rw [mapError_eq_ok_iff.1 houtcome]

/-- The plan of settings without a callout. -/
def barePlan (s : Settings) (collector : Option CollectorOptions) : Provisioned where
  enabled := !s.disabled
  engine := s.engineOptions
  collector
  auth := none
  flows := s.flows

theorem plan_of_bare {s : Settings} {collector : Option CollectorOptions} {secrets : Secrets}
    (hv : s.validate = .ok ()) (ho : s.collectorOptions = .ok collector) (hc : s.callout = none) :
    s.plan secrets = (.ok (s.barePlan collector), secrets) := by
  rw [plan, hv, ho, hc]
  rfl

/-- All the ways to come to a plan, and what it does to the secrets. -/
inductive ComesTo (s : Settings) (secrets : Secrets) : Provisioned → Secrets → Prop
  /-- Nobody is asked about connections, and no secret is needed. -/
  | bare {collector : Option CollectorOptions} (valid : s.validate = .ok ())
      (collects : s.collectorOptions = .ok collector) (uncalled : s.callout = none) :
      ComesTo s secrets (s.barePlan collector) secrets
  | called {collector : Option CollectorOptions} {c : CalloutSettings} {account : String}
      {keys : Option KeyResolver} {trusted : String} {t : Secrets} (valid : s.validate = .ok ())
      (collects : s.collectorOptions = .ok collector) (called : s.callout = some c)
      (answers : s.authAccount = some account)
      (signs : signers c secrets = (.ok (keys, trusted), t)) :
      ComesTo s secrets (s.calloutPlan collector c account keys trusted) t

/-- Where there is a callout, there is an account that answers. -/
theorem exists_authAccount {s : Settings} {c : CalloutSettings} (h : s.callout = some c) :
    ∃ account, s.authAccount = some account := by
  rw [authAccount, h, Option.bind_eq_bind, Option.bind_some]
  split <;> exact ⟨_, rfl⟩

theorem provision_eq_ok_iff {s : Settings} {secrets t : Secrets} {plan : Provisioned} :
    s.provision secrets = (.ok plan, t) ↔ s.ComesTo secrets plan t := by
  constructor
  · intro h
    have hplan := plan_of_provision h
    rcases hv : s.validate with fault | _
    · rw [Settings.plan, hv] at hplan
      cases hplan
    rcases ho : s.collectorOptions with fault | collector
    · rw [Settings.plan, hv, ho] at hplan
      cases hplan
    rcases hc : s.callout with _ | c
    · rw [plan_of_bare hv ho hc] at hplan
      cases hplan
      exact .bare hv ho hc
    obtain ⟨account, ha⟩ := exists_authAccount hc
    rw [plan_of_callout hv ho hc ha] at hplan
    rcases hs : signers c secrets with ⟨fault | ⟨keys, trusted⟩, u⟩
    · rw [hs] at hplan
      cases hplan
    · rw [hs] at hplan
      cases hplan
      exact .called hv ho hc ha hs
  · intro h
    cases h with
    | bare hv ho hc => rw [provision, plan_of_bare hv ho hc]; rfl
    | called hv ho hc ha hs => rw [provision, plan_of_callout hv ho hc ha, hs]; rfl

/-- A plan that has somebody answer is the plan of valid settings with a callout. -/
theorem calloutPlan_of_provision {s : Settings} {secrets t : Secrets} {plan : Provisioned}
    {auth : AuthPlan} (h : s.provision secrets = (.ok plan, t)) (hauth : plan.auth = some auth) :
    ∃ collector c account keys trusted, s.validate = .ok () ∧ s.callout = some c ∧
      signers c secrets = (.ok (keys, trusted), t) ∧
        plan = s.calloutPlan collector c account keys trusted := by
  cases provision_eq_ok_iff.1 h with
  | bare => cases hauth
  | called hv ho hc ha hs => exact ⟨_, _, _, _, _, hv, hc, hs, rfl⟩

theorem checkAuthorization_of_validate {s : Settings} (h : s.validate = .ok ()) :
    s.checkAuthorization = .ok () := by
  unfold validate at h
  obtain ⟨_, -, h⟩ := bind_eq_ok_iff.1 h
  obtain ⟨-, h⟩ := check_eq_ok_iff.1 h
  obtain ⟨_, ha, -⟩ := bind_eq_ok_iff.1 h
  exact ha

/-- Where somebody answers for clients, the engine is told of no token and of no users for them. -/
theorem authorization_of_provision {s : Settings} {secrets t : Secrets} {plan : Provisioned}
    {auth : AuthPlan} (h : s.provision secrets = (.ok plan, t)) (hauth : plan.auth = some auth) :
    ∃ callout, plan.engine.authorization =
      some { EngineAuthorization.empty with callout := some callout } := by
  obtain ⟨collector, c, account, keys, trusted, hv, hc, -, rfl⟩ := calloutPlan_of_provision h hauth
  have hnone : s.engineOptions.authorization = none := by
    have hcheck := checkAuthorization_of_validate hv
    rw [checkAuthorization, hc] at hcheck
    rcases ha : s.authorization with _ | a
    · rw [engineOptions, ha]
      rfl
    · rw [ha] at hcheck
      cases hcheck
  refine ⟨⟨trusted, c.users, account, c.curveKey⟩, ?_⟩
  rw [calloutPlan, addCallout, hnone]
  rfl

/-- What a plan has of its settings, whatever the secrets are. -/
theorem of_provision {s : Settings} {secrets t : Secrets} {plan : Provisioned}
    (h : s.provision secrets = (.ok plan, t)) :
    plan.enabled = !s.disabled ∧ s.collectorOptions = .ok plan.collector := by
  cases provision_eq_ok_iff.1 h with
  | bare hv ho hc => exact ⟨rfl, ho⟩
  | called hv ho hc ha hs => exact ⟨rfl, ho⟩

/-- A collector is planned exactly if metrics are configured. -/
theorem collector_of_provision {s : Settings} {secrets t : Secrets} {plan : Provisioned}
    (h : s.provision secrets = (.ok plan, t)) : plan.collector.isSome = s.metrics.isSome := by
  have hcollector := (of_provision h).2
  unfold collectorOptions at hcollector
  split at hcollector
  · next hm => rw [hm, ← Except.ok.inj hcollector]; rfl
  · next m hm =>
    split at hcollector
    · exact nomatch hcollector
    · split at hcollector
      · exact nomatch hcollector
      · rw [hm, ← Except.ok.inj hcollector]
        rfl

end Settings

end CalloutHost
