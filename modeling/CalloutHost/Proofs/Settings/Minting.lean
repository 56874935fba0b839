import CalloutHost.Proofs.Settings.KeyModes
import CalloutHost.Settings.Provision

/-!
# Secrets are made once

Only settings that are provisioned with a callout in the mode `KeyMode.made` need the key that signs
(`Settings.NeedsKey`), so a call that fails makes nothing. What settings came to once they come to
ever after, failures included (`Settings.provision_later`).

`Secrets.Served` says all that one call does to the secrets: nothing, or it draws one seed and makes
of it what was not there yet (`Secrets.served`). So each kind is made at most once in a run, and a
seed is drawn for nothing else (`Secrets.count_madeBy_le`, `Secrets.supply_serveAll`).
`Secrets.made_once` puts this together for a run of any length.
-/

namespace CalloutHost

namespace Settings

variable {s : Settings} {x y : Secrets}

/-! ## What provisioning does to the secrets -/

/-- Settings are provisioned with a callout that says nothing about its keys. -/
def NeedsKey (s : Settings) (x : Secrets) : Prop :=
  ∃ plan t c, s.provision x = (.ok plan, t) ∧ s.callout = some c ∧ KeyMode.made.Fits c

theorem provision_error {e : ConfigError} (h : (s.provision x).1 = .error e) :
    (s.provision x).2 = x := by
  rcases s.provision_cases with ⟨fault, hp⟩ | ⟨plan, hp⟩ | ⟨plan, hp⟩
  · rw [hp]
  · rw [hp] at h
    cases h
  · rw [hp] at h
    cases h

theorem provision_of_needsKey (h : s.NeedsKey x) : (s.provision x).2 = x.signingKey.2 := by
  obtain ⟨plan, t, c, hplan, hc, hmode⟩ := h
  rw [hplan]
  cases provision_eq_ok_iff.1 hplan with
  | bare _ _ hnone => exact nomatch hnone.symm.trans hc
  | called _ _ hc' _ hs =>
    obtain rfl := Option.some.inj (hc.symm.trans hc')
    rcases signers_cases_of_fits hmode x with ⟨_, _, _, hs', hgives⟩ | ⟨_, _, _, _, hs'⟩
    · obtain ⟨⟩ := hs.symm.trans hs'
      cases hgives
      rfl
    · exact nomatch hs.symm.trans hs'

theorem provision_of_not_needsKey (h : ¬s.NeedsKey x) : (s.provision x).2 = x := by
  rcases hplan : s.provision x with ⟨fault | plan, t⟩
  · have hfault : (s.provision x).1 = .error fault := by rw [hplan]
    rw [← provision_error hfault, hplan]
  · cases provision_eq_ok_iff.1 hplan with
    | bare => rfl
    | called hv _ hc _ hs =>
      obtain ⟨mode, hmode, -⟩ := exists_mode_of_validate hv hc
      rcases signers_cases_of_fits hmode x with ⟨_, _, _, hs', hgives⟩ | ⟨_, _, _, _, hs'⟩
      · obtain ⟨⟩ := hs.symm.trans hs'
        cases hgives with
        | made => exact absurd ⟨_, _, _, hplan, hc, hmode⟩ h
        | configured => rfl
        | stored => rfl
        | elsewhere => rfl
      · exact nomatch hs.symm.trans hs'

/-- Whether something is to run decides nothing else. -/
theorem plan_disabled (s : Settings) (d : Bool) (x : Secrets) :
    ({ s with disabled := d } : Settings).plan x =
      ((s.plan x).1.map fun plan => { plan with enabled := !d }, (s.plan x).2) := by
  let other : Settings := { s with disabled := d }
  have hv : other.validate = s.validate := rfl
  have ho : other.collectorOptions = s.collectorOptions := rfl
  change other.plan x = _
  rcases hvalid : s.validate with fault | _
  · rw [plan, plan, hv, hvalid]
    rfl
  rcases hcollects : s.collectorOptions with fault | collector
  · rw [plan, plan, hv, hvalid, ho, hcollects]
    rfl
  rcases Option.eq_none_or_eq_some s.callout with hc | ⟨c, hc⟩
  · rw [plan_of_bare hvalid hcollects hc, plan_of_bare (s := other) (hv.trans hvalid)
      (ho.trans hcollects) hc]
    rfl
  · obtain ⟨account, ha⟩ := exists_authAccount hc
    rw [plan_of_callout hvalid hcollects hc ha, plan_of_callout (s := other) (hv.trans hvalid)
      (ho.trans hcollects) hc ha]
    rcases signers c x with ⟨fault | ⟨keys, trusted⟩, t⟩ <;> rfl

theorem provision_disabled (s : Settings) (d : Bool) (x : Secrets) :
    ({ s with disabled := d } : Settings).provision x =
      ((s.provision x).1.map fun plan => { plan with enabled := !d }, (s.provision x).2) := by
  rw [provision, provision, plan_disabled]
  rcases s.plan x with ⟨fault | plan, t⟩ <;> rfl

end Settings

namespace Secrets

variable {x y : Secrets} {c : SecretCall} {kinds : List SecretKind}

/-! ## What a call makes -/

/-- All that a call can do to the secrets. -/
inductive Served (x : Secrets) : SecretCall → List SecretKind → Secrets → Prop
  | idle (c : SecretCall) : Served x c [] x
  | signing {s : Settings} (needs : s.NeedsKey x) (first : x.signing = none) :
      Served x (.provision s) [.signing]
        { x with signing := some x.supply.head, supply := x.supply.tail }
  | bootstrap (first : x.bootstrap = none) : Served x .bootstrapUser [.bootstrap]
      { x with bootstrap := some x.supply.head, supply := x.supply.tail }

theorem served_of_idle (h : x.serve c = x) : x.Served c (x.made c) (x.serve c) := by
  have hmade : x.made c = [] := by
    rw [made, h]
    simp
  rw [hmade, h]
  exact .idle c

theorem made_of_needsKey {s : Settings} (needs : s.NeedsKey x) (first : x.signing = none) :
    x.made (.provision s) = [.signing] ∧ x.serve (.provision s) =
      { x with signing := some x.supply.head, supply := x.supply.tail } := by
  have hserve : x.serve (.provision s) =
      { x with signing := some x.supply.head, supply := x.supply.tail } := by
    rw [serve, Settings.provision_of_needsKey needs, signingKey, first]
  refine ⟨?_, hserve⟩
  rw [made, hserve]
  simp [seed?, first]

theorem made_bootstrapUser (first : x.bootstrap = none) :
    x.made .bootstrapUser = [.bootstrap] ∧ x.serve .bootstrapUser =
      { x with bootstrap := some x.supply.head, supply := x.supply.tail } := by
  have hserve : x.serve .bootstrapUser =
      { x with bootstrap := some x.supply.head, supply := x.supply.tail } := by
    rw [serve, bootstrapUser, first]
  refine ⟨?_, hserve⟩
  rw [made, hserve]
  simp [seed?, first]

theorem served (x : Secrets) (c : SecretCall) : x.Served c (x.made c) (x.serve c) := by
  cases c with
  | provision s =>
    by_cases needs : s.NeedsKey x
    · rcases hx : x.signing with _ | seed
      · obtain ⟨hmade, hserve⟩ := made_of_needsKey needs hx
        rw [hmade, hserve]
        exact .signing needs hx
      · refine served_of_idle ?_
        rw [serve, Settings.provision_of_needsKey needs, signingKey, hx]
    · exact served_of_idle (Settings.provision_of_not_needsKey needs)
  | bootstrapUser =>
    rcases hx : x.bootstrap with _ | seed
    · obtain ⟨hmade, hserve⟩ := made_bootstrapUser hx
      rw [hmade, hserve]
      exact .bootstrap hx
    · refine served_of_idle ?_
      rw [serve, bootstrapUser, hx]

/-- The key that signs is made by settings that need it, if it was not made before. -/
theorem signing_mem_made_iff :
    .signing ∈ x.made c ↔ x.signing = none ∧ ∃ s, c = .provision s ∧ s.NeedsKey x := by
  constructor
  · have hserved := x.served c
    generalize x.made c = kinds, x.serve c = y at hserved ⊢
    intro h
    cases hserved with
    | idle => cases h
    | @signing s needs first => exact ⟨first, s, rfl, needs⟩
    | bootstrap => cases List.mem_singleton.1 h
  · rintro ⟨first, s, rfl, needs⟩
    rw [(made_of_needsKey needs first).1]
    exact List.mem_singleton_self _

/-- The responder's user is made when it is first asked for. -/
theorem bootstrap_mem_made_iff :
    .bootstrap ∈ x.made c ↔ x.bootstrap = none ∧ c = .bootstrapUser := by
  constructor
  · have hserved := x.served c
    generalize x.made c = kinds, x.serve c = y at hserved ⊢
    intro h
    cases hserved with
    | idle => cases h
    | signing => cases List.mem_singleton.1 h
    | bootstrap first => exact ⟨first, rfl⟩
  · rintro ⟨first, rfl⟩
    rw [(made_bootstrapUser first).1]
    exact List.mem_singleton_self _

theorem Served.supply_eq (h : x.Served c kinds y) :
    y.supply = { x.supply with drawn := x.supply.drawn + kinds.length } := by
  cases h <;> rfl

/-- What was made before is not made again. -/
theorem Served.count_add_le (h : x.Served c kinds y) (kind : SecretKind) :
    kinds.count kind + (if (y.seed? kind).isSome then 0 else 1) ≤
      if (x.seed? kind).isSome then 0 else 1 := by
  cases h with
  | idle => simp
  | signing needs first =>
    cases kind with
    | signing => simp [seed?, first]
    | bootstrap => exact (Nat.zero_add _).le
  | bootstrap first =>
    cases kind with
    | signing => exact (Nat.zero_add _).le
    | bootstrap => simp [seed?, first]

theorem keeps_serve (x : Secrets) (c : SecretCall) : x.Keeps (x.serve c) := by
  cases c with
  | provision s => exact s.keeps_provision x
  | bootstrapUser => exact x.keeps_bootstrapUser

/-! ## What calls make -/

theorem serveAll_cons (x : Secrets) (c : SecretCall) (calls : List SecretCall) :
    x.serveAll (c :: calls) = (x.serve c).serveAll calls := rfl

theorem keeps_serveAll (x : Secrets) (calls : List SecretCall) : x.Keeps (x.serveAll calls) := by
  induction calls generalizing x with
  | nil => exact .refl x
  | cons c calls ih => exact (x.keeps_serve c).trans (ih (x.serve c))

/-- A seed is drawn for each secret that is made, and for nothing else. -/
theorem supply_serveAll (x : Secrets) (calls : List SecretCall) : (x.serveAll calls).supply =
    { x.supply with drawn := x.supply.drawn + (x.madeBy calls).length } := by
  induction calls generalizing x with
  | nil => rfl
  | cons c calls ih =>
    rw [serveAll_cons, ih, (x.served c).supply_eq, madeBy, List.length_append, Nat.add_assoc]

/-- A secret is made once, or not at all if it was made before. -/
theorem count_madeBy_le (x : Secrets) (calls : List SecretCall) (kind : SecretKind) :
    (x.madeBy calls).count kind ≤ if (x.seed? kind).isSome then 0 else 1 := by
  induction calls generalizing x with
  | nil => exact Nat.zero_le _
  | cons c calls ih =>
    calc (x.madeBy (c :: calls)).count kind
      _ = (x.made c).count kind + ((x.serve c).madeBy calls).count kind := List.count_append
      _ ≤ (x.made c).count kind + (if ((x.serve c).seed? kind).isSome then 0 else 1) :=
        Nat.add_le_add_left (ih (x.serve c)) _
      _ ≤ _ := (x.served c).count_add_le kind

/-- Whatever is called for, and in whatever order, each secret is made at most once, and a seed is
drawn for nothing else. The key that signs is made only when settings are provisioned with a callout
that says nothing about its keys; a call that fails leaves all as it is, and no settings bind a
token. Settings come to the same at any two moments, and whether something is to run changes nothing
else that they come to. -/
theorem made_once (x : Secrets) (before : List SecretCall) :
    ((∀ kind, (x.madeBy before).count kind ≤ 1) ∧ (x.serveAll before).supply =
      { x.supply with drawn := x.supply.drawn + (x.madeBy before).length }) ∧
    let y := x.serveAll before
    (∀ c, .signing ∈ y.made c ↔ y.signing = none ∧ ∃ s plan callout,
      c = .provision s ∧ (s.provision y).1 = .ok plan ∧ s.callout = some callout ∧
      callout.signingKey = none ∧ callout.keyStore = none ∧ callout.issuer = none) ∧
    (∀ c, .bootstrap ∈ y.made c ↔ y.bootstrap = none ∧ c = .bootstrapUser) ∧
    ∀ s : Settings,
      (∀ cause, (s.provision y).1 = .error cause → (s.provision y).2 = y) ∧
      (s.provision y).2.pinned = y.pinned ∧
      (∀ between, let z := (s.provision y).2.serveAll between
        s.provision z = ((s.provision y).1, z)) ∧
      ∀ d, ({ s with disabled := d } : Settings).provision y =
        ((s.provision y).1.map fun plan => { plan with enabled := !d }, (s.provision y).2) := by
  refine ⟨⟨fun kind => ?_, x.supply_serveAll before⟩, fun c => ?_, fun c => bootstrap_mem_made_iff,
    fun s => ⟨fun cause => Settings.provision_error, s.pinned_provision _, fun between => ?_,
      fun d => s.provision_disabled d _⟩⟩
  · refine (x.count_madeBy_le before kind).trans ?_
    split <;> decide
  · rw [signing_mem_made_iff]
    refine and_congr_right fun _ => ⟨?_, ?_⟩
    · rintro ⟨s, rfl, plan, t, callout, hplan, hc, hmode⟩
      exact ⟨s, plan, callout, rfl, by rw [hplan], hc, hmode⟩
    · rintro ⟨s, plan, callout, rfl, hplan, hc, hmode⟩
      exact ⟨s, rfl, plan, _, callout, Prod.ext hplan rfl, hc, hmode⟩
  · exact Settings.provision_later (keeps_serveAll _ between)

/-- Settings that do not hold make nothing. The next ones make the key that signs, and the responder
its user. Provisioned again, the settings come to what they came to at first, and nothing more is
made. -/
theorem made_once_reload :
    let x : Secrets := .new ⟨fun n => List.replicate 32 (.ofNat n), 0⟩
    let s : Settings := { Settings.empty with callout := some CalloutSettings.record.initial }
    let refused : Settings := { s with accounts := some [] }
    let y := x.serveAll [.provision refused, .provision s, .bootstrapUser]
    (∃ cause, (refused.provision x).1 = .error cause) ∧ (refused.provision x).2 = x ∧
    x.madeBy [.provision refused, .provision s, .bootstrapUser] = [.signing, .bootstrap] ∧
    y.supply.drawn = 2 ∧ (∃ plan, (s.provision x).1 = .ok plan) ∧
    s.provision y = ((s.provision x).1, y) := by
  intro x s refused y
  obtain ⟨-, -, -, hrefused⟩ := made_once x []
  have hkept : (refused.provision x).2 = x := (hrefused refused).1 _ rfl
  have hmade : x.madeBy [.provision refused, .provision s, .bootstrapUser] =
      [.signing, .bootstrap] := rfl
  obtain ⟨⟨-, hsupply⟩, -⟩ := made_once x [.provision refused, .provision s, .bootstrapUser]
  have hdrawn : y.supply.drawn = 2 := by
    rw [hsupply, hmade]
    rfl
  obtain ⟨-, -, -, hlater⟩ := made_once x [.provision refused]
  exact ⟨⟨_, rfl⟩, hkept, hmade, hdrawn, ⟨_, rfl⟩, (hlater s).2.2.1 [.bootstrapUser]⟩

end Secrets

end CalloutHost
