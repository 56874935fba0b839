import CalloutHost.Proofs.Keys.Pairs
import CalloutHost.Proofs.Settings.TrustedKeys

/-!
# Where the keys of a callout come from

What a callout says of its keys comes in four modes (`KeyMode`), and valid settings are in exactly
one of them: of the eight ways to give or leave out a signing key, a store and an issuer, the checks
leave these four. The mode decides who signs and whom the engine trusts (`KeyMode.Gives`), so two
precautions of `Settings.signers` are never needed: the refusal of a key beside a store, and the
issuer that stands in where there is none. `Settings.provisions_iff` puts this together with the
exact conditions under which settings are provisioned.
-/

namespace CalloutHost

/-- How a callout comes by its keys. -/
inductive KeyMode
  /-- Nothing is said, and the process makes a key. -/
  | made
  | configured
  | stored
  /-- Somebody else answers, and only the issuer is named. -/
  | elsewhere
  deriving DecidableEq, Repr

namespace KeyMode

/-- What the settings of a callout in a mode give. -/
def Fits (c : CalloutSettings) : KeyMode → Prop
  | .made => c.signingKey = none ∧ c.keyStore = none ∧ c.issuer = none
  | .configured => c.signingKey.isSome ∧ c.keyStore = none ∧ c.issuer = none
  | .stored => c.signingKey = none ∧ c.keyStore.isSome ∧ c.issuer.isSome
  | .elsewhere => c.signingKey = none ∧ c.keyStore = none ∧ c.issuer.isSome

end KeyMode

/-- A text is the seed of an account's key. -/
def Nkey.KeyPair.IsAccountSeed (key : Nkey.KeyPair) (text : String) : Prop :=
  ofSeedText text = .ok key ∧ key.kind = .account

/-- What a callout in a mode comes to: who signs here, whom the engine trusts, and the secrets after
it was asked for. -/
inductive KeyMode.Gives (c : CalloutSettings) (secrets : Secrets) :
    KeyMode → Option KeyResolver → String → Secrets → Prop
  | made : Gives c secrets .made
      (some ⟨some (.fixed secrets.signingKey.1), secrets.signingKey.1.publicText⟩)
      secrets.signingKey.1.publicText secrets.signingKey.2
  | configured {text : String} {key : Nkey.KeyPair} (given : c.signingKey = some text)
      (reads : key.IsAccountSeed text) : Gives c secrets .configured
      (some ⟨some (.fixed key), key.publicText⟩) key.publicText secrets
  /-- The store is asked for the keys, and the issuer is trusted as it is named. -/
  | stored {store : KeyStoreSettings} {name : String} (given : c.keyStore = some store)
      (named : c.issuer = some name) : Gives c secrets .stored
      (some ⟨some (.store store.build), name⟩) name secrets
  | elsewhere {name : String} (named : c.issuer = some name) :
      Gives c secrets .elsewhere none name secrets

namespace Settings

variable {s : Settings} {c : CalloutSettings} {secrets t : Secrets}

/-! ## Modes -/

theorem readSigningKey_eq_ok_iff {text : String} {key : Nkey.KeyPair} :
    readSigningKey text = .ok key ↔ key.IsAccountSeed text := by
  unfold readSigningKey
  rw [bind_eq_ok_iff]
  constructor
  · rintro ⟨found, hfound, h⟩
    obtain ⟨hkind, ⟨⟩⟩ := check_eq_ok_iff.1 h
    rw [ne_eq, not_not, Nkey.KeyPair.head?_publicText_eq_account] at hkind
    exact ⟨mapError_eq_ok_iff.1 hfound, hkind⟩
  · rintro ⟨hread, hkind⟩
    refine ⟨key, mapError_eq_ok_iff.2 hread, check_eq_ok_iff.2 ⟨?_, rfl⟩⟩
    rw [ne_eq, not_not, Nkey.KeyPair.head?_publicText_eq_account]
    exact hkind

/-- A callout that passes its check is in exactly one mode. -/
theorem exists_mode (hkey : ¬(c.signingKey.isSome ∧ c.issuer.isSome))
    (hstore : ¬(c.keyStore.isSome ∧ c.issuer.isNone)) :
    ∃ mode : KeyMode, mode.Fits c ∧ ∀ other : KeyMode, other.Fits c → other = mode := by
  obtain ⟨account, issuer, signingKey, keyStore, users, queueGroup, curveKey⟩ := c
  rcases signingKey with _ | text <;> rcases keyStore with _ | store <;> rcases issuer with _ | name
  · exact ⟨.made, ⟨rfl, rfl, rfl⟩, by rintro (_ | _) <;> simp [KeyMode.Fits]⟩
  · exact ⟨.elsewhere, ⟨rfl, rfl, rfl⟩, by rintro (_ | _) <;> simp [KeyMode.Fits]⟩
  · exact absurd ⟨rfl, rfl⟩ hstore
  · exact ⟨.stored, ⟨rfl, rfl, rfl⟩, by rintro (_ | _) <;> simp [KeyMode.Fits]⟩
  · exact ⟨.configured, ⟨rfl, rfl, rfl⟩, by rintro (_ | _) <;> simp [KeyMode.Fits]⟩
  · exact absurd ⟨rfl, rfl⟩ hkey
  · exact absurd ⟨rfl, rfl⟩ hstore
  · exact absurd ⟨rfl, rfl⟩ hkey

/-- A callout in a mode comes to what the mode gives, unless its key is no account's seed. -/
theorem signers_cases_of_fits {mode : KeyMode} (h : mode.Fits c) (secrets : Secrets) :
    (∃ keys trusted t, signers c secrets = (.ok (keys, trusted), t) ∧
      mode.Gives c secrets keys trusted t) ∨
    ∃ text fault, c.signingKey = some text ∧ readSigningKey text = .error fault ∧
      signers c secrets = (.error fault, secrets) := by
  cases mode with
  | made =>
    obtain ⟨hkey, hstore, hissuer⟩ := h
    refine .inl ⟨_, _, _, ?_, .made⟩
    rw [signers, hkey, hstore, hissuer]
    rfl
  | configured =>
    obtain ⟨hkey, hstore, hissuer⟩ := h
    obtain ⟨text, hkey⟩ := Option.isSome_iff_exists.1 hkey
    rw [signers, hkey, hstore, hissuer, Option.mapM_some]
    rcases hread : readSigningKey text with fault | key
    · exact .inr ⟨text, fault, rfl, hread, rfl⟩
    · exact .inl ⟨_, _, _, rfl, .configured hkey (readSigningKey_eq_ok_iff.1 hread)⟩
  | stored =>
    obtain ⟨hkey, hstore, hissuer⟩ := h
    obtain ⟨store, hstore⟩ := Option.isSome_iff_exists.1 hstore
    obtain ⟨name, hissuer⟩ := Option.isSome_iff_exists.1 hissuer
    refine .inl ⟨_, _, _, ?_, .stored hstore hissuer⟩
    rw [signers, hkey, hstore, hissuer]
    rfl
  | elsewhere =>
    obtain ⟨hkey, hstore, hissuer⟩ := h
    obtain ⟨name, hissuer⟩ := Option.isSome_iff_exists.1 hissuer
    refine .inl ⟨_, _, _, ?_, .elsewhere hissuer⟩
    rw [signers, hkey, hstore, hissuer]
    rfl

/-! ## What is never needed -/

/-- Who signs the answers, with this issuer standing in where there is none. -/
def signersOr (standIn : String) (c : CalloutSettings) : Making (Option KeyResolver × String) := do
  let key ← (c.signingKey.mapM readSigningKey : Except SettingsFault _)
  let store := c.keyStore.map (·.build)
  match key, store, c.issuer with
  | none, none, some issuer => return (none, issuer)
  | none, none, none =>
    let keys := KeyResolver.ofKey (← modifyGet (·.signingKey))
    return (some keys, keys.issuer)
  | key, store, issuer =>
    let issuer := (issuer <|> key.map (·.publicText)).getD standIn
    let keys ← (KeyResolver.new key store issuer).mapError SettingsFault.keys
    return (some keys, keys.issuer)

theorem signersOr_empty : signersOr "" = signers := rfl

/-- In each mode there is an issuer, and no other stands in for it. -/
theorem signersOr_eq {mode : KeyMode} (h : mode.Fits c) (standIn : String) :
    signersOr standIn c secrets = signers c secrets := by
  cases mode with
  | made =>
    obtain ⟨hkey, hstore, hissuer⟩ := h
    rw [signersOr, signers, hkey, hstore, hissuer]
    rfl
  | configured =>
    obtain ⟨hkey, hstore, hissuer⟩ := h
    obtain ⟨text, hkey⟩ := Option.isSome_iff_exists.1 hkey
    rw [signersOr, signers, hkey, hstore, hissuer, Option.mapM_some]
    rcases readSigningKey text with fault | key <;> rfl
  | stored =>
    obtain ⟨hkey, hstore, hissuer⟩ := h
    obtain ⟨store, hstore⟩ := Option.isSome_iff_exists.1 hstore
    obtain ⟨name, hissuer⟩ := Option.isSome_iff_exists.1 hissuer
    rw [signersOr, signers, hkey, hstore, hissuer]
    rfl
  | elsewhere =>
    obtain ⟨hkey, hstore, hissuer⟩ := h
    obtain ⟨name, hissuer⟩ := Option.isSome_iff_exists.1 hissuer
    rw [signersOr, signers, hkey, hstore, hissuer]
    rfl

theorem readSigningKey_ne_keys (text : String) (cause : KeyError) :
    readSigningKey text ≠ .error (.keys cause) := by
  intro h
  unfold readSigningKey at h
  rcases bind_eq_error h with h | ⟨key, -, h⟩
  · obtain ⟨_, -, ⟨⟩⟩ := mapError_eq_error h
  · split at h <;> cases h

/-- In each mode there are not both a key and a store. -/
theorem signers_ne_keys {mode : KeyMode} (h : mode.Fits c) (cause : KeyError) :
    (signers c secrets).1 ≠ .error (.keys cause) := by
  rcases signers_cases_of_fits h secrets with
    ⟨keys, trusted, t, hs, -⟩ | ⟨text, fault, -, hread, hs⟩
  · rw [hs]
    nofun
  · rw [hs]
    exact fun h => readSigningKey_ne_keys text cause (hread.trans (congrArg _ (Except.error.inj h)))

/-! ## Settings that are provisioned -/

/-- Metrics, if they are collected, have a label, or the server a name that stands for it. -/
def Labelled (s : Settings) : Prop :=
  ∀ m, s.metrics = some m → (∃ label, m.label = some label ∧ label ≠ "") ∨ s.name ≠ ""

/-- The signing key of the callout, if there is one, is the seed of an account's key. -/
def Keyed (s : Settings) : Prop :=
  ∀ c text, s.callout = some c → c.signingKey = some text →
    ∃ key : Nkey.KeyPair, key.IsAccountSeed text

theorem httpPort_of_validate (h : s.validate = .ok ()) :
    ¬(s.metrics.isSome ∧ s.httpPort.isNone) := by
  unfold validate at h
  obtain ⟨_, -, h⟩ := bind_eq_ok_iff.1 h
  obtain ⟨-, h⟩ := check_eq_ok_iff.1 h
  obtain ⟨_, -, h⟩ := bind_eq_ok_iff.1 h
  obtain ⟨_, -, h⟩ := bind_eq_ok_iff.1 h
  intro hmissing
  rw [if_pos hmissing] at h
  cases h

/-- The name of the server stands for a label that is missing or empty. -/
theorem label_eq_none_iff {label : Option String} {name : String} :
    (label.filter (· ≠ "") <|> (some name).filter (· ≠ "")) = none ↔
      ¬((∃ text, label = some text ∧ text ≠ "") ∨ name ≠ "") := by
  rcases label with _ | text
  · simp [Option.filter]
  · by_cases htext : text = "" <;> simp [Option.filter, htext]

/-- What the collector is told of valid settings depends on a label only. -/
theorem exists_collectorOptions_iff (h : s.validate = .ok ()) :
    (∃ collector, s.collectorOptions = .ok collector) ↔ s.Labelled := by
  unfold Labelled collectorOptions
  rcases hm : s.metrics with _ | m
  · exact ⟨fun _ _ => nofun, fun _ => ⟨none, rfl⟩⟩
  rcases hp : s.httpPort with _ | port
  · exact absurd ⟨by rw [hm]; rfl, by rw [hp]; rfl⟩ (httpPort_of_validate h)
  dsimp only
  split
  · next hnone =>
    refine ⟨nofun, fun hlabel => ?_⟩
    exact absurd (hlabel m rfl) (label_eq_none_iff.1 hnone)
  · next hsome =>
    refine ⟨fun _ m' hm' => ?_, fun _ => ⟨_, rfl⟩⟩
    obtain rfl := Option.some.inj hm'
    by_contra hlabel
    exact nomatch hsome.symm.trans (label_eq_none_iff.2 hlabel)

theorem collectorOptions_ne_keys (s : Settings) (cause : KeyError) :
    s.collectorOptions ≠ .error (.keys cause) := by
  unfold collectorOptions
  split
  · nofun
  · split
    · nofun
    · split <;> nofun

/-- In each mode there are keys exactly if the configured one, if there is any, is an account's. -/
theorem exists_signers_iff {mode : KeyMode} (h : mode.Fits c) (secrets : Secrets) :
    (∃ keys trusted t, signers c secrets = (.ok (keys, trusted), t)) ↔
      ∀ text, c.signingKey = some text → ∃ key : Nkey.KeyPair, key.IsAccountSeed text := by
  rcases signers_cases_of_fits h secrets with
    ⟨keys, trusted, t, hs, hgives⟩ | ⟨text, fault, hgiven, hread, hs⟩
  · refine ⟨fun _ text hgiven => ?_, fun _ => ⟨keys, trusted, t, hs⟩⟩
    cases hgives with
    | made => exact nomatch hgiven.symm.trans h.1
    | configured hconf hreads =>
      obtain rfl := Option.some.inj (hgiven.symm.trans hconf)
      exact ⟨_, hreads⟩
    | stored => exact nomatch hgiven.symm.trans h.1
    | elsewhere => exact nomatch hgiven.symm.trans h.1
  · refine ⟨fun ⟨keys, trusted, t, hok⟩ => (nomatch hok.symm.trans hs), fun hkeyed => ?_⟩
    obtain ⟨key, hkey⟩ := hkeyed text hgiven
    exact nomatch (readSigningKey_eq_ok_iff.2 hkey).symm.trans hread

theorem exists_mode_of_validate (h : s.validate = .ok ()) (hc : s.callout = some c) :
    ∃ mode : KeyMode, mode.Fits c ∧ ∀ other : KeyMode, other.Fits c → other = mode := by
  obtain ⟨hkey, hstore⟩ := (checkCallout_eq_ok_iff hc).1 (checkCallout_of_validate h)
  exact exists_mode hkey hstore

/-- Settings are provisioned exactly if they are valid, metrics have a label, and the configured key
is an account's. -/
theorem exists_provision_iff :
    (∃ plan t, s.provision secrets = (.ok plan, t)) ↔
      s.validate = .ok () ∧ s.Labelled ∧ s.Keyed := by
  constructor
  · rintro ⟨plan, t, h⟩
    cases provision_eq_ok_iff.1 h with
    | bare hv ho hc =>
      exact ⟨hv, (exists_collectorOptions_iff hv).1 ⟨_, ho⟩, fun c text hc' =>
        nomatch hc.symm.trans hc'⟩
    | called hv ho hc ha hs =>
      refine ⟨hv, (exists_collectorOptions_iff hv).1 ⟨_, ho⟩, fun c' text hc' => ?_⟩
      obtain rfl := Option.some.inj (hc.symm.trans hc')
      obtain ⟨mode, hmode, -⟩ := exists_mode_of_validate hv hc
      exact (exists_signers_iff hmode secrets).1 ⟨_, _, _, hs⟩ text
  · rintro ⟨hv, hlabel, hkeyed⟩
    obtain ⟨collector, ho⟩ := (exists_collectorOptions_iff hv).2 hlabel
    rcases hc : s.callout with _ | c
    · exact ⟨_, _, provision_eq_ok_iff.2 (.bare hv ho hc)⟩
    · obtain ⟨account, ha⟩ := exists_authAccount hc
      obtain ⟨mode, hmode, -⟩ := exists_mode_of_validate hv hc
      obtain ⟨keys, trusted, t, hs⟩ :=
        (exists_signers_iff hmode secrets).2 fun text => hkeyed c text hc
      exact ⟨_, _, provision_eq_ok_iff.2 (.called hv ho hc ha hs)⟩

/-- Provisioning valid settings never refuses a key beside a store. -/
theorem provision_ne_keys (h : s.validate = .ok ()) (cause : KeyError) :
    (s.provision secrets).1 ≠ .error (.invalid (.keys cause)) := by
  suffices hplan : (s.plan secrets).1 ≠ .error (.keys cause) by
    intro h
    obtain ⟨fault, hfault, heq⟩ := mapError_eq_error h
    obtain rfl := ConfigError.invalid.inj heq
    exact hplan hfault
  rcases ho : s.collectorOptions with fault | collector
  · rw [plan, h, ho]
    rintro ⟨⟩
    exact s.collectorOptions_ne_keys cause ho
  rcases hc : s.callout with _ | c
  · rw [plan, h, ho, hc]
    rintro ⟨⟩
  obtain ⟨account, ha⟩ := exists_authAccount hc
  obtain ⟨mode, hmode, -⟩ := exists_mode_of_validate h hc
  rw [plan_of_callout h ho hc ha]
  rcases hs : (signers c secrets).1 with fault | ⟨keys, trusted⟩
  · rintro ⟨⟩
    exact signers_ne_keys hmode cause hs
  · rintro ⟨⟩

/-- The exact conditions under which settings are provisioned, and what becomes of their keys. Valid
settings are never refused for a key beside a store and never have another issuer stand in. Their
callout is in exactly one mode, and what it comes to is what that mode gives. -/
theorem provisions_iff (s : Settings) (secrets : Secrets) :
    ((∃ plan t, s.provision secrets = (.ok plan, t)) ↔
      s.validate = .ok () ∧ s.Labelled ∧ s.Keyed) ∧
    signersOr "" = signers ∧
    ∀ c, s.validate = .ok () → s.callout = some c →
      (∀ cause, (s.provision secrets).1 ≠ .error (.invalid (.keys cause))) ∧
      (∀ cause, (signers c secrets).1 ≠ .error (.keys cause)) ∧
      (∀ standIn, signersOr standIn c secrets = signers c secrets) ∧
      ∃ mode : KeyMode, mode.Fits c ∧ (∀ other : KeyMode, other.Fits c → other = mode) ∧
        ∀ plan t, s.provision secrets = (.ok plan, t) → ∃ auth keys trusted,
          plan.auth = some auth ∧ mode.Gives c secrets keys trusted t ∧
          auth.issuer = keys.map (issuerOf c s.policies) ∧
          plan.engine.authorization.bind (·.callout) =
            some ⟨trusted, c.users, auth.account, c.curveKey⟩ := by
  refine ⟨exists_provision_iff, signersOr_empty, fun c hv hc => ?_⟩
  obtain ⟨mode, hmode, honly⟩ := exists_mode_of_validate hv hc
  refine ⟨provision_ne_keys hv, signers_ne_keys hmode, signersOr_eq hmode, mode, hmode, honly,
    fun plan t h => ?_⟩
  cases provision_eq_ok_iff.1 h with
  | bare _ _ hnone => exact nomatch hnone.symm.trans hc
  | called _ _ hc' ha hs =>
    obtain rfl := Option.some.inj (hc.symm.trans hc')
    refine ⟨_, _, _, rfl, ?_, rfl, rfl⟩
    rcases signers_cases_of_fits hmode secrets with
      ⟨keys, trusted, t', hs', hgives⟩ | ⟨text, fault, -, -, hs'⟩
    · obtain ⟨⟩ := hs.symm.trans hs'
      exact hgives
    · exact nomatch hs.symm.trans hs'

end Settings

end CalloutHost
