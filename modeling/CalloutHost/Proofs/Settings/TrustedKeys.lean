import CalloutHost.Proofs.Access.Signers
import CalloutHost.Proofs.Settings.Stability

/-!
# The key that the engine trusts

The engine trusts the issuer that provisioning puts into its options. Where one key signs
everything, whether it is configured or made, the issuer is that key's public text, and so it is the
issuer of every answer. Where keys come from a store, the issuer is a name that the settings choose:
it is what the store is asked for when an answer is signed, and nobody checks that it is the public
text of the key that is found (`Issuer.handle_issuer`).
-/

namespace CalloutHost

namespace Settings

/-- Where keys come from, and the issuer that the engine trusts. -/
inductive Trusts (c : CalloutSettings) : KeyResolver → String → Prop
  | key (h : c.keyStore = none) (key : Nkey.KeyPair) : Trusts c (.ofKey key) key.publicText
  /-- A store is asked for the issuer that the settings name, and the engine trusts that name. -/
  | store {store : KeyStoreSettings} {name : String} (h : c.keyStore = some store)
      (hname : c.issuer = some name) : Trusts c (.ofStore store.build name) name

/-- Valid settings do not name an issuer beside a key, and name one for a store. -/
theorem checkCallout_eq_ok_iff {s : Settings} {c : CalloutSettings} (hc : s.callout = some c) :
    s.checkCallout = .ok () ↔
      ¬(c.signingKey.isSome ∧ c.issuer.isSome) ∧ ¬(c.keyStore.isSome ∧ c.issuer.isNone) := by
  rw [checkCallout, hc]
  dsimp only
  split
  · next hboth => exact ⟨nofun, fun h => absurd hboth h.1⟩
  · next hkey =>
    split
    · next hboth => exact ⟨nofun, fun h => absurd hboth h.2⟩
    · next hstore => exact ⟨fun _ => ⟨hkey, hstore⟩, fun _ => rfl⟩

/-- Where the keys of valid settings come from. -/
theorem trusts_of_signers {c : CalloutSettings} {secrets t : Secrets} {keys : KeyResolver}
    {trusted : String} (hkey : ¬(c.signingKey.isSome ∧ c.issuer.isSome))
    (hstore : ¬(c.keyStore.isSome ∧ c.issuer.isNone))
    (h : signers c secrets = (.ok (some keys, trusted), t)) : Trusts c keys trusted := by
  obtain ⟨account, issuer, signingKey, keyStore, users, queueGroup, curveKey⟩ := c
  unfold signers at h
  rcases signingKey with _ | text
  · rcases keyStore with _ | store <;> rcases issuer with _ | name
    · cases h
      exact .key rfl _
    · cases h
    · exact absurd ⟨rfl, rfl⟩ hstore
    · cases h
      exact .store rfl rfl
  · rcases issuer with _ | name
    · rcases keyStore with _ | store
      · rcases hread : readSigningKey text with fault | key
        · rw [Option.mapM_some, hread] at h
          cases h
        · rw [Option.mapM_some, hread] at h
          cases h
          exact .key rfl key
      · exact absurd ⟨rfl, rfl⟩ hstore
    · exact absurd ⟨rfl, rfl⟩ hkey

theorem checkCallout_of_validate {s : Settings} (h : s.validate = .ok ()) :
    s.checkCallout = .ok () := by
  unfold validate at h
  obtain ⟨_, -, h⟩ := bind_eq_ok_iff.1 h
  obtain ⟨-, h⟩ := check_eq_ok_iff.1 h
  obtain ⟨_, -, h⟩ := bind_eq_ok_iff.1 h
  obtain ⟨_, hc, -⟩ := bind_eq_ok_iff.1 h
  exact hc

/-- A plan that has somebody answer comes from a callout, and tells the engine whom to trust. -/
theorem callout_of_provision {s : Settings} {secrets t : Secrets} {plan : Provisioned}
    {auth : AuthPlan} (h : s.provision secrets = (.ok plan, t)) (hauth : plan.auth = some auth) :
    ∃ c keys trusted, s.callout = some c ∧ s.checkCallout = .ok () ∧
      signers c secrets = (.ok (keys, trusted), t) ∧
      plan.engine.authorization.bind (·.callout) =
        some ⟨trusted, c.users, auth.account, c.curveKey⟩ ∧
      auth.issuer = keys.map (issuerOf c s.policies) := by
  obtain ⟨collector, c, account, keys, trusted, hv, hc, hs, rfl⟩ := calloutPlan_of_provision h hauth
  obtain rfl := Option.some.inj hauth
  exact ⟨c, keys, trusted, hc, checkCallout_of_validate hv, hs, rfl, rfl⟩

end Settings

namespace Issuer

variable {issuer : Issuer} {store : PinnedStore} {payload : Bytes} {now : Int} {reply : String}

/-- An answer names the key that signed it, and that is the auth account's key. -/
theorem of_handle (h : issuer.handle store payload now = some reply) :
    ∃ key, ∃ response : Claims AuthResponse, issuer.keys.resolveAuth = .ok key ∧
      (∀ later, Claims.decode reply later = .ok response) ∧ response.SignedBy key reply ∧
      response.registered.issuer = key.publicText := by
  obtain ⟨request, key, response, -, hkey, hencode⟩ := handle_eq_some_iff.1 h
  exact ⟨key, response, hkey, decode_answer hencode, Claims.signedBy_of_encode hencode,
    (of_encode_answer hencode).1⟩

/-- An answer of an issuer that was provisioned. The engine was told whom to trust: where one key
signs everything that is the issuer of the answer. Where keys come from a store it is the name under
which the store has the seed of the key that signed, and so the issuer of the answer exactly if it
is the public text of that key. -/
theorem handle_issuer {s : Settings} {secrets t : Secrets} {plan : Provisioned} {auth : AuthPlan}
    (hplan : s.provision secrets = (.ok plan, t)) (hauth : plan.auth = some auth)
    (hissuer : auth.issuer = some issuer) (hreply : issuer.handle store payload now = some reply) :
    ∃ c trusted key, ∃ response : Claims AuthResponse, s.callout = some c ∧
      plan.engine.authorization.bind (·.callout) =
        some ⟨trusted, c.users, auth.account, c.curveKey⟩ ∧
      (∀ later, Claims.decode reply later = .ok response) ∧ response.SignedBy key reply ∧
      response.registered.issuer = key.publicText ∧
      (c.keyStore = none → response.registered.issuer = trusted) ∧
      ∀ seeds, c.keyStore = some seeds → c.issuer = some trusted ∧
        ∃ seed, seeds.build.seed trusted = .ok seed ∧ Nkey.KeyPair.ofSeedText seed = .ok key := by
  obtain ⟨c, keys, trusted, hc, hvalid, hsigners, hengine, hkeys⟩ :=
    Settings.callout_of_provision hplan hauth
  rcases keys with _ | keys
  · exact nomatch hissuer.symm.trans hkeys
  obtain rfl : Settings.issuerOf c s.policies keys = issuer :=
    Option.some.inj (hkeys.symm.trans hissuer)
  obtain ⟨hkey, hstore⟩ := (Settings.checkCallout_eq_ok_iff hc).1 hvalid
  obtain ⟨key, response, hresolve, hdecode, hsigned, hnamed⟩ := of_handle hreply
  refine ⟨c, trusted, key, response, hc, hengine, hdecode, hsigned, hnamed, ?_⟩
  cases Settings.trusts_of_signers hkey hstore hsigners with
  | key hnone trustedKey =>
    obtain rfl : trustedKey = key := Except.ok.inj hresolve
    exact ⟨fun _ => hnamed, fun seeds hseeds => nomatch hnone.symm.trans hseeds⟩
  | @store seeds name hseeds hname =>
    refine ⟨fun hnone => (nomatch hnone.symm.trans hseeds), fun seeds' hseeds' => ?_⟩
    obtain rfl := Option.some.inj (hseeds.symm.trans hseeds')
    exact ⟨hname, KeyResolver.resolveAuth_ofStore_eq_ok_iff.1 hresolve⟩

/-- A request that a server's key has signed is answered where the auth account's key signs. -/
theorem exists_handle_sealed {auth : Nkey.KeyPair} (hkey : issuer.keys.resolveAuth = .ok auth)
    (hsigns : auth.SignsForAccount) (store : PinnedStore) (seed : Bytes) :
    ∃ reply, issuer.handle store (Bytes.ofText (((.new "UCLIENT" : Claims AuthRequest).issue
      (Nkey.KeyPair.ofSeed .server seed).publicText 1700000000).sealed seed)) 1700000000 =
        some reply := by
  have hseed : (Nkey.KeyPair.ofSeed .server seed).seed = some seed := rfl
  have hgenuine :=
    Claims.genuine_sealed_issue (.new "UCLIENT" : Claims AuthRequest) hseed 1700000000
  -- the request has no bounds
  exact Option.isSome_iff_exists.1 ((isSome_handle_iff hgenuine).2
    ⟨⟨fun h => Int64.lt_irrefl h.1, fun h => Int64.lt_irrefl h.1⟩, auth, hkey, hsigns⟩)

/-- Where nothing is said about keys, one is made, and the engine trusts it. -/
theorem handle_issuer_made :
    let seed : Bytes := List.replicate 32 7
    let s : Settings := { Settings.empty with callout := some CalloutSettings.record.initial }
    let request : Claims AuthRequest := (.new "UCLIENT" : Claims AuthRequest).issue
      (Nkey.KeyPair.ofSeed .server seed).publicText 1700000000
    ∃ plan t auth issuer reply, ∃ response : Claims AuthResponse,
      s.provision (.new ⟨fun _ => seed, 0⟩) = (.ok plan, t) ∧ plan.auth = some auth ∧
      auth.issuer = some issuer ∧
      issuer.handle .empty (Bytes.ofText (request.sealed seed)) 1700000000 = some reply ∧
      Claims.decode reply 1700000000 = .ok response ∧
      (plan.engine.authorization.bind (·.callout)).map (·.issuer) =
        some response.registered.issuer := by
  intro seed s request
  let secrets : Secrets := .new ⟨fun _ => seed, 0⟩
  let key := Nkey.KeyPair.ofSeed .account seed
  let c := CalloutSettings.record.initial
  have hplan : s.provision secrets = (.ok (s.calloutPlan none c globalAccount
      (some (.ofKey key)) key.publicText), secrets.signingKey.2) := rfl
  have hkey : (Settings.issuerOf c s.policies (.ofKey key)).keys.resolveAuth = .ok key := rfl
  obtain ⟨reply, hreply⟩ := exists_handle_sealed hkey ⟨rfl, rfl⟩ .empty seed
  obtain ⟨c', trusted, key', response, hc, hengine, hdecode, -, -, hone, -⟩ :=
    handle_issuer hplan rfl rfl hreply
  obtain rfl : c = c' := Option.some.inj hc
  refine ⟨_, _, _, _, reply, response, hplan, rfl, rfl, hreply, hdecode _, ?_⟩
  rw [hengine, hone rfl]
  rfl

/-- The settings name an issuer that is no public key and have a store that knows a seed by this
name. An answer is signed with that seed, and the engine trusts somebody else. -/
theorem handle_issuer_named :
    let seed : Bytes := List.replicate 32 7
    let store : KeyStoreSettings :=
      .memory (.ofList [("AUTH", Nkey.KeyPair.seedTextOf .account seed)])
    let c : CalloutSettings := { CalloutSettings.record.initial with
      issuer := some "AUTH", keyStore := some store }
    let s : Settings := { Settings.empty with callout := some c }
    let request : Claims AuthRequest := (.new "UCLIENT" : Claims AuthRequest).issue
      (Nkey.KeyPair.ofSeed .server seed).publicText 1700000000
    ∃ plan t auth issuer reply, ∃ response : Claims AuthResponse,
      s.provision (.new ⟨fun _ => seed, 0⟩) = (.ok plan, t) ∧ plan.auth = some auth ∧
      auth.issuer = some issuer ∧
      issuer.handle .empty (Bytes.ofText (request.sealed seed)) 1700000000 = some reply ∧
      Claims.decode reply 1700000000 = .ok response ∧
      (plan.engine.authorization.bind (·.callout)).map (·.issuer) = some "AUTH" ∧
      response.registered.issuer ≠ "AUTH" := by
  intro seed store c s request
  let secrets : Secrets := .new ⟨fun _ => seed, 0⟩
  let key := Nkey.KeyPair.ofSeed .account seed
  have hplan : s.provision secrets = (.ok (s.calloutPlan none c globalAccount
      (some (.ofStore store.build "AUTH")) "AUTH"), secrets) := rfl
  have hread : Nkey.KeyPair.ofSeedText (Nkey.KeyPair.seedTextOf .account seed) = .ok key :=
    Nkey.KeyPair.ofSeedText_seedTextOf .account (List.length_replicate ..)
  have hkey : (Settings.issuerOf c s.policies (.ofStore store.build "AUTH")).keys.resolveAuth =
      .ok key :=
    KeyResolver.resolveAuth_ofStore_eq_ok_iff.2 ⟨_, rfl, hread⟩
  obtain ⟨reply, hreply⟩ := exists_handle_sealed hkey ⟨rfl, rfl⟩ .empty seed
  obtain ⟨key', response, hkey', hdecode, -, hnamed⟩ := of_handle hreply
  obtain rfl : key = key' := Except.ok.inj (hkey.symm.trans hkey')
  refine ⟨_, _, _, _, reply, response, hplan, rfl, rfl, hreply, hdecode _, rfl, ?_⟩
  -- a public text has 56 bytes
  intro hname
  have hsize := Nkey.KeyPair.size_publicText (Nkey.KeyPair.length_point (k := key) rfl)
  rw [← hnamed, hname] at hsize
  exact absurd hsize (by decide)

end Issuer

end CalloutHost
