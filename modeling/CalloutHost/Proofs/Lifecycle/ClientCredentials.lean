import CalloutHost.Lifecycle.Script
import CalloutHost.Lifecycle.Server
import CalloutHost.Proofs.Access.PinnedRuns
import CalloutHost.Proofs.Lifecycle.Run
import CalloutHost.Proofs.Settings.Accounts

/-!
# Whose credentials a client is given

The credentials that a client in the process is given for an account are the account's own: those of
its only user, those that the authorization has for all clients if it is the global account, or its
pinned token (`EngineOptions.Binds`). There is one exception: an engine that names no accounts has
the account of the system all the same, and whoever asks for that one is given the credentials of
the authorization, which are the global account's (`Server.credentials_of_system_account`).

Asking leaves the process as it was, unless the server answers authorization requests itself: then
the pinned token is made if there is none. `Server.credentials_belong` says both.
-/

namespace CalloutHost

namespace EngineOptions

/-- The authorization has these credentials for all clients. -/
inductive Shares (o : EngineOptions) : Credentials → Prop
  | token {a : EngineAuthorization} {token : String} (h : o.authorization = some a)
      (ht : a.token = some token) : Shares o (.token token)
  | password {a : EngineAuthorization} {name password : String} (h : o.authorization = some a)
      (hn : a.user = some name) (hp : a.password = some password) :
      Shares o (.password name password)
  | only {a : EngineAuthorization} {user : EngineUser} (h : o.authorization = some a)
      (hu : a.users = [user]) : Shares o (.password user.name user.password)

/-- Whoever presents these credentials is in this account. -/
inductive Binds (o : EngineOptions) (pins : PinnedStore) (account : String) : Credentials → Prop
  | own {entry : EngineAccount} {user : EngineUser} (h : o.accounts.get? account = some entry)
      (hu : entry.users = [user]) : Binds o pins account (.password user.name user.password)
  /-- The authorization has them, and the account is the global one. -/
  | shared {c : Credentials} (h : account = globalAccount) (hc : o.Shares c) :
      Binds o pins account c
  | pinned {token : String} (h : pins.get? account = some token) :
      Binds o pins account (.token token)

variable {o : EngineOptions} {account : String}

theorem shares_of_sharedCredentials {c : Credentials}
    (h : o.authorization.bind Server.sharedCredentials = some c) : o.Shares c := by
  obtain ⟨a, ha, hc⟩ := Option.bind_eq_some_iff.1 h
  unfold Server.sharedCredentials at hc
  split at hc
  · next token _ _ ht =>
    cases hc
    exact .token ha ht
  · next name password _ hn hp =>
    cases hc
    exact .password ha hn hp
  · cases hc

/-- An engine that names no accounts has two. -/
theorem account_of_hasAccount (hempty : o.accounts.isEmpty = true)
    (h : o.hasAccount account = true) :
    account = globalAccount ∨ account = CalloutHost.systemAccount := by
  unfold hasAccount at h
  split at h
  · next hglobal => exact .inl hglobal
  split at h
  · next hsystem => exact .inr hsystem
  · rw [Dict.isEmpty, List.isEmpty_iff] at hempty
    rw [Dict.contains, hempty] at h
    cases h

end EngineOptions

namespace Settings

variable {s : Settings} {secrets t : Secrets} {plan : Provisioned}

/-- Where the authorization has credentials for all clients, no accounts are named. -/
theorem isEmpty_accounts_of_shares (h : s.provision secrets = (.ok plan, t)) {c : Credentials}
    (hc : plan.engine.Shares c) : plan.engine.accounts.isEmpty = true := by
  cases provision_eq_ok_iff.1 h with
  | @bare collector hv =>
    refine (isEmpty_accounts_iff hv).2 (Option.eq_none_iff_forall_ne_some.2 fun accounts hs => ?_)
    obtain ⟨-, -, hnone, -⟩ := (checkAccounts_eq_ok_iff hs).1 (checkAccounts_of_validate hv)
    have hbare : (s.barePlan collector).engine.authorization = none := by
      change s.authorization.map _ = none
      rw [hnone]
      rfl
    cases hc with
    | token ha | password ha | only ha => cases hbare.symm.trans ha
  | called =>
    -- the authorization of a callout has nothing for clients
    obtain ⟨callout, hcallout⟩ := authorization_of_provision h rfl
    cases hc with
    | token ha hfield | password ha hfield | only ha hfield =>
      cases hcallout.symm.trans ha
      cases hfield

end Settings

/-- The token that is given is the one that the account has from then on. -/
theorem Secrets.get?_pinnedToken (x : Secrets) (account : String) :
    (x.pinnedToken account).2.pinned.get? account = some (x.pinnedToken account).1 := by
  change (x.pinned.getOrCreate _ account).2.get? account =
    some (x.pinned.getOrCreate _ account).1
  rw [PinnedStore.getOrCreate_eq_settle]
  exact PinnedStore.get?_settle ..

namespace Server

variable {σ : Type} {g : Server} {s : Settings} {secrets t : Secrets} {plan : Provisioned}
  {account : String}

/-- What asking for the credentials of an account comes to. -/
inductive Gives (plan : Provisioned) (account : String) (w : World σ) :
    Except ServerError Credentials → World σ → Prop
  | refused (reason : String) : Gives plan account w (.error (.noCredentials reason)) w
  | anonymous : Gives plan account w (.ok .anonymous) w
  | own {entry : EngineAccount} {user : EngineUser}
      (h : plan.engine.accounts.get? account = some entry) (hu : entry.users = [user]) :
      Gives plan account w (.ok (.password user.name user.password)) w
  | shared {c : Credentials} (hc : plan.engine.Shares c)
      (ha : plan.engine.hasAccount account = true) : Gives plan account w (.ok c) w
  /-- The server answers authorization requests itself, and the account has a pinned token, if only
  from now on. -/
  | pinned {auth : AuthPlan} {issuer : Issuer} (hauth : plan.auth = some auth)
      (hissuer : auth.issuer = some issuer) (hoperators : plan.engine.operators = [])
      (ha : plan.engine.hasAccount account = true) :
      Gives plan account w (.ok (.token (w.secrets.pinnedToken account).1))
        { w with secrets := (w.secrets.pinnedToken account).2 }

/-- The credentials of an account, or of the authorization if the account is not named. -/
theorem gives_credentialsOf (ha : plan.engine.hasAccount account = true) (w : World σ) :
    Gives plan account w (credentialsOf account (usersOf plan.engine account)) w := by
  rcases husers : usersOf plan.engine account with _ | ⟨user, _ | ⟨_, _⟩⟩
  · exact .anonymous
  · unfold usersOf at husers
    split at husers
    · next entry hentry => exact .own hentry husers
    · rcases hauthorization : plan.engine.authorization with _ | a
      · rw [hauthorization] at husers
        cases husers
      · rw [hauthorization] at husers
        exact .shared (.only hauthorization husers) ha
  · exact .refused _

variable [Outside σ]

theorem credentials_gives (hg : g.plan = some plan) (w : World σ) (account : String) :
    w.Ensures (g.credentials account) (Gives plan account w) := by
  unfold credentials
  rw [hg]
  dsimp only
  split
  · exact World.ensures_pure (.refused _)
  next hoperators =>
  split
  · exact World.ensures_pure (.refused _)
  next ha =>
  rw [Bool.not_eq_true', Bool.not_eq_false] at ha
  split
  · exact World.ensures_pure (.refused _)
  split
  · next c hc =>
    exact World.ensures_pure (.shared (EngineOptions.shares_of_sharedCredentials hc) ha)
  split
  · next hissuer =>
    obtain ⟨issuer, hissuer⟩ := Option.isSome_iff_exists.1 hissuer
    obtain ⟨auth, hauth, hissuer⟩ := Option.bind_eq_some_iff.1 hissuer
    refine World.ensures_act rfl (World.ensures_pure (.pinned hauth hissuer ?_ ha))
    simpa using hoperators
  · exact World.ensures_pure (gives_credentialsOf ha w)

/-- Whoever asks a server for the credentials of an account, and is given some, is given the
account's own; but for the account of the system, where no accounts are named, they are those that
the authorization has for all clients. Asking changes nothing, unless the server answers
authorization requests itself, and then only the pinned tokens and the seeds for them: the token
that is given is the one that the account has from then on. -/
theorem credentials_belong (h : s.provision secrets = (.ok plan, t)) (hg : g.plan = some plan)
    (w : World σ) (account : String) :
    w.Ensures (g.credentials account) fun answer x =>
      (∀ c, answer = .ok c → c ≠ .anonymous →
        plan.engine.Binds x.secrets.pinned account c ∨
          account = systemAccount ∧ plan.engine.accounts.isEmpty = true ∧
            plan.engine.Shares c) ∧
      (x = w ∨ ∃ auth issuer token, plan.auth = some auth ∧ auth.issuer = some issuer ∧
        plan.engine.operators = [] ∧ plan.engine.hasAccount account = true ∧
        answer = .ok (.token token) ∧ x.secrets.pinned.get? account = some token ∧
        x = { w with secrets := (w.secrets.pinnedToken account).2 }) := by
  refine (credentials_gives hg w account).mono fun answer x hgives => ?_
  cases hgives with
  | refused => exact ⟨nofun, .inl rfl⟩
  | anonymous => exact ⟨fun _ hc hne => absurd (Except.ok.inj hc).symm hne, .inl rfl⟩
  | own hentry hu =>
    refine ⟨fun _ hc _ => .inl ?_, .inl rfl⟩
    cases hc
    exact .own hentry hu
  | shared hshares ha =>
    refine ⟨fun _ hc _ => ?_, .inl rfl⟩
    cases hc
    have hempty := Settings.isEmpty_accounts_of_shares h hshares
    rcases EngineOptions.account_of_hasAccount hempty ha with hglobal | hsystem
    · exact .inl (.shared hglobal hshares)
    · exact .inr ⟨hsystem, hempty, hshares⟩
  | pinned hauth hissuer hoperators ha =>
    have hpinned := w.secrets.get?_pinnedToken account
    refine ⟨fun _ hc _ => .inl ?_,
      .inr ⟨_, _, _, hauth, hissuer, hoperators, ha, rfl, hpinned, rfl⟩⟩
    cases hc
    exact .pinned hpinned

/-- An account with one user. -/
theorem credentials_belong_orders :
    let orders : AccountSettings := ⟨"orders", [⟨"o", "p"⟩], false, [], []⟩
    let settings : Settings := { Settings.empty with accounts := some [orders] }
    let supply : SeedSupply := ⟨fun n => List.replicate 32 (UInt8.ofNat n), 0⟩
    let plan := settings.barePlan none
    let g : Server := ⟨settings, .provisioned true, some ⟨1⟩, some plan, []⟩
    let w : World Script := .new (Script.new true) supply World.defaultPatience
    settings.provision (.new supply) = (.ok plan, .new supply) ∧
      (w.run (g.credentials "orders")).1 = .ok (.password "o" "p") ∧
      plan.engine.Binds (w.run (g.credentials "orders")).2.secrets.pinned "orders"
        (.password "o" "p") := by
  intro orders settings supply plan g w
  have hprovision : settings.provision (.new supply) = (.ok plan, .new supply) :=
    Settings.provision_eq_ok_iff.2 (.bare rfl rfl rfl)
  have hanswer : (w.run (g.credentials "orders")).1 = .ok (.password "o" "p") := rfl
  refine ⟨hprovision, hanswer, ?_⟩
  rcases (credentials_belong hprovision rfl w "orders").1 _ hanswer nofun with hbinds | ⟨hsystem, -⟩
  · exact hbinds
  · exact absurd hsystem (by decide)

/-- A server whose clients all have one token gives it to clients of the account of the system, too.
Whoever presents it is in the global account. -/
theorem credentials_of_system_account :
    let authorization : AuthorizationSettings := ⟨some "s3cr3t", none, none, []⟩
    let settings : Settings := { Settings.empty with authorization := some authorization }
    let supply : SeedSupply := ⟨fun n => List.replicate 32 (UInt8.ofNat n), 0⟩
    let plan := settings.barePlan none
    let g : Server := ⟨settings, .provisioned true, some ⟨1⟩, some plan, []⟩
    let w : World Script := .new (Script.new true) supply World.defaultPatience
    settings.provision (.new supply) = (.ok plan, .new supply) ∧
      w.run (g.credentials systemAccount) = (.ok (.token "s3cr3t"), w) ∧
      ¬plan.engine.Binds w.secrets.pinned systemAccount (.token "s3cr3t") := by
  intro authorization settings supply plan g w
  refine ⟨Settings.provision_eq_ok_iff.2 (.bare rfl rfl rfl), rfl, fun hbinds => ?_⟩
  cases hbinds with
  | shared hglobal => exact absurd hglobal (by decide)
  | pinned hpinned => cases hpinned

end Server

end CalloutHost
