import CalloutHost.Lifecycle.Interleave
import CalloutHost.Lifecycle.Script
import CalloutHost.Lifecycle.Server
import CalloutHost.Proofs.Access.Authorization
import CalloutHost.Proofs.Lifecycle.ClientCredentials
import CalloutHost.Proofs.Settings.TrustedKeys

/-!
# The credentials of clients in the process

A server that answers authorization requests itself gives the clients in its process a pinned token
(`Server.credentials_eq`). Whatever else happens in the process, the store of pinned tokens takes
the steps that `Process.pinStep?` reads off (`Process.pins_step`), so a token that was given stays
bound to its account (`Process.run_keeps`). `Process.credentials_admit` puts this together: the
token of one generation is good at the issuer of every other, at any later time.
-/

namespace CalloutHost

open PinnedStore (Keeps TwoWay)

/-- The engine of a server has an account. -/
def Server.HasAccount (g : Server) (account : String) : Prop :=
  ∃ plan, g.plan = some plan ∧ plan.engine.hasAccount account = true

namespace Process

variable {σ : Type} [Outside σ] {x : Process σ} {steps before after : List ProcessStep}

/-! ## What happens to the store of pinned tokens -/

theorem run_append (x : Process σ) (before after : List ProcessStep) :
    x.run (before ++ after) = (x.run before).run after := List.foldl_append

/-- The step that a step of a process takes on the store of pinned tokens, if it takes one. -/
def pinStep? (x : Process σ) : ProcessStep → Option PinnedStep
  | .act (.pinnedToken account) => some (.call (.getOrCreate account) x.world.secrets.supply.head)
  | .act _ => none
  | .pins e => some e

/-- No token that is made on the way is bound already. -/
def FreshRun (x : Process σ) : List ProcessStep → Prop
  | [] => True
  | e :: steps => (∀ p, x.pinStep? e = some p → x.pins.Fresh p) ∧ (x.step e).FreshRun steps

theorem freshRun_append :
    x.FreshRun (before ++ after) ↔ x.FreshRun before ∧ (x.run before).FreshRun after := by
  induction before generalizing x with
  | nil => exact (Iff.of_eq (true_and _)).symm
  | cons e before ih =>
    rw [List.cons_append, FreshRun, FreshRun, ih, and_assoc]
    rfl

/-- No action touches the pinned tokens but the one that asks for a token. -/
theorem pinned_exec (w : World σ) {a : Action} (h : ∀ account, a ≠ .pinnedToken account) :
    (w.exec a).2.secrets.pinned = w.secrets.pinned := by
  by_cases harea : a.area = .secrets
  · cases a with
    | pinnedToken account => exact absurd rfl (h account)
    | bootstrapUser => exact w.secrets.pinned_bootstrapUser
    | provision s => exact s.pinned_provision w.secrets
    | _ => cases harea
  · rw [w.exec_secrets harea]

theorem pins_step (x : Process σ) (e : ProcessStep) :
    (x.step e).pins = match x.pinStep? e with
      | some p => (x.pins.step p).2
      | none => x.pins := by
  cases e with
  | pins e => rfl
  | act a =>
    cases a with
    | pinnedToken account => rfl
    | _ =>
      rw [step, pins, pinned_exec x.world fun _ he => by cases he]
      rfl

theorem keeps_step {e : ProcessStep} (h : ∀ p, x.pinStep? e = some p → x.pins.Fresh p) :
    Keeps x.pins.store (x.step e).pins.store := by
  rw [pins_step]
  split
  · next p hp => exact (SharedPins.step_grows (h p hp)).keeps
  · exact .refl _

theorem twoWay_step {e : ProcessStep} (h : ∀ p, x.pinStep? e = some p → x.pins.Fresh p)
    (hx : x.pins.store.TwoWay) : (x.step e).pins.store.TwoWay := by
  rw [pins_step]
  split
  · next p hp => exact (SharedPins.step_grows (h p hp)).twoWay hx
  · exact hx

/-- What is bound stays bound, whatever happens in the process. -/
theorem run_keeps (h : x.FreshRun steps) : Keeps x.pins.store (x.run steps).pins.store := by
  induction steps generalizing x with
  | nil => exact .refl _
  | cons e steps ih => exact (keeps_step h.1).trans (ih h.2)

/-- Tokens and accounts still point at each other, whatever has happened in the process. -/
theorem run_twoWay (h : x.FreshRun steps) (hx : x.pins.store.TwoWay) :
    (x.run steps).pins.store.TwoWay := by
  induction steps generalizing x with
  | nil => exact hx
  | cons e steps ih => exact ih h.2 (twoWay_step h.1 hx)

/-! ## Programs that are carried out -/

theorem happens_pure {α : Type} {a result : α} (h : x.Happens steps (pure a) result) :
    result = a := by
  generalize hp : (pure a : Program α) = p at h
  induction h with
  | done => cases hp; rfl
  | act _ _ => cases hp
  | wait _ ih => exact ih hp

/-- A program that begins with an action takes it at some moment, and goes on from there. -/
theorem happens_act {α : Type} {a : Action} {next : a.Answer → Program α} {result : α}
    (h : x.Happens steps (Program.perform a >>= next) result) :
    ∃ before after, steps = before ++ .act a :: after ∧
      ((x.run before).step (.act a)).Happens after (next ((x.run before).world.exec a).1)
        result := by
  generalize hp : (Program.perform a >>= next) = p at h
  induction h with
  | done => cases hp
  | act rest _ =>
    cases hp
    exact ⟨[], _, rfl, rest⟩
  | @wait x e steps _ _ _ ih =>
    obtain ⟨before, after, rfl, hrest⟩ := ih hp
    exact ⟨e :: before, after, rfl, hrest⟩

/-! ## Servers that answer requests themselves -/

/-- A server was provisioned while some steps happened, with an issuer of its own and without
operators that are trusted. What became of it since does not matter, as long as it has its plan. -/
structure Hosts (x : Process σ) (steps : List ProcessStep) (g : Server) (issuer : Issuer) :
    Prop where
  provisioned : ∃ fresh generation done,
    x.Happens steps (Server.provision fresh) (.ok generation, done) ∧ done.plan = g.plan
  /-- It answers requests itself, and its engine trusts no operators. -/
  answers : ∃ plan auth, g.plan = some plan ∧ plan.engine.operators = [] ∧ plan.auth = some auth ∧
    auth.issuer = some issuer

/-- Provisioning that is carried out asks for the plan of the settings. -/
theorem plan_of_happens {fresh done : Server} {generation : Generation} {plan : Provisioned}
    (h : x.Happens steps fresh.provision (.ok generation, done)) (hplan : done.plan = some plan) :
    ∃ secrets, (fresh.settings.provision secrets).1 = .ok plan := by
  unfold Server.provision at h
  split at h
  · cases happens_pure h
  · obtain ⟨_, steps, -, h⟩ := happens_act h
    obtain ⟨between, _, -, h⟩ := happens_act h
    dsimp only at h
    split at h
    · cases happens_pure h
    · next found hfound =>
      obtain ⟨-, rfl⟩ := Prod.mk.inj (happens_pure h)
      obtain rfl := Option.some.inj hplan
      exact ⟨_, hfound⟩

/-- A server that answers requests itself gives its clients the pinned token of their account. -/
theorem Hosts.credentials_eq {g : Server} {issuer : Issuer} {account : String}
    (hg : x.Hosts steps g issuer) (ha : g.HasAccount account) :
    g.credentials account =
      (Program.perform (.pinnedToken account) >>= fun token => return .ok (.token token)) := by
  obtain ⟨⟨fresh, generation, done, hdone, hsame⟩, plan, auth, hplan, hoperators, hauth, hissuer⟩ :=
    hg
  obtain ⟨plan', hplan', ha⟩ := ha
  obtain rfl := Option.some.inj (hplan.symm.trans hplan')
  obtain ⟨secrets, hprovision⟩ := plan_of_happens hdone (hsame.trans hplan)
  obtain ⟨callout, hbare⟩ := Settings.authorization_of_provision (Prod.ext hprovision rfl) hauth
  rw [Server.credentials, hplan]
  dsimp only
  rw [hoperators, ha, hbare, hauth]
  simp only [List.isEmpty_nil, Bool.not_true, Bool.false_eq_true, if_false, Option.map_some,
    Option.getD_some, Option.bind_some, hissuer, Option.isSome_some, if_true]
  rfl

/-- Whoever asks is given the token that the account has when the program is over. -/
theorem Hosts.token_of_happens {y : Process σ} {asking : List ProcessStep} {g : Server}
    {issuer : Issuer} {account : String} {result : Except ServerError Credentials}
    (hg : x.Hosts steps g issuer) (ha : g.HasAccount account)
    (h : y.Happens asking (g.credentials account) result) (hfresh : y.FreshRun asking) :
    ∃ token, result = .ok (.token token) ∧
      (y.run asking).pins.store.get? account = some token := by
  rw [hg.credentials_eq ha] at h
  obtain ⟨before, after, rfl, hrest⟩ := happens_act h
  obtain ⟨-, hfresh⟩ := freshRun_append.1 hfresh
  refine ⟨_, happens_pure hrest, ?_⟩
  rw [run_append]
  exact (run_keeps hfresh.2).get? ((y.run before).world.secrets.get?_pinnedToken account)

/-- Everything that happens in a process from its beginning is cut into what comes before, during
and after a program that asks for the credentials of an account. Asking gives a token. From then on
every issuer that a server of the process answers with knows the account of the token, and lets in
whoever presents it, under all policies, where the keys that sign for the auth account and for the
account are there: the user's token is for the account and for the user of the request. Whoever asks
for the account again is given the same token, and no other account is ever given it. -/
theorem credentials_admit (outside : σ) (supply : SeedSupply) (patience : Nanoseconds)
    {before during after : List ProcessStep} {g : Server} {issuer : Issuer} {account : String}
    {result : Except ServerError Credentials}
    (hg : (new outside supply patience).Hosts before g issuer) (ha : g.HasAccount account)
    (hasked : ((new outside supply patience).run before).Happens during (g.credentials account)
      result)
    (hfresh : (new outside supply patience).FreshRun (before ++ during ++ after)) :
    let start := new outside supply patience
    let history := before ++ during ++ after
    let later := start.run history
    (∀ w : World σ, ∃ token, (w.run (g.credentials account)).1 = .ok (.token token)) ∧
    ∃ token, result = .ok (.token token) ∧
      (∃ claims, later.pins.store.lookup token = some (account, claims)) ∧
      (∀ server issuer, start.Hosts history server issuer →
        ∀ (policies : List Policy) (payload : Bytes) (now : Int) (request : Claims AuthRequest)
          (auth key : Nkey.KeyPair), IsRequest payload now request →
          request.body.connect.token = token →
          issuer.keys.resolveAuth = .ok auth → auth.SignsForAccount →
          issuer.keys.resolve account = .ok key → key.SignsForAccount →
          ∃ reply, ∃ response : Claims AuthResponse, ∃ user : Claims User,
            ({ issuer with policies } : Issuer).handle later.pins.store payload now = some reply ∧
            Claims.decode reply now = .ok response ∧ response.body.error = "" ∧
            user.SignedBy key response.body.jwt ∧ user.registered.audience = account ∧
            user.registered.subject = request.body.userKey) ∧
      (∀ server issuer further again, start.Hosts history server issuer →
        server.HasAccount account → later.Happens further (server.credentials account) again →
          later.FreshRun further → again = .ok (.token token)) ∧
      (∀ server issuer other further, start.Hosts history server issuer →
        server.HasAccount other →
          later.Happens further (server.credentials other) (.ok (.token token)) →
            later.FreshRun further → other = account) := by
  intro start history later
  obtain ⟨hasking, hafter⟩ := freshRun_append.1 hfresh
  obtain ⟨-, hduring⟩ := freshRun_append.1 hasking
  obtain ⟨token, rfl, htoken⟩ := hg.token_of_happens ha hasked hduring
  rw [← run_append] at htoken
  have hlater : later.pins.store.get? account = some token := by
    have hrun : later = (start.run (before ++ during)).run after := run_append ..
    rw [hrun]
    exact (run_keeps hafter).get? htoken
  have htwoWay : later.pins.store.TwoWay := run_twoWay hfresh PinnedStore.twoWay_empty
  obtain ⟨claims, hclaims⟩ := (htwoWay.inverse account token).1 hlater
  have hlookup : later.pins.store.lookup token = some (account, claims) :=
    (htwoWay.lookup_eq token).trans hclaims
  refine ⟨fun w => ?_, token, rfl, ⟨claims, hlookup⟩, ?_, ?_, ?_⟩
  · rw [hg.credentials_eq ha]
    exact ⟨_, rfl⟩
  · intro _ issuer _ policies payload now request auth key hrequest hpresented hauth hauthSigns hkey
      hkeySigns
    obtain ⟨hnamed, hbound⟩ := PinnedStore.lookup_eq_some_iff.1 hlookup
    subst hpresented
    have hauthorizes : ({ issuer with policies } : Issuer).Authorizes later.pins.store payload now
        request auth _ key :=
      ⟨hrequest, hauth, hauthSigns, .pinned hnamed hbound, hkey, hkeySigns⟩
    obtain ⟨reply, response, issued, hreply, hdecode, herror, hencode⟩ := hauthorizes.handle
    have hsigned := Claims.signedBy_of_encode hencode
    obtain ⟨-, -, rfl⟩ := (Claims.encode_eq_ok_iff_account rfl).1 hencode
    exact ⟨reply, response, _, hreply, hdecode now, herror, hsigned, rfl, rfl⟩
  · intro server issuer further again hserver hhas hagain hfurther
    obtain ⟨token', rfl, htoken'⟩ := hserver.token_of_happens hhas hagain hfurther
    rw [Option.some.inj (htoken'.symm.trans ((run_keeps hfurther).get? hlater))]
  · intro server issuer other further hserver hhas hagain hfurther
    obtain ⟨token', htold, hother⟩ := hserver.token_of_happens hhas hagain hfurther
    obtain rfl : token = token' := by
      cases htold
      rfl
    have hboth := run_twoWay hfurther htwoWay
    obtain ⟨_, hfirst⟩ := (hboth.inverse account token).1 ((run_keeps hfurther).get? hlater)
    obtain ⟨_, hsecond⟩ := (hboth.inverse other token).1 hother
    exact congrArg Prod.fst (Option.some.inj (hsecond.symm.trans hfirst))

/-- One key signs for the first server, and the second takes the keys that sign from a store. A
client that the first server has given its token is let in by the second, which has no policies. -/
theorem credentials_admit_reloaded :
    let seed (n : Nat) : Bytes := List.replicate 32 (UInt8.ofNat n)
    let store : KeyStoreSettings := .memory (.ofList
      [("AUTH", Nkey.KeyPair.seedTextOf .account (seed 7)),
        (globalAccount, Nkey.KeyPair.seedTextOf .account (seed 8))])
    let made : Settings := { Settings.empty with callout := some CalloutSettings.record.initial }
    let callout : CalloutSettings := { CalloutSettings.record.initial with
      issuer := some "AUTH", keyStore := some store }
    let stored : Settings := { Settings.empty with callout := some callout }
    let start : Process Script := .new (.new true) ⟨seed, 0⟩ World.defaultPatience
    let before : List ProcessStep := [.act .capture, .act (.provision made)]
    let during : List ProcessStep := [.act (.pinnedToken globalAccount)]
    let after : List ProcessStep := [.act .capture, .act (.provision stored)]
    let later := start.run (before ++ during ++ after)
    let token := PinnedStore.mint (seed 1)
    let request : Claims AuthRequest := .new "UCLIENT"
    let presenting := { request with body :=
      { request.body with connect := { request.body.connect with token } } }
    let payload := Bytes.ofText ((presenting.issue
      (Nkey.KeyPair.ofSeed .server (seed 9)).publicText 1700000000).sealed (seed 9))
    ∃ first second issuer reply, ∃ response : Claims AuthResponse, ∃ user : Claims User,
      (start.run before).Happens during (Server.credentials first globalAccount)
        (.ok (.token token)) ∧
      start.Hosts (before ++ during ++ after) second issuer ∧
      issuer.handle later.pins.store payload 1700000000 = some reply ∧
      Claims.decode reply 1700000000 = .ok response ∧ response.body.error = "" ∧
      user.SignedBy (.ofSeed .account (seed 8)) response.body.jwt ∧
      user.registered.audience = globalAccount := by
  intro seed store made callout stored start before during after later token request presenting
    payload
  let key := Nkey.KeyPair.ofSeed .account (seed 0)
  let c := CalloutSettings.record.initial
  let issuer := Settings.issuerOf callout stored.policies (.ofStore store.build "AUTH")
  let first : Server := ⟨made, .provisioned true, some ⟨1⟩, some (made.calloutPlan none c
    globalAccount (some (.ofKey key)) key.publicText), []⟩
  let second : Server := ⟨stored, .provisioned true, some ⟨2⟩, some (stored.calloutPlan none callout
    globalAccount (some (.ofStore store.build "AUTH")) "AUTH"), []⟩
  have hfirst : start.Hosts before first (Settings.issuerOf c made.policies (.ofKey key)) :=
    ⟨⟨.new made, ⟨1⟩, first, .act (.act .done), rfl⟩, _, _, rfl, rfl, rfl, rfl⟩
  have hsecond : start.Hosts (before ++ during ++ after) second issuer :=
    ⟨⟨.new stored, ⟨2⟩, second, .wait (.wait (.wait (.act (.act .done)))), rfl⟩,
      _, _, rfl, rfl, rfl, rfl⟩
  have hasked : (start.run before).Happens during (first.credentials globalAccount)
    (.ok (.token token)) := .act .done
  have hfresh : start.FreshRun (before ++ during ++ after) := by
    refine ⟨nofun, nofun, ?_, nofun, nofun, trivial⟩
    rintro _ ⟨⟩ made hmade
    rfl
  have hserver : (Nkey.KeyPair.ofSeed .server (seed 9)).seed = some (seed 9) := rfl
  -- the request has no bounds
  have hdecode : Claims.decode _ 1700000000 = .ok _ := Claims.decode_eq_ok_iff.2
    ⟨Claims.genuine_sealed_issue presenting hserver 1700000000,
      fun h => Int64.lt_irrefl h.1, fun h => Int64.lt_irrefl h.1⟩
  have hauth : issuer.keys.resolveAuth = .ok (Nkey.KeyPair.ofSeed .account (seed 7)) :=
    KeyResolver.resolveAuth_ofStore_eq_ok_iff.2
      ⟨_, rfl, Nkey.KeyPair.ofSeedText_seedTextOf .account (List.length_replicate ..)⟩
  have hkey : issuer.keys.resolve globalAccount =
      .ok (Nkey.KeyPair.ofSeed .account (seed 8)) :=
    KeyResolver.resolve_ofStore_eq_ok_iff.2
      ⟨_, rfl, Nkey.KeyPair.ofSeedText_seedTextOf .account (List.length_replicate ..)⟩
  obtain ⟨-, token', htoken, -, hadmit, -, -⟩ :=
    credentials_admit (Script.new true) ⟨seed, 0⟩ World.defaultPatience hfirst ⟨_, rfl, rfl⟩ hasked
      hfresh
  obtain rfl : token = token' := by
    cases htoken
    rfl
  obtain ⟨reply, response, user, hreply, hresponse, herror, hsigned, haudience, -⟩ :=
    hadmit second issuer hsecond issuer.policies payload 1700000000 _ _ _
      ⟨_, Bytes.toText?_ofText _, hdecode⟩ rfl hauth ⟨rfl, rfl⟩ hkey ⟨rfl, rfl⟩
  exact ⟨first, second, issuer, reply, response, user, hasked, hsecond, hreply, hresponse, herror,
    hsigned, haudience⟩

end Process

end CalloutHost
