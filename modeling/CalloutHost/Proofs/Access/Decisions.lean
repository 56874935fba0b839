import CalloutHost.Access.Issuer
import CalloutHost.Proofs.Outcomes

/-!
# Decisions on requests

The first policy that does not pass decides, and it issues claims just where it allows for an
account that is not empty (`Policy.evaluate_eq_ok_iff`). With the pinned tokens in front, this says
which claims a request is granted (`Issuer.decision_eq_ok_iff`). Where it is granted none, or no key
is found that signs them, the reason has a text (`Issuer.message_ne_of_decision`,
`KeyError.message_ne`).
-/

namespace CalloutHost

/-! ## Policies -/

namespace Policy

variable {request : Claims AuthRequest} {user : Claims User}

/-- The first policy that does not pass. -/
def first (policies : List Policy) : Option Policy := policies.find? (·.vote ≠ .passes)

/-- The decision is that of the first policy that does not pass, if it does not fail. -/
theorem evaluate_eq (request : Claims AuthRequest) (policies : List Policy) :
    evaluate request policies =
      match first policies with
      | some policy => if policy.vote = .fails then .error .noMatch else policy.decide request
      | none => .error .noMatch := by
  induction policies with
  | nil => rfl
  | cons policy rest ih =>
    rw [evaluate, first, List.find?_cons]
    cases hvote : policy.vote with
    | decides => simp [hvote]
    | passes =>
      rw [ih, first]
      simp
    | fails => simp [hvote]

/-- Claims are issued just where the first policy that does not pass allows for an account. -/
theorem evaluate_eq_ok_iff {policies : List Policy} :
    evaluate request policies = .ok user ↔
      ∃ account template, first policies = some (.allow account template) ∧
        Placeholder.expand request.body true account ≠ "" ∧
        user = { issue template request with registered :=
          { (issue template request).registered with
            audience := Placeholder.expand request.body true account } } := by
  rw [evaluate_eq]
  cases first policies with
  | none => simp
  | some policy =>
    cases policy with
    | allow account template =>
      by_cases haccount : Placeholder.expand request.body true account = ""
      · simp [vote, decide, haccount]
      · simp only [vote, decide, if_neg haccount, Option.some.injEq, Policy.allow.injEq]
        constructor
        · rintro ⟨⟩
          exact ⟨account, template, ⟨rfl, rfl⟩, haccount, rfl⟩
        · rintro ⟨_, _, ⟨rfl, rfl⟩, -, rfl⟩
          rfl
    | deny denial => simp [vote, decide]
    | abstain => simp [vote, decide]
    | faulty reason => simp [vote]

/-- Whoever is refused by the policies is told something. -/
theorem message_ne_of_evaluate {policies : List Policy} {cause : PolicyError}
    (h : evaluate request policies = .error cause) : cause.message ≠ "" := by
  have hcause : cause = .noMatch ∨ cause = .noAccount ∨ ∃ d : Denial, cause = .denied d.text := by
    rw [evaluate_eq] at h
    cases hfirst : first policies with
    | none =>
      rw [hfirst] at h
      cases h
      exact .inl rfl
    | some policy =>
      rw [hfirst] at h
      cases policy with
      | allow account template =>
        have hvote : ¬ Vote.decides = Vote.fails := by decide
        simp only [vote, if_neg hvote, decide] at h
        split at h
        · cases h
          exact .inr (.inl rfl)
        · cases h
      | deny denial =>
        cases h
        exact .inr (.inr ⟨denial, rfl⟩)
      | abstain =>
        cases h
        exact .inl rfl
      | faulty reason =>
        cases h
        exact .inl rfl
  rcases hcause with rfl | rfl | ⟨denial, rfl⟩
  · decide
  · decide
  · exact denial.text_ne

end Policy

/-! ## Texts of errors -/

theorem append_ne_empty {a : String} (h : a ≠ "") (b : String) : a ++ b ≠ "" := fun he =>
  h (String.append_eq_empty_iff.1 he).1

theorem KeyStoreError.message_ne (cause : KeyStoreError) : cause.message ≠ "" := by
  cases cause with
  | notFound account => exact append_ne_empty (by decide) account
  | unavailable reason => exact append_ne_empty (by decide) reason

theorem KeyError.message_ne (cause : KeyError) : cause.message ≠ "" := by
  cases cause with
  | conflict => decide
  | notConfigured account => exact append_ne_empty (by decide) account
  | store cause => exact cause.message_ne
  | invalidSeed account cause =>
    exact append_ne_empty (append_ne_empty (append_ne_empty (by decide) _) _) _

theorem TokenError.message_ne (cause : TokenError) : cause.message ≠ "" := by
  cases cause with
  | segments => decide
  | encoding cause => exact append_ne_empty (by decide) _
  | json cause => exact append_ne_empty (by decide) _
  | algorithm found => exact append_ne_empty (by decide) _
  | claimType expected found =>
    exact append_ne_empty (append_ne_empty (append_ne_empty (by decide) _) _) _
  | signer typeName issuer =>
    intro he
    have hmiddle := (String.append_eq_empty_iff.1 (String.append_eq_empty_iff.1 he).1).2
    exact absurd hmiddle (by decide)
  | signature cause => exact append_ne_empty (by decide) _
  | expired => decide
  | notYetValid => decide

/-! ## Keys from a store -/

namespace KeyResolver

variable {key : Nkey.KeyPair} {store : KeyStore} {name : String}

/-- With a store, the key of an account is that of the seed which the store has for it. -/
theorem resolve_ofStore_eq_ok_iff {account : String} :
    (ofStore store name).resolve account = .ok key ↔
      ∃ seed, store.seed account = .ok seed ∧ Nkey.KeyPair.ofSeedText seed = .ok key := by
  change (store.seed account).mapError _ >>= _ = _ ↔ _
  simp only [bind_eq_ok_iff, mapError_eq_ok_iff]

/-- With a store, the key that signs the answers is that of the seed which the store has under the
issuer's name. -/
theorem resolveAuth_ofStore_eq_ok_iff :
    (ofStore store name).resolveAuth = .ok key ↔
      ∃ seed, store.seed name = .ok seed ∧ Nkey.KeyPair.ofSeedText seed = .ok key :=
  resolve_ofStore_eq_ok_iff

end KeyResolver

/-! ## Pinned tokens and policies -/

/-- The claims that a request is granted by the pinned tokens and by the policies. -/
inductive Granted (store : PinnedStore) (policies : List Policy) (request : Claims AuthRequest) :
    Claims User → Prop
  /-- The claims to which the token is bound, for the user and the account. -/
  | pinned {account : String} {claims : Claims User}
      (presented : request.body.connect.token ≠ "")
      (bound : store.byToken.get? request.body.connect.token = some (account, claims)) :
      Granted store policies request { claims with registered :=
        { claims.registered with subject := request.body.userKey, audience := account } }
  /-- Without a bound token, what the first policy that does not pass issues. -/
  | allowed {account : String} {template : Option UserTemplate}
      (unbound : request.body.connect.token = "" ∨
        store.byToken.get? request.body.connect.token = none)
      (first : Policy.first policies = some (.allow account template))
      (named : Placeholder.expand request.body true account ≠ "") :
      Granted store policies request { Policy.issue template request with registered :=
        { (Policy.issue template request).registered with
          audience := Placeholder.expand request.body true account } }

namespace PinnedStore

theorem lookup_eq_some_iff {store : PinnedStore} {token : String} {found : String × Claims User} :
    store.lookup token = some found ↔ token ≠ "" ∧ store.byToken.get? token = some found := by
  by_cases htoken : token = "" <;> simp [lookup, htoken]

theorem lookup_eq_none_iff {store : PinnedStore} {token : String} :
    store.lookup token = none ↔ token = "" ∨ store.byToken.get? token = none := by
  by_cases htoken : token = "" <;> simp [lookup, htoken]

end PinnedStore

namespace Issuer

variable {issuer : Issuer} {store : PinnedStore} {request : Claims AuthRequest}
  {user : Claims User}

/-- The decision is for the claims that the request is granted. -/
theorem decision_eq_ok_iff :
    issuer.decision store request = .ok user ↔ Granted store issuer.policies request user := by
  rw [decision]
  cases hlookup : store.lookup request.body.connect.token with
  | some found =>
    obtain ⟨account, claims⟩ := found
    obtain ⟨hpresented, hbound⟩ := PinnedStore.lookup_eq_some_iff.1 hlookup
    constructor
    · rintro ⟨⟩
      exact .pinned hpresented hbound
    · intro hgranted
      cases hgranted with
      | pinned _ bound =>
        obtain ⟨rfl, rfl⟩ := Prod.mk.inj (Option.some.inj (hbound.symm.trans bound))
        rfl
      | allowed unbound _ _ =>
        rw [PinnedStore.lookup_eq_none_iff.2 unbound] at hlookup
        cases hlookup
  | none =>
    have hunbound := PinnedStore.lookup_eq_none_iff.1 hlookup
    refine mapError_eq_ok_iff.trans (Policy.evaluate_eq_ok_iff.trans ?_)
    constructor
    · rintro ⟨account, template, hfirst, hnamed, rfl⟩
      exact .allowed hunbound hfirst hnamed
    · intro hgranted
      cases hgranted with
      | pinned presented bound =>
        rw [PinnedStore.lookup_eq_some_iff.2 ⟨presented, bound⟩] at hlookup
        cases hlookup
      | allowed _ first named => exact ⟨_, _, first, named, rfl⟩

/-- Whoever is granted nothing is told something. -/
theorem message_ne_of_decision {cause : IssueError}
    (h : issuer.decision store request = .error cause) : cause.message ≠ "" := by
  rw [decision] at h
  split at h
  · cases h
  · obtain ⟨refusal, hevaluate, rfl⟩ := mapError_eq_error h
    exact Policy.message_ne_of_evaluate hevaluate

end Issuer

end CalloutHost
