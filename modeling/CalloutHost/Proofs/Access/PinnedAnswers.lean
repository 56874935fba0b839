import CalloutHost.Proofs.Access.PinnedRuns
import CalloutHost.Proofs.Access.Placeholders
import CalloutHost.Proofs.Access.Signers

/-!
# Answers to fresh tokens

A request that presents a pinned token is decided without the policies. A token that was made for an
account brings the claims that a policy issues which allows the account and nothing more, so what is
answered is the same, to the last byte, as what is answered without a bound token where such a
policy decides (`Issuer.handle_minted`). The account has to be one that a policy leaves as it is
(`Placeholder.Ungrouped`): a policy fills the groups in the name of its account, and a pinned token
does not.
-/

namespace CalloutHost

/-! ## Texts without groups -/

/-- No opening brace in the text is followed, at any distance, by a closing one. -/
def Placeholder.Ungrouped (text : String) : Prop :=
  ∀ before rest, text.toList = before ++ '\x7b' :: rest → '\x7d' ∉ rest

/-- Opening braces may stand behind all closing ones. -/
theorem Placeholder.ungrouped_append {front back : List Char} (hfront : '\x7b' ∉ front)
    (hback : '\x7d' ∉ back) : Ungrouped (String.ofList (front ++ back)) := by
  intro before rest h
  rw [String.toList_ofList, List.append_eq_append_iff] at h
  rcases h with ⟨between, -, hbehind⟩ | ⟨between, hbefore, hopen⟩
  · rw [hbehind] at hback
    exact fun hclosed => hback (by simp [hclosed])
  · rcases between with _ | ⟨_, between⟩
    · rw [List.nil_append] at hopen
      exact fun hclosed => hback (hopen ▸ List.mem_cons_of_mem _ hclosed)
    · obtain ⟨rfl, -⟩ := List.cons.inj hopen
      exact absurd (hbefore ▸ List.mem_append_right _ (List.mem_cons_self ..)) hfront

theorem Placeholder.not_hasGroup_of_ungrouped {text : String} (h : Ungrouped text) :
    ¬HasGroup text.toList := by
  rintro ⟨before, key, after, htext⟩
  exact h before _ htext (List.mem_append_right _ (List.mem_cons_self ..))

theorem Placeholder.expand_of_ungrouped {text : String} (h : Ungrouped text) (r : AuthRequest)
    (dropUnknown : Bool) : expand r dropUnknown text = text := by
  rw [expand_eq, expanded_of_not_hasGroup _ _ (not_hasGroup_of_ungrouped h), String.ofList_toList]

/-! ## What is bound to a fresh token -/

namespace SharedPins

variable {x : SharedPins} {e : PinnedStep} {account token : String} {steps : List PinnedStep}

/-- The token that is made for an account is bound to it, without any claims of its own. -/
theorem lookup_step_minted (made : x.minted e = some token)
    (told : (x.step e).1 = some ⟨.getOrCreate account, token⟩) :
    (x.step e).2.store.lookup token = some (account, PinnedStore.defaultClaims account) := by
  have hsettle (seed : Bytes) (hmade : x.store.minted seed account = some token) :
      (x.store.settle seed account).2.lookup token =
        some (account, PinnedStore.defaultClaims account) := by
    obtain ⟨hnone, rfl⟩ := PinnedStore.minted_eq_some_iff.1 hmade
    refine PinnedStore.lookup_eq_some_iff.2 ⟨PinnedStore.mint_ne_empty seed, ?_⟩
    rw [PinnedStore.settle, hnone]
    exact (PinnedStore.byToken_bind ..).trans (if_pos rfl)
  cases e with
  | call c seed =>
    cases c with
    | getOrCreate other =>
      obtain ⟨rfl, -⟩ : other = account ∧ _ := by
        simpa [step, PinnedStore.perform] using told
      change (x.store.getOrCreate seed other).2.lookup token = _
      rw [PinnedStore.getOrCreate_eq_settle]
      exact hsettle seed made
    | lookup | get | pin => cases made
    | add => simp [step, PinnedStore.perform] at told
  | look => cases made
  | settle place seed =>
    rcases hplace : x.waiting[place]? with _ | other
    · rw [minted, hplace] at made
      cases made
    · rw [minted, hplace] at made
      rw [step, hplace] at told ⊢
      obtain ⟨rfl, -⟩ : other = account ∧ _ := by simpa using told
      exact hsettle seed made

/-- It stays so to the end of a run. -/
theorem lookup_run_minted (made : x.minted e = some token)
    (told : (x.step e).1 = some ⟨.getOrCreate account, token⟩)
    (fresh : (x.step e).2.FreshRun steps) :
    ((x.step e).2.run steps).2.store.lookup token =
      some (account, PinnedStore.defaultClaims account) :=
  (run_keeps fresh).lookup (lookup_step_minted made told)

end SharedPins

/-! ## One request, two tokens -/

/-- The request with another token of the client. -/
def AuthRequest.presenting (r : AuthRequest) (token : String) : AuthRequest :=
  { r with connect := { r.connect with token } }

/-- A payload is a request in which the client presents a token. Who signed it does not matter. -/
def Claims.Presents (r : Claims AuthRequest) (token : String) (payload : Bytes) : Prop :=
  ∃ text, ∃ c : Claims AuthRequest, payload.toText? = some text ∧ Claims.Genuine text c ∧
    c.body = r.body.presenting token ∧ c.registered.expires = r.registered.expires ∧
    c.registered.notBefore = r.registered.notBefore

namespace Issuer

variable {issuer : Issuer} {store : PinnedStore} {request r : Claims AuthRequest}
  {account token : String} {payload : Bytes}

/-- The claims for a user of an account, without limits. -/
def plainClaims (userKey account : String) : Claims User :=
  let fresh : Claims User := .new userKey
  { fresh with registered := { fresh.registered with audience := account } }

theorem decision_of_bound
    (bound : store.lookup request.body.connect.token =
      some (account, PinnedStore.defaultClaims account)) :
    issuer.decision store request = .ok (plainClaims request.body.userKey account) := by
  rw [decision, bound]
  rfl

theorem decision_of_allow (unbound : store.lookup request.body.connect.token = none)
    (first : Policy.first issuer.policies = some (.allow account none)) (named : account ≠ "")
    (ungrouped : Placeholder.Ungrouped account) :
    issuer.decision store request = .ok (plainClaims request.body.userKey account) := by
  have hexpand := Placeholder.expand_of_ungrouped ungrouped request.body true
  have hgranted : Granted store issuer.policies request _ :=
    .allowed (PinnedStore.lookup_eq_none_iff.1 unbound) first (by rwa [hexpand])
  rw [hexpand] at hgranted
  exact decision_eq_ok_iff.2 hgranted

/-- The signed answer to a request whose time has come. -/
def signedAnswer (issuer : Issuer) (store : PinnedStore) (request : Claims AuthRequest)
    (now : Int) : Option String := do
  let key ← issuer.keys.resolveAuth.toOption
  let (token, _) ← ((issuer.answer store request now).encode key now).toOption
  return token

/-- What is answered to a payload that is a request. -/
theorem handle_of_genuine {text : String} (htext : payload.toText? = some text)
    (h : Claims.Genuine text request) (now : Int) : issuer.handle store payload now =
      if request.IsOver now ∨ request.IsEarly now then none
      else issuer.signedAnswer store request now := by
  rw [handle, htext, Option.bind_eq_bind, Option.bind_some, Claims.decode_of_genuine h]
  split
  · next hover => rw [if_pos (.inl hover)]; rfl
  · next hover =>
    split
    · next hearly => rw [if_pos (.inr hearly)]; rfl
    · next hearly => rw [if_neg (not_or.2 ⟨hover, hearly⟩)]; rfl

/-- The answer to a request in which the client presents a token that was made for an account is,
byte for byte, the answer at the same time to the same request with a token that is not bound, where
the first policy that does not pass allows the account and nothing more. -/
theorem handle_minted (issuer : Issuer) (r : Claims AuthRequest) (now : Int) {x : SharedPins}
    {e : PinnedStep} (made : x.minted e = some token)
    (told : (x.step e).1 = some ⟨.getOrCreate account, token⟩) {after : List PinnedStep}
    (fresh : (x.step e).2.FreshRun after) (named : account ≠ "")
    (ungrouped : Placeholder.Ungrouped account) {pinned : Bytes} (hpinned : r.Presents token pinned)
    {other : String} {elsewhere : PinnedStore} (unbound : elsewhere.lookup other = none)
    {policies : List Policy} (first : Policy.first policies = some (.allow account none))
    {plain : Bytes} (hplain : r.Presents other plain) :
    issuer.handle ((x.step e).2.run after).2.store pinned now =
      ({ issuer with policies } : Issuer).handle elsewhere plain now := by
  obtain ⟨text, c, htext, hc, hbody, hexpires, hnotBefore⟩ := hpinned
  obtain ⟨text', d, htext', hd, hbody', hexpires', hnotBefore'⟩ := hplain
  have hover : c.IsOver now ↔ d.IsOver now := by
    rw [Claims.IsOver, Claims.IsOver, hexpires, hexpires']
  have hearly : c.IsEarly now ↔ d.IsEarly now := by
    rw [Claims.IsEarly, Claims.IsEarly, hnotBefore, hnotBefore']
  have hbound : ((x.step e).2.run after).2.store.lookup c.body.connect.token = _ :=
    (congrArg _ (congrArg (·.connect.token) hbody)).trans
      (SharedPins.lookup_run_minted made told fresh)
  have hunbound : elsewhere.lookup d.body.connect.token = none :=
    (congrArg _ (congrArg (·.connect.token) hbody')).trans unbound
  have huser : issuer.userToken ((x.step e).2.run after).2.store c now =
      ({ issuer with policies } : Issuer).userToken elsewhere d now := by
    rw [userToken, userToken, decision_of_bound hbound,
      decision_of_allow hunbound first named ungrouped, hbody, hbody']
    rfl
  have hanswer : issuer.answer ((x.step e).2.run after).2.store c now =
      ({ issuer with policies } : Issuer).answer elsewhere d now := by
    unfold answer response
    rw [huser, hbody, hbody']
    rfl
  rw [handle_of_genuine htext hc, handle_of_genuine htext' hd]
  simp only [hover, hearly, signedAnswer, hanswer]

/-- Two callers ask for the token of an account with braces in its name; the first gets a fresh one,
and other tokens are pinned afterwards. A client with the fresh token is told the same as a client
with no token under a list that allows the account behind a policy that does not decide. -/
theorem handle_minted_braces :
    let seed (n : Nat) : Bytes := List.replicate 32 (UInt8.ofNat n)
    let account := String.ofList (['\x7d', 'o'] ++ ['p', '\x7b'])
    let x : SharedPins := (SharedPins.new.run [.look account, .look account]).2
    let e : PinnedStep := .settle 0 (seed 1)
    let after : List PinnedStep := [.settle 0 (seed 2), .call (.pin "t" "B" none) []]
    let r : Claims AuthRequest := .new "UCLIENT"
    let payload (token : String) : Bytes :=
      Bytes.ofText ((({ r with body := r.body.presenting token } : Claims AuthRequest).issue
        (Nkey.KeyPair.ofSeed .server (seed 9)).publicText 1700000000).sealed (seed 9))
    let issuer := Issuer.new (.ofKey (.ofSeed .account (seed 7)))
    ∃ reply, issuer.handle ((x.step e).2.run after).2.store
        (payload (PinnedStore.mint (seed 1))) 1700000000 = some reply ∧
      ({ issuer with policies := [.abstain, .allow account none] } : Issuer).handle .empty
        (payload "") 1700000000 = some reply := by
  intro seed account x e after r payload issuer
  have hserver : (Nkey.KeyPair.ofSeed .server (seed 9)).seed = some (seed 9) := rfl
  have hgenuine (token : String) := Claims.genuine_sealed_issue
    ({ r with body := r.body.presenting token } : Claims AuthRequest) hserver 1700000000
  have hpresents (token : String) : r.Presents token (payload token) :=
    ⟨_, _, Bytes.toText?_ofText _, hgenuine token, rfl, rfl, rfl⟩
  have hsome : (issuer.handle ((x.step e).2.run after).2.store
      (payload (PinnedStore.mint (seed 1))) 1700000000).isSome = true :=
    -- the request has no bounds
    (isSome_handle_iff (hgenuine _)).2
      ⟨⟨fun h => Int64.lt_irrefl h.1, fun h => Int64.lt_irrefl h.1⟩, _, rfl, ⟨rfl, rfl⟩⟩
  have hfresh : (x.step e).2.FreshRun after := ⟨nofun, nofun, trivial⟩
  obtain ⟨reply, hreply⟩ := Option.isSome_iff_exists.1 hsome
  refine ⟨reply, hreply, ?_⟩
  rw [← hreply]
  exact (handle_minted issuer r 1700000000 rfl rfl hfresh (by decide)
    (Placeholder.ungrouped_append (by decide) (by decide)) (hpresents _) rfl rfl
    (hpresents "")).symm

end Issuer

end CalloutHost
