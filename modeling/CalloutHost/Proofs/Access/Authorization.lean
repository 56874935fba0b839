import CalloutHost.Proofs.Access.Answers

/-!
# Who is let in

An issuer answers with a token for the user just where everything that lets the user in is there
(`Issuer.Authorizes`): a request, the auth account's key, granted claims, and the key of their
account. Whatever it answers is signed, addressed to the one who asked, and says either what the
user may do or why it may not connect.
-/

namespace CalloutHost

theorem IsRequest.unique {payload : Bytes} {now : Int} {request other : Claims AuthRequest}
    (h : IsRequest payload now request) (hother : IsRequest payload now other) :
    other = request := by
  obtain ⟨text, htext, hdecode⟩ := h
  obtain ⟨text', htext', hdecode'⟩ := hother
  obtain rfl := Option.some.inj (htext.symm.trans htext')
  exact Except.ok.inj (hdecode'.symm.trans hdecode)

/-- Whatever is granted is granted to the user of the request. -/
theorem Granted.subject_eq {store : PinnedStore} {policies : List Policy}
    {request : Claims AuthRequest} {user : Claims User} (h : Granted store policies request user) :
    user.registered.subject = request.body.userKey := by
  cases h with
  | pinned => rfl
  | allowed =>
    rename_i account template _ _ _
    cases template <;> rfl

namespace Issuer

/-- The issuer answers a payload with a response, as it is read at the time of the answer. -/
def Answers (issuer : Issuer) (store : PinnedStore) (payload : Bytes) (now : Int)
    (response : Claims AuthResponse) : Prop :=
  ∃ reply, issuer.handle store payload now = some reply ∧ Claims.decode reply now = .ok response

/-- Everything that lets a user in is there. -/
structure Authorizes (issuer : Issuer) (store : PinnedStore) (payload : Bytes) (now : Int)
    (request : Claims AuthRequest) (auth : Nkey.KeyPair) (user : Claims User)
    (key : Nkey.KeyPair) : Prop where
  is_request : IsRequest payload now request
  resolve_auth : issuer.keys.resolveAuth = .ok auth
  auth_signs : auth.SignsForAccount
  granted : Granted store issuer.policies request user
  resolve_account : issuer.keys.resolve user.registered.audience = .ok key
  account_signs : key.SignsForAccount

variable {issuer : Issuer} {store : PinnedStore} {payload : Bytes} {now : Int}
  {request : Claims AuthRequest} {auth key : Nkey.KeyPair} {user : Claims User}

/-- An answer is given just where the auth account's key signs. -/
theorem answers_iff {response : Claims AuthResponse} :
    issuer.Answers store payload now response ↔
      ∃ request auth reply, IsRequest payload now request ∧
        issuer.keys.resolveAuth = .ok auth ∧
          (issuer.answer store request now).encode auth now = .ok (reply, response) := by
  constructor
  · rintro ⟨reply, hhandle, hdecode⟩
    obtain ⟨request, auth, issued, hrequest, hauth, hencode⟩ := handle_eq_some_iff.1 hhandle
    obtain rfl := Except.ok.inj ((decode_answer hencode now).symm.trans hdecode)
    exact ⟨request, auth, reply, hrequest, hauth, hencode⟩
  · rintro ⟨request, auth, reply, hrequest, hauth, hencode⟩
    exact ⟨reply, handle_eq_some_iff.2 ⟨request, auth, response, hrequest, hauth, hencode⟩,
      decode_answer hencode now⟩

/-! ## Soundness and completeness -/

/-- Whoever is let in gets the token that the key of the account signs. -/
theorem Authorizes.userToken (h : issuer.Authorizes store payload now request auth user key) :
    ∃ jwt issued, user.encode key now = .ok (jwt, issued) ∧
      issuer.userToken store request now = .ok jwt := by
  obtain ⟨jwt, issued, hencode⟩ := (Claims.exists_encode_iff rfl user key now).2 h.account_signs
  exact ⟨jwt, issued, hencode,
    userToken_eq_ok_iff.2 ⟨user, key, issued, h.granted, h.resolve_account, hencode⟩⟩

/-- Whoever is let in is told the token that the key of the account signs, and of no error. -/
theorem Authorizes.handle (h : issuer.Authorizes store payload now request auth user key) :
    ∃ reply, ∃ response : Claims AuthResponse, ∃ issued,
      issuer.handle store payload now = some reply ∧
        (∀ later, Claims.decode reply later = .ok response) ∧ response.body.error = "" ∧
          user.encode key now = .ok (response.body.jwt, issued) := by
  obtain ⟨jwt, issued, huser, htoken⟩ := h.userToken
  obtain ⟨reply, response, hencode⟩ :=
    (Claims.exists_encode_iff rfl (issuer.answer store request now) auth now).2 h.auth_signs
  obtain ⟨-, -, -, hjwt, herror⟩ := of_encode_answer hencode
  refine ⟨reply, response, issued, handle_eq_some_iff.2 ⟨request, auth, response, h.is_request,
    h.resolve_auth, hencode⟩, decode_answer hencode, ?_, ?_⟩
  · rw [herror, (answer_of_ok htoken).2]
  · rw [hjwt, (answer_of_ok htoken).1, huser]

/-- Where a token is bound, the policies do not matter. -/
theorem userToken_of_bound {found : String × Claims User} (policies : List Policy)
    (h : store.lookup request.body.connect.token = some found) :
    ({ issuer with policies } : Issuer).userToken store request now =
      issuer.userToken store request now := by
  rw [Issuer.userToken, Issuer.userToken, decision, decision, h]

/-- An issuer answers with a token for the user just where everything that lets the user in is
there, and then the token is that of the granted claims. Where the presented token is bound, the
answer is the same under all policies. -/
theorem authorizes_iff (issuer : Issuer) (store : PinnedStore) (payload : Bytes) (now : Int) :
    ((∃ response, issuer.Answers store payload now response ∧ response.body.jwt ≠ "") ↔
      ∃ request auth user key, issuer.Authorizes store payload now request auth user key) ∧
    (∀ response request auth user key, issuer.Answers store payload now response →
      issuer.Authorizes store payload now request auth user key →
        ∃ issued, user.encode key now = .ok (response.body.jwt, issued)) ∧
    (∀ policies request found, IsRequest payload now request →
      store.lookup request.body.connect.token = some found →
        ({ issuer with policies } : Issuer).handle store payload now =
          issuer.handle store payload now) := by
  refine ⟨⟨?_, ?_⟩, ?_, ?_⟩
  · rintro ⟨response, hanswers, hjwt⟩
    obtain ⟨request, auth, reply, hrequest, hauth, hencode⟩ := answers_iff.1 hanswers
    have hsame := (of_encode_answer hencode).2.2.2.1
    have htoken := answer_jwt_eq_iff.1 ⟨hsame.symm, hjwt⟩
    obtain ⟨user, key, issued, hgranted, hkey, huser⟩ := userToken_eq_ok_iff.1 htoken
    exact ⟨request, auth, user, key, hrequest, hauth,
      (Claims.exists_encode_iff rfl _ auth now).1 ⟨_, _, hencode⟩, hgranted, hkey,
      (Claims.exists_encode_iff rfl _ key now).1 ⟨_, _, huser⟩⟩
  · rintro ⟨request, auth, user, key, h⟩
    obtain ⟨jwt, -, -, htoken⟩ := h.userToken
    obtain ⟨reply, response, hencode⟩ :=
      (Claims.exists_encode_iff rfl (issuer.answer store request now) auth now).2 h.auth_signs
    refine ⟨response, answers_iff.2 ⟨request, auth, reply, h.is_request, h.resolve_auth, hencode⟩,
      ?_⟩
    rw [(of_encode_answer hencode).2.2.2.1, (answer_of_ok htoken).1]
    exact userToken_ne_empty htoken
  · intro response request auth user key hanswers h
    obtain ⟨jwt, issued, huser, htoken⟩ := h.userToken
    obtain ⟨request', auth', reply, hrequest, hauth, hencode⟩ := answers_iff.1 hanswers
    obtain rfl := IsRequest.unique h.is_request hrequest
    refine ⟨issued, ?_⟩
    rw [(of_encode_answer hencode).2.2.2.1, (answer_of_ok htoken).1, huser]
  · intro policies request found hrequest hbound
    refine Option.ext fun reply => ?_
    rw [handle_eq_some_iff, handle_eq_some_iff]
    have hanswer : ({ issuer with policies } : Issuer).answer store request now =
        issuer.answer store request now := congrArg _ (userToken_of_bound policies hbound)
    constructor
    · rintro ⟨request', auth, issued, hrequest', hauth, hencode⟩
      obtain rfl := IsRequest.unique hrequest hrequest'
      exact ⟨_, auth, issued, hrequest, hauth, hanswer ▸ hencode⟩
    · rintro ⟨request', auth, issued, hrequest', hauth, hencode⟩
      obtain rfl := IsRequest.unique hrequest hrequest'
      exact ⟨_, auth, issued, hrequest, hauth, hanswer ▸ hencode⟩

/-! ## What is answered -/

/-- A user's token is signed by the key of the account that it names, and names the user. -/
theorem signedBy_of_userToken {jwt : String} (h : issuer.userToken store request now = .ok jwt) :
    ∃ (user : Claims User) (key : Nkey.KeyPair),
      issuer.keys.resolve user.registered.audience = .ok key ∧ key.SignsForAccount ∧
        user.SignedBy key jwt ∧ user.registered.subject = request.body.userKey := by
  obtain ⟨user, key, issued, hgranted, hkey, hencode⟩ := userToken_eq_ok_iff.1 h
  have hsigned := Claims.signedBy_of_encode hencode
  obtain ⟨-, -, rfl⟩ := (Claims.encode_eq_ok_iff_account rfl).1 hencode
  exact ⟨user.issue key.publicText now, key, hkey,
    (Claims.exists_encode_iff rfl user key now).1 ⟨_, _, hencode⟩, hsigned,
    hgranted.subject_eq⟩

/-- An answer has either a token or the reason why there is none. -/
theorem answer_jwt_ne_iff :
    (issuer.answer store request now).body.jwt ≠ "" ↔
      (issuer.answer store request now).body.error = "" := by
  cases h : issuer.userToken store request now with
  | ok jwt =>
    obtain ⟨hjwt, herror⟩ := answer_of_ok h
    rw [hjwt, herror]
    exact iff_of_true (userToken_ne_empty h) rfl
  | error cause =>
    obtain ⟨hjwt, herror⟩ := answer_of_error h
    rw [hjwt, herror]
    exact iff_of_false (fun hne => hne rfl) (message_ne_of_userToken h)

/-- A payload is answered just where it is a request and the auth account's key signs. Every answer
is read, at the time when it was given, as a response that this key signed, for the user and the
server of the request, with either a token or a reason, which is whatever kept the token from being
made. The signature of such a token is accepted by the key of the account that the token names, and
the token is for the user. -/
theorem answers_signed (issuer : Issuer) (store : PinnedStore) (payload : Bytes) (now : Int) :
    ((issuer.handle store payload now).isSome = true ↔
      ∃ request auth, IsRequest payload now request ∧ issuer.keys.resolveAuth = .ok auth ∧
        auth.SignsForAccount) ∧
    ∀ reply, issuer.handle store payload now = some reply →
      ∃ (request : Claims AuthRequest) (auth : Nkey.KeyPair) (response : Claims AuthResponse),
        IsRequest payload now request ∧ issuer.keys.resolveAuth = .ok auth ∧
        Claims.decode reply now = .ok response ∧
        response.registered.issuer = auth.publicText ∧
        response.registered.subject = request.body.userKey ∧
        response.registered.audience = request.body.server.id ∧
        (response.body.jwt ≠ "" ↔ response.body.error = "") ∧
        (∀ cause, issuer.userToken store request now = .error cause →
          response.body.error = cause.message) ∧
        (response.body.jwt ≠ "" → ∃ (user : Claims User) (key : Nkey.KeyPair),
          issuer.keys.resolve user.registered.audience = .ok key ∧ key.SignsForAccount ∧
            user.SignedBy key response.body.jwt ∧
              user.registered.subject = request.body.userKey) := by
  refine ⟨?_, ?_⟩
  · rw [Option.isSome_iff_exists]
    constructor
    · rintro ⟨reply, hhandle⟩
      obtain ⟨request, auth, issued, hrequest, hauth, hencode⟩ := handle_eq_some_iff.1 hhandle
      exact ⟨request, auth, hrequest, hauth,
        (Claims.exists_encode_iff rfl _ auth now).1 ⟨reply, issued, hencode⟩⟩
    · rintro ⟨request, auth, hrequest, hauth, hsigns⟩
      obtain ⟨reply, issued, hencode⟩ :=
        (Claims.exists_encode_iff rfl (issuer.answer store request now) auth now).2 hsigns
      exact ⟨reply, handle_eq_some_iff.2 ⟨request, auth, issued, hrequest, hauth, hencode⟩⟩
  · intro reply hhandle
    obtain ⟨request, auth, issued, hrequest, hauth, hencode⟩ := handle_eq_some_iff.1 hhandle
    obtain ⟨hissuer, hsubject, haudience, hjwt, herror⟩ := of_encode_answer hencode
    refine ⟨request, auth, issued, hrequest, hauth, decode_answer hencode now, hissuer, hsubject,
      haudience, ?_, fun cause hcause => ?_, fun hne => ?_⟩
    · rw [hjwt, herror]
      exact answer_jwt_ne_iff
    · rw [herror, (answer_of_error hcause).2]
    · exact signedBy_of_userToken (answer_jwt_eq_iff.1 ⟨hjwt.symm, hne⟩)

/-- The store gives the auth account's seed and is out of reach when it is asked for that of the
user's account. The answer is signed and says so. -/
theorem answers_signed_out_of_reach :
    let seed : Bytes := List.replicate 32 7
    let seeds : KeyStore := ⟨fun account =>
      if account = "AUTH" then .ok (Nkey.KeyPair.seedTextOf .account seed)
      else .error (.unavailable "timed out")⟩
    let issuer : Issuer :=
      { Issuer.new (.ofStore seeds "AUTH") with policies := [.allow "orders" none] }
    let request : Claims AuthRequest := (.new "UCLIENT" : Claims AuthRequest).issue
      (Nkey.KeyPair.ofSeed .server seed).publicText 1700000000
    ∃ reply, ∃ response : Claims AuthResponse,
      issuer.handle .empty (Bytes.ofText (request.sealed seed)) 1700000000 = some reply ∧
      Claims.decode reply 1700000000 = .ok response ∧
      response.registered.issuer = (Nkey.KeyPair.ofSeed .account seed).publicText ∧
      response.body.jwt = "" ∧ response.body.error = "key store unavailable: timed out" := by
  intro seed seeds issuer request
  have hgenuine : Claims.Genuine (request.sealed seed) request :=
    Claims.genuine_sealed_issue (.new "UCLIENT" : Claims AuthRequest) rfl 1700000000
  have hrequest : IsRequest (Bytes.ofText (request.sealed seed)) 1700000000 request :=
    ⟨_, Bytes.toText?_ofText _, Claims.decode_eq_ok_iff.2
      ⟨hgenuine, fun h => Int64.lt_irrefl h.1, fun h => Int64.lt_irrefl h.1⟩⟩
  have hseed : seeds.seed "AUTH" = .ok (Nkey.KeyPair.seedTextOf .account seed) := by simp [seeds]
  have hauth : issuer.keys.resolveAuth = .ok (.ofSeed .account seed) :=
    KeyResolver.resolveAuth_ofStore_eq_ok_iff.2
      ⟨_, hseed, Nkey.KeyPair.ofSeedText_seedTextOf .account (List.length_replicate ..)⟩
  have hexpand : Placeholder.expand request.body true "orders" = "orders" := by
    rw [Placeholder.expand, TemplatePiece.ofText]
    rfl
  have hgranted : Granted .empty issuer.policies request _ :=
    .allowed (.inl rfl) rfl (by rw [hexpand]; decide)
  have hcause : issuer.userToken .empty request 1700000000 =
      .error (.key (.store (.unavailable "timed out"))) := by
    rw [userToken, decision_eq_ok_iff.2 hgranted, hexpand]
    rfl
  obtain ⟨hanswered, hanswers⟩ :=
    answers_signed issuer .empty (Bytes.ofText (request.sealed seed)) 1700000000
  obtain ⟨reply, hreply⟩ :=
    Option.isSome_iff_exists.1 (hanswered.2 ⟨request, _, hrequest, hauth, rfl, rfl⟩)
  obtain ⟨request', auth, response, hrequest', hauth', hdecode, hissuer, -, -, heither, htold, -⟩ :=
    hanswers reply hreply
  obtain rfl := IsRequest.unique hrequest hrequest'
  obtain rfl := Except.ok.inj (hauth.symm.trans hauth')
  have herror := htold _ hcause
  refine ⟨reply, response, hreply, hdecode, hissuer, ?_, herror⟩
  by_contra hjwt
  rw [heither.1 hjwt] at herror
  exact absurd herror (by decide)

end Issuer

end CalloutHost
