import CalloutHost.Proofs.Access.Decisions
import CalloutHost.Proofs.Claims.Tokens

/-!
# Answers of an issuer

An answer is made just where the payload is a request and the auth account's key signs
(`Issuer.handle_eq_some_iff`), and it is read as the response that was signed
(`Issuer.decode_answer`). A user's token is made just where the request is granted claims that the
key of their account signs (`Issuer.userToken_eq_ok_iff`).
-/

namespace CalloutHost

/-! ## Keys of accounts -/

/-- The key signs for an account: it is of that kind and has its seed. -/
def Nkey.KeyPair.SignsForAccount (key : Nkey.KeyPair) : Prop :=
  key.kind = .account ∧ key.seed.isSome = true

namespace Claims

variable {β : Type} [ClaimBody β]

/-- Claims that are signed for accounts are made into a token by the keys that sign for accounts,
and by no others. -/
theorem encode_eq_ok_iff_account (hletter : ClaimBody.signerLetter β = 'A') {c : Claims β}
    {key : Nkey.KeyPair} {now : Int} {token : String} {issued : Claims β} :
    c.encode key now = .ok (token, issued) ↔
      key.kind = .account ∧
        (∃ seed, key.seed = some seed ∧ token = (c.issue key.publicText now).sealed seed) ∧
          issued = c.issue key.publicText now := by
  rw [encode_eq_ok_iff, hletter, Nkey.KeyPair.head?_publicText_eq_account]

theorem exists_encode_iff (hletter : ClaimBody.signerLetter β = 'A') (c : Claims β)
    (key : Nkey.KeyPair) (now : Int) :
    (∃ token issued, c.encode key now = .ok (token, issued)) ↔ key.SignsForAccount := by
  constructor
  · rintro ⟨token, issued, h⟩
    obtain ⟨hkind, ⟨seed, hseed, -⟩, -⟩ := (encode_eq_ok_iff_account hletter).1 h
    exact ⟨hkind, Option.isSome_iff_exists.2 ⟨seed, hseed⟩⟩
  · rintro ⟨hkind, hsome⟩
    obtain ⟨seed, hseed⟩ := Option.isSome_iff_exists.1 hsome
    exact ⟨_, _, (encode_eq_ok_iff_account hletter).2 ⟨hkind, ⟨seed, hseed, rfl⟩, rfl⟩⟩

theorem withSignature_ne_empty (c : Claims β) (raw : Bytes) : c.withSignature raw ≠ "" := by
  intro h
  have hlist := congrArg String.toList h
  rw [withSignature, String.toList_ofList] at hlist
  exact absurd hlist (List.append_ne_nil_of_right_ne_nil _ (List.cons_ne_nil _ _))

end Claims

/-! ## Requests and answers -/

/-- The payload is a request that is read at a time. -/
def IsRequest (payload : Bytes) (now : Int) (request : Claims AuthRequest) : Prop :=
  ∃ text, payload.toText? = some text ∧ Claims.decode text now = .ok request

namespace Issuer

variable {issuer : Issuer} {store : PinnedStore} {payload : Bytes} {now : Int}
  {request : Claims AuthRequest}

/-- The response to a request, as it is signed. -/
def answer (issuer : Issuer) (store : PinnedStore) (request : Claims AuthRequest) (now : Int) :
    Claims AuthResponse :=
  response request (issuer.userToken store request now)

theorem handle_eq_some_iff {reply : String} :
    issuer.handle store payload now = some reply ↔
      ∃ request auth issued, IsRequest payload now request ∧
        issuer.keys.resolveAuth = .ok auth ∧
          (issuer.answer store request now).encode auth now = .ok (reply, issued) := by
  rw [handle]
  simp only [Option.bind_eq_bind, Option.bind_eq_some_iff, toOption_eq_some_iff]
  constructor
  · rintro ⟨text, htext, request, hrequest, auth, hauth, ⟨token, issued⟩, htoken, ⟨⟩⟩
    exact ⟨request, auth, issued, ⟨text, htext, hrequest⟩, hauth, htoken⟩
  · rintro ⟨request, auth, issued, ⟨text, htext, hrequest⟩, hauth, htoken⟩
    exact ⟨text, htext, request, hrequest, auth, hauth, ⟨reply, issued⟩, htoken, rfl⟩

theorem userToken_eq_ok_iff {jwt : String} :
    issuer.userToken store request now = .ok jwt ↔
      ∃ user key issued, Granted store issuer.policies request user ∧
        issuer.keys.resolve user.registered.audience = .ok key ∧
          user.encode key now = .ok (jwt, issued) := by
  rw [userToken]
  simp only [bind_eq_ok_iff, mapError_eq_ok_iff, decision_eq_ok_iff]
  constructor
  · rintro ⟨user, huser, key, hkey, ⟨token, issued⟩, htoken, ⟨⟩⟩
    exact ⟨user, key, issued, huser, hkey, htoken⟩
  · rintro ⟨user, key, issued, huser, hkey, htoken⟩
    exact ⟨user, huser, key, hkey, ⟨jwt, issued⟩, htoken, rfl⟩

/-- Whoever gets no token is told something. -/
theorem message_ne_of_userToken {cause : IssueError}
    (h : issuer.userToken store request now = .error cause) : cause.message ≠ "" := by
  rw [userToken] at h
  rcases bind_eq_error h with h | ⟨user, -, h⟩
  · exact message_ne_of_decision h
  · rcases bind_eq_error h with h | ⟨key, -, h⟩
    · obtain ⟨refusal, -, rfl⟩ := mapError_eq_error h
      exact refusal.message_ne
    · rcases bind_eq_error h with h | ⟨token, -, h⟩
      · obtain ⟨refusal, -, rfl⟩ := mapError_eq_error h
        exact refusal.message_ne
      · cases h

/-! ## Reading an answer -/

/-- An answer is read, at any time, as the response that was signed. -/
theorem decode_answer {auth : Nkey.KeyPair} {reply : String} {issued : Claims AuthResponse}
    (h : (issuer.answer store request now).encode auth now = .ok (reply, issued)) (later : Int) :
    Claims.decode reply later = .ok issued := by
  obtain ⟨-, ⟨seed, hseed, rfl⟩, rfl⟩ := (Claims.encode_eq_ok_iff_account rfl).1 h
  have hexpires : ((issuer.answer store request now).issue auth.publicText
      now).registered.expires = 0 := rfl
  have hnotBefore : ((issuer.answer store request now).issue auth.publicText
      now).registered.notBefore = 0 := rfl
  have hcheck : ((issuer.answer store request now).issue auth.publicText now).checkTime later =
      .ok () := by
    rw [Claims.checkTime, hexpires, hnotBefore, if_neg fun hlt => absurd hlt.1 (by decide),
      if_neg fun hlt => absurd hlt.1 (by decide)]
  rw [Claims.decode_sealed_issue _ hseed, hcheck]
  rfl

/-- What is signed in an answer, apart from who signed it and when. -/
theorem of_encode_answer {auth : Nkey.KeyPair} {reply : String} {issued : Claims AuthResponse}
    (h : (issuer.answer store request now).encode auth now = .ok (reply, issued)) :
    issued.registered.issuer = auth.publicText ∧
      issued.registered.subject = request.body.userKey ∧
        issued.registered.audience = request.body.server.id ∧
          issued.body.jwt = (issuer.answer store request now).body.jwt ∧
            issued.body.error = (issuer.answer store request now).body.error := by
  obtain ⟨-, -, rfl⟩ := (Claims.encode_eq_ok_iff_account rfl).1 h
  exact ⟨rfl, rfl, rfl, rfl, rfl⟩

theorem answer_of_ok {jwt : String} (h : issuer.userToken store request now = .ok jwt) :
    (issuer.answer store request now).body.jwt = jwt ∧
      (issuer.answer store request now).body.error = "" := by
  rw [answer, h]
  exact ⟨rfl, rfl⟩

theorem answer_of_error {cause : IssueError}
    (h : issuer.userToken store request now = .error cause) :
    (issuer.answer store request now).body.jwt = "" ∧
      (issuer.answer store request now).body.error = cause.message := by
  rw [answer, h]
  exact ⟨rfl, rfl⟩

theorem userToken_ne_empty {jwt : String} (h : issuer.userToken store request now = .ok jwt) :
    jwt ≠ "" := by
  obtain ⟨user, key, issued, -, -, hencode⟩ := userToken_eq_ok_iff.1 h
  obtain ⟨-, ⟨seed, -, rfl⟩, -⟩ := (Claims.encode_eq_ok_iff_account rfl).1 hencode
  exact Claims.withSignature_ne_empty _ _

/-- An answer has a token just where one was made for the user. -/
theorem answer_jwt_eq_iff {jwt : String} :
    (issuer.answer store request now).body.jwt = jwt ∧ jwt ≠ "" ↔
      issuer.userToken store request now = .ok jwt := by
  cases h : issuer.userToken store request now with
  | ok made =>
    rw [(answer_of_ok h).1]
    constructor
    · rintro ⟨rfl, -⟩
      rfl
    · rintro ⟨⟩
      exact ⟨rfl, userToken_ne_empty h⟩
  | error cause =>
    rw [(answer_of_error h).1]
    constructor
    · rintro ⟨rfl, hne⟩
      exact absurd rfl hne
    · rintro ⟨⟩

end Issuer

end CalloutHost
