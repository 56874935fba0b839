import CalloutHost.Proofs.Access.Answers
import CalloutHost.Proofs.Claims.Tokens

/-!
# Where it matters who signed

Only keys of one letter make tokens of a kind of claims. Whoever reads a token learns that the
issuer which the claims name is a public key that accepts the signature (`Claims.Genuine.signedBy`),
but a key of any letter may be that issuer: claims that such a key issues to itself and signs make a
genuine token. The issuer of user tokens relies on reading alone, so it answers requests whoever
signed them (`Issuer.isSome_handle_iff`).
-/

namespace CalloutHost

/-- The issuer that genuine claims name has accepted the signature. -/
theorem Claims.Genuine.signedBy {β : Type} [ClaimBody β] {token : String} {c : Claims β}
    (h : Claims.Genuine token c) :
    ∃ key : Nkey.KeyPair, c.registered.issuer = key.publicText ∧ c.SignedBy key token := by
  obtain @⟨before, after, header, payload, signature, point, found, kind, hbefore, hafter, htext, -,
    -, hpayload, -, hissuer, -, -, hsize, hverify⟩ := h
  have hne : [header, payload, signature] ≠ [] := List.cons_ne_nil _ _
  have hsplit := (split_trim_eq_iff hne).2 ⟨before, after, hbefore, hafter, htext⟩
  exact ⟨.ofPoint kind point, hissuer, _, _, _, payload, signature, hsplit, unsegment_segment _,
    hpayload, unsegment_segment _, Nkey.KeyPair.verify_eq_ok_iff.2 ⟨hsize, hverify⟩⟩

namespace Issuer

variable {issuer : Issuer} {store : PinnedStore} {token : String} {now : Int}

/-- A request is answered just where its time has come and the auth account's key signs. -/
theorem isSome_handle_iff {request : Claims AuthRequest} (h : Claims.Genuine token request) :
    (issuer.handle store (Bytes.ofText token) now).isSome = true ↔
      (¬request.IsOver now ∧ ¬request.IsEarly now) ∧
        ∃ auth, issuer.keys.resolveAuth = .ok auth ∧ auth.SignsForAccount := by
  rw [Option.isSome_iff_exists]
  constructor
  · rintro ⟨reply, hhandle⟩
    obtain ⟨found, auth, issued, ⟨text, htext, hdecode⟩, hauth, hencode⟩ :=
      handle_eq_some_iff.1 hhandle
    obtain rfl := Option.some.inj ((Bytes.toText?_ofText token).symm.trans htext)
    obtain ⟨hfound, htime⟩ := Claims.decode_eq_ok_iff.1 hdecode
    obtain rfl := h.unique hfound
    have hsigns := (Claims.exists_encode_iff rfl _ auth now).1 ⟨reply, issued, hencode⟩
    exact ⟨htime, auth, hauth, hsigns⟩
  · rintro ⟨htime, auth, hauth, hsigns⟩
    obtain ⟨reply, issued, hencode⟩ :=
      (Claims.exists_encode_iff rfl (issuer.answer store request now) auth now).2 hsigns
    have hdecode := Claims.decode_eq_ok_iff.2 ⟨h, htime⟩
    exact ⟨reply, handle_eq_some_iff.2
      ⟨request, auth, issued, ⟨token, Bytes.toText?_ofText token, hdecode⟩, hauth, hencode⟩⟩

end Issuer

namespace Claims

/-- What encoding says of a key with a seed. -/
theorem encode_ofSeed {β : Type} [ClaimBody β] (c : Claims β) (signer : Nkey.Kind) (seed : Bytes)
    (now : Int) :
    let key := Nkey.KeyPair.ofSeed signer seed
    c.encode key now =
      if signer.letter = ClaimBody.signerLetter β then
        .ok ((c.issue key.publicText now).sealed seed, c.issue key.publicText now)
      else .error (.signer (ClaimBody.typeName β) key.publicText) := by
  intro key
  have hletter : key.publicText.toList.head? = some signer.letter := key.head?_publicText
  split
  · next hsigner =>
    exact encode_eq_ok_iff.2 ⟨hletter.trans (congrArg some hsigner), ⟨seed, rfl, rfl⟩, rfl⟩
  · next hsigner =>
    refine encode_of_letter_ne (fun h => hsigner ?_) now
    exact Option.some.inj (hletter.symm.trans h)

/-- Who may sign claims is checked when they are signed and never again. Claims that are read name
the key that signed them. But whoever holds a seed, of whichever kind the key is, can seal claims of
every kind so that they are read, although no token of them is made for keys of another letter, and
a request that is sealed in this way is answered. -/
theorem signer_checked_once (signer : Nkey.Kind) (seed : Bytes) (issuedAt now : Int) :
    let key := Nkey.KeyPair.ofSeed signer seed
    (∀ (kind : ClaimKind) (token : String) (c : Claims kind.Body), decode token now = .ok c →
      ∃ verifier : Nkey.KeyPair, c.registered.issuer = verifier.publicText ∧
        c.SignedBy verifier token) ∧
    (∀ (kind : ClaimKind) (c : Claims kind.Body),
      let issued := c.issue key.publicText issuedAt
      c.encode key issuedAt =
          (if signer.letter = ClaimBody.signerLetter kind.Body then
            .ok (issued.sealed seed, issued)
          else .error (.signer (ClaimBody.typeName kind.Body) key.publicText)) ∧
        (decode (issued.sealed seed) now = .ok issued ↔
          ¬issued.IsOver now ∧ ¬issued.IsEarly now)) ∧
    ∀ (request : Claims AuthRequest) (issuer : Issuer) (store : PinnedStore),
      let issued := request.issue key.publicText issuedAt
      (issuer.handle store (Bytes.ofText (issued.sealed seed)) now).isSome = true ↔
        (¬issued.IsOver now ∧ ¬issued.IsEarly now) ∧
          ∃ auth, issuer.keys.resolveAuth = .ok auth ∧ auth.SignsForAccount := by
  intro key
  have hseed : key.seed = some seed := rfl
  refine ⟨fun kind token c h => (decode_eq_ok_iff.1 h).1.signedBy,
    fun kind c => ⟨encode_ofSeed c signer seed issuedAt, ?_⟩, fun request issuer store => ?_⟩
  · rw [decode_eq_ok_iff]
    exact and_iff_right (genuine_sealed_issue c hseed issuedAt)
  · exact Issuer.isSome_handle_iff (genuine_sealed_issue request hseed issuedAt)

/-- A user's key cannot make a token of a request, yet a request that it sealed is read, and an
issuer answers it. -/
theorem self_signed_request_answered :
    let seed : Bytes := List.replicate 32 7
    let key := Nkey.KeyPair.ofSeed .user seed
    let request : Claims AuthRequest := .new "UCLIENT"
    let issued := request.issue key.publicText 1700000000
    let issuer := Issuer.new (.ofKey (.ofSeed .account seed))
    request.encode key 1700000000 = .error (.signer "authorization_request" key.publicText) ∧
      decode (issued.sealed seed) 1700000000 = .ok issued ∧
      issued.registered.issuer.toList.head? = some 'U' ∧
      ClaimBody.signerLetter AuthRequest = 'N' ∧
      (issuer.handle .empty (Bytes.ofText (issued.sealed seed)) 1700000000).isSome = true := by
  intro seed key request issued issuer
  have hgenuine : Genuine (issued.sealed seed) issued := genuine_sealed_issue request rfl 1700000000
  have hover : ¬issued.IsOver 1700000000 := fun h => absurd h.1 (by decide)
  have hearly : ¬issued.IsEarly 1700000000 := fun h => absurd h.1 (by decide)
  have hauth : (Nkey.KeyPair.ofSeed .account seed).SignsForAccount := ⟨rfl, rfl⟩
  refine ⟨(encode_ofSeed request .user seed _).trans (if_neg (by decide)),
    decode_eq_ok_iff.2 ⟨hgenuine, hover, hearly⟩, key.head?_publicText, rfl, ?_⟩
  exact (Issuer.isSome_handle_iff hgenuine).2 ⟨⟨hover, hearly⟩, _, rfl, hauth⟩

end Claims

end CalloutHost
