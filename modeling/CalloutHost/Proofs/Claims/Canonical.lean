import CalloutHost.Proofs.Claims.Tokens

/-!
# Tokens are canonical

An issuer fills in the identifier, the time, its own name, the type and the version; the rest of the
claims is their content (`Claims.content`). What is signed is made of the content alone
(`Claims.issue_eq_of_content`), and has this content (`Claims.content_issue`), so signing again what
was signed gives the same token (`Claims.encodeTimes_eq`). The identifier can be checked on the
claims that are read from the token (`Claims.encode_canonical`).
-/

namespace CalloutHost.Claims

section Content

variable {β : Type} [ClaimBody β]

/-- The claims without what an issuer fills in. -/
def content (c : Claims β) : Claims β where
  registered := { c.registered with id := "", issuedAt := 0, issuer := "" }
  body := ClaimBody.describe { ClaimBody.descriptor c.body with type := "", version := 0 } c.body

/-- The claims without their identifier. -/
def unidentified (c : Claims β) : Claims β :=
  { c with registered := { c.registered with id := "" } }

/-- The tokens that a key makes of claims at a time when it signs, so many times, what it signed
last, and the claims in the last of them. -/
def encodeTimes (key : Nkey.KeyPair) (now : Int) :
    Nat → Claims β → Except TokenError (List String × Claims β)
  | 0, c => .ok ([], c)
  | count + 1, c => do
    let (token, issued) ← c.encode key now
    let (tokens, last) ← encodeTimes key now count issued
    return (token :: tokens, last)

/-- The identifier is made of the claims without it. -/
theorem id_issue (c : Claims β) (issuer : String) (now : Int) :
    (c.issue issuer now).registered.id = String.ofList (Bytes.toCharacters
      (Base32.encode (Sha512.digest256 (codec.toBytes (c.issue issuer now).unidentified)))) := rfl

end Content

variable {kind : ClaimKind}

/-- Of two descriptors the later counts. -/
theorem describe_describe (d e : Descriptor) (body : kind.Body) :
    ClaimBody.describe d (ClaimBody.describe e body) = ClaimBody.describe d body := by
  cases kind <;> rfl

variable {c d issued other : Claims kind.Body} {key : Nkey.KeyPair} {token : String}

/-- An issuer fills in the same whatever stood there before. -/
theorem issue_content (c : Claims kind.Body) (issuer : String) (now : Int) :
    c.content.issue issuer now = c.issue issuer now := by
  have hstamp : ClaimBody.stamp c.content.body = ClaimBody.stamp c.body := by
    rw [ClaimBody.stamp, content, LawfulBody.descriptor_describe, describe_describe]
    rfl
  rw [issue, issue, hstamp]
  rfl

/-- What is signed depends on the content only. -/
theorem issue_eq_of_content (h : d.content = c.content) (issuer : String) (now : Int) :
    d.issue issuer now = c.issue issuer now := by
  rw [← issue_content d, h, issue_content]

/-- What is signed has the content of the claims. -/
theorem content_issue (c : Claims kind.Body) (issuer : String) (now : Int) :
    (c.issue issuer now).content = c.content := by
  have hbody : (c.issue issuer now).body = ClaimBody.stamp c.body := rfl
  have hregistered : (c.issue issuer now).registered =
      { c.registered with
        id := (c.issue issuer now).registered.id, issuer, issuedAt := clockSeconds now } := rfl
  rw [content, content, hbody, hregistered, ClaimBody.stamp, LawfulBody.descriptor_describe,
    describe_describe]

/-! ## Signing -/

/-- Claims of one content are signed alike, or refused alike. -/
theorem encode_eq_of_content (h : d.content = c.content) (key : Nkey.KeyPair) (now : Int) :
    d.encode key now = c.encode key now := by
  simp only [encode, issue_eq_of_content h]

theorem content_of_encode {now : Int} (h : c.encode key now = .ok (token, issued)) :
    issued.content = c.content := by
  obtain ⟨-, -, rfl⟩ := encode_eq_ok_iff.1 h
  exact content_issue c _ _

/-- Signing what was signed gives the same token and leaves it as it is. -/
theorem encodeTimes_eq {now : Int} (h : c.encode key now = .ok (token, issued)) (count : Nat) :
    c.encodeTimes key now (count + 1) = .ok (List.replicate (count + 1) token, issued) := by
  -- Every round starts from claims of the content of `c`, so it is the round from `c`.
  induction count generalizing c with
  | zero =>
    rw [encodeTimes, h]
    rfl
  | succ count ih =>
    have hagain : issued.encode key now = .ok (token, issued) :=
      (encode_eq_of_content (content_of_encode h) key now).trans h
    rw [encodeTimes, h]
    change (encodeTimes key now (count + 1) issued).bind _ = _
    rw [ih hagain]
    rfl

/-- A token is of one content only. -/
theorem content_eq_of_encode {now : Int} (hc : c.encode key now = .ok (token, issued))
    (hd : d.encode key now = .ok (token, other)) : d.content = c.content := by
  obtain ⟨-, ⟨seed, hseed, htoken⟩, -⟩ := encode_eq_ok_iff.1 hc
  obtain ⟨-, ⟨seed', hseed', htoken'⟩, -⟩ := encode_eq_ok_iff.1 hd
  obtain rfl := Option.some.inj (hseed.symm.trans hseed')
  have hgenuine := genuine_sealed_issue c hseed now
  have hgenuine' := genuine_sealed_issue d hseed now
  rw [← htoken] at hgenuine
  rw [← htoken'] at hgenuine'
  rw [← content_issue c, ← content_issue d, hgenuine.unique hgenuine']

/-- Claims of one content are signed to one token by every key, at every time, and become one and
the same; claims of another content are not. A token is made exactly if the key may sign claims of
the kind. Signing the claims again, however often, gives the token again; it is read as the claims
that were signed, within their bounds, and the digest of these without their identifier is their
identifier. -/
theorem encode_canonical (kind : ClaimKind) (c : Claims kind.Body) (key : Nkey.KeyPair)
    (hseed : key.seed.isSome = true) (now : Int) :
    (∀ d : Claims kind.Body, d.content = c.content → d.encode key now = c.encode key now) ∧
    ((∃ token issued, c.encode key now = .ok (token, issued)) ↔
      key.publicText.toList.head? = some (ClaimBody.signerLetter kind.Body)) ∧
    ∀ token issued, c.encode key now = .ok (token, issued) →
      (∀ d other : Claims kind.Body, d.encode key now = .ok (token, other) →
        d.content = c.content) ∧
      (∀ count, c.encodeTimes key now (count + 1) =
        .ok (List.replicate (count + 1) token, issued)) ∧
      (∀ later, decode token later = (issued.checkTime later).map fun _ => issued) ∧
      issued.registered.id = String.ofList (Bytes.toCharacters
        (Base32.encode (Sha512.digest256 (codec.toBytes issued.unidentified)))) := by
  obtain ⟨seed, hseed⟩ := Option.isSome_iff_exists.1 hseed
  refine ⟨fun d h => encode_eq_of_content h key now, ?_, fun token issued h => ?_⟩
  · constructor
    · rintro ⟨token, issued, h⟩
      exact (encode_eq_ok_iff.1 h).1
    · intro hletter
      exact ⟨_, _, encode_eq_ok_iff.2 ⟨hletter, ⟨seed, hseed, rfl⟩, rfl⟩⟩
  · refine ⟨fun d other hd => content_eq_of_encode h hd, encodeTimes_eq h, fun later => ?_, ?_⟩
    · obtain ⟨-, ⟨seed', hseed', rfl⟩, rfl⟩ := encode_eq_ok_iff.1 h
      exact decode_sealed_issue c hseed' now later
    · obtain ⟨-, -, rfl⟩ := encode_eq_ok_iff.1 h
      exact id_issue c _ _

/-- Claims for a user that another account issued as claims of another type, signed twice by an
account: the token is that of fresh claims. -/
theorem encode_canonical_stale :
    let key := Nkey.KeyPair.ofSeed .account (List.replicate 32 7)
    let fresh : Claims User := .new "U"
    let stale : Claims User :=
      { registered := { fresh.registered with id := "OLD", issuer := "A", issuedAt := 9 }
        body := { fresh.body with descriptor := ⟨[], "account", 1⟩ } }
    key.seed.isSome = true ∧ ∃ token issued, fresh.encode key 5 = .ok (token, issued) ∧
      stale.encodeTimes key 5 2 = .ok ([token, token], issued) := by
  intro key fresh stale
  obtain ⟨hsame, hsigns, hmade⟩ := encode_canonical .user stale key rfl 5
  obtain ⟨token, issued, h⟩ := hsigns.2 key.head?_publicText
  obtain ⟨-, htimes, -⟩ := hmade token issued h
  exact ⟨rfl, token, issued, (hsame fresh rfl).trans h, htimes 1⟩

end CalloutHost.Claims
