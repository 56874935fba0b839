import CalloutHost.Proofs.Claims.Acceptance
import CalloutHost.Proofs.Claims.Layouts

/-!
# Tokens are read as they were written

A key with a seed signs claims of a kind when its public key begins with the letter of the kind
(`Claims.encode_eq_ok_iff`). The token that it makes is read, at any time within their bounds, as
the claims in it (`Claims.decode_sealed_issue`). So for claims of every kind reading a token gives
the claims that were signed, unless the time is beyond the bounds that they set
(`Claims.round_trip`).
-/

namespace CalloutHost

/-- Bodies are read as they were written, and have the descriptor that they were given. -/
class LawfulBody (β : Type) [ClaimBody β] : Prop where
  codec_lawful : (ClaimBody.codec : Json.Codec β).Lawful 3
  descriptor_describe : ∀ (d : Descriptor) (body : β),
    ClaimBody.descriptor (ClaimBody.describe d body) = d

instance : LawfulBody User where
  codec_lawful := User.lawful
  descriptor_describe _ _ := rfl

instance : LawfulBody AuthRequest where
  codec_lawful := AuthRequest.lawful
  descriptor_describe _ _ := rfl

instance : LawfulBody AuthResponse where
  codec_lawful := AuthResponse.lawful.mono (by decide)
  descriptor_describe _ _ := rfl

variable {β : Type} [ClaimBody β]

namespace Claims

/-- The first segment of every token. -/
def headerSegment : List Char := segment (TokenHeader.record.codec.toBytes .standard)

/-- The second segment of a token. -/
def payloadSegment (c : Claims β) : List Char := segment (codec.toBytes c)

/-- The text that is signed for claims. -/
def message (c : Claims β) : Bytes := signedText headerSegment c.payloadSegment

/-- The token of claims as they are, with a signature. -/
def withSignature (c : Claims β) (signature : Bytes) : String :=
  String.ofList (Text.join '.' [headerSegment, c.payloadSegment, segment signature])

/-- The token of claims as they are, signed with a seed. -/
def sealed (c : Claims β) (seed : Bytes) : String :=
  c.withSignature (Ed25519.sign seed (Ed25519.publicKey seed) c.message)

/-! ## Writing -/

/-- Keys of another letter make no token. -/
theorem encode_of_letter_ne {c : Claims β} {key : Nkey.KeyPair}
    (h : key.publicText.toList.head? ≠ some (ClaimBody.signerLetter β)) (now : Int) :
    c.encode key now = .error (.signer (ClaimBody.typeName β) key.publicText) := by
  simp only [encode, h, ne_eq, not_false_iff, if_true]
  rfl

/-- A token is made just where the key may sign such claims and has its seed. -/
theorem encode_eq_ok_iff {c : Claims β} {key : Nkey.KeyPair} {now : Int} {token : String}
    {issued : Claims β} :
    c.encode key now = .ok (token, issued) ↔
      key.publicText.toList.head? = some (ClaimBody.signerLetter β) ∧
        (∃ seed, key.seed = some seed ∧ token = (c.issue key.publicText now).sealed seed) ∧
          issued = c.issue key.publicText now := by
  by_cases hletter : key.publicText.toList.head? = some (ClaimBody.signerLetter β)
  · cases hseed : key.seed with
    | none =>
      have hencode : c.encode key now = .error (.signature .noSeed) := by
        simp only [encode, hletter, Nkey.KeyPair.sign, hseed, ne_eq, not_true, if_false]
        rfl
      simp [hencode]
    | some seed =>
      have hpoint := key.point_eq seed hseed
      have hencode : c.encode key now = .ok ((c.issue key.publicText now).sealed seed,
          c.issue key.publicText now) := by
        simp only [encode, hletter, Nkey.KeyPair.sign, hseed, hpoint, ne_eq, not_true, if_false]
        rfl
      simp [hencode, hletter, eq_comm]
  · simp [encode_of_letter_ne hletter, hletter]

/-! ## Reading -/

theorem split_withSignature (c : Claims β) (raw : Bytes) :
    Text.split '.' (Text.trim (c.withSignature raw).toList) =
      [headerSegment, c.payloadSegment, segment raw] := by
  rw [withSignature, String.toList_ofList]
  exact split_trim_join (List.cons_ne_nil _ [_, _])

/-- A token holds these claims, and a key accepts its signature. Whether the time is within the
bounds of the claims plays no part. -/
def SignedBy (c : Claims β) (key : Nkey.KeyPair) (token : String) : Prop :=
  ∃ header payload signature text raw,
    Text.split '.' (Text.trim token.toList) = [header, payload, signature] ∧
      unsegment payload = .ok text ∧ codec.ofBytes text = .ok c ∧
        unsegment signature = .ok raw ∧ key.verify (signedText header payload) raw = .ok ()

section Decode

variable [LawfulBody β]

theorem ofBytes_toBytes (c : Claims β) : codec.ofBytes (codec.toBytes c) = .ok c :=
  (Claims.lawful LawfulBody.codec_lawful).ofBytes_toBytes (by decide) c

/-- A token with a good signature is genuine. -/
theorem genuine_withSignature {c : Claims β} {key : Nkey.KeyPair} {raw : Bytes}
    (htype : (ClaimBody.descriptor c.body).type = ClaimBody.typeName β)
    (hkey : Nkey.KeyPair.ofPublicText c.registered.issuer = .ok key)
    (hverify : key.verify c.message raw = .ok ()) : Genuine (c.withSignature raw) c := by
  obtain ⟨kind, point, hlen, hcurve, hissuer, rfl⟩ := Nkey.KeyPair.ofPublicText_eq_ok_iff.1 hkey
  obtain ⟨hsize, hverify⟩ := Nkey.KeyPair.verify_eq_ok_iff.1 hverify
  have hheader := TokenHeader.lawful.ofBytes_toBytes (by decide) .standard
  have htext : (c.withSignature raw).toList =
      [] ++ Text.join '.' [headerSegment, c.payloadSegment, segment raw] ++ [] := by
    rw [withSignature, String.toList_ofList, List.nil_append, List.append_nil]
  have hblank : ∀ x ∈ ([] : List Char), Text.isBlank x = true := nofun
  exact ⟨hblank, hblank, htext, hheader, rfl, ofBytes_toBytes c, htype, hissuer, hlen, hcurve,
    hsize, hverify⟩

theorem typeName_issue (c : Claims β) (issuer : String) (now : Int) :
    (ClaimBody.descriptor (c.issue issuer now).body).type = ClaimBody.typeName β := by
  change (ClaimBody.descriptor (ClaimBody.stamp c.body)).type = ClaimBody.typeName β
  rw [ClaimBody.stamp, LawfulBody.descriptor_describe]

/-- Claims that a key signs make a genuine token, whether or not the key may sign such claims. -/
theorem genuine_sealed_issue (c : Claims β) {key : Nkey.KeyPair} {seed : Bytes}
    (hseed : key.seed = some seed) (issuedAt : Int) :
    Genuine ((c.issue key.publicText issuedAt).sealed seed) (c.issue key.publicText issuedAt) := by
  have hkey := Nkey.KeyPair.ofPublicText_publicText hseed
  have hverify := Nkey.KeyPair.verify_sign hseed (c.issue key.publicText issuedAt).message
  rw [← Nkey.KeyPair.verify_ofPoint, key.point_eq seed hseed] at hverify
  rw [key.point_eq seed hseed] at hkey
  exact genuine_withSignature (typeName_issue c _ _) hkey hverify

/-- A token that a key made is read as the claims in it, within their bounds. -/
theorem decode_sealed_issue (c : Claims β) {key : Nkey.KeyPair} {seed : Bytes}
    (hseed : key.seed = some seed) (issuedAt now : Int) :
    decode ((c.issue key.publicText issuedAt).sealed seed) now =
      ((c.issue key.publicText issuedAt).checkTime now).map fun _ =>
        c.issue key.publicText issuedAt := by
  rw [decode_of_genuine (genuine_sealed_issue c hseed issuedAt), checkTime_eq]
  split
  · rfl
  · split <;> rfl

/-- The key that made a token accepts its signature. -/
theorem signedBy_of_encode {c issued : Claims β} {key : Nkey.KeyPair} {now : Int} {token : String}
    (h : c.encode key now = .ok (token, issued)) : issued.SignedBy key token := by
  obtain ⟨-, ⟨seed, hseed, rfl⟩, rfl⟩ := encode_eq_ok_iff.1 h
  have hverify := Nkey.KeyPair.verify_sign hseed (c.issue key.publicText now).message
  rw [key.point_eq seed hseed] at hverify
  exact ⟨_, _, _, _, _, split_withSignature _ _, unsegment_segment _, ofBytes_toBytes _,
    unsegment_segment _, hverify⟩

end Decode

end Claims

/-! ## The round trip -/

/-- The kinds of claims. -/
inductive ClaimKind
  | user
  | request
  | response
  deriving DecidableEq, Repr

namespace ClaimKind

/-- The bodies of claims of a kind. -/
def Body : ClaimKind → Type
  | .user => User
  | .request => AuthRequest
  | .response => AuthResponse

instance : ∀ kind : ClaimKind, ClaimBody kind.Body
  | .user => inferInstanceAs (ClaimBody User)
  | .request => inferInstanceAs (ClaimBody AuthRequest)
  | .response => inferInstanceAs (ClaimBody AuthResponse)

instance : ∀ kind : ClaimKind, LawfulBody kind.Body
  | .user => inferInstanceAs (LawfulBody User)
  | .request => inferInstanceAs (LawfulBody AuthRequest)
  | .response => inferInstanceAs (LawfulBody AuthResponse)

end ClaimKind

namespace Claims

/-- Claims of every kind are signed by the keys with a seed that begin with the letter of the kind,
and the token is read as the claims that were signed, within their bounds. -/
theorem round_trip (kind : ClaimKind) (c : Claims kind.Body) (key : Nkey.KeyPair)
    (hseed : key.seed.isSome = true)
    (hletter : key.publicText.toList.head? = some (ClaimBody.signerLetter kind.Body))
    (issuedAt now : Int) :
    ∃ token issued, c.encode key issuedAt = .ok (token, issued) ∧
      decode token now =
        if 0 < c.registered.expires ∧ c.registered.expires < clockSeconds now then
          .error .expired
        else if 0 < c.registered.notBefore ∧ clockSeconds now < c.registered.notBefore then
          .error .notYetValid
        else .ok issued := by
  obtain ⟨seed, hseed⟩ := Option.isSome_iff_exists.1 hseed
  have hencode : c.encode key issuedAt = .ok ((c.issue key.publicText issuedAt).sealed seed,
      c.issue key.publicText issuedAt) :=
    encode_eq_ok_iff.2 ⟨hletter, ⟨seed, hseed, rfl⟩, rfl⟩
  refine ⟨_, _, hencode, ?_⟩
  have hexpires : (c.issue key.publicText issuedAt).registered.expires = c.registered.expires := rfl
  have hnotBefore : (c.issue key.publicText issuedAt).registered.notBefore =
      c.registered.notBefore := rfl
  rw [decode_sealed_issue c hseed, checkTime, hexpires, hnotBefore]
  split
  · rfl
  · split <;> rfl

/-- An account signs claims for a user that expire after the fifth second: they are refused at the
tenth. -/
theorem round_trip_expired :
    let key := Nkey.KeyPair.ofSeed .account (List.replicate 32 7)
    let fresh : Claims User := Claims.new "U"
    let c : Claims User := { fresh with registered := { fresh.registered with expires := 5 } }
    key.seed.isSome = true ∧ key.publicText.toList.head? = some (ClaimBody.signerLetter User) ∧
      ∃ token issued, c.encode key 0 = .ok (token, issued) ∧
        (decode token 10 : Except TokenError (Claims User)) = .error .expired := by
  intro key fresh c
  have hletter : key.publicText.toList.head? = some (ClaimBody.signerLetter User) :=
    key.head?_publicText
  obtain ⟨token, issued, hencode, hdecode⟩ := round_trip .user c key rfl hletter 0 10
  exact ⟨rfl, hletter, token, issued, hencode, hdecode.trans (if_pos (by decide))⟩

end Claims

end CalloutHost
