import CalloutHost.Nkey
import CalloutHost.Proofs.Ed25519.Points
import CalloutHost.Proofs.Encoding.Base32

/-!
# Texts and pairs of keys

The raw bytes of a key text come back with their checksum (`Nkey.disarm_armour`), and from no other
text of whole groups (`Nkey.disarm_eq_ok_iff`). The text of a public key has 56 bytes
(`Nkey.KeyPair.size_publicText`), and its first letter tells the kind
(`Nkey.KeyPair.head?_publicText`).

A text is read as a public key just where it is the text of one
(`Nkey.KeyPair.ofPublicText_eq_ok_iff`). A pair with a seed signs every message, and the public key
that is read from its text accepts the signature (`Nkey.KeyPair.ofPublicText_publicText`,
`Nkey.KeyPair.verify_sign`).
-/

namespace CalloutHost

/-! ## The checksum -/

namespace Checksum

theorem shift_lt {crc : Nat} (h : crc < 2 ^ 16) : shift crc < 2 ^ 16 := by
  rw [shift]
  split
  · exact Nat.xor_lt_two_pow (Nat.mod_lt _ (by decide)) (by decide)
  · omega

theorem step_lt {crc : Nat} (h : crc < 2 ^ 16) (b : UInt8) : step crc b < 2 ^ 16 := by
  have hb : b.toNat * 256 < 2 ^ 16 := by
    have := b.toNat_lt
    omega
  have hstart := Nat.xor_lt_two_pow h hb
  exact shift_lt (shift_lt (shift_lt (shift_lt (shift_lt (shift_lt (shift_lt (shift_lt hstart)))))))

/-- A checksum has 16 bits. -/
theorem crc16_lt (b : Bytes) : crc16 b < 256 ^ 2 := by
  have hfold : ∀ crc, crc < 2 ^ 16 → b.foldl step crc < 2 ^ 16 := by
    induction b with
    | nil =>
      intro crc h
      rw [List.foldl_nil]
      exact h
    | cons x b ih =>
      intro crc h
      rw [List.foldl_cons]
      exact ih _ (step_lt h x)
  calc crc16 b < 2 ^ 16 := hfold 0 (by decide)
    _ = 256 ^ 2 := by decide

end Checksum

namespace Nkey

/-- The raw bytes of a key text come back. -/
theorem disarm_armour (raw : Bytes) : disarm (armour raw) = .ok raw := by
  have hmap : ∀ b : Bytes, (Except.ok b : Except Base32.Error Bytes).mapError Error.encoding =
      .ok b := fun _ => rfl
  have hsize : (raw ++ Bytes.ofNatLE 2 (Checksum.crc16 raw)).length - 2 = raw.length := by simp
  have hraw : (raw ++ Bytes.ofNatLE 2 (Checksum.crc16 raw)).take raw.length = raw := by simp
  have hsum : (raw ++ Bytes.ofNatLE 2 (Checksum.crc16 raw)).drop raw.length =
      Bytes.ofNatLE 2 (Checksum.crc16 raw) := by simp
  rw [disarm, armour, Bytes.ofText_toCharacters (Base32.ascii_encode _), Base32.decode_encode]
  simp only [hmap, bind, Except.bind, hsize, hraw, hsum,
    Bytes.toNatLE_ofNatLE_of_lt (Checksum.crc16_lt raw), if_true]
  rfl

theorem utf8ByteSize_armour (raw : Bytes) :
    (armour raw).utf8ByteSize = (8 * (raw.length + 2) + 4) / 5 := by
  rw [armour, Bytes.utf8ByteSize_toCharacters (Base32.ascii_encode _), Base32.length_encode,
    List.length_append, Bytes.length_ofNatLE]

/-- The raw bytes of a text that has whole groups of symbols are those that it was made of. -/
theorem disarm_eq_ok_iff {text : String} {raw : Bytes} (hsize : text.utf8ByteSize % 8 = 0)
    (hne : 0 < text.utf8ByteSize) : disarm text = .ok raw ↔ text = armour raw := by
  constructor
  · intro h
    rw [disarm] at h
    obtain ⟨all, hall, h⟩ := bind_eq_ok_iff.1 h
    rw [← Bytes.length_ofText] at hsize hne
    have htext := (Base32.decode_eq_ok_iff hsize).1 (mapError_eq_ok_iff.1 hall)
    have hlen : 2 ≤ all.length := by
      rw [htext, Base32.length_encode] at hsize hne
      omega
    simp only at h
    split at h
    · next hsum =>
      obtain rfl := Except.ok.inj h
      have hdrop : (all.drop (all.length - 2)).length = 2 := by
        rw [List.length_drop]
        omega
      have hlast := Bytes.ofNatLE_toNatLE (all.drop (all.length - 2))
      rw [hdrop, hsum] at hlast
      have hsplit : all.take (all.length - 2) ++
          Bytes.ofNatLE 2 (Checksum.crc16 (all.take (all.length - 2))) = all := by
        rw [hlast, List.take_append_drop]
      rw [armour, hsplit]
      exact Bytes.eq_of_ofText_eq (Base32.ascii_encode all) htext
    · cases h
  · rintro rfl
    exact disarm_armour raw

theorem Kind.ofByte?_eq_some_iff {b : UInt8} {kind : Kind} :
    Kind.ofByte? b = some kind ↔ b = kind.byte := by
  constructor
  · intro h
    have hbyte := List.find?_some (p := fun k : Kind => decide (k.byte = b)) h
    exact (of_decide_eq_true hbyte).symm
  · rintro rfl
    cases kind <;> rfl

theorem Kind.ofByte?_byte (kind : Kind) : Kind.ofByte? kind.byte = some kind :=
  Kind.ofByte?_eq_some_iff.2 rfl

/-- The letter with which the public keys of a kind begin. -/
def Kind.letter : Kind → Char
  | .server => 'N'
  | .cluster => 'C'
  | .operator => 'O'
  | .module => 'M'
  | .account => 'A'
  | .user => 'U'
  | .service => 'V'
  | .curve => 'X'

namespace KeyPair

theorem size_publicText {k : KeyPair} (h : k.point.length = 32) :
    k.publicText.utf8ByteSize = 56 := by
  rw [publicText, utf8ByteSize_armour, List.length_cons, h]

/-- The first letter of a public key tells its kind. -/
theorem head?_publicText (k : KeyPair) : k.publicText.toList.head? = some k.kind.letter := by
  have hletter : Char.ofNat (Base32.symbol (k.kind.byte.toNat / 8)).toNat = k.kind.letter := by
    cases k.kind <;> rfl
  rw [publicText, armour, String.toList_ofList, List.cons_append, Bytes.toCharacters,
    List.head?_map, Base32.head?_encode, ← hletter]
  rfl

/-- A public key begins with the letter `A` just where it is an account's. -/
theorem head?_publicText_eq_account (k : KeyPair) :
    k.publicText.toList.head? = some 'A' ↔ k.kind = .account := by
  rw [head?_publicText]
  cases k.kind <;> decide

end KeyPair

end Nkey

/-! ## Pairs of keys -/

namespace Nkey.KeyPair

variable {k : KeyPair} {seed : Bytes}

theorem length_point (h : k.seed = some seed) : k.point.length = 32 := by
  rw [k.point_eq seed h]
  exact Bytes.length_ofNatLE 32 _

/-- A text is read as a public key just where it is the text of 32 bytes of some kind that are a
point of the curve. -/
theorem ofPublicText_eq_ok_iff {text : String} {k : KeyPair} :
    ofPublicText text = .ok k ↔ ∃ kind point, point.length = 32 ∧
      (Ed25519.Point.ofBytes? point).isSome = true ∧ text = (ofPoint kind point).publicText ∧
        k = ofPoint kind point := by
  constructor
  · intro h
    rw [ofPublicText] at h
    simp only [check_eq_ok_iff] at h
    obtain ⟨hsize, raw, hraw, h⟩ := And.imp_right bind_eq_ok_iff.1 h
    rw [Decidable.not_not] at hsize
    have htext := (disarm_eq_ok_iff (by omega) (by omega)).1 hraw
    split at h
    · next byte point =>
      split at h
      · cases h
      · next kind hkind =>
        obtain rfl := Kind.ofByte?_eq_some_iff.1 hkind
        obtain ⟨hcurve, h⟩ := check_eq_ok_iff.1 h
        obtain rfl := Except.ok.inj h
        rw [htext, utf8ByteSize_armour, List.length_cons] at hsize
        rw [Bool.not_eq_true, Option.isNone_eq_false_iff] at hcurve
        exact ⟨kind, point, by omega, hcurve, htext, rfl⟩
    · cases h
  · rintro ⟨kind, point, hlen, hcurve, rfl, rfl⟩
    have hnone : (Ed25519.Point.ofBytes? point).isNone = false := by
      rw [← Option.not_isSome, hcurve]
      rfl
    rw [ofPublicText, size_publicText hlen, publicText, disarm_armour]
    simp only [bind, Except.bind, ofPoint, Kind.ofByte?_byte, hnone]
    rfl

/-- The text of a public key is read as the key that can only verify. -/
theorem ofPublicText_publicText (h : k.seed = some seed) :
    ofPublicText k.publicText = .ok (ofPoint k.kind k.point) := by
  have hcurve : (Ed25519.Point.ofBytes? k.point).isSome = true := by
    rw [k.point_eq seed h, Ed25519.isSome_ofBytes?_publicKey]
  exact ofPublicText_eq_ok_iff.2 ⟨k.kind, k.point, length_point h, hcurve, rfl, rfl⟩

/-- The text of a seed is read as the pair of that seed. -/
theorem ofSeedText_seedTextOf (kind : Kind) (h : seed.length = 32) :
    ofSeedText (seedTextOf kind seed) = .ok (ofSeed kind seed) := by
  have hsize : (seedTextOf kind seed).utf8ByteSize = 58 := by
    rw [seedTextOf, utf8ByteSize_armour, List.length_cons, List.length_cons, h]
  rw [ofSeedText, hsize, seedTextOf, disarm_armour]
  cases kind <;> rfl

/-- The public key alone accepts what the pair accepts. -/
theorem verify_ofPoint (k : KeyPair) (message signature : Bytes) :
    (ofPoint k.kind k.point).verify message signature = k.verify message signature := rfl

/-- What a pair signed is accepted under its public key. -/
theorem verify_sign (h : k.seed = some seed) (message : Bytes) :
    k.verify message (Ed25519.sign seed k.point message) = .ok () := by
  have hverify := Ed25519.verify_sign seed message
  rw [← k.point_eq seed h] at hverify
  rw [verify, if_neg fun hlen => hlen (Ed25519.length_sign seed k.point message)]
  exact if_pos hverify

theorem verify_eq_ok_iff {message signature : Bytes} :
    k.verify message signature = .ok () ↔
      signature.length = 64 ∧ Ed25519.verify k.point message signature = true := by
  rw [verify]
  split
  · next hlen => simp [hlen]
  · next hlen => split <;> simp_all

end Nkey.KeyPair

end CalloutHost
