import CalloutHost.Encoding.Base64Url
import CalloutHost.Proofs.Encoding.ByteStrings
import CalloutHost.Proofs.Outcomes
import CalloutHost.Text.Split

/-!
# Base 64 is read as it was written

`Base64Url.decode_encode`: the text of any byte string stands for that byte string. The symbols of
a text are seven-bit characters that neither are blank nor are a dot (`Base64Url.plain_encode`), so
a text can stand between dots. No other text stands for the byte string
(`Base64Url.decode_eq_ok_iff`).
-/

namespace CalloutHost.Base64Url

open Bytes (Ascii)

/-! ## Symbols -/

theorem digit?_symbol {d : Nat} (h : d < 64) : digit? (symbol d) = some d := by
  have table : ∀ d : Fin 64, digit? (symbol d) = some d.val := by decide
  exact table ⟨d, h⟩

theorem symbol_ne_pad {d : Nat} (h : d < 64) : symbol d ≠ pad := by
  intro he
  have hd := digit?_symbol h
  rw [he] at hd
  exact absurd hd nofun

theorem readDigit_symbol {d : Nat} (h : d < 64) (offset : Nat) :
    readDigit offset (symbol d) = .ok d := by
  rw [readDigit, digit?_symbol h]

/-- The character of a byte may stand in a segment: it is neither a dot nor blank. -/
def Plain (x : UInt8) : Prop :=
  x.toNat < 128 ∧ Char.ofNat x.toNat ≠ '.' ∧ Text.isBlank (Char.ofNat x.toNat) = false

instance (x : UInt8) : Decidable (Plain x) := inferInstanceAs (Decidable (_ ∧ _))

theorem plain_symbol {d : Nat} (h : d < 64) : Plain (symbol d) := by
  have table : ∀ d : Fin 64, Plain (symbol d) := by decide
  exact table ⟨d, h⟩

/-! ## Digits of bytes -/

section Digits

variable (a b c : UInt8)

theorem first_byte {n : Nat} (h : n < 16) :
    UInt8.ofNat (a.toNat / 4 * 4 + (a.toNat % 4 * 16 + n) / 16) = a := by
  have he : a.toNat / 4 * 4 + (a.toNat % 4 * 16 + n) / 16 = a.toNat := by omega
  rw [he, UInt8.ofNat_toNat]

theorem second_byte {n : Nat} (h : n < 4) :
    UInt8.ofNat ((a.toNat % 4 * 16 + b.toNat / 16) % 16 * 16 + (b.toNat % 16 * 4 + n) / 4) = b := by
  have hb := b.toNat_lt
  have he : (a.toNat % 4 * 16 + b.toNat / 16) % 16 * 16 + (b.toNat % 16 * 4 + n) / 4 = b.toNat := by
    omega
  rw [he, UInt8.ofNat_toNat]

theorem third_byte :
    UInt8.ofNat ((b.toNat % 16 * 4 + c.toNat / 64) % 4 * 64 + c.toNat % 64) = c := by
  have hc := c.toNat_lt
  have he : (b.toNat % 16 * 4 + c.toNat / 64) % 4 * 64 + c.toNat % 64 = c.toNat := by omega
  rw [he, UInt8.ofNat_toNat]

end Digits

/-! ## Texts -/

theorem encode_three (a b c : UInt8) (rest : Bytes) :
    encode (a :: b :: c :: rest) =
      [a.toNat / 4, a.toNat % 4 * 16 + b.toNat / 16, b.toNat % 16 * 4 + c.toNat / 64,
        c.toNat % 64].map symbol ++ encode rest :=
  rfl

theorem encode_two (a b : UInt8) :
    encode [a, b] =
      [a.toNat / 4, a.toNat % 4 * 16 + b.toNat / 16, b.toNat % 16 * 4 + 0].map symbol :=
  rfl

theorem encode_one (a : UInt8) :
    encode [a] = [a.toNat / 4, a.toNat % 4 * 16 + 0].map symbol :=
  rfl

theorem small_three (a b c : UInt8) : ∀ d ∈ [a.toNat / 4, a.toNat % 4 * 16 + b.toNat / 16,
    b.toNat % 16 * 4 + c.toNat / 64, c.toNat % 64], d < 64 := by
  have ha := a.toNat_lt
  have hb := b.toNat_lt
  have hc := c.toNat_lt
  simp
  omega

theorem small_two (a b : UInt8) : ∀ d ∈ [a.toNat / 4, a.toNat % 4 * 16 + b.toNat / 16,
    b.toNat % 16 * 4 + 0], d < 64 := by
  have ha := a.toNat_lt
  have hb := b.toNat_lt
  simp
  omega

theorem small_one (a : UInt8) : ∀ d ∈ [a.toNat / 4, a.toNat % 4 * 16 + 0], d < 64 := by
  have ha := a.toNat_lt
  simp
  omega

theorem plain_map {ds : List Nat} (h : ∀ d ∈ ds, d < 64) : ∀ x ∈ ds.map symbol, Plain x := by
  intro x hx
  obtain ⟨d, hd, rfl⟩ := List.mem_map.1 hx
  exact plain_symbol (h d hd)

/-- Every symbol of a text may stand in a segment. -/
theorem plain_encode : ∀ b : Bytes, ∀ x ∈ encode b, Plain x
  | a :: b :: c :: rest => by
    intro x hx
    rw [encode_three] at hx
    rcases List.mem_append.1 hx with hx | hx
    · exact plain_map (small_three a b c) x hx
    · exact plain_encode rest x hx
  | [a, b] => plain_map (small_two a b)
  | [a] => plain_map (small_one a)
  | [] => nofun

theorem ascii_encode (b : Bytes) : Ascii (encode b) := fun x hx => (plain_encode b x hx).1

theorem length_encode_mod_four : ∀ b : Bytes, (encode b).length % 4 ≠ 1
  | a :: b :: c :: rest => by
    have ih := length_encode_mod_four rest
    rw [encode_three, List.length_append, List.length_map]
    simp only [List.length_cons, List.length_nil]
    omega
  | [_, _] => by simp [encode_two]
  | [_] => by simp [encode_one]
  | [] => by simp [encode]

/-! ## Reading -/

theorem readLastDigits_symbols (start offset : Nat) {ds : List Nat} (h : ∀ d ∈ ds, d < 64) :
    readLastDigits start offset none (ds.map symbol) = .ok (ds, false) := by
  induction ds generalizing offset with
  | nil => rfl
  | cons d ds ih =>
    have hd : d < 64 := h d (List.mem_cons_self ..)
    have htail := ih (offset + 1) fun e he => h e (List.mem_cons_of_mem _ he)
    rw [List.map_cons, readLastDigits, if_neg (symbol_ne_pad hd)]
    simp only [readDigit_symbol hd, htail]
    rfl

theorem decodeLast_three (start : Nat) (a b c : UInt8) :
    decodeLast start (encode [a, b, c]) = .ok [a, b, c] := by
  have hb := b.toNat_lt
  have hc := c.toNat_lt
  have hread := readLastDigits_symbols start start (small_three a b c)
  have hfirst := first_byte a (n := b.toNat / 16) (by omega)
  have hsecond := second_byte a b (n := c.toNat / 64) (by omega)
  rw [encode_three, show encode [] = [] from rfl, List.append_nil]
  simp only [decodeLast, hread]
  refine Eq.trans (b := .ok [_, _, _]) rfl ?_
  rw [hfirst, hsecond, third_byte b c]

theorem decodeLast_two (start : Nat) (a b : UInt8) :
    decodeLast start (encode [a, b]) = .ok [a, b] := by
  have hb := b.toNat_lt
  have hread := readLastDigits_symbols start start (small_two a b)
  have hfirst := first_byte a (n := b.toNat / 16) (by omega)
  have hsecond := second_byte a b (n := 0) (by decide)
  have hspare : ¬ (b.toNat % 16 * 4 + 0) % 4 ≠ 0 := by omega
  rw [encode_two]
  simp only [decodeLast, hread, bind, Except.bind, hspare, if_false]
  refine Eq.trans (b := .ok [_, _]) rfl ?_
  rw [hfirst, hsecond]

theorem decodeLast_one (start : Nat) (a : UInt8) :
    decodeLast start (encode [a]) = .ok [a] := by
  have hread := readLastDigits_symbols start start (small_one a)
  have hfirst := first_byte a (n := 0) (by decide)
  have hspare : ¬ (a.toNat % 4 * 16 + 0) % 16 ≠ 0 := by omega
  rw [encode_one]
  simp only [decodeLast, hread, bind, Except.bind, hspare, if_false]
  refine Eq.trans (b := .ok [_]) rfl ?_
  rw [hfirst]

theorem decodeGroups_symbols (start : Nat) {a b c d : Nat} (ha : a < 64) (hb : b < 64)
    (hc : c < 64) (hd : d < 64) {text tail : Bytes} (hne : text ≠ [])
    (htail : decodeGroups (start + 4) text = .ok tail) :
    decodeGroups start ([a, b, c, d].map symbol ++ text) =
      .ok (UInt8.ofNat (a * 4 + b / 16) :: UInt8.ofNat (b % 16 * 16 + c / 4) ::
        UInt8.ofNat (c % 4 * 64 + d) :: tail) := by
  obtain ⟨e, rest, rfl⟩ := List.exists_cons_of_ne_nil hne
  simp only [List.map_cons, List.map_nil, List.cons_append, List.nil_append, decodeGroups,
    readDigit_symbol ha, readDigit_symbol hb, readDigit_symbol hc, readDigit_symbol hd, htail]
  rfl

theorem decodeGroups_encode : ∀ (start : Nat) (b : Bytes), (b = [] → start = 0) →
    decodeGroups start (encode b) = .ok b
  | start, a :: b :: c :: d :: rest, _ => by
    have hb := b.toNat_lt
    have hc := c.toNat_lt
    have htail := decodeGroups_encode (start + 4) (d :: rest) nofun
    have hne : encode (d :: rest) ≠ [] := by
      match rest with
      | [] => exact nofun
      | [_] => exact nofun
      | _ :: _ :: _ => exact nofun
    obtain ⟨h1, h2, h3, h4⟩ := by
      simpa only [List.forall_mem_cons, List.not_mem_nil, false_imp_iff, implies_true, and_true]
        using small_three a b c
    rw [encode_three, decodeGroups_symbols start h1 h2 h3 h4 hne htail,
      first_byte a (n := b.toNat / 16) (by omega), second_byte a b (n := c.toNat / 64) (by omega),
      third_byte b c]
  | start, [a, b, c], _ => decodeLast_three start a b c
  | start, [a, b], _ => decodeLast_two start a b
  | start, [a], _ => decodeLast_one start a
  | start, [], h => by
    rw [h rfl]
    rfl

/-- The text of a byte string stands for that byte string. -/
theorem decode_encode (b : Bytes) : decode (encode b) = .ok b := by
  rw [decode, if_neg fun h => length_encode_mod_four b h.1]
  exact decodeGroups_encode 0 b fun _ => rfl

/-! ## Nothing else is read -/

theorem digit?_eq_some {s : UInt8} {d : Nat} (h : digit? s = some d) : d < 64 ∧ symbol d = s := by
  have table : ∀ n : Fin 256, ∀ d ∈ digit? (UInt8.ofNat n), d < 64 ∧ symbol d = UInt8.ofNat n := by
    decide +kernel
  have hs := table ⟨s.toNat, s.toNat_lt⟩ d
  rw [UInt8.ofNat_toNat] at hs
  exact hs h

theorem readDigit_eq_ok {offset : Nat} {s : UInt8} {d : Nat} (h : readDigit offset s = .ok d) :
    d < 64 ∧ symbol d = s := by
  rw [readDigit] at h
  split at h
  · next e he =>
    obtain rfl : e = d := Except.ok.inj h
    exact digit?_eq_some he
  · cases h

/-- Padding is noticed, wherever it stood. -/
theorem isPadded_of_readLastDigits {start : Nat} {text : Bytes} {ds : List Nat} {isPadded : Bool} :
    ∀ {offset : Nat} {padded : Option Nat}, padded.isSome = true →
      readLastDigits start offset padded text = .ok (ds, isPadded) → isPadded = true := by
  induction text with
  | nil =>
    rintro _ _ hsome ⟨⟩
    exact hsome
  | cons s text ih =>
    intro offset padded hsome h
    obtain ⟨first, rfl⟩ := Option.isSome_iff_exists.1 hsome
    rw [readLastDigits] at h
    split at h
    · split at h
      · cases h
      · exact ih rfl h
    · cases h

theorem readLastDigits_eq_ok {start : Nat} {text : Bytes} : ∀ {offset : Nat} {ds : List Nat},
    readLastDigits start offset none text = .ok (ds, false) →
      (∀ d ∈ ds, d < 64) ∧ text = ds.map symbol := by
  induction text with
  | nil =>
    rintro _ _ ⟨⟩
    exact ⟨nofun, rfl⟩
  | cons s text ih =>
    intro offset ds h
    rw [readLastDigits] at h
    split at h
    · split at h
      · cases h
      · exact absurd (isPadded_of_readLastDigits rfl h) nofun
    · obtain ⟨d, hd, h⟩ := bind_eq_ok_iff.1 h
      obtain ⟨⟨rest, isPadded⟩, hrest, h⟩ := bind_eq_ok_iff.1 h
      obtain ⟨rfl, rfl⟩ := Prod.mk.inj (Except.ok.inj h)
      obtain ⟨hlt, rfl⟩ := readDigit_eq_ok hd
      obtain ⟨hall, rfl⟩ := ih hrest
      exact ⟨List.forall_mem_cons.2 ⟨hlt, hall⟩, rfl⟩

section Groups

variable {a b c d : Nat}

theorem encode_group (ha : a < 64) (hb : b < 64) (hc : c < 64) (hd : d < 64) (rest : Bytes) :
    encode (UInt8.ofNat (a * 4 + b / 16) :: UInt8.ofNat (b % 16 * 16 + c / 4) ::
      UInt8.ofNat (c % 4 * 64 + d) :: rest) = [a, b, c, d].map symbol ++ encode rest := by
  have h1 : (a * 4 + b / 16) / 4 = a := by omega
  have h2 : (a * 4 + b / 16) % 4 * 16 + (b % 16 * 16 + c / 4) / 16 = b := by omega
  have h3 : (b % 16 * 16 + c / 4) % 16 * 4 + (c % 4 * 64 + d) / 64 = c := by omega
  have h4 : (c % 4 * 64 + d) % 64 = d := by omega
  rw [encode_three, Bytes.toNat_ofNat_byte (by omega), Bytes.toNat_ofNat_byte (by omega),
    Bytes.toNat_ofNat_byte (by omega), h1, h2, h3, h4]

theorem encode_pair (ha : a < 64) (hb : b < 64) (hc : c < 64) (hspare : c % 4 = 0) :
    encode [UInt8.ofNat (a * 4 + b / 16), UInt8.ofNat (b % 16 * 16 + c / 4)] =
      [a, b, c].map symbol := by
  have h1 : (a * 4 + b / 16) / 4 = a := by omega
  have h2 : (a * 4 + b / 16) % 4 * 16 + (b % 16 * 16 + c / 4) / 16 = b := by omega
  have h3 : (b % 16 * 16 + c / 4) % 16 * 4 + 0 = c := by omega
  rw [encode_two, Bytes.toNat_ofNat_byte (by omega), Bytes.toNat_ofNat_byte (by omega), h1, h2,
    h3]

theorem encode_lone (ha : a < 64) (hb : b < 64) (hspare : b % 16 = 0) :
    encode [UInt8.ofNat (a * 4 + b / 16)] = [a, b].map symbol := by
  have h1 : (a * 4 + b / 16) / 4 = a := by omega
  have h2 : (a * 4 + b / 16) % 4 * 16 + 0 = b := by omega
  rw [encode_one, Bytes.toNat_ofNat_byte (by omega), h1, h2]

end Groups

theorem decodeLast_eq_ok {start : Nat} {text raw : Bytes} (hlen : text.length ≤ 4)
    (h : decodeLast start text = .ok raw) : text = encode raw := by
  rw [decodeLast] at h
  obtain ⟨⟨ds, isPadded⟩, hds, h⟩ := bind_eq_ok_iff.1 h
  simp only [check_eq_ok_iff] at h
  obtain ⟨hcount, hpadded, h⟩ := h
  rw [Bool.not_eq_true] at hpadded
  subst hpadded
  obtain ⟨hlt, rfl⟩ := readLastDigits_eq_ok hds
  rw [List.length_map] at hlen
  -- A group has no digit, or two to four of them.
  match ds with
  | [] =>
    obtain rfl := Except.ok.inj h
    rfl
  | [a] => exact absurd ⟨nofun, Nat.lt_succ_self 1⟩ hcount
  | [a, b] =>
    simp only [check_eq_ok_iff, List.forall_mem_cons] at h hlt
    obtain rfl := Except.ok.inj h.2
    exact (encode_lone hlt.1 hlt.2.1 (Decidable.not_not.1 h.1)).symm
  | [a, b, c] =>
    simp only [check_eq_ok_iff, List.forall_mem_cons] at h hlt
    obtain rfl := Except.ok.inj h.2
    exact (encode_pair hlt.1 hlt.2.1 hlt.2.2.1 (Decidable.not_not.1 h.1)).symm
  | [a, b, c, d] =>
    simp only [List.forall_mem_cons] at hlt
    obtain rfl := Except.ok.inj h
    exact ((encode_group hlt.1 hlt.2.1 hlt.2.2.1 hlt.2.2.2.1 []).trans (List.append_nil _)).symm
  | _ :: _ :: _ :: _ :: _ :: _ =>
    simp only [List.length_cons] at hlen
    omega

theorem decodeGroups_eq_ok : ∀ {start : Nat} {text raw : Bytes},
    decodeGroups start text = .ok raw → text = encode raw
  | start, a :: b :: c :: d :: e :: rest, raw, h => by
    rw [decodeGroups] at h
    obtain ⟨_, hreada, h⟩ := bind_eq_ok_iff.1 h
    obtain ⟨_, hreadb, h⟩ := bind_eq_ok_iff.1 h
    obtain ⟨_, hreadc, h⟩ := bind_eq_ok_iff.1 h
    obtain ⟨_, hreadd, h⟩ := bind_eq_ok_iff.1 h
    obtain ⟨tail, htail, h⟩ := bind_eq_ok_iff.1 h
    obtain rfl := Except.ok.inj h
    obtain ⟨ha, rfl⟩ := readDigit_eq_ok hreada
    obtain ⟨hb, rfl⟩ := readDigit_eq_ok hreadb
    obtain ⟨hc, rfl⟩ := readDigit_eq_ok hreadc
    obtain ⟨hd, rfl⟩ := readDigit_eq_ok hreadd
    rw [encode_group ha hb hc hd, ← decodeGroups_eq_ok htail]
    rfl
  | start, [], _, h => decodeLast_eq_ok (by decide) h
  | start, [_], _, h => decodeLast_eq_ok (by simp) h
  | start, [_, _], _, h => decodeLast_eq_ok (by simp) h
  | start, [_, _, _], _, h => decodeLast_eq_ok (by simp) h
  | start, [_, _, _, _], _, h => decodeLast_eq_ok (by simp) h

/-- A text stands for a byte string just where it is the text of that byte string. -/
theorem decode_eq_ok_iff {text raw : Bytes} : decode text = .ok raw ↔ text = encode raw := by
  constructor
  · intro h
    rw [decode] at h
    split at h
    · cases h
    · exact decodeGroups_eq_ok h
  · rintro rfl
    exact decode_encode raw

end CalloutHost.Base64Url
