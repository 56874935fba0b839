import CalloutHost.Encoding.Base32
import CalloutHost.Proofs.Encoding.ByteStrings
import CalloutHost.Proofs.Outcomes

/-!
# Base 32 is read as it was written

`Base32.decode_encode`: the text of any byte string stands for that byte string. A text has one
symbol for five bits (`Base32.length_encode`), and all symbols are seven-bit characters.
-/

namespace CalloutHost.Base32

open Bytes (Ascii)

/-! ## Symbols -/

theorem digit?_symbol {d : Nat} (h : d < 32) : digit? (symbol d) = some d := by
  have table : ∀ d : Fin 32, digit? (symbol d) = some d.val := by decide
  exact table ⟨d, h⟩

theorem symbol_lt {d : Nat} (h : d < 32) : (symbol d).toNat < 128 := by
  have table : ∀ d : Fin 32, (symbol d).toNat < 128 := by decide
  exact table ⟨d, h⟩

theorem readDigits_symbols (offset : Nat) {ds : List Nat} (h : ∀ d ∈ ds, d < 32) :
    readDigits offset (ds.map symbol) = .ok ds := by
  induction ds generalizing offset with
  | nil => rfl
  | cons d ds ih =>
    have hd : d < 32 := h d (List.mem_cons_self ..)
    have htail := ih (offset + 1) fun e he => h e (List.mem_cons_of_mem _ he)
    rw [List.map_cons, readDigits, digit?_symbol hd]
    simp only [htail]
    rfl

/-! ## Digits -/

theorem digits_lt : ∀ b : Bytes, ∀ d ∈ digits b, d < 32
  | a :: b :: c :: d :: e :: rest => by
    have ha := a.toNat_lt
    have hb := b.toNat_lt
    have hc := c.toNat_lt
    have hd := d.toNat_lt
    have he := e.toNat_lt
    rw [digits, List.forall_mem_append]
    refine ⟨?_, digits_lt rest⟩
    simp
    omega
  | [a, b, c, d] => by
    have ha := a.toNat_lt
    have hb := b.toNat_lt
    have hc := c.toNat_lt
    have hd := d.toNat_lt
    simp [digits]
    omega
  | [a, b, c] => by
    have ha := a.toNat_lt
    have hb := b.toNat_lt
    have hc := c.toNat_lt
    simp [digits]
    omega
  | [a, b] => by
    have ha := a.toNat_lt
    have hb := b.toNat_lt
    simp [digits]
    omega
  | [a] => by
    have ha := a.toNat_lt
    simp [digits]
    omega
  | [] => nofun

theorem length_digits : ∀ b : Bytes, (digits b).length = (8 * b.length + 4) / 5
  | a :: b :: c :: d :: e :: rest => by
    have ih := length_digits rest
    simp only [digits, List.length_append, List.length_cons, List.length_nil, ih]
    omega
  | [_, _, _, _] => by simp [digits]
  | [_, _, _] => by simp [digits]
  | [_, _] => by simp [digits]
  | [_] => by simp [digits]
  | [] => rfl

theorem length_encode (b : Bytes) : (encode b).length = (8 * b.length + 4) / 5 := by
  rw [encode, List.length_map, length_digits]

theorem head?_encode (x : UInt8) (rest : Bytes) :
    (encode (x :: rest)).head? = some (symbol (x.toNat / 8)) := by
  match rest with
  | [] => rfl
  | [_] => rfl
  | [_, _] => rfl
  | [_, _, _] => rfl
  | _ :: _ :: _ :: _ :: _ => rfl

theorem ascii_encode (b : Bytes) : Ascii (encode b) := by
  intro x hx
  obtain ⟨d, hd, rfl⟩ := List.mem_map.1 hx
  exact symbol_lt (digits_lt b d hd)

/-! ## Reading -/

theorem gather_hold {bits : Nat} (h : bits + 5 < 8) (value d : Nat) (rest : List Nat) :
    gather bits value (d :: rest) = gather (bits + 5) (value * 32 + d) rest := by
  simp only [gather, if_pos h]

/-- Where a byte is full, what is left of the last digit starts the next one. -/
theorem gather_emit {bits value d : Nat} (spare size left : Nat) (x : UInt8)
    (hbits : bits + 5 = 8 + spare) (hsize : Nat.pow 2 spare = size)
    (h : value * 32 + d = x.toNat * size + left) (hleft : left < size) (rest : List Nat) :
    gather bits value (d :: rest) =
      (x :: (gather spare left rest).1, (gather spare left rest).2) := by
  have hspare : bits + 5 - 8 = spare := by omega
  have hfull : ¬ bits + 5 < 8 := by omega
  have hpos : 0 < size := Nat.zero_lt_of_lt hleft
  have hdiv : (x.toNat * size + left) / size = x.toNat := by
    rw [Nat.mul_comm, Nat.mul_add_div hpos, Nat.div_eq_of_lt hleft, Nat.add_zero]
  have hmod : (x.toNat * size + left) % size = left := by
    rw [Nat.mul_comm, Nat.mul_add_mod, Nat.mod_eq_of_lt hleft]
  simp only [gather, if_neg hfull, hspare, hsize, h, hdiv, hmod, UInt8.ofNat_toNat]

section Bytes

variable (x : UInt8) {n : Nat} (rest : List Nat)

theorem gather_first (h : n < 4) :
    gather 0 0 (x.toNat / 8 :: (x.toNat % 8 * 4 + n) :: rest) =
      (x :: (gather 2 n rest).1, (gather 2 n rest).2) := by
  rw [gather_hold (by decide)]
  exact gather_emit 2 4 n x rfl rfl (by omega) h rest

theorem gather_second (h : n < 16) :
    gather 2 (x.toNat / 64) (x.toNat / 2 % 32 :: (x.toNat % 2 * 16 + n) :: rest) =
      (x :: (gather 4 n rest).1, (gather 4 n rest).2) := by
  rw [gather_hold (by decide)]
  exact gather_emit 4 16 n x rfl rfl (by omega) h rest

theorem gather_third (h : n < 2) :
    gather 4 (x.toNat / 16) ((x.toNat % 16 * 2 + n) :: rest) =
      (x :: (gather 1 n rest).1, (gather 1 n rest).2) :=
  gather_emit 1 2 n x rfl rfl (by omega) h rest

theorem gather_fourth (h : n < 8) :
    gather 1 (x.toNat / 128) (x.toNat / 4 % 32 :: (x.toNat % 4 * 8 + n) :: rest) =
      (x :: (gather 3 n rest).1, (gather 3 n rest).2) := by
  rw [gather_hold (by decide)]
  exact gather_emit 3 8 n x rfl rfl (by omega) h rest

theorem gather_fifth :
    gather 3 (x.toNat / 32) (x.toNat % 32 :: rest) =
      (x :: (gather 0 0 rest).1, (gather 0 0 rest).2) :=
  gather_emit 0 1 0 x rfl rfl (by omega) (by decide) rest

end Bytes

/-- The digits of a byte string give its bytes, and no set bit is left. -/
theorem gather_digits : ∀ b : Bytes, gather 0 0 (digits b) = (b, 0)
  | a :: b :: c :: d :: e :: rest => by
    have hb := b.toNat_lt
    have hc := c.toNat_lt
    have hd := d.toNat_lt
    have he := e.toNat_lt
    simp only [digits, List.cons_append, List.nil_append]
    rw [gather_first a _ (by omega), gather_second b _ (by omega), gather_third c _ (by omega),
      gather_fourth d _ (by omega), gather_fifth, gather_digits rest]
  | [a, b, c, d] => by
    have hb := b.toNat_lt
    have hc := c.toNat_lt
    have hd := d.toNat_lt
    have hlast : gather 1 (d.toNat / 128) [d.toNat / 4 % 32, d.toNat % 4 * 8] = ([d], 0) :=
      gather_fourth d (n := 0) [] (by decide)
    rw [digits, gather_first a _ (by omega), gather_second b _ (by omega),
      gather_third c _ (by omega), hlast]
  | [a, b, c] => by
    have hb := b.toNat_lt
    have hc := c.toNat_lt
    have hlast : gather 4 (c.toNat / 16) [c.toNat % 16 * 2] = ([c], 0) :=
      gather_third c (n := 0) [] (by decide)
    rw [digits, gather_first a _ (by omega), gather_second b _ (by omega), hlast]
  | [a, b] => by
    have hb := b.toNat_lt
    have hlast : gather 2 (b.toNat / 64) [b.toNat / 2 % 32, b.toNat % 2 * 16] = ([b], 0) :=
      gather_second b (n := 0) [] (by decide)
    rw [digits, gather_first a _ (by omega), hlast]
  | [a] => gather_first a (n := 0) [] (by decide)
  | [] => rfl

/-- The text of a byte string stands for that byte string. -/
theorem decode_encode (b : Bytes) : decode (encode b) = .ok b := by
  rw [decode, encode, readDigits_symbols 0 (digits_lt b)]
  refine Eq.trans (b := if (gather 0 0 (digits b)).2 = 0 then _ else _) rfl ?_
  rw [gather_digits]
  rfl

/-! ## Nothing else is read -/

theorem digit?_eq_some {s : UInt8} {d : Nat} (h : digit? s = some d) : d < 32 ∧ symbol d = s := by
  have table : ∀ n : Fin 256, ∀ d ∈ digit? (UInt8.ofNat n), d < 32 ∧ symbol d = UInt8.ofNat n := by
    decide +kernel
  have hs := table ⟨s.toNat, s.toNat_lt⟩ d
  rw [UInt8.ofNat_toNat] at hs
  exact hs h

theorem readDigits_eq_ok {text : Bytes} : ∀ {offset : Nat} {ds : List Nat},
    readDigits offset text = .ok ds → (∀ d ∈ ds, d < 32) ∧ text = ds.map symbol := by
  induction text with
  | nil =>
    rintro _ _ ⟨⟩
    exact ⟨nofun, rfl⟩
  | cons s text ih =>
    intro offset ds h
    rw [readDigits] at h
    split at h
    · cases h
    · next d hd =>
      cases hrest : readDigits (offset + 1) text with
      | error cause =>
        rw [hrest] at h
        cases h
      | ok rest =>
        rw [hrest] at h
        obtain rfl := Except.ok.inj h
        obtain ⟨hlt, rfl⟩ := digit?_eq_some hd
        obtain ⟨hall, rfl⟩ := ih hrest
        exact ⟨List.forall_mem_cons.2 ⟨hlt, hall⟩, rfl⟩

/-- Eight digits are the digits of five bytes. -/
theorem digits_group {a b c d e f g h : Nat} (hlt : ∀ n ∈ [a, b, c, d, e, f, g, h], n < 32)
    (rest : Bytes) :
    digits (UInt8.ofNat (a * 8 + b / 4) :: UInt8.ofNat (b % 4 * 64 + c * 2 + d / 16) ::
      UInt8.ofNat (d % 16 * 16 + e / 2) :: UInt8.ofNat (e % 2 * 128 + f * 4 + g / 8) ::
      UInt8.ofNat (g % 8 * 32 + h) :: rest) = [a, b, c, d, e, f, g, h] ++ digits rest := by
  simp only [List.forall_mem_cons] at hlt
  obtain ⟨ha, hb, hc, hd, he, hf, hg, hh, -⟩ := hlt
  rw [digits, Bytes.toNat_ofNat_byte (n := a * 8 + b / 4) (by omega),
    Bytes.toNat_ofNat_byte (n := b % 4 * 64 + c * 2 + d / 16) (by omega),
    Bytes.toNat_ofNat_byte (n := d % 16 * 16 + e / 2) (by omega),
    Bytes.toNat_ofNat_byte (n := e % 2 * 128 + f * 4 + g / 8) (by omega),
    Bytes.toNat_ofNat_byte (n := g % 8 * 32 + h) (by omega)]
  congr 1
  simp only [List.cons.injEq, and_true]
  omega

theorem exists_digits : ∀ {ds : List Nat}, ds.length % 8 = 0 → (∀ d ∈ ds, d < 32) →
    ∃ b, digits b = ds
  | [], _, _ => ⟨[], rfl⟩
  | a :: b :: c :: d :: e :: f :: g :: h :: rest, hlen, hlt => by
    have hsplit : a :: b :: c :: d :: e :: f :: g :: h :: rest =
        [a, b, c, d, e, f, g, h] ++ rest := rfl
    rw [hsplit, List.forall_mem_append] at hlt
    have hrest : rest.length % 8 = 0 := by
      simp only [List.length_cons] at hlen
      omega
    obtain ⟨tail, htail⟩ := exists_digits hrest hlt.2
    exact ⟨_, (digits_group hlt.1 tail).trans (by rw [htail, hsplit])⟩
  | [_], hlen, _ | [_, _], hlen, _ | [_, _, _], hlen, _ | [_, _, _, _], hlen, _
  | [_, _, _, _, _], hlen, _ | [_, _, _, _, _, _], hlen, _ | [_, _, _, _, _, _, _], hlen, _ => by
    simp at hlen

/-- A text of whole groups stands for a byte string just where it is the text of that byte string.
-/
theorem decode_eq_ok_iff {text raw : Bytes} (hlen : text.length % 8 = 0) :
    decode text = .ok raw ↔ text = encode raw := by
  constructor
  · intro h
    rw [decode] at h
    obtain ⟨ds, hds, h⟩ := bind_eq_ok_iff.1 h
    obtain ⟨hlt, rfl⟩ := readDigits_eq_ok hds
    rw [List.length_map] at hlen
    obtain ⟨b, rfl⟩ := exists_digits hlen hlt
    simp only [gather_digits, if_true] at h
    obtain rfl := Except.ok.inj h
    rfl
  · rintro rfl
    exact decode_encode raw

end CalloutHost.Base32
