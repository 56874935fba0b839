import CalloutHost.Bytes
import Mathlib.Algebra.Group.Nat.Defs

/-!
# Byte strings as texts and as numbers

The UTF-8 form of a character below 128 is the byte of its number, so the text that has one
character for each of some bytes below 128 has these bytes as its UTF-8 form
(`Bytes.ofText_toCharacters`). Bytes below 128 and characters put together are the UTF-8 form of a
text (`Bytes.IsText`). The bytes of a number write that number if there are enough of them
(`Bytes.toNatLE_ofNatLE`), and bytes that write a number are its bytes (`Bytes.ofNatLE_toNatLE`).
-/

namespace CalloutHost

namespace Bytes

/-- Every byte stands for a seven-bit character. -/
def Ascii (b : Bytes) : Prop := ∀ x ∈ b, x.toNat < 128

theorem toNat_ofNat_byte {n : Nat} (h : n < 256) : (UInt8.ofNat n).toNat = n :=
  UInt8.toNat_ofNat_of_lt' h

theorem ofText_ofList (cs : List Char) :
    ofText (String.ofList cs) = cs.flatMap String.utf8EncodeChar := by
  simp [ofText, String.toUTF8, List.utf8Encode]

theorem utf8EncodeChar_of_lt {c : Char} (h : c.toNat < 128) :
    String.utf8EncodeChar c = [UInt8.ofNat c.toNat] := by
  have hle : c.val.toNat ≤ 0x7f := Nat.le_of_lt_succ h
  simp only [String.utf8EncodeChar, if_pos hle]
  rfl

theorem toNat_ofNat_of_lt {n : Nat} (h : n < 128) : (Char.ofNat n).toNat = n := by
  have table : ∀ m : Fin 128, (Char.ofNat m).toNat = m.val := by decide
  exact table ⟨n, h⟩

theorem ofText_toCharacters {b : Bytes} (h : b.Ascii) :
    ofText (String.ofList b.toCharacters) = b := by
  rw [ofText_ofList]
  induction b with
  | nil => rfl
  | cons x b ih =>
    have hx : x.toNat < 128 := h x (List.mem_cons_self ..)
    have hchar : (Char.ofNat x.toNat).toNat = x.toNat := toNat_ofNat_of_lt hx
    have htail := ih fun y hy => h y (List.mem_cons_of_mem _ hy)
    have hbyte : String.utf8EncodeChar (Char.ofNat x.toNat) = [x] := by
      rw [utf8EncodeChar_of_lt (by rw [hchar]; exact hx), hchar, UInt8.ofNat_toNat]
    rw [toCharacters, List.map_cons, List.flatMap_cons, hbyte]
    exact congrArg (x :: ·) htail

/-- A text is known by its UTF-8 form. -/
theorem ofText_injective {s t : String} (h : ofText s = ofText t) : s = t := by
  have hread := congrArg toText? h
  rw [toText?_ofText, toText?_ofText] at hread
  exact Option.some.inj hread

/-- The text whose UTF-8 form has only bytes below 128 has one character for each. -/
theorem eq_of_ofText_eq {s : String} {b : Bytes} (hb : b.Ascii) (h : ofText s = b) :
    s = String.ofList b.toCharacters :=
  ofText_injective (h.trans (ofText_toCharacters hb).symm)

theorem length_ofText (s : String) : (ofText s).length = s.utf8ByteSize := by
  simp [ofText, String.toUTF8]

theorem utf8ByteSize_toCharacters {b : Bytes} (h : b.Ascii) :
    (String.ofList b.toCharacters).utf8ByteSize = b.length := by
  rw [← length_ofText, ofText_toCharacters h]

/-! ## Bytes that are a text -/

/-- The bytes are the UTF-8 form of a text. -/
def IsText (b : Bytes) : Prop := ∃ s, ofText s = b

theorem IsText.append {a b : Bytes} (ha : a.IsText) (hb : b.IsText) : (a ++ b).IsText := by
  obtain ⟨s, rfl⟩ := ha
  obtain ⟨t, rfl⟩ := hb
  refine ⟨s ++ t, ?_⟩
  simp [ofText, String.toUTF8]

instance (b : Bytes) : Decidable b.Ascii := List.decidableBAll (fun x : UInt8 => x.toNat < 128) b

theorem Ascii.isText {b : Bytes} (h : b.Ascii) : b.IsText := ⟨_, ofText_toCharacters h⟩

theorem IsText.cons {x : UInt8} {b : Bytes} (hx : x.toNat < 128) (hb : b.IsText) :
    IsText (x :: b) :=
  .append (a := [x]) (Ascii.isText fun y hy => by rwa [List.mem_singleton.1 hy]) hb

theorem isText_char (c : Char) : IsText (String.utf8EncodeChar c) :=
  ⟨String.ofList [c], by rw [ofText_ofList, List.flatMap_singleton]⟩

theorem isText_flatMap {γ : Type} {l : List γ} {f : γ → Bytes} (h : ∀ x ∈ l, (f x).IsText) :
    IsText (l.flatMap f) := by
  induction l with
  | nil => exact ⟨"", rfl⟩
  | cons x l ih =>
    rw [List.flatMap_cons]
    exact (h x (List.mem_cons_self ..)).append (ih fun y hy => h y (List.mem_cons_of_mem _ hy))

/-- The UTF-8 form of a character that is not below 128 has no byte below 128. -/
theorem le_of_mem_utf8EncodeChar {c : Char} (h : 128 ≤ c.toNat) {x : UInt8}
    (hx : x ∈ String.utf8EncodeChar c) : 128 ≤ x.toNat := by
  have hlarge : ¬ c.val.toNat ≤ 0x7f := Nat.not_le.2 h
  simp only [String.utf8EncodeChar, if_neg hlarge] at hx
  split at hx
  · simp only [List.mem_cons, List.not_mem_nil, or_false] at hx
    rcases hx with rfl | rfl <;> simp only [UInt8.toNat_ofNat'] <;> omega
  split at hx
  · simp only [List.mem_cons, List.not_mem_nil, or_false] at hx
    rcases hx with rfl | rfl | rfl <;> simp only [UInt8.toNat_ofNat'] <;> omega
  · simp only [List.mem_cons, List.not_mem_nil, or_false] at hx
    rcases hx with rfl | rfl | rfl | rfl <;> simp only [UInt8.toNat_ofNat'] <;> omega

/-! ## Numbers -/

theorem toNatLE_ofNatLE (count n : Nat) : toNatLE (ofNatLE count n) = n % 256 ^ count := by
  induction count generalizing n with
  | zero => simp [ofNatLE, toNatLE, Nat.mod_one]
  | succ count ih =>
    have hbyte : (UInt8.ofNat (n % 256)).toNat = n % 256 := by simp
    rw [ofNatLE, toNatLE, ih, hbyte, Nat.pow_succ, Nat.mul_comm (256 ^ count), Nat.mod_mul]

theorem toNatLE_ofNatLE_of_lt {count n : Nat} (h : n < 256 ^ count) :
    toNatLE (ofNatLE count n) = n := by
  rw [toNatLE_ofNatLE, Nat.mod_eq_of_lt h]

/-- Bytes are known by their count and the number that they write. -/
theorem ofNatLE_toNatLE (b : Bytes) : ofNatLE b.length (toNatLE b) = b := by
  induction b with
  | nil => rfl
  | cons x b ih =>
    have hx := x.toNat_lt
    have hbyte : (x.toNat + 256 * toNatLE b) % 256 = x.toNat := by omega
    have hrest : (x.toNat + 256 * toNatLE b) / 256 = toNatLE b := by omega
    rw [List.length_cons, toNatLE, ofNatLE, hbyte, hrest, ih, UInt8.ofNat_toNat]

end Bytes

end CalloutHost
