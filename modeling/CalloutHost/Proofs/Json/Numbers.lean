import CalloutHost.Json.Doc
import Mathlib.Algebra.Group.Nat.Defs

/-!
# Numbers of JSON read back

A whole number that is written is read as its numeral, if nothing follows that could belong to it
(`Numeral.take_ofInt`), and in 64 bits the numeral has the number as its value
(`Numeral.value_unsigned` and `Numeral.value_signed`).
-/

namespace CalloutHost.Json

/-- What may follow a value in a text: the end, a blank, a comma, or a closing bracket or brace. -/
def Ends (rest : Bytes) : Prop :=
  ∀ b, rest.head? = some b → Doc.isSpace b = true ∨ b = 44 ∨ b = 93 ∨ b = 125

/-- A value is followed by one of these bytes. -/
theorem Ends.mem {rest : Bytes} (h : Ends rest) {b : UInt8} (hb : rest.head? = some b) :
    b ∈ [9, 10, 13, 32, 44, 93, 125] := by
  rcases h b hb with hspace | rfl | rfl | rfl
  · simp only [Doc.isSpace, Bool.or_eq_true, decide_eq_true_eq] at hspace
    rcases hspace with ((rfl | rfl) | rfl) | rfl <;> decide
  · decide
  · decide
  · decide

namespace Numeral

/-! ## Digits -/

theorem lt_of_mem_digits {n d : Nat} (h : d ∈ digits n) : d < 10 := by
  fun_induction digits n with
  | case1 n hn =>
    rw [List.mem_singleton.1 h]
    exact hn
  | case2 n hn ih =>
    rcases List.mem_append.1 h with h | h
    · exact ih h
    · rw [List.mem_singleton.1 h]
      omega

theorem digits_ne_nil (n : Nat) : digits n ≠ [] := by
  rw [digits]
  split <;> simp

/-- The digits of a number other than zero do not begin with zero. -/
theorem head_digits_ne {n : Nat} (h : 0 < n) : (digits n).head? ≠ some 0 := by
  fun_induction digits n with
  | case1 n hn =>
    intro hzero
    rw [List.head?_cons, Option.some.injEq] at hzero
    omega
  | case2 n hn ih =>
    have hfront := ih (by omega)
    cases hdigits : digits (n / 10) with
    | nil => exact absurd hdigits (digits_ne_nil _)
    | cons d ds =>
      rw [hdigits] at hfront
      exact hfront

theorem foldl_digits (n : Nat) : ofDigits (digits n) = n := by
  fun_induction digits n with
  | case1 n hn => simp [ofDigits]
  | case2 n hn ih =>
    rw [ofDigits, List.foldl_append]
    rw [ofDigits] at ih
    rw [ih]
    change 10 * (n / 10) + n % 10 = n
    omega

theorem digitByte_toNat {d : Nat} (h : d < 10) : (digitByte d).toNat = 48 + d := by
  rw [digitByte, UInt8.toNat_ofNat']
  omega

theorem takeDigits_map {ds : List Nat} (hds : ∀ d ∈ ds, d < 10) {rest : Bytes}
    (hrest : ∀ b, rest.head? = some b → ¬(48 ≤ b ∧ b ≤ 57)) :
    takeDigits (ds.map digitByte ++ rest) = (ds, rest) := by
  induction ds with
  | nil =>
    cases rest with
    | nil => rfl
    | cons b rest => rw [List.map_nil, List.nil_append, takeDigits, if_neg (hrest b rfl)]
  | cons d ds ih =>
    have hd : d < 10 := hds d (List.mem_cons_self ..)
    have hbyte := digitByte_toNat hd
    have hrange : 48 ≤ digitByte d ∧ digitByte d ≤ 57 := by
      rw [UInt8.le_iff_toNat_le, UInt8.le_iff_toNat_le, hbyte]
      exact ⟨Nat.le_add_right .., by change 48 + d ≤ 57; omega⟩
    have hvalue : (digitByte d - 48).toNat = d := by
      rw [UInt8.toNat_sub_of_le _ _ hrange.1, hbyte]
      change 48 + d - 48 = d
      omega
    have htail := ih fun x hx => hds x (List.mem_cons_of_mem _ hx)
    rw [List.map_cons, List.cons_append, takeDigits, if_pos hrange, htail, hvalue]

/-! ## Numerals -/

theorem takeFraction_ends {rest : Bytes} (h : Ends rest) :
    takeFraction rest = some (none, rest) := by
  unfold takeFraction
  split
  · next rest' => exact absurd (h.mem rfl) (by decide)
  · rfl

theorem takeExponent_ends {rest : Bytes} (h : Ends rest) :
    takeExponent rest = some (none, rest) := by
  unfold takeExponent
  split
  · next b rest' =>
    rw [if_neg]
    rintro (rfl | rfl)
    · exact absurd (h.mem rfl) (by decide)
    · exact absurd (h.mem rfl) (by decide)
  · rfl

/-- The numeral that a whole number is written as. -/
def ofWhole (n : Int) : Numeral := ⟨decide (n < 0), digits n.natAbs, none, none⟩

/-- Behind its sign, the numeral of a number is taken whole. -/
theorem takeSomeDigits_digits (n : Nat) {rest : Bytes} (h : Ends rest) :
    takeSomeDigits ((digits n).map digitByte ++ rest) = some (digits n, rest) := by
  have hrest : ∀ b, rest.head? = some b → ¬(48 ≤ b ∧ b ≤ 57) := by
    intro b hb
    have hend := h.mem hb
    simp only [List.mem_cons, List.not_mem_nil, or_false] at hend
    rcases hend with rfl | rfl | rfl | rfl | rfl | rfl | rfl <;> decide
  rw [takeSomeDigits, takeDigits_map (fun d hd => lt_of_mem_digits hd) hrest]
  cases hdigits : digits n with
  | nil => exact absurd hdigits (digits_ne_nil n)
  | cons d ds => rfl

theorem no_leading_zero (n : Nat) : ¬((digits n).head? = some 0 ∧ 1 < (digits n).length) := by
  rintro ⟨hhead, hlength⟩
  rcases Nat.eq_zero_or_pos n with rfl | hpos
  · rw [digits, if_pos (by omega)] at hlength
    exact absurd hlength (by decide)
  · exact head_digits_ne hpos hhead

/-- The text of a number without a sign does not begin with one. -/
theorem digits_no_sign (n : Nat) (rest rest' : Bytes) :
    (digits n).map digitByte ++ rest ≠ 45 :: rest' := by
  intro heq
  cases hdigits : digits n with
  | nil => exact digits_ne_nil n hdigits
  | cons d ds =>
    have hd : d < 10 := lt_of_mem_digits (hdigits ▸ List.mem_cons_self ..)
    rw [hdigits] at heq
    have hbyte := congrArg UInt8.toNat (List.cons.inj heq).1
    rw [digitByte_toNat hd] at hbyte
    exact absurd hbyte (by change 48 + d ≠ 45; omega)

/-- A whole number that is written is taken as its numeral. -/
theorem take_ofInt (n : Int) {rest : Bytes} (h : Ends rest) :
    take? (ofInt n ++ rest) = some (ofWhole n, rest) := by
  have hdigits := takeSomeDigits_digits n.natAbs h
  have hzero := no_leading_zero n.natAbs
  by_cases hn : n < 0
  · have hinput : ofInt n ++ rest = 45 :: ((digits n.natAbs).map digitByte ++ rest) := by
      rw [ofInt, if_pos hn]
      rfl
    rw [hinput, take?, ofWhole, decide_eq_true hn]
    simp only [hdigits, Option.bind_eq_bind, Option.bind_some, if_neg hzero, takeFraction_ends h,
      takeExponent_ends h]
    rfl
  · have hinput : ofInt n ++ rest = (digits n.natAbs).map digitByte ++ rest := by
      rw [ofInt, if_neg hn]
      rfl
    rw [hinput, take?, ofWhole, decide_eq_false hn]
    · simp only [hdigits, Option.bind_eq_bind, Option.bind_some, if_neg hzero, takeFraction_ends h,
        takeExponent_ends h]
      rfl
    · exact digits_no_sign _ _

/-! ## Values -/

theorem gather_of_lt {n : Nat} {ds : List Nat}
    (h : ds.foldl (fun n d => 10 * n + d) n < Nat.pow 2 64) :
    gather n ds = (ds.foldl (fun n d => 10 * n + d) n, []) := by
  induction ds generalizing n with
  | nil => rfl
  | cons d ds ih =>
    have hle : ∀ (ds : List Nat) (n : Nat), n ≤ ds.foldl (fun n d => 10 * n + d) n := by
      intro ds
      induction ds with
      | nil => exact fun n => Nat.le_refl n
      | cons d ds ih => exact fun n => Nat.le_trans (by omega) (ih (10 * n + d))
    rw [gather, if_pos (Nat.lt_of_le_of_lt (hle ds _) h)]
    exact ih h

theorem gather_digits {n : Nat} (h : n < 2 ^ 64) : gather 0 (digits n) = (n, []) := by
  have hfold : (digits n).foldl (fun n d => 10 * n + d) 0 = n := foldl_digits n
  rw [gather_of_lt (by rw [hfold]; exact h), hfold]

/-- A number of 64 bits without a sign is the value of its numeral. -/
theorem value_unsigned {n : Int} (h : 0 ≤ n) (hlt : n.natAbs < 2 ^ 64) :
    (ofWhole n).value = some (.unsigned (UInt64.ofNat n.natAbs)) := by
  unfold ofWhole value
  simp only [gather_digits hlt, decide_eq_false (Int.not_lt.mpr h)]
  simp

/-- A number of 64 bits below zero is the value of its numeral. -/
theorem value_signed {n : Int} (h : n < 0) (hle : n.natAbs ≤ 2 ^ 63) :
    (ofWhole n).value = some (.signed (Int64.ofInt n)) := by
  have hlt : n.natAbs < 2 ^ 64 := Nat.lt_of_le_of_lt hle (by decide)
  have hint : -(n.natAbs : Int) = n := by omega
  unfold ofWhole value
  simp only [gather_digits hlt, decide_eq_true h, hint]
  have hrange : 0 < n.natAbs ∧ n.natAbs ≤ Nat.pow 2 63 := ⟨by omega, hle⟩
  simp [hrange]

end Numeral

end CalloutHost.Json
