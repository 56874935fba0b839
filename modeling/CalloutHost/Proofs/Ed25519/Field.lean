import CalloutHost.Proofs.Ed25519.Edwards
import CalloutHost.Proofs.Ed25519.Primality
import Mathlib.FieldTheory.Finite.Basic

/-!
# The field and its curve

Naturals stand for the elements of the field with `2^255 - 19` elements; powers, inverses,
differences and roots are what they are there. In this field minus one is a square and the constant
`d` is not, so the curve is one whose addition law has no exceptions (`Ed25519.curve`).
-/

namespace CalloutHost.Ed25519

instance : Fact prime.Prime := ⟨prime_prime⟩

/-- The field of the coordinates. -/
abbrev Coordinate : Type := ZMod prime

theorem prime_pos : 0 < prime := prime_prime.pos

theorem two_lt_prime : 2 < prime := by decide +kernel

theorem prime_lt : prime < 2 ^ 255 := by decide +kernel

/-! ## Reduced numbers -/

theorem cast_inj {a b : ℕ} (ha : a < prime) (hb : b < prime) :
    (a : Coordinate) = b ↔ a = b := by
  rw [ZMod.natCast_eq_natCast_iff', Nat.mod_eq_of_lt ha, Nat.mod_eq_of_lt hb]

theorem cast_minus (a : ℕ) {b : ℕ} (h : b ≤ prime) :
    (minus a b : Coordinate) = (a : Coordinate) - b := by
  have hle : b ≤ a + prime := h.trans (Nat.le_add_left _ _)
  rw [minus, ZMod.natCast_mod, Nat.cast_sub hle, Nat.cast_add, ZMod.natCast_self, add_zero]

theorem minus_lt (a b : ℕ) : minus a b < prime := Nat.mod_lt _ prime_pos

theorem mod_le (a : ℕ) : a % prime ≤ prime := (Nat.mod_lt a prime_pos).le

theorem cast_power {bits n : ℕ} (h : n < 2 ^ bits) (b : ℕ) :
    (power bits n b : Coordinate) = (b : Coordinate) ^ n := by
  rw [power_eq, cast_modPower prime h]

theorem power_lt (bits n b : ℕ) : power bits n b < prime := by
  rw [power_eq]
  exact modPower_lt prime_prime.one_lt bits n b

theorem cast_inverse (a : ℕ) : (inverse a : Coordinate) = (a : Coordinate)⁻¹ := by
  have hbits : prime - 2 < 2 ^ 255 := (Nat.sub_le _ _).trans_lt prime_lt
  rw [inverse, cast_power hbits]
  rcases eq_or_ne (a : Coordinate) 0 with h | h
  · rw [h, inv_zero, zero_pow (Nat.sub_pos_of_lt two_lt_prime).ne']
  · refine eq_inv_of_mul_eq_one_left ?_
    rw [← pow_succ, show prime - 2 + 1 = prime - 1 by decide +kernel]
    exact ZMod.pow_card_sub_one_eq_one h

/-! ## Squares -/

theorem root_mul_root : (rootOfMinusOne : Coordinate) * rootOfMinusOne = -1 := by
  have h : (rootOfMinusOne * rootOfMinusOne + 1) % prime = 0 := by decide +kernel
  have hcast := (ZMod.natCast_eq_zero_iff _ prime).2 (Nat.dvd_of_mod_eq_zero h)
  rw [Nat.cast_add, Nat.cast_mul, Nat.cast_one] at hcast
  exact eq_neg_of_add_eq_zero_left hcast

theorem two_ne_zero : (2 : Coordinate) ≠ 0 := by
  intro h
  have hcast : ((2 : ℕ) : Coordinate) = ((0 : ℕ) : Coordinate) := by simpa using h
  exact absurd ((cast_inj two_lt_prime prime_pos).1 hcast) (by decide)

/-- The constant of the curve is no square: half the order of the field takes it to minus one. -/
theorem mul_self_ne_curveD (s : Coordinate) : s * s ≠ curveD := by
  intro hs
  have hne : s ≠ 0 := by
    rintro rfl
    rw [mul_zero] at hs
    have h0 : ((0 : ℕ) : Coordinate) = (curveD : Coordinate) := by simpa using hs
    exact absurd ((cast_inj prime_pos (by decide +kernel)).1 h0) (by decide +kernel)
  have hpower : power 255 ((prime - 1) / 2) curveD = prime - 1 := by decide +kernel
  have hhalf : (curveD : Coordinate) ^ ((prime - 1) / 2) = 1 := by
    rw [← hs, ← pow_two, ← pow_mul, show 2 * ((prime - 1) / 2) = prime - 1 by decide +kernel]
    exact ZMod.pow_card_sub_one_eq_one hne
  have hbits : (prime - 1) / 2 < 2 ^ 255 := by decide +kernel
  rw [← cast_power hbits, hpower] at hhalf
  have hone : ((prime - 1 : ℕ) : Coordinate) = ((1 : ℕ) : Coordinate) := by simpa using hhalf
  exact absurd ((cast_inj (by decide +kernel) (by decide +kernel)).1 hone) (by decide +kernel)

/-- The curve of the signatures. -/
def curve : Edwards Coordinate where
  d := curveD
  root := rootOfMinusOne
  root_mul_root := root_mul_root
  two_ne_zero := two_ne_zero
  mul_self_ne := mul_self_ne_curveD

/-! ## Roots -/

/-- The candidate for a root of a square is a root of it or of its opposite. -/
theorem candidate_mul_candidate {w : ℕ} {s : Coordinate} (hw : (w : Coordinate) = s * s) :
    (power 255 ((prime + 3) / 8) w : Coordinate) * power 255 ((prime + 3) / 8) w = s * s ∨
      (power 255 ((prime + 3) / 8) w : Coordinate) * power 255 ((prime + 3) / 8) w = -(s * s) := by
  have hbits : (prime + 3) / 8 < 2 ^ 255 := by decide +kernel
  have hexponent : 2 * ((prime + 3) / 8 + (prime + 3) / 8) = (prime - 1) / 2 + 2 := by
    decide +kernel
  have hsquare : (power 255 ((prime + 3) / 8) w : Coordinate) * power 255 ((prime + 3) / 8) w =
      s ^ ((prime - 1) / 2) * (s * s) := by
    rw [cast_power hbits, hw, ← pow_add, ← pow_two, ← pow_mul, hexponent, pow_add]
  rcases eq_or_ne s 0 with rfl | hs
  · left
    rw [hsquare, mul_zero, mul_zero]
  · have hunit : s ^ ((prime - 1) / 2) * s ^ ((prime - 1) / 2) = 1 := by
      rw [← pow_add, show (prime - 1) / 2 + (prime - 1) / 2 = prime - 1 by decide +kernel]
      exact ZMod.pow_card_sub_one_eq_one hs
    rcases mul_self_eq_one_iff.1 hunit with h | h
    · exact .inl (by rw [hsquare, h, one_mul])
    · exact .inr (by rw [hsquare, h, neg_one_mul])

theorem mul_mod_eq_iff {r w : ℕ} (hw : w < prime) :
    r * r % prime = w ↔ (r : Coordinate) * r = w := by
  rw [← cast_inj (Nat.mod_lt _ prime_pos) hw, ZMod.natCast_mod, Nat.cast_mul]

/-- Where a quotient is a square, a root is found. -/
theorem quotientRoot?_eq {u v : ℕ} {s : Coordinate} (h : s * s = (u : Coordinate) / v) :
    ∃ r < prime, quotientRoot? u v = some r ∧ (r : Coordinate) * r = s * s := by
  have hw : ((u * power 255 (prime - 2) v % prime : ℕ) : Coordinate) = s * s := by
    rw [ZMod.natCast_mod, Nat.cast_mul, h, div_eq_mul_inv, ← cast_inverse]
    rfl
  have hlt : u * power 255 (prime - 2) v % prime < prime := Nat.mod_lt _ prime_pos
  simp only [quotientRoot?]
  generalize u * power 255 (prime - 2) v % prime = w at hw hlt
  have hcandidate := candidate_mul_candidate hw
  have hr := power_lt 255 ((prime + 3) / 8) w
  generalize power 255 ((prime + 3) / 8) w = r at hcandidate hr
  by_cases hfirst : r * r % prime = w
  · refine ⟨r, hr, if_pos hfirst, ?_⟩
    rw [(mul_mod_eq_iff hlt).1 hfirst, hw]
  · have hopposite : (r : Coordinate) * r = -(s * s) :=
      hcandidate.resolve_left fun hs => hfirst ((mul_mod_eq_iff hlt).2 (hs.trans hw.symm))
    have hsecond : ((r * rootOfMinusOne % prime : ℕ) : Coordinate) *
        (r * rootOfMinusOne % prime : ℕ) = s * s := by
      rw [ZMod.natCast_mod, Nat.cast_mul, mul_mul_mul_comm, hopposite, root_mul_root, neg_mul_neg,
        mul_one]
    refine ⟨_, Nat.mod_lt _ prime_pos, ?_, hsecond⟩
    rw [if_neg hfirst, if_pos ((mul_mod_eq_iff hlt).2 (hsecond.trans hw.symm))]

end CalloutHost.Ed25519
