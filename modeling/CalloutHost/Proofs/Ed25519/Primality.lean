import CalloutHost.Crypto.Ed25519
import Mathlib.NumberTheory.LucasPrimality
import Mathlib.Tactic.NormNum.Prime

/-!
# The field has prime order

A number `n` is prime if some number has the order `n - 1` modulo `n`, and that is a matter of a
few modular powers once the prime factors of `n - 1` are known (`Lucas.prime_number`). Going down
the factors in this way ends with small numbers, and so `2^255 - 19` is prime
(`Ed25519.prime_prime`).
-/

namespace CalloutHost

/-! ## Modular powers -/

/-- `b ^ n` modulo `m`, where `n` is below `2 ^ bits`. -/
def modPower (m : ℕ) : ℕ → ℕ → ℕ → ℕ
  | 0, _, _ => 1
  | bits + 1, n, b =>
    let rest := modPower m bits (n / 2) (b * b % m)
    if n % 2 = 1 then rest * b % m else rest

theorem Ed25519.power_eq (bits n b : ℕ) : power bits n b = modPower prime bits n b := by
  induction bits generalizing n b with
  | zero => rfl
  | succ bits ih => rw [power, modPower, ih]

theorem modPower_lt {m : ℕ} (hm : 1 < m) (bits n b : ℕ) : modPower m bits n b < m := by
  induction bits generalizing n b with
  | zero => exact hm
  | succ bits ih =>
    rw [modPower]
    split
    · exact Nat.mod_lt _ (by omega)
    · exact ih _ _

theorem cast_modPower (m : ℕ) {bits n : ℕ} (h : n < 2 ^ bits) (b : ℕ) :
    (modPower m bits n b : ZMod m) = (b : ZMod m) ^ n := by
  induction bits generalizing n b with
  | zero =>
    obtain rfl : n = 0 := by simpa using h
    simp [modPower]
  | succ bits ih =>
    have hhalf : n / 2 < 2 ^ bits := by
      rw [Nat.pow_succ] at h
      omega
    have hrest : (modPower m bits (n / 2) (b * b % m) : ZMod m) = (b : ZMod m) ^ (2 * (n / 2)) := by
      rw [ih hhalf, ZMod.natCast_mod, Nat.cast_mul, ← pow_two, ← pow_mul]
    rw [modPower]
    split
    · rw [ZMod.natCast_mod, Nat.cast_mul, hrest, ← pow_succ]
      congr 1
      omega
    · rw [hrest]
      congr 1
      omega

/-! ## Lucas' criterion -/

/-- A number with the prime factors of its predecessor, and a number that has this predecessor as
its order. -/
structure Lucas where
  number : ℕ
  bits : ℕ
  /-- What has the order. -/
  witness : ℕ
  /-- The factors of the predecessor. -/
  factors : List ℕ

namespace Lucas

/-- The witness has the order, as its powers at the predecessor over one of the factors tell. -/
def Holds (c : Lucas) : Prop :=
  1 < c.number ∧ c.number ≤ 2 ^ c.bits ∧ c.factors.prod = c.number - 1 ∧
    modPower c.number c.bits (c.number - 1) c.witness = 1 ∧
    ∀ q ∈ c.factors, modPower c.number c.bits ((c.number - 1) / q) c.witness ≠ 1

instance (c : Lucas) : Decidable c.Holds := inferInstanceAs (Decidable (_ ∧ _))

theorem prime_number {c : Lucas} (h : c.Holds) (hprime : ∀ q ∈ c.factors, q.Prime) :
    c.number.Prime := by
  obtain ⟨hn, hbits, hprod, hone, hne⟩ := h
  have hpower : ∀ e < c.number, (modPower c.number c.bits e c.witness : ZMod c.number) =
      (c.witness : ZMod c.number) ^ e := fun e he => cast_modPower _ (he.trans_le hbits) _
  refine lucas_primality c.number c.witness ?_ fun q hq hdvd hpow => ?_
  · rw [← hpower _ (by omega), hone, Nat.cast_one]
  · have hmem : q ∈ c.factors := by
      rw [← hprod] at hdvd
      exact mem_list_primes_of_dvd_prod hq.prime (fun r hr => (hprime r hr).prime) hdvd
    have hlt : (c.number - 1) / q < c.number := (Nat.div_le_self _ _).trans_lt (by omega)
    have hcast : ((modPower c.number c.bits ((c.number - 1) / q) c.witness : ℕ) : ZMod c.number) =
        ((1 : ℕ) : ZMod c.number) := by rw [hpower _ hlt, hpow, Nat.cast_one]
    have hval := (ZMod.natCast_eq_natCast_iff' _ _ _).1 hcast
    rw [Nat.mod_eq_of_lt (modPower_lt hn _ _ _), Nat.mod_eq_of_lt hn] at hval
    exact hne q hmem hval

/-- Each number has only factors that are known or came before. -/
def Chain (known : List ℕ) : List Lucas → Prop
  | [] => True
  | c :: rest => (c.Holds ∧ ∀ q ∈ c.factors, q ∈ known) ∧ Chain (c.number :: known) rest

instance decidableChain : ∀ (known : List ℕ) (l : List Lucas), Decidable (Chain known l)
  | _, [] => inferInstanceAs (Decidable True)
  | known, c :: rest =>
    have := decidableChain (c.number :: known) rest
    inferInstanceAs (Decidable (_ ∧ _))

theorem Chain.prime_number {l : List Lucas} {known : List ℕ} (h : Chain known l)
    (hknown : ∀ q ∈ known, q.Prime) : ∀ c ∈ l, c.number.Prime := by
  induction l generalizing known with
  | nil => nofun
  | cons c rest ih =>
    obtain ⟨⟨hc, hfactors⟩, hrest⟩ := h
    have hprime : c.number.Prime := Lucas.prime_number hc fun q hq => hknown q (hfactors q hq)
    intro e he
    rcases List.mem_cons.1 he with rfl | he
    · exact hprime
    · exact ih hrest (List.forall_mem_cons.2 ⟨hprime, hknown⟩) e he

end Lucas

/-! ## The prime of the field -/

namespace Ed25519

/-- The small primes of which the numbers below are made. -/
def smallFactors : List ℕ :=
  [2, 3, 5, 7, 13, 19, 31, 47, 103, 107, 127, 223, 353, 991, 2437, 4153, 57467, 65147, 75707,
    132049, 430751, 569003, 1923133]

theorem prime_smallFactors : ∀ q ∈ smallFactors, q.Prime := by
  simp only [smallFactors, List.forall_mem_cons, List.not_mem_nil, false_imp_iff, implies_true,
    and_true]
  norm_num

/-- The primes on the way to the prime of the field. -/
def primeChain : List Lucas :=
  [⟨8574133, 24, 2, [2, 2, 3, 7, 103, 991]⟩,
   ⟨2773320623, 32, 5, [2, 2437, 569003]⟩,
   ⟨72106336199, 37, 7, [2, 13, 2773320623]⟩,
   ⟨1919519569386763, 51, 2, [2, 3, 7, 19, 47, 47, 127, 8574133]⟩,
   ⟨31757755568855353, 55, 10, [2, 2, 2, 3, 31, 107, 223, 4153, 430751]⟩,
   ⟨75445702479781427272750846543864801, 116, 7,
     [2, 2, 2, 2, 2, 3, 3, 5, 5, 75707, 72106336199, 1919519569386763]⟩,
   ⟨74058212732561358302231226437062788676166966415465897661863160754340907, 236, 2,
     [2, 3, 353, 57467, 132049, 1923133, 31757755568855353, 75445702479781427272750846543864801]⟩,
   ⟨57896044618658097711785492504343953926634992332820282019728792003956564819949, 255, 2,
     [2, 2, 3, 65147, 74058212732561358302231226437062788676166966415465897661863160754340907]⟩]

/-- The field has prime order. -/
theorem prime_prime : prime.Prime := by
  have hchain : Lucas.Chain smallFactors primeChain := by decide +kernel
  exact hchain.prime_number prime_smallFactors (primeChain.getLast (by decide))
    (List.getLast_mem _)

end Ed25519

end CalloutHost
