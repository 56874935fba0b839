import CalloutHost.Proofs.Ed25519.Field
import CalloutHost.Proofs.Encoding.ByteStrings

/-!
# Points in extended coordinates

Extended coordinates stand for a point of the curve (`Ed25519.Represents`), and sums, opposites and
multiples of coordinates stand for sums, opposites and multiples of points. The bytes of
coordinates are those of the point that they stand for (`Ed25519.Represents.bytes`), and a point is
found again from its bytes (`Ed25519.ofBytes?_encode`).

A signature is accepted under the public key of the seed that made it
(`Ed25519.verify_sign`): with the secret scalar `a`, the base point `B`, a commitment to `r • B`
and the challenge `k`, the scalar of the signature is `r + k a` modulo the order of `B`, and
`(r + k a) • B - k • (a • B)` is `r • B`.
-/

namespace CalloutHost.Ed25519

/-- Reduced extended coordinates of a point of the curve. -/
structure Represents (p : Point) (P : curve.Point) : Prop where
  x_lt : p.x < prime
  t_lt : p.t < prime
  z_ne : (p.z : Coordinate) ≠ 0
  x_eq : (p.x : Coordinate) = P.x * p.z
  y_eq : (p.y : Coordinate) = P.y * p.z
  t_eq : (p.t : Coordinate) = P.x * P.y * p.z

/-! ## Sums, opposites and multiples -/

theorem represents_zero : Represents .zero 0 where
  x_lt := prime_pos
  t_lt := prime_pos
  z_ne := by simp [Point.zero]
  x_eq := by simp [Point.zero]
  y_eq := by simp [Point.zero]
  t_eq := by simp [Point.zero]

namespace Represents

variable {p q : Point} {P Q : curve.Point}

theorem neg (hp : Represents p P) : Represents p.neg (-P) where
  x_lt := minus_lt _ _
  t_lt := minus_lt _ _
  z_ne := hp.z_ne
  x_eq := by
    have hcast := cast_minus 0 hp.x_lt.le
    rw [Nat.cast_zero, zero_sub, hp.x_eq] at hcast
    exact hcast.trans (neg_mul _ _).symm
  y_eq := hp.y_eq
  t_eq := by
    have hcast := cast_minus 0 hp.t_lt.le
    rw [Nat.cast_zero, zero_sub, hp.t_eq] at hcast
    refine hcast.trans ?_
    rw [Edwards.Point.neg_x, Edwards.Point.neg_y, neg_mul, neg_mul]
    rfl

/-- The four factors of which the coordinates of a sum are products. -/
theorem exists_factors (hp : Represents p P) (hq : Represents q Q) :
    ∃ e f g h : ℕ,
      p.add q = ⟨e * f % prime, g * h % prime, f * g % prime, e * h % prime⟩ ∧
      (e : Coordinate) = 2 * (P.x * Q.y + Q.x * P.y) * (p.z * q.z) ∧
      (f : Coordinate) = 2 * (1 - Edwards.cross P Q) * (p.z * q.z) ∧
      (g : Coordinate) = 2 * (1 + Edwards.cross P Q) * (p.z * q.z) ∧
      (h : Coordinate) = 2 * (P.y * Q.y + P.x * Q.x) * (p.z * q.z) := by
  have ha : (minus p.y p.x * minus q.y q.x % prime : ℕ) =
      (P.y - P.x) * (Q.y - Q.x) * (p.z * q.z : Coordinate) := by
    rw [ZMod.natCast_mod, Nat.cast_mul, cast_minus _ hp.x_lt.le, cast_minus _ hq.x_lt.le, hp.x_eq,
      hp.y_eq, hq.x_eq, hq.y_eq]
    ring
  have hb : ((p.y + p.x) * (q.y + q.x) % prime : ℕ) =
      (P.y + P.x) * (Q.y + Q.x) * (p.z * q.z : Coordinate) := by
    rw [ZMod.natCast_mod, Nat.cast_mul, Nat.cast_add, Nat.cast_add, hp.x_eq, hp.y_eq, hq.x_eq,
      hq.y_eq]
    ring
  have hc : (p.t * q.t % prime * (2 * curveD) % prime : ℕ) =
      2 * Edwards.cross P Q * (p.z * q.z : Coordinate) := by
    rw [ZMod.natCast_mod, Nat.cast_mul, ZMod.natCast_mod, Nat.cast_mul, hp.t_eq, hq.t_eq,
      Nat.cast_mul, Nat.cast_ofNat, Edwards.cross, show (curveD : Coordinate) = curve.d from rfl]
    ring
  have hd : (2 * p.z * q.z % prime : ℕ) = 2 * (p.z * q.z : Coordinate) := by
    rw [ZMod.natCast_mod, Nat.cast_mul, Nat.cast_mul, Nat.cast_ofNat, mul_assoc]
  refine ⟨_, _, _, _, rfl, ?_, ?_, ?_, ?_⟩
  · rw [cast_minus _ (mod_le _), ha, hb]
    ring
  · rw [cast_minus _ (mod_le _), hc, hd]
    ring
  · rw [ZMod.natCast_mod, Nat.cast_add, hc, hd]
    ring
  · rw [ZMod.natCast_mod, Nat.cast_add, ha, hb]
    ring

theorem add (hp : Represents p P) (hq : Represents q Q) : Represents (p.add q) (P + Q) := by
  obtain ⟨e, f, g, h, heq, he, hf, hg, hh⟩ := hp.exists_factors hq
  have hplus := Edwards.one_add_ne_zero P Q
  have hminus := Edwards.one_sub_ne_zero P Q
  have hz : 2 * (p.z * q.z : Coordinate) ≠ 0 :=
    mul_ne_zero two_ne_zero (mul_ne_zero hp.z_ne hq.z_ne)
  have hf0 : (f : Coordinate) ≠ 0 := by
    rw [hf, mul_right_comm]
    exact mul_ne_zero hz hminus
  have hg0 : (g : Coordinate) ≠ 0 := by
    rw [hg, mul_right_comm]
    exact mul_ne_zero hz hplus
  have hx : (P + Q).x * g = e := by
    rw [Edwards.Point.add_x, hg, he, div_mul_eq_mul_div, div_eq_iff hplus]
    ring
  have hy : (P + Q).y * f = h := by
    rw [Edwards.Point.add_y, hf, hh, div_mul_eq_mul_div, div_eq_iff hminus]
    ring
  rw [heq]
  refine ⟨Nat.mod_lt _ prime_pos, Nat.mod_lt _ prime_pos, ?_, ?_, ?_, ?_⟩
  · rw [ZMod.natCast_mod, Nat.cast_mul]
    exact mul_ne_zero hf0 hg0
  · rw [ZMod.natCast_mod, ZMod.natCast_mod, Nat.cast_mul, Nat.cast_mul, ← hx]
    ring
  · rw [ZMod.natCast_mod, ZMod.natCast_mod, Nat.cast_mul, Nat.cast_mul, ← hy]
    ring
  · rw [ZMod.natCast_mod, ZMod.natCast_mod, Nat.cast_mul, Nat.cast_mul, ← hx, ← hy]
    ring

theorem scale {bits n : ℕ} (h : n < 2 ^ bits) (hp : Represents p P) :
    Represents (p.scale bits n) (n • P) := by
  induction bits generalizing n p P with
  | zero =>
    obtain rfl : n = 0 := by simpa using h
    rw [zero_nsmul]
    exact represents_zero
  | succ bits ih =>
    have hhalf : n / 2 < 2 ^ bits := by
      rw [Nat.pow_succ] at h
      omega
    have hrest : Represents ((p.add p).scale bits (n / 2)) ((2 * (n / 2)) • P) := by
      rw [mul_comm, mul_nsmul', two_nsmul]
      exact ih hhalf (hp.add hp)
    rw [Point.scale]
    split
    · have hn : 2 * (n / 2) + 1 = n := by omega
      have hsum := hrest.add hp
      rwa [← succ_nsmul, hn] at hsum
    · have hn : 2 * (n / 2) = n := by omega
      rwa [hn] at hrest

end Represents

/-! ## Bytes -/

/-- The bytes of a point of the curve. -/
def encode (P : curve.Point) : Bytes :=
  Bytes.ofNatLE 32 (P.y.val + P.x.val % 2 * Nat.pow 2 255)

theorem val_lt (a : Coordinate) : a.val < prime := ZMod.val_lt a

/-- Coordinates have the bytes of the point that they stand for. -/
theorem Represents.bytes {p : Point} {P : curve.Point} (hp : Represents p P) :
    p.bytes = encode P := by
  have hdivide : ∀ {n : ℕ} {a : Coordinate}, (n : Coordinate) = a * p.z →
      n * inverse p.z % prime = a.val := by
    intro n a hn
    rw [← cast_inj (Nat.mod_lt _ prime_pos) (val_lt a), ZMod.natCast_mod, Nat.cast_mul,
      cast_inverse, hn, mul_inv_cancel_right₀ hp.z_ne, ZMod.natCast_zmod_val]
  rw [Point.bytes, encode, hdivide hp.x_eq, hdivide hp.y_eq]

/-- Coordinates of a point with the denominator one. -/
def coordinates (P : curve.Point) : Point :=
  ⟨P.x.val, P.y.val, 1, P.x.val * P.y.val % prime⟩

theorem represents_coordinates (P : curve.Point) : Represents (coordinates P) P where
  x_lt := val_lt _
  t_lt := Nat.mod_lt _ prime_pos
  z_ne := by simp [coordinates]
  x_eq := by simp [coordinates]
  y_eq := by simp [coordinates]
  t_eq := by simp [coordinates]

/-- The square of the first coordinate is a quotient in the second. -/
theorem mul_self_x (P : curve.Point) :
    P.x * P.x = ((minus (P.y.val * P.y.val % prime) 1 : ℕ) : Coordinate) /
      ((curveD * (P.y.val * P.y.val % prime) + 1) % prime : ℕ) := by
  have hP := P.on_curve
  have hden : curve.d * (P.y * P.y) + 1 ≠ 0 := by
    intro h
    have hy : P.y ≠ 0 := by
      intro h0
      rw [h0] at h
      simp at h
    refine curve.mul_self_ne (curve.root / P.y) ?_
    rw [div_mul_div_comm, curve.root_mul_root, div_eq_iff (mul_ne_zero hy hy)]
    linear_combination -h
  rw [cast_minus _ prime_prime.one_lt.le, ZMod.natCast_mod, ZMod.natCast_mod, Nat.cast_mul,
    Nat.cast_add, Nat.cast_mul, ZMod.natCast_mod, Nat.cast_mul, ZMod.natCast_zmod_val,
    Nat.cast_one, show (curveD : Coordinate) = curve.d from rfl, eq_div_iff hden]
  linear_combination -hP

/-- Of the two roots of a square, the parity tells which one is meant. -/
theorem select_root {r : ℕ} {x : Coordinate} (hr : r < prime) (h : (r : Coordinate) * r = x * x) :
    (if r % 2 = x.val % 2 then r else minus 0 r) = x.val := by
  have hx := val_lt x
  have hodd : prime % 2 = 1 := by decide +kernel
  rcases mul_self_eq_mul_self_iff.1 h with hsame | hopposite
  · have hval : r = x.val := by rw [← cast_inj hr hx, ZMod.natCast_zmod_val, hsame]
    rw [hval, if_pos rfl]
  · rcases eq_or_ne x 0 with rfl | hne
    · have hzero : r = 0 := by
        rw [← cast_inj hr prime_pos, hopposite, neg_zero, Nat.cast_zero]
      rw [hzero, ZMod.val_zero, if_pos rfl]
    · have hpos : x.val ≠ 0 := by rwa [Ne, ZMod.val_eq_zero]
      have hval : r = prime - x.val := by
        rw [← cast_inj hr (by omega), Nat.cast_sub hx.le, ZMod.natCast_self, zero_sub,
          ZMod.natCast_zmod_val, hopposite]
      have hparity : r % 2 ≠ x.val % 2 := by omega
      rw [if_neg hparity, ← cast_inj (minus_lt _ _) hx, cast_minus _ hr.le, Nat.cast_zero, zero_sub,
        hopposite, neg_neg, ZMod.natCast_zmod_val]

theorem toNatLE_encode (P : curve.Point) :
    (encode P).toNatLE = P.y.val + P.x.val % 2 * 2 ^ 255 := by
  have hy := (val_lt P.y).trans prime_lt
  have hx : P.x.val % 2 ≤ 1 := by omega
  refine Bytes.toNatLE_ofNatLE_of_lt ?_
  calc P.y.val + P.x.val % 2 * 2 ^ 255 < 2 ^ 255 + 1 * 2 ^ 255 :=
        Nat.add_lt_add_of_lt_of_le hy (Nat.mul_le_mul_right _ hx)
    _ = 256 ^ 32 := by decide

/-- A point is found again from its bytes. -/
theorem ofBytes?_encode (P : curve.Point) : Point.ofBytes? (encode P) = some (coordinates P) := by
  have hlt := val_lt P.y
  have hy := hlt.trans prime_lt
  have hlow : (encode P).toNatLE % Nat.pow 2 255 % prime = P.y.val := by
    rw [toNatLE_encode, Nat.pow_eq, Nat.add_mul_mod_self_right, Nat.mod_eq_of_lt hy,
      Nat.mod_eq_of_lt hlt]
  have hhigh : (encode P).toNatLE / Nat.pow 2 255 = P.x.val % 2 := by
    rw [toNatLE_encode, Nat.pow_eq, Nat.add_mul_div_right _ _ (Nat.two_pow_pos 255),
      Nat.div_eq_of_lt hy, Nat.zero_add]
  obtain ⟨r, hr, hroot, hsquare⟩ := quotientRoot?_eq (mul_self_x P)
  rw [Point.ofBytes?]
  simp only [hlow, hhigh, hroot, Option.bind_eq_bind, Option.bind_some, select_root hr hsquare]
  rfl

/-! ## The base point -/

/-- The base point as a point of the curve. -/
def basePoint : curve.Point where
  x := base.x
  y := base.y
  on_curve := by
    have h : base.y ^ 2 % prime =
        (base.x ^ 2 + (1 + curveD * base.x ^ 2 * base.y ^ 2)) % prime := by decide +kernel
    have hcast := (ZMod.natCast_eq_natCast_iff' _ _ prime).2 h
    push_cast at hcast
    exact sub_eq_iff_eq_add'.2 hcast

theorem represents_base : Represents base basePoint where
  x_lt := by decide +kernel
  t_lt := Nat.mod_lt _ prime_pos
  z_ne := by simp [base]
  x_eq := by simp [basePoint, base]
  y_eq := by simp [basePoint, base]
  t_eq := by
    have hz : base.z = 1 := rfl
    have ht : base.t = base.x * base.y % prime := rfl
    rw [ht, hz, ZMod.natCast_mod, Nat.cast_mul, Nat.cast_one, mul_one]
    rfl

/-- The base point has the order that it is said to have. -/
theorem order_nsmul_basePoint : order • basePoint = 0 := by
  have hbits : order < 2 ^ 253 := by decide +kernel
  have hzero : (base.scale 253 order).x = 0 ∧
      (base.scale 253 order).y = (base.scale 253 order).z := by decide +kernel
  have hp := represents_base.scale hbits
  have hx := hp.x_eq
  have hy := hp.y_eq
  rw [hzero.1, Nat.cast_zero] at hx
  rw [hzero.2] at hy
  ext
  · exact (mul_eq_zero.1 hx.symm).resolve_right hp.z_ne
  · exact (mul_eq_right₀ hp.z_ne).1 hy.symm

theorem mod_order_nsmul (n : ℕ) : (n % order) • basePoint = n • basePoint := by
  conv_rhs => rw [← Nat.mod_add_div n order, add_nsmul, mul_nsmul, order_nsmul_basePoint,
    nsmul_zero, add_zero]

/-! ## Signatures -/

theorem secretScalar_lt (digest : Bytes) : secretScalar digest < 2 ^ 255 := by
  rw [secretScalar]
  simp only [Nat.pow_eq]
  omega

theorem order_pos : 0 < order := by decide +kernel

theorem order_lt : order < 2 ^ 253 := by decide +kernel

/-- The bytes of a multiple of the base point. -/
theorem bytes_scale_base {bits n : ℕ} (h : n < 2 ^ bits) :
    (base.scale bits n).bytes = encode (n • basePoint) :=
  (represents_base.scale h).bytes

theorem publicKey_eq (seed : Bytes) :
    publicKey seed = encode (secretScalar (Sha512.digest512 seed) • basePoint) :=
  bytes_scale_base (secretScalar_lt _)

/-- The public key of a seed is a point of the curve. -/
theorem isSome_ofBytes?_publicKey (seed : Bytes) : (Point.ofBytes? (publicKey seed)).isSome := by
  rw [publicKey_eq, ofBytes?_encode]
  rfl

theorem mod_order_lt (n : ℕ) : n % order < 2 ^ 253 := (Nat.mod_lt n order_pos).trans order_lt

/-- What the equation of a signature gives is the commitment. -/
theorem bytes_equation (r a : ℕ) {k : ℕ} (hk : k < 2 ^ 253) :
    ((base.scale 253 ((r + k * a) % order)).add
      ((coordinates (a • basePoint)).neg.scale 253 k)).bytes = encode (r • basePoint) := by
  have hleft := represents_base.scale (mod_order_lt (r + k * a))
  have hright := (represents_coordinates (a • basePoint)).neg.scale hk
  have hpoint : ((r + k * a) % order) • basePoint + k • -(a • basePoint) = r • basePoint := by
    rw [mod_order_nsmul, add_nsmul, mul_comm k, mul_nsmul, smul_neg, add_neg_cancel_right]
  rw [(hleft.add hright).bytes, hpoint]

/-- A commitment and a reduced scalar are a signature if they satisfy the equation. -/
theorem verify_append {pub message commitment : Bytes} {s : ℕ} {p : Point}
    (hpub : Point.ofBytes? pub = some p) (hcommitment : commitment.length = 32) (hs : s < order)
    (h : ((base.scale 253 s).add (p.neg.scale 253
      ((Sha512.digest512 (commitment ++ pub ++ message)).toNatLE % order))).bytes = commitment) :
    verify pub message (commitment ++ Bytes.ofNatLE 32 s) = true := by
  have htake : (commitment ++ Bytes.ofNatLE 32 s).take 32 = commitment := by
    rw [← hcommitment, List.take_left]
  have hdrop : (commitment ++ Bytes.ofNatLE 32 s).drop 32 = Bytes.ofNatLE 32 s := by
    rw [← hcommitment, List.drop_left]
  have hscalar : Bytes.toNatLE (Bytes.ofNatLE 32 s) = s :=
    Bytes.toNatLE_ofNatLE_of_lt (hs.trans (order_lt.trans (by decide)))
  simp only [verify, htake, hdrop, hscalar, hpub, h, if_neg (Nat.not_le.2 hs), decide_true]

theorem length_sign (seed pub message : Bytes) : (sign seed pub message).length = 64 := by
  simp only [sign, Point.bytes, List.length_append, Bytes.length_ofNatLE]

/-- A signature is accepted under the public key of the seed that made it. -/
theorem verify_sign (seed message : Bytes) :
    verify (publicKey seed) message (sign seed (publicKey seed) message) = true := by
  have hpub : Point.ofBytes? (publicKey seed) =
      some (coordinates (secretScalar (Sha512.digest512 seed) • basePoint)) := by
    rw [publicKey_eq, ofBytes?_encode]
  refine verify_append hpub (Bytes.length_ofNatLE 32 _) (Nat.mod_lt _ order_pos) ?_
  rw [bytes_scale_base (mod_order_lt _)]
  exact bytes_equation _ _ (mod_order_lt _)

end CalloutHost.Ed25519
