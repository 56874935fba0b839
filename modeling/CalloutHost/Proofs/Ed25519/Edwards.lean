import Mathlib.Algebra.Field.Basic
import Mathlib.Algebra.Group.Basic
import Mathlib.Tactic.FieldSimp
import Mathlib.Tactic.LinearCombination
import Mathlib.Tactic.Ring

/-!
# The group of a twisted Edwards curve

On the curve `y² - x² = 1 + d x² y²` over a field where minus one is a square and `d` is not, the
addition law never divides by zero (`Edwards.one_add_ne_zero`, `Edwards.one_sub_ne_zero`), and
it makes the points a commutative group. That it is associative is an identity between the
coordinates that follows from the equations of the three points.
-/

namespace CalloutHost

/-- A curve whose addition law has no exceptions. -/
structure Edwards (K : Type) [Field K] where
  d : K
  root : K
  root_mul_root : root * root = -1
  two_ne_zero : (2 : K) ≠ 0
  /-- The constant is no square. -/
  mul_self_ne : ∀ s : K, s * s ≠ d

namespace Edwards

variable {K : Type} [Field K]

/-- A point of the curve. -/
@[ext]
structure Point (E : Edwards K) where
  x : K
  y : K
  on_curve : y ^ 2 - x ^ 2 = 1 + E.d * x ^ 2 * y ^ 2

variable {E : Edwards K}

/-- The quantity by which the denominators of a sum differ from one. -/
def cross (P Q : E.Point) : K := E.d * P.x * Q.x * P.y * Q.y

theorem cross_comm (P Q : E.Point) : cross P Q = cross Q P := by
  simp only [cross]
  ring

/-- The denominators are not zero: otherwise `d` would be a square. -/
theorem cross_mul_cross_ne_one (P Q : E.Point) : cross P Q * cross P Q ≠ 1 := by
  intro h
  have hP := P.on_curve
  have hQ := Q.on_curve
  have hi := E.root_mul_root
  have hne : cross P Q ≠ 0 := by
    intro h0
    rw [h0] at h
    simp at h
  have hx : P.x ≠ 0 := by
    rintro h0
    exact hne (by simp [cross, h0])
  have hy : P.y ≠ 0 := by
    rintro h0
    exact hne (by simp [cross, h0])
  have hy' : Q.y ≠ 0 := by
    rintro h0
    exact hne (by simp [cross, h0])
  -- A square root of `d` for each root `i` of minus one with `Q.y + i * Q.x` not zero.
  have hsquare : ∀ i : K, i * i = -1 → Q.y + i * Q.x = 0 := by
    intro i hroot
    by_contra hsum
    have hden : P.x * P.y * (Q.y + i * Q.x) ≠ 0 := mul_ne_zero (mul_ne_zero hx hy) hsum
    refine E.mul_self_ne ((P.y + cross P Q * i * P.x) / (P.x * P.y * (Q.y + i * Q.x))) ?_
    rw [div_mul_div_comm, div_eq_iff (mul_ne_zero hden hden)]
    simp only [cross] at h ⊢
    linear_combination hP + P.x ^ 2 * (E.d * P.x * Q.x * P.y * Q.y) ^ 2 * hroot
      - (P.x ^ 2 + 1) * h - E.d * P.x ^ 2 * P.y ^ 2 * hQ
      - E.d * P.x ^ 2 * P.y ^ 2 * Q.x ^ 2 * hroot
  have hplus := hsquare E.root hi
  have hminus := hsquare (-E.root) (by rw [neg_mul_neg, hi])
  refine hy' ((mul_eq_zero.1 ?_).resolve_left E.two_ne_zero)
  linear_combination hplus + hminus

theorem one_add_ne_zero (P Q : E.Point) : 1 + cross P Q ≠ 0 := by
  intro h
  refine cross_mul_cross_ne_one P Q ?_
  linear_combination (cross P Q - 1) * h

theorem one_sub_ne_zero (P Q : E.Point) : 1 - cross P Q ≠ 0 := by
  intro h
  refine cross_mul_cross_ne_one P Q ?_
  linear_combination -(cross P Q + 1) * h

/-! ## The group law -/

namespace Point

/-- The neutral point. -/
def zero (E : Edwards K) : E.Point where
  x := 0
  y := 1
  on_curve := by ring

/-- The opposite point. -/
def neg (P : E.Point) : E.Point where
  x := -P.x
  y := P.y
  on_curve := by linear_combination P.on_curve

/-- The sum of two points. -/
def add (P Q : E.Point) : E.Point where
  x := (P.x * Q.y + Q.x * P.y) / (1 + cross P Q)
  y := (P.y * Q.y + P.x * Q.x) / (1 - cross P Q)
  on_curve := by
    have hadd := one_add_ne_zero P Q
    have hsub := one_sub_ne_zero P Q
    have hP := P.on_curve
    have hQ := Q.on_curve
    field_simp
    simp only [cross]
    grind

instance : Zero E.Point := ⟨zero E⟩
instance : Neg E.Point := ⟨neg⟩
instance : Add E.Point := ⟨add⟩

@[simp] theorem zero_x : (0 : E.Point).x = 0 := rfl
@[simp] theorem zero_y : (0 : E.Point).y = 1 := rfl
@[simp] theorem neg_x (P : E.Point) : (-P).x = -P.x := rfl
@[simp] theorem neg_y (P : E.Point) : (-P).y = P.y := rfl

theorem add_x (P Q : E.Point) :
    (P + Q).x = (P.x * Q.y + Q.x * P.y) / (1 + cross P Q) := rfl

theorem add_y (P Q : E.Point) :
    (P + Q).y = (P.y * Q.y + P.x * Q.x) / (1 - cross P Q) := rfl

protected theorem add_comm (P Q : E.Point) : P + Q = Q + P := by
  ext
  · rw [add_x, add_x, cross_comm]
    ring
  · rw [add_y, add_y, cross_comm]
    ring

protected theorem zero_add (P : E.Point) : 0 + P = P := by
  ext <;> simp [add_x, add_y, cross]

protected theorem neg_add_cancel (P : E.Point) : -P + P = 0 := by
  have hP := P.on_curve
  have hsub := one_sub_ne_zero (-P) P
  ext
  · rw [add_x, neg_x, neg_y, zero_x]
    simp [mul_comm]
  · rw [add_y, zero_y, div_eq_one_iff_eq hsub]
    simp only [cross, neg_x, neg_y]
    linear_combination hP

/-! ### Associativity

The sum of three points is brought to one denominator. Adding the points in another order gives
another fraction, and the two are equal by the equations of the three points.
-/

theorem cross_add (P Q R : E.Point) :
    (1 + cross P Q) * (1 - cross P Q) * cross (P + Q) R =
      E.d * (P.x * Q.y + Q.x * P.y) * (P.y * Q.y + P.x * Q.x) * R.x * R.y := by
  have hadd := one_add_ne_zero P Q
  have hsub := one_sub_ne_zero P Q
  have hcross : cross (P + Q) R = E.d * (P + Q).x * R.x * (P + Q).y * R.y := rfl
  rw [hcross, add_x, add_y]
  field_simp

theorem add_add_x (P Q R : E.Point) :
    (P + Q + R).x = ((P.x * Q.y + Q.x * P.y) * (1 - cross P Q) * R.y +
        R.x * (P.y * Q.y + P.x * Q.x) * (1 + cross P Q)) /
      ((1 + cross P Q) * (1 - cross P Q) * (1 + cross (P + Q) R)) := by
  have hadd := one_add_ne_zero P Q
  have hsub := one_sub_ne_zero P Q
  have hsum := one_add_ne_zero (P + Q) R
  rw [add_x (P + Q), add_x, add_y]
  field_simp

theorem add_add_y (P Q R : E.Point) :
    (P + Q + R).y = ((P.y * Q.y + P.x * Q.x) * (1 + cross P Q) * R.y +
        R.x * (P.x * Q.y + Q.x * P.y) * (1 - cross P Q)) /
      ((1 + cross P Q) * (1 - cross P Q) * (1 - cross (P + Q) R)) := by
  have hadd := one_add_ne_zero P Q
  have hsub := one_sub_ne_zero P Q
  have hsum := one_sub_ne_zero (P + Q) R
  rw [add_y (P + Q), add_x, add_y]
  field_simp

theorem triple_ne_zero (P Q R : E.Point) :
    (1 + cross P Q) * (1 - cross P Q) * (1 + cross (P + Q) R) ≠ 0 ∧
      (1 + cross P Q) * (1 - cross P Q) * (1 - cross (P + Q) R) ≠ 0 := by
  have h := mul_ne_zero (one_add_ne_zero P Q) (one_sub_ne_zero P Q)
  exact ⟨mul_ne_zero h (one_add_ne_zero _ R), mul_ne_zero h (one_sub_ne_zero _ R)⟩

/-- A sum of three points does not change when the first becomes the last. -/
theorem add_rotate (P Q R : E.Point) : P + Q + R = Q + R + P := by
  have hP := P.on_curve
  have hQ := Q.on_curve
  have hR := R.on_curve
  ext
  · rw [add_add_x, add_add_x, div_eq_div_iff (triple_ne_zero P Q R).1 (triple_ne_zero Q R P).1,
      mul_one_add _ (cross (P + Q) R), cross_add, mul_one_add _ (cross (Q + R) P), cross_add]
    simp only [cross]
    grind
  · rw [add_add_y, add_add_y, div_eq_div_iff (triple_ne_zero P Q R).2 (triple_ne_zero Q R P).2,
      mul_one_sub _ (cross (P + Q) R), cross_add, mul_one_sub _ (cross (Q + R) P), cross_add]
    simp only [cross]
    grind

instance : AddCommGroup E.Point where
  add_assoc P Q R := by rw [add_rotate, Point.add_comm]
  zero_add := Point.zero_add
  add_zero P := by rw [Point.add_comm, Point.zero_add]
  neg_add_cancel := Point.neg_add_cancel
  add_comm := Point.add_comm
  nsmul := nsmulRec
  zsmul := zsmulRec

end Point

end Edwards

end CalloutHost
