-- Fractions of two whole numbers, unsigned and signed. A fraction that is read
-- with the denominator zero stands as 0/1, so that it can be used.

namespace Tiff

/-! ## Common divisors -/

/-- The greatest common divisor, by Euclid's loop. -/
def gcd (a b : UInt64) : UInt64 :=
  if b = 0 then a else gcd b (a % b)
termination_by b.toNat
decreasing_by
  rename_i hb
  rw [UInt64.toNat_mod]
  exact Nat.mod_lt _ (Nat.pos_of_ne_zero fun hzero => hb (UInt64.toNat_inj.mp hzero))

/-- Each turn of the loop keeps the common divisors, and the last one leaves the greatest. -/
theorem toNat_gcd (a b : UInt64) : (gcd a b).toNat = a.toNat.gcd b.toNat := by
  fun_induction gcd a b with
  | case1 a => exact (Nat.gcd_zero_right _).symm
  | case2 a b hb ih =>
    calc (gcd b (a % b)).toNat
        = b.toNat.gcd (a.toNat % b.toNat) := by rw [ih, UInt64.toNat_mod]
      _ = (a.toNat % b.toNat).gcd b.toNat := Nat.gcd_comm ..
      _ = b.toNat.gcd a.toNat := (Nat.gcd_rec ..).symm
      _ = a.toNat.gcd b.toNat := Nat.gcd_comm ..

/-- How far a number is from zero. -/
def unsignedAbs (n : Int64) : UInt64 := .ofNat n.toInt.natAbs

theorem toNat_unsignedAbs (n : Int64) : (unsignedAbs n).toNat = n.toInt.natAbs := by
  have hlow := n.le_toInt
  have hhigh := n.toInt_lt
  refine UInt64.toNat_ofNat_of_lt' ?_
  rw [show UInt64.size = 2 ^ 64 from rfl]
  omega

/-! ## Unsigned fractions -/

structure Rational where
  numerator : UInt32
  denominator : UInt32
  deriving DecidableEq, Repr, Inhabited

namespace Rational

/-- The fraction of two terms, or 0/1 where the denominator is zero. -/
def make (numerator denominator : UInt32) : Rational :=
  if denominator = 0 then ⟨0, 1⟩ else ⟨numerator, denominator⟩

/-- Both terms divided by their greatest common divisor; 0/0 stays. -/
def reduced (r : Rational) : Rational :=
  let n := r.numerator.toUInt64
  let d := r.denominator.toUInt64
  let g := max 1 (gcd n d)
  ⟨(n / g).toUInt32, (d / g).toUInt32⟩

def toFloat (r : Rational) : Float := r.numerator.toFloat / r.denominator.toFloat

/-- The two terms with a slash between them. -/
def describe (r : Rational) : String := s!"{r.numerator.toNat}/{r.denominator.toNat}"

end Rational

/-! ## Signed fractions -/

structure SRational where
  numerator : Int32
  denominator : Int32
  deriving DecidableEq, Repr, Inhabited

namespace SRational

/-- The fraction of two terms, or 0/1 where the denominator is zero. -/
def make (numerator denominator : Int32) : SRational :=
  if denominator = 0 then ⟨0, 1⟩ else ⟨numerator, denominator⟩

/-- Both terms divided by their greatest common divisor, with the sign moved to the numerator.
The terms are worked out with 64 bits and put back into 32 bits at the end. -/
def reduced (r : SRational) : SRational :=
  let n := r.numerator.toInt64
  let d := r.denominator.toInt64
  let g := (max 1 (gcd (unsignedAbs n) (unsignedAbs d))).toInt64
  let sign : Int64 := if d < 0 then -1 else 1
  ⟨(sign * n / g).toInt32, (sign * d / g).toInt32⟩

def toFloat (r : SRational) : Float := r.numerator.toFloat / r.denominator.toFloat

/-- The two terms with a slash between them. -/
def describe (r : SRational) : String := s!"{r.numerator.toInt}/{r.denominator.toInt}"

end SRational

end Tiff
