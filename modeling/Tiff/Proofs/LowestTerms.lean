-- Fractions in lowest terms. Reducing a fraction leads to the terms of the number
-- that it stands for. Unsigned terms always have room for them. Signed ones have
-- not where the least number of 32 bits has to change its sign: then the sign is
-- lost, and the fraction stands for the opposite number.

import Mathlib.Algebra.Order.Field.Basic
import Mathlib.Algebra.Order.Field.Rat
import Mathlib.Data.Nat.Prime.Basic
import Mathlib.Data.Rat.Lemmas
import Tiff.Number.Rational

namespace Tiff

/-! ## Terms and the divisor -/

theorem toNat_max_one (g : UInt64) : (max 1 g).toNat = max 1 g.toNat := by
  have hmax : max 1 g = if 1 ≤ g then g else 1 := rfl
  rw [hmax]
  split
  · exact (Nat.max_eq_right (UInt64.le_iff_toNat_le.mp ‹_›)).symm
  · rename_i h
    rw [UInt64.le_iff_toNat_le, UInt64.toNat_one] at h
    rw [UInt64.toNat_one]
    omega

theorem toUInt32_div (n : UInt32) (g : UInt64) :
    (n.toUInt64 / g).toUInt32 = .ofNat (n.toNat / g.toNat) := by
  rw [← UInt32.toNat_inj]
  simp

theorem toInt_toInt64_of_lt {g : UInt64} (h : g.toNat < 2 ^ 63) : g.toInt64.toInt = g.toNat := by
  have hofNat : g.toInt64 = .ofNat g.toNat := by
    rw [← UInt64.toInt64_ofNat', UInt64.ofNat_toNat]
  rw [hofNat, Int64.toInt_ofNat_of_lt h]

/-- With 64 bits there is room for a term of 32 bits whatever its sign, and to divide it. -/
theorem toInt32_div {sign : Int64} (hsign : sign.toInt = 1 ∨ sign.toInt = -1) (n : Int32)
    {g : UInt64} (hg : g.toNat < 2 ^ 63) :
    (sign * n.toInt64 / g.toInt64).toInt32 = .ofInt ((sign.toInt * n.toInt).tdiv g.toNat) := by
  have hlow := n.le_toInt
  have hhigh := n.toInt_lt
  have hdivisor := toInt_toInt64_of_lt hg
  have hproduct : (sign * n.toInt64).toInt = sign.toInt * n.toInt := by
    rw [Int64.toInt_mul, Int32.toInt_toInt64]
    rcases hsign with hone | hone <;> rw [hone] <;> exact Int.bmod_eq_of_le (by omega) (by omega)
  have hne : g.toInt64 ≠ -1 := by
    intro hminus
    have hneg : g.toInt64.toInt = -1 := by rw [hminus]; rfl
    omega
  rw [← Int32.ofInt_int64ToInt, Int64.toInt_div_of_ne_right _ _ hne, hproduct, hdivisor]

/-! ## Unsigned fractions -/

namespace Rational

variable {r s : Rational}

/-- The number that a fraction stands for. -/
def number (r : Rational) : ℚ := r.numerator.toNat / r.denominator.toNat

structure InLowestTerms (r : Rational) : Prop where
  coprime : r.numerator.toNat.Coprime r.denominator.toNat
  denominator_ne_zero : r.denominator ≠ 0

theorem number_eq_divInt (r : Rational) :
    r.number = Rat.divInt r.numerator.toNat r.denominator.toNat := by
  rw [number, Rat.divInt_eq_div, Int.cast_natCast, Int.cast_natCast]

theorem toNat_denominator_ne_zero (h : r.denominator ≠ 0) : r.denominator.toNat ≠ 0 :=
  fun hzero => h (UInt32.toNat_inj.mp hzero)

theorem max_one_gcd {n d : Nat} (h : d ≠ 0) : max 1 (n.gcd d) = n.gcd d :=
  Nat.max_eq_right (Nat.gcd_pos_of_pos_right n (Nat.pos_of_ne_zero h))

/-- The loop and the divisions on words are those on the numbers. -/
theorem reduced_eq (h : r.denominator ≠ 0) :
    r.reduced = ⟨.ofNat (r.numerator.toNat / r.numerator.toNat.gcd r.denominator.toNat),
      .ofNat (r.denominator.toNat / r.numerator.toNat.gcd r.denominator.toNat)⟩ := by
  rw [reduced, toUInt32_div, toUInt32_div, toNat_max_one, toNat_gcd, UInt32.toNat_toUInt64,
    UInt32.toNat_toUInt64, max_one_gcd (toNat_denominator_ne_zero h)]

theorem toNat_reduced_numerator (h : r.denominator ≠ 0) :
    (r.reduced.numerator.toNat : ℤ) = r.number.num := by
  have hne := toNat_denominator_ne_zero h
  have hsign : (r.denominator.toNat : ℤ).sign = 1 := Int.sign_eq_one_of_pos (by omega)
  have hlt : r.numerator.toNat / r.numerator.toNat.gcd r.denominator.toNat < UInt32.size :=
    Nat.lt_of_le_of_lt (Nat.div_le_self _ _) r.numerator.toNat_lt
  rw [reduced_eq h, UInt32.toNat_ofNat_of_lt' hlt, number_eq_divInt, Rat.num_divInt, hsign,
    one_mul, Int.gcd_natCast_natCast, Nat.gcd_comm, Int.natCast_ediv]

theorem toNat_reduced_denominator (h : r.denominator ≠ 0) :
    r.reduced.denominator.toNat = r.number.den := by
  have hne := toNat_denominator_ne_zero h
  have hlt : r.denominator.toNat / r.numerator.toNat.gcd r.denominator.toNat < UInt32.size :=
    Nat.lt_of_le_of_lt (Nat.div_le_self _ _) r.denominator.toNat_lt
  rw [reduced_eq h, UInt32.toNat_ofNat_of_lt' hlt, number_eq_divInt, Rat.den_divInt,
    if_neg (by omega), Int.natAbs_natCast, Int.gcd_natCast_natCast, Nat.gcd_comm]

theorem number_reduced (h : r.denominator ≠ 0) : r.reduced.number = r.number := by
  rw [number, toNat_reduced_denominator h, ← Int.cast_natCast, toNat_reduced_numerator h,
    Rat.num_div_den]

theorem inLowestTerms_reduced (h : r.denominator ≠ 0) : r.reduced.InLowestTerms where
  coprime := by
    have hcoprime := r.number.reduced
    rwa [← toNat_reduced_numerator h, ← toNat_reduced_denominator h, Int.natAbs_natCast]
      at hcoprime
  denominator_ne_zero := by
    intro hzero
    have hden := toNat_reduced_denominator h
    rw [hzero] at hden
    exact r.number.den_ne_zero hden.symm

/-- One number has one fraction in lowest terms. -/
theorem reduced_eq_reduced_iff (hr : r.denominator ≠ 0) (hs : s.denominator ≠ 0) :
    r.reduced = s.reduced ↔ r.number = s.number := by
  constructor
  · intro hsame
    rw [← number_reduced hr, ← number_reduced hs, hsame]
  · intro hsame
    have hnum : r.reduced.numerator = s.reduced.numerator := by
      rw [← UInt32.toNat_inj, ← Int.ofNat_inj, toNat_reduced_numerator hr,
        toNat_reduced_numerator hs, hsame]
    have hden : r.reduced.denominator = s.reduced.denominator := by
      rw [← UInt32.toNat_inj, toNat_reduced_denominator hr, toNat_reduced_denominator hs, hsame]
    exact congrArg₂ Rational.mk hnum hden

theorem reduced_reduced (h : r.denominator ≠ 0) : r.reduced.reduced = r.reduced :=
  (reduced_eq_reduced_iff (inLowestTerms_reduced h).denominator_ne_zero h).mpr (number_reduced h)

/-- Zero has the terms 0/1, whatever it is over. -/
theorem reduced_of_zero (h : r.denominator ≠ 0) (hzero : r.numerator = 0) : r.reduced = ⟨0, 1⟩ := by
  have hnumber : r.number = 0 := by
    rw [number, hzero, UInt32.toNat_zero, Nat.cast_zero, zero_div]
  have hnum : r.reduced.numerator = 0 := by
    rw [← UInt32.toNat_inj, ← Int.ofNat_inj, toNat_reduced_numerator h, hnumber]
    rfl
  have hden : r.reduced.denominator = 1 := by
    rw [← UInt32.toNat_inj, toNat_reduced_denominator h, hnumber]
    rfl
  exact congrArg₂ Rational.mk hnum hden

end Rational

/-! ## Signed fractions -/

/-- Nothing is divided out of a power of two just where the other number is odd, and what is not
beyond the power comes to it in no other way. -/
theorem div_gcd_eq_two_pow_iff {a b k : Nat} (ha : a ≤ 2 ^ k) (hk : k ≠ 0) :
    a / a.gcd b = 2 ^ k ↔ a = 2 ^ k ∧ b % 2 = 1 := by
  have hodd : (2 ^ k).gcd b = 1 ↔ b % 2 = 1 := by
    rw [← Nat.two_dvd_ne_zero, ← Nat.Prime.coprime_iff_not_dvd Nat.prime_two]
    exact ⟨fun h => Nat.Coprime.coprime_dvd_left (dvd_pow_self 2 hk) h, fun h => h.pow_left k⟩
  constructor
  · intro h
    obtain rfl : a = 2 ^ k := Nat.le_antisymm ha (h ▸ Nat.div_le_self _ _)
    rcases Nat.div_eq_self.mp h with hzero | hone
    · exact absurd hzero (Nat.two_pow_pos k).ne'
    · exact ⟨rfl, hodd.mp hone⟩
  · rintro ⟨rfl, hb⟩
    rw [hodd.mpr hb, Nat.div_one]

theorem gcd_dvd_sign_mul (n d : ℤ) : (d.gcd n : ℤ) ∣ d.sign * n :=
  Dvd.dvd.mul_left (Int.gcd_dvd_right ..) _

namespace SRational

variable {r : SRational}

/-- The number that a fraction stands for. -/
def number (r : SRational) : ℚ := r.numerator.toInt / r.denominator.toInt

/-- A fraction in lowest terms, with the sign at the numerator. -/
structure InLowestTerms (r : SRational) : Prop where
  coprime : r.numerator.toInt.natAbs.Coprime r.denominator.toInt.natAbs
  denominator_pos : 0 < r.denominator.toInt

theorem InLowestTerms.terms_eq (h : r.InLowestTerms) :
    r.number.num = r.numerator.toInt ∧ (r.number.den : ℤ) = r.denominator.toInt :=
  ⟨Rat.num_div_eq_of_coprime h.denominator_pos h.coprime,
    Rat.den_div_eq_of_coprime h.denominator_pos h.coprime⟩

theorem number_eq_divInt (r : SRational) :
    r.number = Rat.divInt r.numerator.toInt r.denominator.toInt := by
  rw [number, Rat.divInt_eq_div]

theorem toInt_denominator_ne_zero (h : r.denominator ≠ 0) : r.denominator.toInt ≠ 0 :=
  fun hzero => h (Int32.toInt_inj.mp hzero)

theorem natAbs_toInt_le (n : Int32) : n.toInt.natAbs ≤ 2 ^ 31 := by
  have hlow := n.le_toInt
  have hhigh := n.toInt_lt
  omega

/-- The divisor that the loop leaves. -/
theorem toNat_divisor (h : r.denominator ≠ 0) :
    (max 1 (gcd (unsignedAbs r.numerator.toInt64) (unsignedAbs r.denominator.toInt64))).toNat =
      r.denominator.toInt.gcd r.numerator.toInt := by
  have hpos := Int.gcd_pos_of_ne_zero_left r.numerator.toInt (toInt_denominator_ne_zero h)
  rw [toNat_max_one, toNat_gcd, toNat_unsignedAbs, toNat_unsignedAbs, Int32.toInt_toInt64,
    Int32.toInt_toInt64, Nat.gcd_comm]
  exact Nat.max_eq_right hpos

/-- The reduced terms are those of the number, put into 32 bits. -/
theorem reduced_eq (h : r.denominator ≠ 0) :
    r.reduced = ⟨.ofInt r.number.num, .ofInt r.number.den⟩ := by
  have hne := toInt_denominator_ne_zero h
  have hdivisor := toNat_divisor h
  have hfits : (r.denominator.toInt.gcd r.numerator.toInt) < 2 ^ 63 := by
    have hle : r.denominator.toInt.gcd r.numerator.toInt ≤ r.denominator.toInt.natAbs :=
      Nat.gcd_le_left _ (Int.natAbs_pos.mpr hne)
    have hterm := natAbs_toInt_le r.denominator
    omega
  rw [← hdivisor] at hfits
  -- the sign of the denominator, as the comparison of words finds it
  let sign : Int64 := if r.denominator.toInt64 < 0 then -1 else 1
  have hsign : sign.toInt = r.denominator.toInt.sign := by
    have hneg : r.denominator.toInt64 < 0 ↔ r.denominator.toInt < 0 := by
      rw [Int64.lt_iff_toInt_lt, Int32.toInt_toInt64, Int64.toInt_zero]
    by_cases hless : r.denominator.toInt < 0
    · rw [show sign = -1 from if_pos (hneg.mpr hless), Int.sign_eq_neg_one_of_neg hless]
      rfl
    · rw [show sign = 1 from if_neg (hneg.not.mpr hless), Int.sign_eq_one_of_pos (by omega)]
      rfl
  have hunit : sign.toInt = 1 ∨ sign.toInt = -1 := by
    rw [hsign, Int.sign_eq_one_iff_pos, Int.sign_eq_neg_one_iff_neg]
    omega
  rw [reduced, toInt32_div hunit r.numerator hfits, toInt32_div hunit r.denominator hfits,
    hdivisor, hsign, number_eq_divInt, Rat.num_divInt, Rat.den_divInt, if_neg hne,
    Int.tdiv_eq_ediv_of_dvd (gcd_dvd_sign_mul _ _), Int.sign_mul_self_eq_natAbs,
    ← Int.ofNat_tdiv]

/-! ### Numbers at the limit -/

theorem natAbs_num_number (h : r.denominator ≠ 0) :
    r.number.num.natAbs = r.numerator.toInt.natAbs /
      r.numerator.toInt.natAbs.gcd r.denominator.toInt.natAbs := by
  rw [number_eq_divInt, Rat.num_divInt, Int.natAbs_ediv_of_dvd (gcd_dvd_sign_mul _ _),
    Int.natAbs_mul, Int.natAbs_sign_of_ne_zero (toInt_denominator_ne_zero h), one_mul,
    Int.natAbs_natCast, Int.gcd_comm]
  rfl

theorem den_number (h : r.denominator ≠ 0) :
    r.number.den = r.denominator.toInt.natAbs /
      r.denominator.toInt.natAbs.gcd r.numerator.toInt.natAbs := by
  rw [number_eq_divInt, Rat.den_divInt, if_neg (toInt_denominator_ne_zero h)]
  rfl

theorem natAbs_toInt_eq_iff (n : Int32) : n.toInt.natAbs = 2 ^ 31 ↔ n = Int32.minValue := by
  have hhigh := n.toInt_lt
  have hleast : Int32.minValue.toInt = -2 ^ 31 := Int32.toInt_minValue
  rw [← Int32.toInt_inj, hleast]
  omega

theorem den_eq_iff (h : r.denominator ≠ 0) :
    r.number.den = 2 ^ 31 ↔ r.denominator = Int32.minValue ∧ r.numerator.toInt % 2 = 1 := by
  rw [den_number h, div_gcd_eq_two_pow_iff (natAbs_toInt_le _) (by decide), natAbs_toInt_eq_iff]
  refine and_congr_right fun _ => ?_
  omega

theorem num_eq_iff (h : r.denominator ≠ 0) :
    r.number.num = 2 ^ 31 ↔
      r.numerator = Int32.minValue ∧ r.denominator.toInt < 0 ∧ r.denominator.toInt % 2 = 1 := by
  have hsign : r.numerator = Int32.minValue → (0 < r.number.num ↔ r.denominator.toInt < 0) := by
    intro hleast
    have hneg : (r.numerator.toInt : ℚ) < 0 := by
      rw [hleast]
      exact_mod_cast (by decide : Int32.minValue.toInt < 0)
    rw [Rat.num_pos, number, div_pos_iff]
    simp [hneg, hneg.not_gt]
  have hsize : r.number.num.natAbs = 2 ^ 31 ↔
      r.numerator = Int32.minValue ∧ r.denominator.toInt % 2 = 1 := by
    rw [natAbs_num_number h, div_gcd_eq_two_pow_iff (natAbs_toInt_le _) (by decide),
      natAbs_toInt_eq_iff]
    refine and_congr_right fun _ => ?_
    omega
  constructor
  · intro hnum
    obtain ⟨hleast, hodd⟩ := hsize.mp (by omega)
    exact ⟨hleast, (hsign hleast).mp (by omega), hodd⟩
  · rintro ⟨hleast, hneg, hodd⟩
    have habs := hsize.mpr ⟨hleast, hodd⟩
    have hpos := (hsign hleast).mpr hneg
    omega

/-- 32 bits are too few for the fraction in lowest terms: one term is the least number, and there
is nothing to divide out of it and no sign to keep it. -/
def Outgrows (r : SRational) : Prop :=
  r.denominator = Int32.minValue ∧ r.numerator.toInt % 2 = 1 ∨
    r.numerator = Int32.minValue ∧ r.denominator.toInt < 0 ∧ r.denominator.toInt % 2 = 1

instance (r : SRational) : Decidable r.Outgrows :=
  inferInstanceAs (Decidable (_ ∨ _))

theorem outgrows_iff (h : r.denominator ≠ 0) :
    r.Outgrows ↔ r.number.den = 2 ^ 31 ∨ r.number.num = 2 ^ 31 := by
  rw [den_eq_iff h, num_eq_iff h]
  rfl

/-! ### Reduced terms -/

/-- The first number beyond 32 bits comes out with its sign turned. -/
theorem toInt_ofInt_of_le {n : ℤ} (hlow : -2 ^ 31 ≤ n) (hhigh : n ≤ 2 ^ 31) :
    (Int32.ofInt n).toInt = if n = 2 ^ 31 then -n else n := by
  have hsize : (Int32.size : ℤ) = 2 ^ 32 := rfl
  rw [Int32.toInt_ofInt]
  split
  · subst n
    rfl
  · exact Int.bmod_eq_of_le (by omega) (by omega)

theorem toInt_reduced (h : r.denominator ≠ 0) :
    r.reduced.numerator.toInt =
      (if r.number.num = 2 ^ 31 then -r.number.num else r.number.num) ∧
    r.reduced.denominator.toInt =
      (if (r.number.den : ℤ) = 2 ^ 31 then -(r.number.den : ℤ) else r.number.den) := by
  have hnum : r.number.num.natAbs ≤ 2 ^ 31 := by
    rw [natAbs_num_number h]
    exact Nat.le_trans (Nat.div_le_self _ _) (natAbs_toInt_le _)
  have hden : r.number.den ≤ 2 ^ 31 := by
    rw [den_number h]
    exact Nat.le_trans (Nat.div_le_self _ _) (natAbs_toInt_le _)
  rw [reduced_eq h]
  exact ⟨toInt_ofInt_of_le (by omega) (by omega), toInt_ofInt_of_le (by omega) (by omega)⟩

theorem coprime_reduced (h : r.denominator ≠ 0) :
    r.reduced.numerator.toInt.natAbs.Coprime r.reduced.denominator.toInt.natAbs := by
  obtain ⟨hnum, hden⟩ := toInt_reduced h
  have hnum' : r.reduced.numerator.toInt.natAbs = r.number.num.natAbs := by
    rw [hnum]
    split <;> simp
  have hden' : r.reduced.denominator.toInt.natAbs = r.number.den := by
    rw [hden]
    split <;> simp
  rw [hnum', hden']
  exact r.number.reduced

theorem reduced_of_not_outgrows (h : r.denominator ≠ 0) (hfits : ¬ r.Outgrows) :
    r.reduced.InLowestTerms ∧ r.reduced.number = r.number := by
  obtain ⟨hden, hnum⟩ := not_or.mp ((outgrows_iff h).not.mp hfits)
  obtain ⟨hnum', hden'⟩ := toInt_reduced h
  rw [if_neg hnum] at hnum'
  rw [if_neg (by exact_mod_cast hden)] at hden'
  refine ⟨⟨coprime_reduced h, ?_⟩, ?_⟩
  · rw [hden']
    exact_mod_cast r.number.den_pos
  · rw [number, hnum', hden', Int.cast_natCast, Rat.num_div_den]

/-- One of the two signs is turned. Both cannot be, as the terms have nothing in common. -/
theorem number_reduced_of_outgrows (h : r.denominator ≠ 0) (hwide : r.Outgrows) :
    r.reduced.number = -r.number := by
  obtain ⟨hnum, hden⟩ := toInt_reduced h
  have hcoprime := r.number.reduced
  rw [number, hnum, hden]
  rcases (outgrows_iff h).mp hwide with hwide | hwide
  · have hother : r.number.num ≠ 2 ^ 31 := by
      intro hboth
      rw [hwide, hboth] at hcoprime
      exact absurd hcoprime (by decide)
    have hwide' : (r.number.den : ℤ) = 2 ^ 31 := by exact_mod_cast hwide
    rw [if_neg hother, if_pos hwide', Int.cast_neg, div_neg, Int.cast_natCast, Rat.num_div_den]
  · have hother : (r.number.den : ℤ) ≠ 2 ^ 31 := by
      intro hboth
      rw [hwide, (by exact_mod_cast hboth : r.number.den = 2 ^ 31)] at hcoprime
      exact absurd hcoprime (by decide)
    rw [if_pos hwide, if_neg hother, Int.cast_neg, neg_div, Int.cast_natCast, Rat.num_div_den]

theorem number_ne_of_outgrows {s : SRational} (h : r.denominator ≠ 0) (hwide : r.Outgrows)
    (hs : s.InLowestTerms) : s.number ≠ r.number := by
  intro hsame
  obtain ⟨hnum, hden⟩ := hs.terms_eq
  have hnum' := s.numerator.toInt_lt
  have hden' := s.denominator.toInt_lt
  rw [hsame] at hnum hden
  rcases (outgrows_iff h).mp hwide with hwide | hwide <;> omega

theorem number_ne_zero_of_outgrows (h : r.denominator ≠ 0) (hwide : r.Outgrows) :
    r.number ≠ 0 := by
  intro hzero
  rcases (outgrows_iff h).mp hwide with hwide | hwide <;> rw [hzero] at hwide <;>
    exact absurd hwide (by decide)

/-- A reduced fraction always has terms with nothing in common. It is in lowest terms and stands for
the same number, unless no fraction of two terms with 32 bits does. Then it stands for the opposite
number. -/
theorem reducing_keeps_the_number_where_there_is_room (r : SRational) (h : r.denominator ≠ 0) :
    r.reduced.numerator.toInt.natAbs.Coprime r.reduced.denominator.toInt.natAbs ∧
    (¬ r.Outgrows → r.reduced.InLowestTerms ∧ r.reduced.number = r.number) ∧
    (r.Outgrows → (∀ s : SRational, s.InLowestTerms → s.number ≠ r.number) ∧
      r.reduced.number = -r.number ∧ r.reduced.number ≠ r.number) := by
  refine ⟨coprime_reduced h, reduced_of_not_outgrows h, fun hwide => ⟨?_, ?_, ?_⟩⟩
  · exact fun s hs => number_ne_of_outgrows h hwide hs
  · exact number_reduced_of_outgrows h hwide
  · rw [number_reduced_of_outgrows h hwide, ne_eq, neg_eq_self]
    exact number_ne_zero_of_outgrows h hwide

/-- There is room for six over minus four, and for the least number over minus two. There is none
for the least number over minus one. -/
theorem reducing_keeps_the_number_where_there_is_room_of_three :
    let six : SRational := ⟨6, -4⟩
    let even : SRational := ⟨Int32.minValue, -2⟩
    let odd : SRational := ⟨Int32.minValue, -1⟩
    six.denominator ≠ 0 ∧ ¬ six.Outgrows ∧ six.reduced.number = six.number ∧
    even.denominator ≠ 0 ∧ ¬ even.Outgrows ∧ even.reduced.number = even.number ∧
    odd.denominator ≠ 0 ∧ odd.Outgrows ∧ odd.reduced.number = -odd.number := by
  intro six even odd
  obtain ⟨-, hsix, -⟩ := reducing_keeps_the_number_where_there_is_room six (by decide)
  obtain ⟨-, heven, -⟩ := reducing_keeps_the_number_where_there_is_room even (by decide)
  obtain ⟨-, -, hodd⟩ := reducing_keeps_the_number_where_there_is_room odd (by decide)
  exact ⟨by decide, by decide, (hsix (by decide)).2, by decide, by decide, (heven (by decide)).2,
    by decide, by decide, (hodd (by decide)).2.1⟩

/-- One over the least number is below zero. What it is reduced to is above, and its denominator
still has a sign. -/
theorem one_over_the_least_number_is_turned :
    let r : SRational := ⟨1, Int32.minValue⟩
    r.denominator ≠ 0 ∧ r.reduced = ⟨-1, Int32.minValue⟩ ∧ r.reduced.denominator.toInt < 0 ∧
      r.number < 0 ∧ 0 < r.reduced.number := by
  decide +kernel

end SRational

end Tiff
