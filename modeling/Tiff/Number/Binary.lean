-- Binary floating-point numbers by their bit patterns, and their text with a
-- fixed number of decimal places. The text is that of the exact value, rounded
-- once; a tie goes to the even neighbour.

import Tiff.Text.Numeral

namespace Tiff

/-- The nearest whole number to a quotient; a tie goes to the even neighbour. -/
def roundDiv (num den : Nat) : Nat :=
  let q := num / den
  let r := num % den
  if 2 * r < den then q else if den < 2 * r then q + 1 else q + q % 2

/-- What a floating-point bit pattern stands for. A finite one is `mantissa * 2 ^ exponent`. -/
inductive Binary where
  | nan
  | infinite (negative : Bool)
  | finite (negative : Bool) (mantissa : Nat) (exponent : Int)
  deriving DecidableEq, Repr

namespace Binary

/-- Takes a bit pattern apart: the sign, `exponentBits` bits of exponent, `fractionBits` bits of
fraction. The least exponent has no hidden bit, and the greatest marks what is not finite. -/
def ofBits (exponentBits fractionBits : Nat) (bits : Nat) : Binary :=
  let fraction := bits % (1 <<< fractionBits)
  let exponent := (bits >>> fractionBits) % (1 <<< exponentBits)
  let negative := bits.testBit (fractionBits + exponentBits)
  let bias : Nat := (1 <<< (exponentBits - 1)) - 1
  if exponent = (1 <<< exponentBits) - 1 then
    if fraction = 0 then .infinite negative else .nan
  else if exponent = 0 then
    .finite negative fraction (1 - (bias + fractionBits : Nat))
  else
    .finite negative (fraction + (1 <<< fractionBits)) (exponent - (bias + fractionBits : Nat))

def ofSingle (bits : UInt32) : Binary := ofBits 8 23 bits.toNat

def ofDouble (bits : UInt64) : Binary := ofBits 11 52 bits.toNat

/-- A magnitude in units of `10 ^ -places`, rounded. -/
def scaled (places mantissa : Nat) (exponent : Int) : Nat :=
  roundDiv ((mantissa * Nat.pow 10 places) <<< exponent.toNat) (1 <<< (-exponent).toNat)

/-- A count of `10 ^ -places` as decimal text. -/
def pointed (places units : Nat) : String :=
  let unit := Nat.pow 10 places
  toString (units / unit) ++ "." ++ Text.zeroPad places (toString (units % unit))

/-- The value with `places` decimals, at least one. Zero keeps its sign. -/
def toFixed (places : Nat) : Binary → String
  | .nan => "NaN"
  | .infinite negative => (if negative then "-" else "") ++ "inf"
  | .finite negative mantissa exponent =>
    (if negative then "-" else "") ++ pointed places (scaled places mantissa exponent)

end Binary

end Tiff
