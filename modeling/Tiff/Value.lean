-- Decoded values. A value holds all elements of a field in their own type, and
-- its views give them as unsigned, signed or floating-point numbers, where that
-- loses nothing of what they are.

import Tiff.Number.Rational

namespace Tiff

/-- The elements of a field. Floating-point elements are kept as their bit patterns. -/
inductive Value where
  | byte (elements : List UInt8)
  /-- Text up to the first NUL. -/
  | ascii (text : String)
  | short (elements : List UInt16)
  | long (elements : List UInt32)
  | rational (elements : List Rational)
  | sbyte (elements : List Int8)
  | undefined (elements : List UInt8)
  | sshort (elements : List Int16)
  | slong (elements : List Int32)
  | srational (elements : List SRational)
  | float (elements : List UInt32)
  | double (elements : List UInt64)
  | ifd (elements : List UInt32)
  | long8 (elements : List UInt64)
  | slong8 (elements : List Int64)
  | ifd8 (elements : List UInt64)
  /-- The bytes of a type that says nothing about its elements. -/
  | raw (bytes : List UInt8)
  deriving DecidableEq, Repr

namespace Value

def kind : Value → String
  | byte _ => "BYTE"
  | ascii _ => "ASCII"
  | short _ => "SHORT"
  | long _ => "LONG"
  | rational _ => "RATIONAL"
  | sbyte _ => "SBYTE"
  | undefined _ => "UNDEFINED"
  | sshort _ => "SSHORT"
  | slong _ => "SLONG"
  | srational _ => "SRATIONAL"
  | float _ => "FLOAT"
  | double _ => "DOUBLE"
  | ifd _ => "IFD"
  | long8 _ => "LONG8"
  | slong8 _ => "SLONG8"
  | ifd8 _ => "IFD8"
  | raw _ => "raw bytes"

/-- The number of elements; of a text, the number of bytes that its characters take in UTF-8. -/
def length : Value → Nat
  | byte xs | undefined xs | raw xs => xs.length
  | ascii text => text.utf8ByteSize
  | short xs => xs.length
  | long xs | float xs | ifd xs => xs.length
  | rational xs => xs.length
  | sbyte xs => xs.length
  | sshort xs => xs.length
  | slong xs => xs.length
  | srational xs => xs.length
  | double xs | long8 xs | ifd8 xs => xs.length
  | slong8 xs => xs.length

/-! ## Views -/

/-- The elements of an unsigned integer kind. -/
def naturals? : Value → Option (List Nat)
  | byte xs | undefined xs => some (xs.map UInt8.toNat)
  | short xs => some (xs.map UInt16.toNat)
  | long xs | ifd xs => some (xs.map UInt32.toNat)
  | long8 xs | ifd8 xs => some (xs.map UInt64.toNat)
  | _ => none

/-- A whole number as a signed 64-bit one, if it is one. -/
def signed64? (n : Nat) : Option Int := if n < 0x8000000000000000 then some (n : Int) else none

/-- The elements of an integer kind as signed 64-bit numbers, if all of them are such numbers. -/
def integers? : Value → Option (List Int)
  | sbyte xs => some (xs.map Int8.toInt)
  | sshort xs => some (xs.map Int16.toInt)
  | slong xs => some (xs.map Int32.toInt)
  | slong8 xs => some (xs.map Int64.toInt)
  | value => value.naturals? >>= fun ns => ns.mapM signed64?

/-- The elements as floating-point numbers, those of integer kinds if `integers?` has them. -/
def floats? : Value → Option (List Float)
  | float xs => some (xs.map fun bits => (Float32.ofBits bits).toFloat)
  | double xs => some (xs.map Float.ofBits)
  | rational xs => some (xs.map Rational.toFloat)
  | srational xs => some (xs.map SRational.toFloat)
  | value => value.integers?.map fun ns => ns.map fun n => (Int64.ofInt n).toFloat

/-- The first element of an unsigned integer kind. -/
def firstNatural? (value : Value) : Option Nat := value.naturals? >>= List.head?

def text? : Value → Option String
  | ascii text => some text
  | _ => none

end Value

end Tiff
