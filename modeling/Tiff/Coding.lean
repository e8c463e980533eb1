-- The codings of elements that the file format defines: sixteen of them, from
-- single bytes to fractions and floating-point numbers, with a decoder, a size
-- and a text for each.

import Tiff.FieldType
import Tiff.Number.Binary
import Tiff.Text.Utf8

namespace Tiff

/-- How the elements of a value are coded. -/
inductive Coding where
  | byte | ascii | short | long | rational | sbyte | undefined | sshort | slong | srational
  | float | double | ifd | long8 | slong8 | ifd8
  deriving DecidableEq, Repr

namespace Coding

def id : Coding → UInt16
  | byte => 1
  | ascii => 2
  | short => 3
  | long => 4
  | rational => 5
  | sbyte => 6
  | undefined => 7
  | sshort => 8
  | slong => 9
  | srational => 10
  | float => 11
  | double => 12
  | ifd => 13
  | long8 => 16
  | slong8 => 17
  | ifd8 => 18

def name : Coding → String
  | byte => "BYTE"
  | ascii => "ASCII"
  | short => "SHORT"
  | long => "LONG"
  | rational => "RATIONAL"
  | sbyte => "SBYTE"
  | undefined => "UNDEFINED"
  | sshort => "SSHORT"
  | slong => "SLONG"
  | srational => "SRATIONAL"
  | float => "FLOAT"
  | double => "DOUBLE"
  | ifd => "IFD"
  | long8 => "LONG8"
  | slong8 => "SLONG8"
  | ifd8 => "IFD8"

/-- Bytes of an element. -/
def size : Coding → Nat
  | byte | ascii | sbyte | undefined => 1
  | short | sshort => 2
  | long | slong | float | ifd => 4
  | rational | srational | double | long8 | slong8 | ifd8 => 8

def signed : Coding → Bool
  | sbyte | sshort | slong | srational | float | double | slong8 => true
  | _ => false

/-! ## Elements -/

/-- The text of a fraction's two terms, as they are stored. -/
def terms {α : Type} [ToString α] (term : List UInt8 → α) (element : List UInt8) : String :=
  s!"{term element}/{term (element.drop 4)}"

/-- The text before the first NUL. -/
def textOf (bytes : List UInt8) : String := Text.ofUtf8 (bytes.takeWhile (· != 0))

/-- The elements of a value. Bytes that do not fill an element are left out. -/
def decode (coding : Coding) (order : ByteOrder) (bytes : List UInt8) : Value :=
  match coding with
  | byte => .byte bytes
  | ascii => .ascii (textOf bytes)
  | short => .short ((groups 2 bytes).map order.readU16)
  | long => .long ((groups 4 bytes).map order.readU32)
  | rational => .rational ((groups 8 bytes).map fun e =>
      Rational.make (order.readU32 e) (order.readU32 (e.drop 4)))
  | sbyte => .sbyte (bytes.map UInt8.toInt8)
  | undefined => .undefined bytes
  | sshort => .sshort ((groups 2 bytes).map fun e => (order.readU16 e).toInt16)
  | slong => .slong ((groups 4 bytes).map fun e => (order.readU32 e).toInt32)
  | srational => .srational ((groups 8 bytes).map fun e =>
      SRational.make (order.readU32 e).toInt32 (order.readU32 (e.drop 4)).toInt32)
  | float => .float ((groups 4 bytes).map order.readU32)
  | double => .double ((groups 8 bytes).map order.readU64)
  | ifd => .ifd ((groups 4 bytes).map order.readU32)
  | long8 => .long8 ((groups 8 bytes).map order.readU64)
  | slong8 => .slong8 ((groups 8 bytes).map fun e => (order.readU64 e).toInt64)
  | ifd8 => .ifd8 ((groups 8 bytes).map order.readU64)

/-- The text of one element. Fractions show the terms that are stored, and floating-point numbers
have six decimals. -/
def render (coding : Coding) (order : ByteOrder) (element : List UInt8) : String :=
  match coding with
  | byte | undefined => renderByte element
  | ascii => Text.ofUtf8 element
  | short => toString (order.readU16 element)
  | long | ifd => toString (order.readU32 element)
  | rational => terms order.readU32 element
  | sbyte => (element.head?.map fun b => toString b.toInt8).getD ""
  | sshort => toString (order.readU16 element).toInt16
  | slong => toString (order.readU32 element).toInt32
  | srational => terms (fun e => (order.readU32 e).toInt32) element
  | float => (Binary.ofSingle (order.readU32 element)).toFixed 6
  | double => (Binary.ofDouble (order.readU64 element)).toFixed 6
  | long8 | ifd8 => toString (order.readU64 element)
  | slong8 => toString (order.readU64 element).toInt64

def fieldType (coding : Coding) : FieldType where
  id := coding.id
  name := coding.name
  size := coding.size
  signed := coding.signed
  decode := coding.decode
  render := coding.render

end Coding

end Tiff
