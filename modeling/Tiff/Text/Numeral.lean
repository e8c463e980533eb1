-- Numerals in text: decimal and hexadecimal digits, with leading zeros where a
-- width is asked for.

namespace Tiff.Text

/-- Fills a text up to `width` characters with leading zeros. -/
def zeroPad (width : Nat) (text : String) : String :=
  String.ofList (text.toList.leftpad width '0')

def hex (n : Nat) : String := String.ofList (Nat.toDigits 16 n)

def hexUpper (n : Nat) : String := String.ofList ((Nat.toDigits 16 n).map Char.toUpper)

/-- Two lower-case digits for each byte. -/
def hexBytes (bytes : List UInt8) : String :=
  String.join (bytes.map fun b => zeroPad 2 (hex b.toNat))

end Tiff.Text
