-- Quoted text. A text stands between double quotes; the quote, the backslash
-- and every character that cannot be shown on its own is written as an escape.

import Tiff.Text.Numeral
import Tiff.Text.Printable
import Tiff.Text.Grapheme

namespace Tiff.Text

/-- Whether a character stands for itself between quotes. -/
def isPlain (c : Char) : Bool :=
  if c.toNat < 0x7F then 0x20 ≤ c.toNat else isPrintable c && !extendsGrapheme c

/-- One character as it stands between quotes: the short escapes, itself, or its code point in
lower-case hexadecimal. -/
def escapeChar : Char → List Char
  | '"' => ['\\', '"']
  | '\\' => ['\\', '\\']
  | '\n' => ['\\', 'n']
  | '\r' => ['\\', 'r']
  | '\t' => ['\\', 't']
  | '\x00' => ['\\', '0']
  | c => if isPlain c then [c] else ['\\', 'u', '\x7b'] ++ (hex c.toNat).toList ++ ['\x7d']

/-- A text between quotes. -/
def quote (text : String) : String :=
  String.ofList ('"' :: text.toList.flatMap escapeChar ++ ['"'])

end Tiff.Text
