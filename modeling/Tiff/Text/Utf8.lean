-- Text out of bytes. Bytes are read as UTF-8. The longest start of a character
-- that does not go on as one becomes a single replacement character, and
-- reading goes on right behind it.

namespace Tiff.Text

/-- The character that stands for bytes which spell none. -/
def replacement : Char := '\uFFFD'

/-- A byte between two others, both included. -/
def isBetween (low high b : UInt8) : Bool := low ≤ b && b ≤ high

/-- A byte that goes on a character: its two high bits are `10`. -/
def isTail : UInt8 → Bool := isBetween 0x80 0xBF

/-- What the bytes behind a lead byte have to be, one test for each. The first test keeps out
longer forms of shorter characters, surrogates, and everything past the last code point. -/
def tailTests (lead : UInt8) : Option (List (UInt8 → Bool)) :=
  if lead < 0x80 then some []
  else if isBetween 0xC2 0xDF lead then some [isTail]
  else if lead = 0xE0 then some [isBetween 0xA0 0xBF, isTail]
  else if lead = 0xED then some [isBetween 0x80 0x9F, isTail]
  else if isBetween 0xE1 0xEF lead then some [isTail, isTail]
  else if lead = 0xF0 then some [isBetween 0x90 0xBF, isTail, isTail]
  else if lead = 0xF4 then some [isBetween 0x80 0x8F, isTail, isTail]
  else if isBetween 0xF1 0xF3 lead then some [isTail, isTail, isTail]
  else none

/-- How many bytes pass the tests, one after the other, before one fails. -/
def countPassed : List (UInt8 → Bool) → List UInt8 → Nat
  | test :: tests, b :: bytes => if test b then countPassed tests bytes + 1 else 0
  | _, _ => 0

/-- The character of a lead byte and its tail: the bits of the lead that are not its length
mark, and six bits of each byte behind it. -/
def charOf (lead : UInt8) (tail : List UInt8) : Char :=
  let high := if tail.isEmpty then lead.toNat else lead.toNat % (1 <<< (6 - tail.length))
  Char.ofNat (tail.foldl (fun n b => n * 64 + b.toNat % 64) high)

/-- The characters that the bytes spell. -/
def decodeUtf8 : List UInt8 → List Char
  | [] => []
  | lead :: rest =>
    match tailTests lead with
    | none => replacement :: decodeUtf8 rest
    | some tests =>
      let n := countPassed tests rest
      (if n = tests.length then charOf lead (rest.take n) else replacement) ::
        decodeUtf8 (rest.drop n)
termination_by bytes => bytes.length
decreasing_by all_goals simp_wf; try omega

def ofUtf8 (bytes : List UInt8) : String := String.ofList (decodeUtf8 bytes)

end Tiff.Text
