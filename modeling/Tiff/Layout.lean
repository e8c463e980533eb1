-- The two layouts of a file. They differ in the widths of what a header and a
-- directory are made of: 32-bit offsets in the classic one, 64-bit offsets in
-- the big one.

import Tiff.Byte.Source

namespace Tiff

/-- How wide the parts of a file are. -/
inductive Layout where
  | classic
  | big
  deriving DecidableEq, Repr, Inhabited

namespace Layout

/-- Bytes of the header. -/
def headerSize : Layout → Nat
  | classic => 8
  | big => 16

/-- Bytes of an entry: tag, type, count, and the slot for its value. -/
def entrySize : Layout → Nat
  | classic => 12
  | big => 20

/-- Bytes of the number of entries, at the start of a directory. -/
def countSize : Layout → Nat
  | classic => 2
  | big => 8

/-- Bytes of the link to the next directory, behind the entries. -/
def linkSize : Layout → Nat
  | classic => 4
  | big => 8

/-- Bytes of the slot of an entry. A value that fits is kept there, and for any other one the slot
holds its offset. -/
def slotSize : Layout → Nat
  | classic => 4
  | big => 8

/-- Bytes of a directory with `count` entries, if that is a 64-bit number. -/
def span? (layout : Layout) (count : Nat) : Option Nat :=
  let span := count * layout.entrySize + (layout.countSize + layout.linkSize)
  if span < addressLimit then some span else none

def name : Layout → String
  | classic => "Classic"
  | big => "Big"

end Layout

end Tiff
