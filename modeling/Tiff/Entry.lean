-- Entries: the records of fixed width that a directory is made of. An entry
-- names a tag, a type and a number of elements, and has a slot for the value or
-- for its offset.

import Tiff.Layout
import Tiff.Reader

namespace Tiff

/-- An entry as it stands in the file. -/
structure Entry where
  layout : Layout
  tag : UInt16
  type : UInt16
  /-- Elements, not bytes. -/
  count : Nat
  /-- The bytes of the slot, as many as the layout has. -/
  slot : List UInt8
  deriving DecidableEq, Repr

namespace Entry

def read (layout : Layout) : ReadM Entry := do
  let tag ← Reader.readU16
  let type ← Reader.readU16
  let count ← Reader.readNat layout.slotSize
  let slot ← Reader.readBytes layout.slotSize
  return { layout, tag, type, count, slot }

/-- The slot read as an offset. -/
def offset (entry : Entry) (order : ByteOrder) : Nat :=
  order.read entry.layout.slotSize entry.slot

end Entry

end Tiff
