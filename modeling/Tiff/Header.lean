-- Headers: the magic bytes, the version, and the way to the first directory. In
-- the classic layout the offset of the first directory follows the version. In
-- the big one, the width of offsets and a reserved word come before it.

import Tiff.Dialect
import Tiff.Reader

namespace Tiff

structure Header where
  order : ByteOrder
  version : UInt16
  layout : Layout
  /-- Bytes of an offset. -/
  offsetSize : Nat
  first : Nat
  deriving DecidableEq, Repr

namespace Header

/-- Reads the offset of the first directory, which lies behind the header. -/
def readFirst (layout : Layout) : ReadM Nat := do
  let first ← Reader.readNat layout.slotSize
  if first < layout.headerSize then throw (.header (.firstDirectoryInside first))
  return first

/-- Reads the width of offsets and the reserved word of a big header. A reserved word that is not
zero is only noted. -/
def readWidth : ReadM Unit := do
  let size ← Reader.readU16
  if size ≠ 8 then throw (.header (.offsetSize size.toNat))
  let reserved ← Reader.readU16
  if reserved ≠ 0 then Reader.warn (.reservedWord (← get).source.name reserved)

/-- Reads what follows the version, with the cursor right behind it. -/
def readTail (dialect : Dialect) : ReadM Header := do
  match dialect.layout with
  | .classic => pure ()
  | .big => readWidth
  let first ← readFirst dialect.layout
  return {
    order := ← Reader.order
    version := dialect.version
    layout := dialect.layout
    offsetSize := dialect.layout.slotSize
    first }

/-- Reads the header from the start of the source, and leaves the cursor with the byte order of
the file. -/
def read (dialects : Dialects) : ReadM Header := do
  Reader.seek 0
  let magic ← Reader.readBytes 2
  match ByteOrder.ofMagic? magic with
  | none => throw (.byteOrder magic)
  | some order =>
    Reader.setOrder order
    let version ← Reader.readU16
    match dialects.get? version with
    | none => throw (.version version)
    | some dialect => readTail dialect

end Header

end Tiff
