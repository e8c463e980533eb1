-- Detection: what the first four bytes of a source say about it. That is enough
-- to tell whether the source is worth reading.

import Tiff.Header

namespace Tiff

/-- What a source looks like. -/
structure Detection where
  order : ByteOrder
  version : UInt16
  dialect : String
  layout : Layout
  deriving DecidableEq, Repr

namespace Detection

/-- The bytes that are looked at. -/
def sniffed : Nat := 4

/-- Looks at the start of a source. The cursor stays where it is. -/
def read (dialects : Dialects) : ReadM Detection := do
  let head ← Reader.readAt 0 sniffed
  let magic := head.take 2
  match ByteOrder.ofMagic? magic with
  | none => throw (.byteOrder magic)
  | some order =>
    let version := order.readU16 (head.drop 2)
    match dialects.get? version with
    | none => throw (.version version)
    | some dialect => return { order, version, dialect := dialect.name, layout := dialect.layout }

/-- Whether bytes start like a file of one of the two standard dialects. -/
def looksLikeTiff (bytes : List UInt8) : Bool :=
  if bytes.length < sniffed then false
  else
    match ByteOrder.ofMagic? (bytes.take 2) with
    | none => false
    | some order =>
      let version := order.readU16 (bytes.drop 2)
      version == Dialect.tiff.version || version == Dialect.bigTiff.version

end Detection

end Tiff
