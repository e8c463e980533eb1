-- What can go wrong, by cause: a source that cannot give the bytes asked of it,
-- and a file that does not hold what its header and directories promise. Each
-- kind of error has one wording.

import Tiff.Text.Record

namespace Tiff

/-! ## Sources -/

/-- Why a source did not give a range of bytes. -/
inductive SourceError where
  | outOfBounds (offset requested size : Nat)
  | broken (offset : Nat) (message : String)
  deriving DecidableEq, Repr

namespace SourceError

def message : SourceError → String
  | outOfBounds offset requested size =>
    s!"Range out of bounds: requested {requested} bytes at offset {offset}, size is {size}"
  | broken offset text => s!"Read failed at offset {offset}: {text}"

end SourceError

/-! ## Files -/

/-- What is wrong with the end of a header. -/
inductive HeaderFault where
  /-- The first directory would lie inside the header. -/
  | firstDirectoryInside (offset : Nat)
  /-- Offsets of another width than eight bytes. -/
  | offsetSize (size : Nat)
  deriving DecidableEq, Repr

namespace HeaderFault

def message : HeaderFault → String
  | firstDirectoryInside offset => s!"first IFD offset {offset} lies inside the header"
  | offsetSize size => s!"BigTIFF offset size is {size}, expected 8"

end HeaderFault

/-- Why a file, or a part of one, could not be read. -/
inductive Error where
  | source (cause : SourceError)
  /-- The magic bytes name no byte order. -/
  | byteOrder (magic : List UInt8)
  | version (version : UInt16)
  /-- The header goes on in a way that its dialect forbids. -/
  | header (fault : HeaderFault)
  /-- The source ends before the bytes that were needed. -/
  | truncated (offset needed : Nat)
  /-- A section needs an offset that is not negative and a length of at least one byte. -/
  | sectionBounds (offset length : Int)
  /-- The link of a directory leads back to one that was visited. -/
  | circular (offset index : Nat)
  | tooManyDirectories (limit : Nat)
  /-- A directory has too many entries, or does not fit into the source. -/
  | directoryTooLarge (offset entryCount : Nat)
  | valueTooLarge (tag : UInt16) (count typeSize : Nat)
  /-- The value of a field could not be read where its entry points. -/
  | value (tag : UInt16) (offset : Nat) (cause : Error)
  /-- A directory of the chain could not be read. -/
  | directory (index offset : Nat) (cause : Error)
  /-- A value does not convert into what was asked for. -/
  | conversion (tag : UInt16) (expected kind : String) (count : Nat)
  | missingTag (tag : UInt16)
  | compression (scheme : UInt16)
  deriving DecidableEq, Repr

namespace Error

/-- The error in words. An error inside another one is told behind it. -/
def message : Error → String
  | source cause => s!"I/O error: {cause.message}"
  | byteOrder magic =>
    let shown := Text.bracketed (magic.map fun b => Text.zeroPad 2 (Text.hexUpper b.toNat))
    s!"Invalid byte order: expected \"II\" or \"MM\", got {shown}"
  | version n =>
    let digits := Text.zeroPad 4 (Text.hexUpper n.toNat)
    s!"Unsupported TIFF version: {n.toNat} (0x{digits})"
  | header fault => s!"Malformed header: {fault.message}"
  | truncated offset needed => s!"Truncated read: needed {needed} bytes at offset {offset}"
  | sectionBounds offset length =>
    s!"Invalid section bounds: offset {offset}, length {length}"
  | circular offset index =>
    s!"Circular directory chain: IFD {index} points back to offset {offset}"
  | tooManyDirectories limit => s!"Too many directories: limit is {limit}"
  | directoryTooLarge offset entryCount =>
    s!"Directory at offset {offset} declares {entryCount} entries"
  | valueTooLarge tag count typeSize =>
    s!"Value of tag {tag.toNat} is too large: {count} x {typeSize} bytes"
  | value tag offset cause =>
    s!"Failed to read value of tag {tag.toNat} at offset {offset}: {cause.message}"
  | directory index offset cause =>
    s!"Failed to parse IFD {index} at offset {offset}: {cause.message}"
  | conversion tag expected kind count =>
    s!"Cannot convert tag {tag.toNat} ({kind} x {count}) into {expected}"
  | missingTag tag => s!"Missing required tag: {tag.toNat}"
  | compression scheme => s!"Unsupported compression: {scheme.toNat}"

end Error

end Tiff
