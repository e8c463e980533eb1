-- Limits of a reading. Every count and offset of a file is untrusted, and these
-- bound what a single reading may take.

namespace Tiff

/-- What a reading refuses to go beyond. -/
structure Limits where
  /-- Directories of the chain. -/
  directories : Nat := 4096
  /-- Entries of one directory. -/
  entries : Nat := 1000000
  /-- Bytes of one value. -/
  valueSize : Nat := 256 * 1024 * 1024
  deriving DecidableEq, Repr

/-- The sizes of the field types that the format leaves open. -/
structure OpenSizes where
  unicode : Nat := 2
  complex : Nat := 8
  deriving DecidableEq, Repr

end Tiff
