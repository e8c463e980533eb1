-- Dialects. The version number behind the magic bytes names a dialect, and the
-- dialect says which layout the file has.

import Std.Data.TreeMap
import Tiff.Layout
import Tiff.Text.Record

namespace Tiff

/-- The files of one version. -/
structure Dialect where
  version : UInt16
  name : String
  layout : Layout
  deriving DecidableEq, Repr

namespace Dialect

/-- Classic TIFF. -/
def tiff : Dialect := ⟨42, "TIFF", .classic⟩

/-- The variant of 1985, laid out like classic TIFF. -/
def tiff85 : Dialect := ⟨0x55, "TIFF85", .classic⟩

/-- BigTIFF. -/
def bigTiff : Dialect := ⟨43, "BigTIFF", .big⟩

end Dialect

/-- The dialects that a reading knows, by version. -/
structure Dialects where
  byVersion : Std.TreeMap UInt16 Dialect := {}

namespace Dialects

/-- Adds a dialect; it takes the place of one with the same version. -/
def register (dialects : Dialects) (dialect : Dialect) : Dialects :=
  ⟨dialects.byVersion.insert dialect.version dialect⟩

def get? (dialects : Dialects) (version : UInt16) : Option Dialect := dialects.byVersion[version]?

/-- The versions, in ascending order. -/
def versions (dialects : Dialects) : List UInt16 := dialects.byVersion.keys

/-- Classic TIFF and BigTIFF. -/
def standard : Dialects := (({} : Dialects).register .tiff).register .bigTiff

def describeVersions (dialects : Dialects) : String :=
  Text.bracketed (dialects.versions.map fun v => toString v.toNat)

def describe (dialects : Dialects) : String :=
  Text.record "VersionRegistry" [("versions", dialects.describeVersions)]

end Dialects

end Tiff
