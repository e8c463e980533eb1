-- The standard field types, 1 to 18. The format leaves the sizes of two of them
-- open, so these two are in a set that is not locked.

import Tiff.Coding
import Tiff.Limits
import Tiff.Registry.ItemSet

namespace Tiff.Catalog

/-- The locked set of the types of TIFF 6.0. -/
def defaultTypes : ItemSet FieldType :=
  let codings : List Coding := [
    .byte, .ascii, .short, .long, .rational, .sbyte, .undefined, .sshort, .slong, .srational,
    .float, .double, .ifd]
  .preloaded "Default" 0 65535 (codings.map Coding.fieldType) true

/-- The locked set of the types with 64-bit elements. -/
def bigTypes : ItemSet FieldType :=
  let codings : List Coding := [.long8, .slong8, .ifd8]
  .preloaded "BigTIFF" 0 65535 (codings.map Coding.fieldType) true

/-- A type that keeps the bytes of its elements and shows them in hexadecimal. -/
def hexType (id : UInt16) (name : String) (size : Nat) (signed : Bool) : FieldType where
  id := id
  name := name
  size := size
  signed := signed
  decode := fun _ bytes => .raw bytes
  render := fun _ element => Text.hexBytes element

/-- The open set of the types whose size is agreed on elsewhere. -/
def provisionalTypes (sizes : OpenSizes) : ItemSet FieldType :=
  .preloaded "Provisional" 0 65535 [
    hexType 14 "UNICODE" sizes.unicode false,
    hexType 15 "COMPLEX" sizes.complex true] false

end Tiff.Catalog
