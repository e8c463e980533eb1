-- Field types: how the elements of a value are stored. A type knows the size of
-- its elements, how to decode a whole value, and how to show one element.

import Tiff.Byte.Groups
import Tiff.Byte.Order
import Tiff.Text.Record
import Tiff.Value

namespace Tiff

/-- A type of elements. -/
structure FieldType where
  id : UInt16
  name : String
  /-- Bytes of an element. -/
  size : Nat
  /-- Whether its numbers may be negative. -/
  signed : Bool
  decode : ByteOrder → List UInt8 → Value
  /-- The text of one element. -/
  render : ByteOrder → List UInt8 → String

/-- The decimal text of the first byte, nothing where there is none. -/
def renderByte (element : List UInt8) : String :=
  (element.head?.map fun b => toString b.toNat).getD ""

namespace FieldType

/-- What stands for a type that nobody registered: single bytes, kept as they are. -/
def unknown (id : UInt16) : FieldType where
  id := id
  name := s!"UNKNOWN_FIELDTYPE_{id.toNat}"
  size := 1
  signed := false
  decode := fun _ bytes => .raw bytes
  render := fun _ element => renderByte element

/-- The text of every element of a value. Elements of no size cannot be told apart. -/
def renderAll (type : FieldType) (order : ByteOrder) (bytes : List UInt8) : List String :=
  (groups type.size bytes).map (type.render order)

def describe (type : FieldType) : String :=
  Text.record "FieldType" [
    ("id", toString type.id.toNat),
    ("name", Text.quote type.name),
    ("size", toString type.size),
    ("signed", toString type.signed)]

end FieldType

end Tiff
