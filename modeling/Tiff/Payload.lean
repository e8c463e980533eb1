-- Payloads: an entry together with the type and the bytes of its value, and all
-- that can be said of them without knowing what the tag means.

import Tiff.Entry
import Tiff.FieldType

namespace Tiff

/-- The value of an entry. -/
structure Payload where
  entry : Entry
  type : FieldType
  order : ByteOrder
  /-- As many bytes as the elements take. -/
  bytes : List UInt8
  /-- Where the bytes are in the file, or 0 if they are in the slot of the entry. -/
  offset : Nat

namespace Payload

def tagId (payload : Payload) : UInt16 := payload.entry.tag

def count (payload : Payload) : Nat := payload.entry.count

def value (payload : Payload) : Value := payload.type.decode payload.order payload.bytes

def texts (payload : Payload) : List String := payload.type.renderAll payload.order payload.bytes

end Payload

end Tiff
