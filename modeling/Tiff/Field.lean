-- Fields: entries with their tag, their type and the bytes of their value. A
-- value that fits into the slot of its entry is kept there, from the left. Any
-- other one is elsewhere in the file, and the slot holds its offset.

import Tiff.Limits
import Tiff.Tag

namespace Tiff

/-- What ids mean while a directory is read. -/
structure Dictionary where
  tag : UInt16 → Tag
  type : UInt16 → FieldType

/-- A field of a directory. -/
structure Field extends Payload where
  tag : Tag

/-- The first offset that is negative when it is read as a signed number. -/
def signedLimit : Nat := addressLimit / 2

/-- A 64-bit word read as a signed number. -/
def asSigned64 (n : Nat) : Int := (n : Int).bmod addressLimit

namespace Field

/-! ## Reading -/

/-- The bytes of a value that is not in its slot. Sections know signed 64-bit numbers only. -/
def readValue (offset length : Nat) : ReadM (List UInt8) :=
  if offset < signedLimit ∧ length < signedLimit then Reader.readSection offset length
  else throw (.sectionBounds (asSigned64 offset) (asSigned64 length))

/-- Finds the value of an entry. The cursor stays where it is. -/
def resolve (words : Dictionary) (limits : Limits) (entry : Entry) : ReadM Field := do
  let tag := words.tag entry.tag
  let type := words.type entry.type
  let order ← Reader.order
  let size := entry.count * type.size
  if addressLimit ≤ size ∨ limits.valueSize < size then
    throw (.valueTooLarge entry.tag entry.count type.size)
  else if size ≤ entry.layout.slotSize then
    return { entry, tag, type, order, bytes := entry.slot.take size, offset := 0 }
  else
    let offset := entry.offset order
    let bytes ← (readValue offset size).adaptExcept (Error.value entry.tag offset)
    return { entry, tag, type, order, bytes, offset }

def read (words : Dictionary) (limits : Limits) (layout : Layout) : ReadM Field := do
  resolve words limits (← Entry.read layout)

/-! ## In words -/

/-- What the interpreter of the tag says, if it has one. -/
def interpret? (field : Field) : Option String :=
  field.tag.interpreter.map fun tell => tell field.toPayload

def describe (field : Field) : String :=
  Text.record "Field" [
    ("tag", Text.quote field.tag.name),
    ("tag_id", toString field.tagId.toNat),
    ("field_type", Text.quote field.type.name),
    ("count", toString field.count),
    ("offset", toString field.offset)]

end Field

end Tiff
