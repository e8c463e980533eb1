-- Directories: a number of entries, the entries, and a link to the next one. The
-- fields are looked up through the index of their table.

import Tiff.FieldTable

namespace Tiff

structure Directory where
  offset : Nat
  layout : Layout
  /-- The number of entries, as it stands in front of them. -/
  entryCount : Nat
  table : FieldTable
  /-- The offset of the next directory, 0 at the end of the chain. -/
  next : Nat

namespace Directory

/-! ## Reading -/

/-- Reads as many fields as there are entries, behind those read before. -/
def readFields (words : Dictionary) (limits : Limits) (layout : Layout) :
    Nat → FieldTable → ReadM FieldTable
  | 0, table => return table
  | count + 1, table => do
    let field ← Field.read words limits layout
    readFields words limits layout count (table.push field)

/-- Whether a directory of so many entries can be there: its end has an address, and lies in the
source if the size of that is known. -/
def fits (layout : Layout) (offset count : Nat) (size? : Option Nat) : Bool :=
  match layout.span? count with
  | none => false
  | some span => offset + span < addressLimit && size?.all fun size => offset + span ≤ size

/-- Reads the directory at an offset. The cursor ends behind its link. -/
def read (words : Dictionary) (limits : Limits) (layout : Layout) (offset : Nat) :
    ReadM Directory := do
  Reader.seek offset
  let count ← Reader.readNat layout.countSize
  let size? := (← get).source.size?
  if limits.entries < count ∨ !fits layout offset count size? then
    throw (.directoryTooLarge offset count)
  else
    let table ← readFields words limits layout count .empty
    let next ← Reader.readNat layout.linkSize
    return { offset, layout, entryCount := count, table, next }

/-! ## Fields -/

/-- The fields in the order of the file. -/
def fields (directory : Directory) : List Field := directory.table.fields.toList

/-- The field that the index has for a tag. -/
def field? (directory : Directory) (tag : UInt16) : Option Field :=
  directory.table.index[tag]?.bind fun position => directory.table.fields[position]?

def has (directory : Directory) (tag : UInt16) : Bool := directory.table.index.contains tag

/-- The tags of the index, each once, in ascending order. -/
def tagIds (directory : Directory) : List UInt16 := directory.table.index.keys

/-- Bytes of the directory itself: the number of entries, the entries, and the link. -/
def byteSpan (directory : Directory) : Nat :=
  (directory.layout.span? directory.entryCount).getD (addressLimit - 1)

/-- What the field of a tag converts into, nothing if there is no such field. -/
def get {α : Type} (directory : Directory) (tag : UInt16) (convert : Payload → Except Error α) :
    Except Error (Option α) :=
  match directory.field? tag with
  | none => .ok none
  | some field => (convert field.toPayload).map some

/-- What the field of a tag converts into; the directory must have it. -/
def require {α : Type} (directory : Directory) (tag : UInt16)
    (convert : Payload → Except Error α) : Except Error α :=
  match directory.field? tag with
  | none => .error (.missingTag tag)
  | some field => convert field.toPayload

end Directory

end Tiff
