-- Readers. A reader is an open source with a cursor: a position and the byte
-- order in which numbers are read. Reading in sequence moves the cursor, and
-- only when it succeeds; reading at an offset leaves the cursor alone.

import Tiff.Byte.Order
import Tiff.Byte.Source
import Tiff.Warning

namespace Tiff

/-- Where a reader stands, and how it reads numbers. -/
structure Cursor where
  order : ByteOrder := .little
  position : Nat := 0
  deriving DecidableEq, Repr, Inhabited

/-- An open source, a cursor in it, and the warnings that reading it raised so far. -/
structure Reader where
  source : Source
  cursor : Cursor := {}
  warnings : List Warning := []

/-- A reading. It may fail, and either way it leaves a reader behind: a stream keeps what it
pulled, and a cursor stays where it came to. -/
abbrev ReadM := EStateM Error Reader

/-- How a request ended, and the reader that it left behind. -/
def ReadM.outcome {α : Type} (reading : ReadM α) (reader : Reader) : Except Error α × Reader :=
  match reading.run reader with
  | .ok a reader' => (.ok a, reader')
  | .error e reader' => (.error e, reader')

namespace Reader

/-! ## The cursor -/

def seek (position : Nat) : ReadM Unit :=
  modify fun r => { r with cursor := { r.cursor with position } }

def setOrder (order : ByteOrder) : ReadM Unit :=
  modify fun r => { r with cursor := { r.cursor with order } }

def order : ReadM ByteOrder := return (← get).cursor.order

def warn (warning : Warning) : ReadM Unit :=
  modify fun r => { r with warnings := r.warnings ++ [warning] }

/-- Runs a reading with a cursor of its own and then puts the old cursor back. -/
def detached {α : Type} (reading : ReadM α) : ReadM α := fun reader =>
  match reading reader with
  | .ok a reader' => .ok a { reader' with cursor := reader.cursor }
  | .error e reader' => .error e { reader' with cursor := reader.cursor }

/-- What a reading gives, or the error that it fails with. -/
def attempt {α : Type} (reading : ReadM α) : ReadM (Except Error α) := fun reader =>
  match reading reader with
  | .ok a reader' => .ok (.ok a) reader'
  | .error e reader' => .ok (.error e) reader'

/-! ## Reading at an offset -/

/-- What a reader reports when its source cannot give a range: running out of bytes is a
truncated read. -/
def refusal (offset length : Nat) : SourceError → Error
  | .outOfBounds .. => .truncated offset length
  | cause => .source cause

/-- The bytes of a range. An empty range is always there. -/
def readAt (offset length : Nat) : ReadM (List UInt8) := fun reader =>
  if length = 0 then .ok [] reader
  else
    match reader.source.read offset length with
    | (.ok bytes, source) => .ok bytes { reader with source }
    | (.error cause, source) => .error (refusal offset length cause) { reader with source }

/-- The bytes of a section: its offset is not negative, and it has at least one byte. -/
def readSection (offset length : Int) : ReadM (List UInt8) :=
  if offset < 0 ∨ length < 1 then throw (.sectionBounds offset length)
  else readAt offset.toNat length.toNat

/-! ## Reading in sequence -/

/-- The next bytes. -/
def readBytes (length : Nat) : ReadM (List UInt8) := do
  let position := (← get).cursor.position
  let bytes ← readAt position length
  seek (position + length)
  return bytes

/-- The next number of `width` bytes, in the order of the cursor. -/
def readNat (width : Nat) : ReadM Nat := do
  let bytes ← readBytes width
  return (← order).read width bytes

/-- The next 16-bit word. -/
def readU16 : ReadM UInt16 := do
  let bytes ← readBytes 2
  return (← order).readU16 bytes

def readU32 : ReadM UInt32 := do
  let bytes ← readBytes 4
  return (← order).readU32 bytes

def readU64 : ReadM UInt64 := do
  let bytes ← readBytes 8
  return (← order).readU64 bytes

def describe (reader : Reader) : String :=
  Text.record "ByteReader" [
    ("source", Text.quote reader.source.name),
    ("order", reader.cursor.order.name),
    ("position", toString reader.cursor.position)]

end Reader

/-! ## Readers of one source -/

/-- Cursors that move on their own over one shared source. -/
structure SharedReaders where
  source : Source
  cursors : Array Cursor

namespace SharedReaders

/-- The reader that stands at the given cursor. -/
def reader (shared : SharedReaders) (index : Nat) : Reader :=
  { source := shared.source, cursor := shared.cursors.getD index {} }

/-- A cursor that starts where another one stands; its index is the number of cursors so far. -/
def clone (shared : SharedReaders) (index : Nat) : SharedReaders :=
  { shared with cursors := shared.cursors.push (shared.reader index).cursor }

def run {α : Type} (shared : SharedReaders) (index : Nat) (reading : ReadM α) :
    Except Error α × SharedReaders :=
  let (answer, reader) := reading.outcome (shared.reader index)
  (answer, { source := reader.source, cursors := shared.cursors.setIfInBounds index reader.cursor })

/-- A range asked of the source itself. -/
def readSource (shared : SharedReaders) (offset length : Nat) :
    Except SourceError (List UInt8) × SharedReaders :=
  let (answer, source) := shared.source.read offset length
  (answer, { shared with source })

end SharedReaders

end Tiff
