-- Byte order. A run of bytes spells a number from one end or the other, and
-- the two magic bytes at the start of a file say from which. A run that is too
-- short for its number counts as filled up with zero bytes at its end.

namespace Tiff

/-- Which end of a number stands first in the file. -/
inductive ByteOrder where
  | little
  | big
  deriving DecidableEq, Repr, Inhabited

/-! ## Numerals -/

/-- The number whose lowest byte stands first. -/
def ofBytesLE : List UInt8 → Nat
  | [] => 0
  | b :: bs => b.toNat + 256 * ofBytesLE bs

/-- The lowest `width` bytes of a number, the lowest first. -/
def toBytesLE : Nat → Nat → List UInt8
  | 0, _ => []
  | width + 1, n => UInt8.ofNat n :: toBytesLE width (n / 256)

@[simp] theorem length_toBytesLE (width n : Nat) : (toBytesLE width n).length = width := by
  induction width generalizing n with
  | zero => rfl
  | succ width ih => simp [toBytesLE, ih]

/-- Exactly `width` bytes: a longer run is cut, a shorter one is filled with zeros. -/
def fitBytes (width : Nat) (bytes : List UInt8) : List UInt8 :=
  (bytes.take width).rightpad width 0

theorem fitBytes_of_length {width : Nat} {bytes : List UInt8} (h : bytes.length = width) :
    fitBytes width bytes = bytes := by
  simp [fitBytes, List.rightpad, ← h]

namespace ByteOrder

/-- The number that a run of bytes spells. -/
def ofBytes : ByteOrder → List UInt8 → Nat
  | .little, bytes => ofBytesLE bytes
  | .big, bytes => ofBytesLE bytes.reverse

/-- A number spelled with `width` bytes. -/
def toBytes : ByteOrder → Nat → Nat → List UInt8
  | .little, width, n => toBytesLE width n
  | .big, width, n => (toBytesLE width n).reverse

@[simp] theorem length_toBytes (order : ByteOrder) (width n : Nat) :
    (order.toBytes width n).length = width := by
  cases order <;> simp [toBytes]

/-- The number spelled by the first `width` bytes. -/
def read (order : ByteOrder) (width : Nat) (bytes : List UInt8) : Nat :=
  order.ofBytes (fitBytes width bytes)

def readU16 (order : ByteOrder) (bytes : List UInt8) : UInt16 := .ofNat (order.read 2 bytes)

def readU32 (order : ByteOrder) (bytes : List UInt8) : UInt32 := .ofNat (order.read 4 bytes)

def readU64 (order : ByteOrder) (bytes : List UInt8) : UInt64 := .ofNat (order.read 8 bytes)

/-! ## Magic bytes -/

/-- The two bytes that announce the order: `II` or `MM`. -/
def magic : ByteOrder → List UInt8
  | .little => [0x49, 0x49]
  | .big => [0x4D, 0x4D]

/-- The order that two magic bytes announce. -/
def ofMagic? : List UInt8 → Option ByteOrder
  | [0x49, 0x49] => some .little
  | [0x4D, 0x4D] => some .big
  | _ => none

theorem ofMagic?_magic (order : ByteOrder) : ofMagic? order.magic = some order := by
  cases order <;> rfl

def describe : ByteOrder → String
  | .little => "little-endian (II)"
  | .big => "big-endian (MM)"

def name : ByteOrder → String
  | .little => "LittleEndian"
  | .big => "BigEndian"

end ByteOrder

end Tiff
