-- Conversions. A payload converts into a list of numbers or into its first one,
-- when each element is such a number; nothing is rounded into another integer.

import Tiff.Payload

namespace Tiff

/-! ## Integer ranges -/

/-- The ranges of whole numbers that a payload can be converted into. -/
inductive IntRange where
  | uint8 | uint16 | uint32 | uint64 | int8 | int16 | int32 | int64
  deriving DecidableEq, Repr

namespace IntRange

def all : List IntRange := [uint8, uint16, uint32, uint64, int8, int16, int32, int64]

def name : IntRange → String
  | uint8 => "u8"
  | uint16 => "u16"
  | uint32 => "u32"
  | uint64 => "u64"
  | int8 => "i8"
  | int16 => "i16"
  | int32 => "i32"
  | int64 => "i64"

def least : IntRange → Int
  | uint8 | uint16 | uint32 | uint64 => 0
  | int8 => -0x80
  | int16 => -0x8000
  | int32 => -0x80000000
  | int64 => -0x8000000000000000

/-- The first number beyond the range. -/
def limit : IntRange → Int
  | uint8 => 0x100
  | uint16 => 0x10000
  | uint32 => 0x100000000
  | uint64 => 0x10000000000000000
  | int8 => 0x80
  | int16 => 0x8000
  | int32 => 0x80000000
  | int64 => 0x8000000000000000

def holds (range : IntRange) (n : Int) : Bool := range.least ≤ n && n < range.limit

end IntRange

/-- The elements of an integer kind as whole numbers. -/
def Value.wholes? (value : Value) : Option (List Int) :=
  match value.naturals? with
  | some ns => some (ns.map Int.ofNat)
  | none => value.integers?

namespace Payload

/-! ## Refusals -/

/-- The error of a payload that does not convert into what was expected. -/
def unresolved (payload : Payload) (expected : String) : Error :=
  .conversion payload.tagId expected payload.value.kind payload.count

/-- What was found, or the refusal to convert. -/
def expecting {α : Type} (payload : Payload) (expected : String) (found : Option α) :
    Except Error α :=
  match found with
  | some a => .ok a
  | none => .error (payload.unresolved expected)

/-- A list, by the name of its elements. -/
def listOf (name : String) : String := "Vec<" ++ name ++ ">"

/-! ## Whole numbers -/

/-- All elements, if each of them is a whole number in the range. -/
def wholesIn? (payload : Payload) (range : IntRange) : Option (List Int) :=
  payload.value.wholes?.filter fun ns => ns.all range.holds

def integers (payload : Payload) (range : IntRange) : Except Error (List Int) :=
  payload.expecting (listOf range.name) (payload.wholesIn? range)

/-- The first element as a number of a range that holds all of them. -/
def integer (payload : Payload) (range : IntRange) : Except Error Int :=
  payload.expecting range.name (payload.wholesIn? range >>= List.head?)

/-- All elements as 64-bit offsets or counts. -/
def naturals (payload : Payload) : Except Error (List Nat) :=
  (payload.integers .uint64).map fun ns => ns.map Int.toNat

/-- The first element as a number of an unsigned range. -/
def natural (payload : Payload) (range : IntRange) : Except Error Nat :=
  (payload.integer range).map Int.toNat

/-! ## Other numbers and text -/

def firstOf {α : Type} (payload : Payload) (expected : String) (elements : Except Error (List α)) :
    Except Error α := do
  payload.expecting expected (← elements).head?

def doubles (payload : Payload) : Except Error (List Float) :=
  payload.expecting (listOf "f64") payload.value.floats?

def double (payload : Payload) : Except Error Float := payload.firstOf "f64" payload.doubles

def singles (payload : Payload) : Except Error (List Float32) :=
  payload.expecting (listOf "f32") <|
    match payload.value with
    | .float xs => some (xs.map Float32.ofBits)
    | value => value.floats?.map fun xs => xs.map Float.toFloat32

def single (payload : Payload) : Except Error Float32 := payload.firstOf "f32" payload.singles

def rationals (payload : Payload) : Except Error (List Rational) :=
  payload.expecting (listOf "Rational") <|
    match payload.value with
    | .rational xs => some xs
    | _ => none

def rational (payload : Payload) : Except Error Rational :=
  payload.firstOf "Rational" payload.rationals

def srationals (payload : Payload) : Except Error (List SRational) :=
  payload.expecting (listOf "SRational") <|
    match payload.value with
    | .srational xs => some xs
    | _ => none

def srational (payload : Payload) : Except Error SRational :=
  payload.firstOf "SRational" payload.srationals

def text (payload : Payload) : Except Error String :=
  payload.expecting "String" payload.value.text?

end Payload

end Tiff
