-- Compression schemes. Each scheme is known by its number, and only data that is
-- not compressed can be decoded.

import Tiff.Error

namespace Tiff

/-- How the strips of an image are compressed. -/
inductive Compression where
  | none | ccittRle | lzw | oldJpeg | jpeg | deflate | packBits | adobeDeflate
  deriving DecidableEq, Repr

namespace Compression

def all : List Compression :=
  [none, ccittRle, lzw, oldJpeg, jpeg, deflate, packBits, adobeDeflate]

def id : Compression → UInt16
  | none => 1
  | ccittRle => 2
  | lzw => 5
  | oldJpeg => 6
  | jpeg => 7
  | deflate => 8
  | packBits => 32773
  | adobeDeflate => 32946

def ofId? (n : UInt16) : Option Compression := all.find? (·.id == n)

theorem ofId?_id (scheme : Compression) : ofId? scheme.id = some scheme := by
  cases scheme <;> rfl

def name : Compression → String
  | none => "None"
  | ccittRle => "CCITT RLE"
  | lzw => "LZW"
  | oldJpeg => "Old JPEG"
  | jpeg => "JPEG"
  | deflate => "Deflate"
  | packBits => "PackBits"
  | adobeDeflate => "Adobe Deflate"

def isSupported (scheme : Compression) : Bool := scheme == none

def decompress (scheme : Compression) (data : List UInt8) : Except Error (List UInt8) :=
  if scheme.isSupported then .ok data else .error (.compression scheme.id)

/-- Decodes data of the scheme of a number. -/
def decompressAs (n : UInt16) (data : List UInt8) : Except Error (List UInt8) :=
  match ofId? n with
  | some scheme => scheme.decompress data
  | Option.none => .error (.compression n)

end Compression

end Tiff
