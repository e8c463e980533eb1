-- The image of a directory: its size, its samples, and the color model that they
-- suggest.

import Tiff.Directory
import Tiff.Image.Compression
import Tiff.Payload.Convert

namespace Tiff

/-! ## Tags -/

/-- The tags that say what an image is and where its data lies. -/
inductive ImageTag where
  | width | length | bitsPerSample | compression | photometric | make | samplesPerPixel
  | stripOffsets | stripByteCounts | subIfds
  deriving DecidableEq, Repr

namespace ImageTag

def all : List ImageTag :=
  [width, length, bitsPerSample, compression, photometric, make, samplesPerPixel, stripOffsets,
    stripByteCounts, subIfds]

def id : ImageTag → UInt16
  | width => 256
  | length => 257
  | bitsPerSample => 258
  | compression => 259
  | photometric => 262
  | make => 271
  | samplesPerPixel => 277
  | stripOffsets => 273
  | stripByteCounts => 279
  | subIfds => 330

def name : ImageTag → String
  | width => "ImageWidth"
  | length => "ImageLength"
  | bitsPerSample => "BitsPerSample"
  | compression => "Compression"
  | photometric => "PhotometricInterpretation"
  | make => "Make"
  | samplesPerPixel => "SamplesPerPixel"
  | stripOffsets => "StripOffsets"
  | stripByteCounts => "StripByteCounts"
  | subIfds => "SubIfds"

end ImageTag

def colorMapTag : UInt16 := 320

/-! ## Configurations -/

/-- How samples become colors, as far as a directory tells. -/
inductive ColorModel where
  | gray | gray16 | rgba | rgba64 | palette | unknown
  deriving DecidableEq, Repr

namespace ColorModel

def name : ColorModel → String
  | gray => "Gray"
  | gray16 => "Gray16"
  | rgba => "Rgba"
  | rgba64 => "Rgba64"
  | palette => "Palette"
  | unknown => "Unknown"

/-- The model of pixels with so many samples, some of them deeper than eight bits or none. -/
def ofSamples (samples : UInt16) (deep : Bool) : ColorModel :=
  if samples = 1 then (if deep then gray16 else gray)
  else if samples = 3 then (if deep then rgba64 else rgba)
  else unknown

end ColorModel

/-- The size and the samples of an image. -/
structure ImageConfig where
  width : UInt32
  height : UInt32
  samplesPerPixel : UInt16
  bitsPerSample : List UInt16
  /-- The number of the compression scheme. -/
  compression : UInt16
  photometric : Option UInt16
  colorModel : ColorModel
  deriving DecidableEq, Repr

namespace Payload

/-- The first element as a 16-bit word. -/
def word16 (payload : Payload) : Except Error UInt16 := (payload.natural .uint16).map UInt16.ofNat

def word32 (payload : Payload) : Except Error UInt32 := (payload.natural .uint32).map UInt32.ofNat

/-- All elements as 16-bit words. -/
def words16 (payload : Payload) : Except Error (List UInt16) :=
  (payload.integers .uint16).map fun ns => ns.map fun n => UInt16.ofNat n.toNat

end Payload

/-- What a directory says of its image. The size must be there, and the rest has defaults: one
sample of one bit, and no compression. -/
def ImageConfig.ofDirectory (ifd : Directory) : Except Error ImageConfig := do
  let width ← ifd.require ImageTag.width.id Payload.word32
  let height ← ifd.require ImageTag.length.id Payload.word32
  let samples := (← ifd.get ImageTag.samplesPerPixel.id Payload.word16).getD 1
  let bits := (← ifd.get ImageTag.bitsPerSample.id Payload.words16).getD [1]
  let compression :=
    (← ifd.get ImageTag.compression.id Payload.word16).getD Compression.none.id
  let photometric ← ifd.get ImageTag.photometric.id Payload.word16
  let deep := bits.any (8 < ·)
  return {
    width, height
    samplesPerPixel := samples
    bitsPerSample := bits
    compression, photometric
    colorModel := if ifd.has colorMapTag then .palette else .ofSamples samples deep }

end Tiff
