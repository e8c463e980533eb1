-- The tags of Exif directories, and of the GPS and Interoperability directories
-- that go with them. The last two use small ids over again, so they live in
-- spaces of their own.

import Tiff.Catalog.Table
import Tiff.Number.Binary
import Tiff.Payload.Convert

namespace Tiff.Catalog

/-! ## Pointers -/

def exifPointer : UInt16 := 34665

def gpsPointer : UInt16 := 34853

def interopPointer : UInt16 := 40965

/-- The three pointers with their names. -/
def pointerTable : Table := [
  (exifPointer, "ExifIFD"),
  (gpsPointer, "GPS IFD"),
  (interopPointer, "InteroperabilityIFD")]

/-! ## Interpreters -/

/-- An exposure time as a fraction in lowest terms. -/
def exposureTime (payload : Payload) : String :=
  match payload.value with
  | .rational (r :: _) => r.reduced.describe
  | _ => ", ".intercalate payload.texts

/-- Drops a character at the end of a text, as often as it stands there. -/
def trimEnd (c : Char) (text : String) : String :=
  String.ofList (text.toList.reverse.dropWhile (· == c)).reverse

/-- An aperture as an f-stop: at most two decimals, and none that are zero at the end. -/
def fNumber (payload : Payload) : String :=
  match payload.value.floats? >>= List.head? with
  | none => ""
  | some number =>
    "f/" ++ trimEnd '.' (trimEnd '0' ((Binary.ofDouble number.toBits).toFixed 2))

/-- The names of the exposure programs, from zero on. -/
def exposurePrograms : List String := [
  "Not defined", "Manual", "Normal program", "Aperture priority", "Shutter priority",
  "Creative program", "Action program", "Portrait mode", "Landscape mode"]

/-- The name of an exposure program, nothing for a number that has none. -/
def exposureProgram (payload : Payload) : String :=
  ((payload.value.firstNatural?).bind fun n => exposurePrograms[n]?).getD ""

/-! ## Tables -/

def exifTable : Table := [
  (34852, "SpectralSensitivity"),
  (34855, "ISOSpeedRatings"),
  (34856, "OECF"),
  (34864, "SensitivityType"),
  (34866, "RecommendedExposureIndex"),
  (36864, "ExifVersion"),
  (36867, "DateTimeOriginal"),
  (36868, "DateTimeDigitized"),
  (37121, "ComponentsConfiguration"),
  (37122, "CompressedBitsPerPixel"),
  (37377, "ShutterSpeedValue"),
  (37378, "ApertureValue"),
  (37379, "BrightnessValue"),
  (37380, "ExposureBiasValue"),
  (37381, "MaxApertureValue"),
  (37382, "SubjectDistance"),
  (37383, "MeteringMode"),
  (37384, "LightSource"),
  (37385, "Flash"),
  (37386, "FocalLength"),
  (37396, "SubjectArea"),
  (37500, "MakerNote"),
  (37510, "UserComment"),
  (37520, "SubsecTime"),
  (37521, "SubsecTimeOriginal"),
  (37522, "SubsecTimeDigitized"),
  (40960, "FlashpixVersion"),
  (40961, "ColorSpace"),
  (40962, "PixelXDimension"),
  (40963, "PixelYDimension"),
  (40964, "RelatedSoundFile"),
  (41483, "FlashEnergy"),
  (41484, "SpatialFrequencyResponse"),
  (41486, "FocalPlaneXResolution"),
  (41487, "FocalPlaneYResolution"),
  (41488, "FocalPlaneResolutionUnit"),
  (41492, "SubjectLocation"),
  (41493, "ExposureIndex"),
  (41495, "SensingMethod"),
  (41728, "FileSource"),
  (41729, "SceneType"),
  (41730, "CFAPattern"),
  (41985, "CustomRendered"),
  (41986, "ExposureMode"),
  (41987, "WhiteBalance"),
  (41988, "DigitalZoomRatio"),
  (41989, "FocalLengthIn35mmFilm"),
  (41990, "SceneCaptureType"),
  (41991, "GainControl"),
  (41992, "Contrast"),
  (41993, "Saturation"),
  (41994, "Sharpness"),
  (41995, "DeviceSettingDescription"),
  (41996, "SubjectDistanceRange"),
  (42016, "ImageUniqueID"),
  (42032, "CameraOwnerName"),
  (42033, "BodySerialNumber"),
  (42034, "LensSpecification"),
  (42035, "LensMake"),
  (42036, "LensModel"),
  (42037, "LensSerialNumber"),
  (18246, "Rating")]

/-- The Exif tags with an interpreter. -/
def interpretedTags : List Tag := [
  Tag.make 33434 "ExposureTime" (some exposureTime),
  Tag.make 33437 "FNumber" (some fNumber),
  Tag.make 34850 "ExposureProgram" (some exposureProgram)]

def gpsTable : Table := [
  (0, "GPSVersionID"),
  (1, "GPSLatitudeRef"),
  (2, "GPSLatitude"),
  (3, "GPSLongitudeRef"),
  (4, "GPSLongitude"),
  (5, "GPSAltitudeRef"),
  (6, "GPSAltitude"),
  (7, "GPSTimeStamp"),
  (8, "GPSSatellites"),
  (9, "GPSStatus"),
  (10, "GPSMeasureMode"),
  (11, "GPSDOP"),
  (12, "GPSSpeedRef"),
  (13, "GPSSpeed"),
  (14, "GPSTrackRef"),
  (15, "GPSTrack"),
  (16, "GPSImgDirectionRef"),
  (17, "GPSImgDirection"),
  (18, "GPSMapDatum"),
  (19, "GPSDestLatitudeRef"),
  (20, "GPSDestLatitude"),
  (21, "GPSDestLongitudeRef"),
  (22, "GPSDestLongitude"),
  (23, "GPSDestBearingRef"),
  (24, "GPSDestBearing"),
  (25, "GPSDestDistanceRef"),
  (26, "GPSDestDistance"),
  (27, "GPSProcessingMethod"),
  (28, "GPSAreaInformation"),
  (29, "GPSDateStamp"),
  (30, "GPSDifferential")]

def interopTable : Table := [
  (1, "InteroperabilityIndex"),
  (2, "InteroperabilityVersion"),
  (4096, "RelatedImageFileFormat"),
  (4097, "RelatedImageWidth"),
  (4098, "RelatedImageLength")]

/-! ## Sets -/

/-- The locked set of the Exif tags. -/
def exif : ItemSet Tag :=
  .preloaded "Exif" 0 65535 (exifTable.tags ++ interpretedTags ++ pointerTable.tags) true

def gps : ItemSet Tag := gpsTable.tagSet "GPS" 0 65535 true

def interop : ItemSet Tag := interopTable.tagSet "Interoperability" 0 65535 true

end Tiff.Catalog
