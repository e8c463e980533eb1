-- The tags of baseline TIFF 6.0.

import Tiff.Catalog.Table

namespace Tiff.Catalog

def baselineTable : Table := [
  (254, "NewSubfileType"),
  (255, "SubfileType"),
  (256, "ImageWidth"),
  (257, "ImageLength"),
  (258, "BitsPerSample"),
  (259, "Compression"),
  (262, "PhotometricInterpretation"),
  (263, "Threshholding"),
  (264, "CellWidth"),
  (265, "CellLength"),
  (266, "FillOrder"),
  (270, "ImageDescription"),
  (271, "Make"),
  (272, "Model"),
  (273, "StripOffsets"),
  (274, "Orientation"),
  (277, "SamplesPerPixel"),
  (278, "RowsPerStrip"),
  (279, "StripByteCounts"),
  (280, "MinSampleValue"),
  (281, "MaxSampleValue"),
  (282, "XResolution"),
  (283, "YResolution"),
  (284, "PlanarConfiguration"),
  (288, "FreeOffsets"),
  (289, "FreeByteCounts"),
  (290, "GrayResponseUnit"),
  (291, "GrayResponseCurve"),
  (296, "ResolutionUnit"),
  (305, "Software"),
  (306, "DateTime"),
  (315, "Artist"),
  (316, "HostComputer"),
  (320, "ColorMap"),
  (338, "ExtraSamples"),
  (33432, "Copyright")]

/-- The locked set of the baseline tags. -/
def baseline : ItemSet Tag := baselineTable.tagSet "Baseline" 1 64999 true

end Tiff.Catalog
