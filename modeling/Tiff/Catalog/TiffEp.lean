-- The tags of TIFF/EP (ISO 12234-2).

import Tiff.Catalog.Table

namespace Tiff.Catalog

/-- The tags of electronic photography. -/
def tiffEpTable : Table := [
  (33421, "CFARepeatPatternDim"),
  (33422, "CFAPattern"),
  (34859, "SelfTimeMode"),
  (37390, "FocalPlaneXResolution"),
  (37391, "FocalPlaneYResolution"),
  (37392, "FocalPlaneResolutionUnit"),
  (37398, "TIFF/EPStandardID"),
  (37399, "SensingMethod")]

def tiffEp : ItemSet Tag := tiffEpTable.tagSet "TIFF/EP" 32768 65535 true

end Tiff.Catalog
