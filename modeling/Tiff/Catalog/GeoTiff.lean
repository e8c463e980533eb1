-- The tags of GeoTIFF.

import Tiff.Catalog.Table

namespace Tiff.Catalog

/-- The tags that tie an image to the earth. -/
def geoTiffTable : Table := [
  (33550, "ModelPixelScaleTag"),
  (34264, "ModelTransformationTag"),
  (33922, "ModelTiepointTag"),
  (34735, "GeoKeyDirectoryTag"),
  (34736, "GeoDoubleParamsTag"),
  (34737, "GeoAsciiParamsTag"),
  (33920, "IntergraphIrasBMatrixTag")]

def geoTiff : ItemSet Tag := geoTiffTable.tagSet "GeoTIFF" 32768 65535 true

end Tiff.Catalog
