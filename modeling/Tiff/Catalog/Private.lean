-- Registered private tags, from 32768 on. Their set is never locked, so that
-- vendors can add tags of their own.

import Tiff.Catalog.Exif

namespace Tiff.Catalog

def privateTable : Table := [
  (32932, "Wang Annotation"),
  (33445, "MD FileTag"),
  (33446, "MD ScalePixel"),
  (33447, "MD ColorTable"),
  (33448, "MD LabName"),
  (33449, "MD SampleInfo"),
  (33450, "MD PrepDate"),
  (33451, "MD PrepTime"),
  (33452, "MD FileUnits"),
  (33723, "IPTC"),
  (33918, "INGR Packet Data Tag"),
  (33919, "INGR Flag Registers"),
  (34377, "Photoshop"),
  (34675, "ICC Profile"),
  (34908, "HylaFAX FaxRecvParams"),
  (34909, "HylaFAX FaxSubAddress"),
  (34910, "HylaFAX FaxRecvTime"),
  (37724, "ImageSourceData"),
  (42112, "GDAL_METADATA"),
  (42113, "GDAL_NODATA"),
  (50215, "Oce Scanjob Description"),
  (50216, "Oce Application Selector"),
  (50217, "Oce Identification Number"),
  (50218, "Oce ImageLogic Characteristics"),
  (50341, "EpsonPrintImageMatching"),
  (50784, "Alias Layer Metadata")]

def privateName : String := "Private"

/-- A set for private tags that holds none yet. -/
def emptyPrivate : ItemSet Tag where
  name := privateName
  lower := 32768
  upper := 65535

/-- The open set of the private tags, with the three pointers. -/
def privateTags : ItemSet Tag := (privateTable ++ pointerTable).tagSet privateName 32768 65535 false

end Tiff.Catalog
