-- The tags of Microsoft Office Document Imaging.

import Tiff.Catalog.Table

namespace Tiff.Catalog

/-- The tags of scanned documents. -/
def modiTable : Table := [
  (37679, "MODIText"),
  (37680, "MODIOLEPropertySetStorage"),
  (37681, "MODIPositioning")]

def modi : ItemSet Tag := modiTable.tagSet "MODI" 32768 65535 true

end Tiff.Catalog
