-- Tables of tags: ids with their names, as the documents that define them list
-- them.

import Tiff.Registry.ItemSet

namespace Tiff.Catalog

/-- A table of ids and names. -/
abbrev Table := List (UInt16 × String)

def Table.tags (table : Table) : List Tag := table.map fun row => Tag.make row.1 row.2

def Table.tagSet (table : Table) (name : String) (lower upper : UInt16) (locked : Bool) :
    ItemSet Tag :=
  .preloaded name lower upper table.tags locked

end Tiff.Catalog
