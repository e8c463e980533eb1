-- Tags: what the fields of a directory mean. A tag has a name, and some have an
-- interpreter that tells a value in words.

import Tiff.Payload

namespace Tiff

/-- What an id stands for. -/
structure Tag where
  id : UInt16
  name : String
  /-- Tells a value in words. -/
  interpreter : Option (Payload → String) := none

namespace Tag

/-- A tag. One without a name is named after its id. -/
def make (id : UInt16) (name : String) (interpreter : Option (Payload → String) := none) : Tag where
  id := id
  name := if name = "" then s!"UNNAMED_TAG_{id.toNat}" else name
  interpreter := interpreter

/-- What stands for a tag that nobody registered. -/
def unknown (id : UInt16) : Tag := make id s!"UNKNOWN_TAG_{id.toNat}"

def describe (tag : Tag) : String :=
  Text.record "Tag" [
    ("id", toString tag.id.toNat),
    ("name", Text.quote tag.name),
    ("interpreter", toString tag.interpreter.isSome)]

end Tag

end Tiff
