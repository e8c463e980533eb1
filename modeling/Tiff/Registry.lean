-- Registries: all that a reading looks up. A registry has a shelf of tags and a
-- shelf of field types, the dialects, and a name for each tag space that
-- directories outside the chain are read with.

import Tiff.Catalog.Baseline
import Tiff.Catalog.Extended
import Tiff.Catalog.FieldTypes
import Tiff.Catalog.GeoTiff
import Tiff.Catalog.Modi
import Tiff.Catalog.Private
import Tiff.Catalog.TiffEp
import Tiff.Dialect
import Tiff.Field
import Tiff.Registry.Shelf

namespace Tiff

/-- What a reading looks up. -/
structure Registry where
  tags : Shelf Tag
  types : Shelf FieldType
  dialects : Dialects := .standard
  /-- The place of the tag space for the chain. -/
  defaultSpace : Nat
  /-- The place of the space of field types. -/
  typeSpace : Nat
  /-- The place of the open set for private tags. -/
  privateSet : Nat
  /-- The places of the tag spaces that have a name. -/
  namedSpaces : Std.TreeMap String Nat := {}

namespace Registry

/-! ## Building -/

def defaultName : String := "Default"

/-- The sets of tags, in their places on the shelf. -/
def standardTagSets : Array (ItemSet Tag) := #[
  Catalog.baseline, Catalog.extended, Catalog.privateTags, Catalog.exif, Catalog.geoTiff,
  Catalog.modi, Catalog.tiffEp, Catalog.gps, Catalog.interop]

/-- The tags in their spaces: those of the chain, and those of Exif, GPS and Interoperability
directories. -/
def standardTags : List Conflict × Shelf Tag :=
  let shelf : Shelf Tag := {
    sets := standardTagSets
    spaces := #[{ name := defaultName }, { name := "Exif" }, { name := "GPS" },
      { name := "Interoperability" }] }
  shelf.mergeAll [
    (0, 0), (0, 1), (0, 2), (0, 3), (0, 4), (0, 5), (0, 6),
    (1, 0), (1, 1), (1, 3),
    (2, 7),
    (3, 8)]

/-- The field types in their space. -/
def standardTypes (sizes : OpenSizes) : List Conflict × Shelf FieldType :=
  let shelf : Shelf FieldType := {
    sets := #[Catalog.defaultTypes, Catalog.provisionalTypes sizes, Catalog.bigTypes]
    spaces := #[{ name := defaultName }] }
  shelf.mergeAll [(0, 0), (0, 1), (0, 2)]

/-- The conflicts that building the standard registry tells. -/
def standardConflicts (sizes : OpenSizes) : List Conflict :=
  (standardTypes sizes).1 ++ standardTags.1

/-- The registry of all catalogs. -/
def standard (sizes : OpenSizes := {}) : Registry where
  tags := standardTags.2
  types := (standardTypes sizes).2
  defaultSpace := 0
  typeSpace := 0
  privateSet := 2
  namedSpaces := (((({} : Std.TreeMap String Nat).insert "Exif" 1).insert "GPS" 2).insert
    "Interoperability" 3)

/-- A registry of two spaces on the same shelves, with the standard dialects, an empty set for
private tags, and no named spaces. -/
def ofSpaces (registry : Registry) (tagSpace typeSpace : Nat) : Registry where
  tags := registry.tags.addSet Catalog.emptyPrivate
  types := registry.types
  defaultSpace := tagSpace
  typeSpace := typeSpace
  privateSet := registry.tags.sets.size

def registerDialect (registry : Registry) (dialect : Dialect) : Registry :=
  { registry with dialects := registry.dialects.register dialect }

/-- Gives a tag space of the shelf its name in the registry. -/
def registerTagSpace (registry : Registry) (space : Nat) : Registry :=
  match registry.tags.spaces[space]? with
  | none => registry
  | some s => { registry with namedSpaces := registry.namedSpaces.insert s.name space }

/-! ## Looking up -/

def spaceName (registry : Registry) (space : Nat) : String :=
  (registry.tags.spaces[space]?.map Space.name).getD ""

/-- The place of the tag space of a name; the default space comes before the named ones. -/
def tagSpace? (registry : Registry) (name : String) : Option Nat :=
  if name = registry.spaceName registry.defaultSpace then some registry.defaultSpace
  else registry.namedSpaces[name]?

/-- The names of all tag spaces, the default one among them, in alphabetical order. -/
def tagSpaceNames (registry : Registry) : List String :=
  let named := registry.namedSpaces.keys
  let own := registry.spaceName registry.defaultSpace
  (if own ∈ named then named else own :: named).mergeSort fun a b => decide (a ≤ b)

/-- What ids mean in a tag space. -/
def dictionary (registry : Registry) (space : Nat) : Dictionary where
  tag := registry.tags.get space
  type := registry.types.get registry.typeSpace

/-- What ids mean in the chain. -/
def defaultDictionary (registry : Registry) : Dictionary :=
  registry.dictionary registry.defaultSpace

/-! ## In words -/

/-- A space of a shelf as one line of text. -/
def describeSpace {α : Type} [Registrable α] (shelf : Shelf α) (space : Nat) : String :=
  (shelf.spaces[space]?.map (Space.describe shelf.sets)).getD ""

def describe (registry : Registry) : String :=
  Text.record "Registry" [
    ("tags", describeSpace registry.tags registry.defaultSpace),
    ("field_types", describeSpace registry.types registry.typeSpace),
    ("versions", registry.dialects.describeVersions),
    ("tag_spaces", Text.bracketed (registry.tagSpaceNames.map Text.quote))]

end Registry

end Tiff
