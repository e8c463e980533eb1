-- Settings of a run: what to read, what to show, and the limits.

import Tiff.CommandLine.Options
import Tiff.Limits

namespace Tiff.CommandLine

/-- What a run is to do. -/
structure Settings where
  /-- A path, or `-` for standard input. -/
  path : String := "-"
  /-- Show all of every value. -/
  full : Bool := false
  exif : Bool := false
  image : Bool := false
  /-- Accept the variant of 1985. -/
  tiff85 : Bool := false
  verbose : Bool := false
  limits : Limits := {}
  sizes : OpenSizes := {}
  deriving DecidableEq, Repr

namespace Settings

/-- The settings that the arguments and the environment give. -/
def ofScan (scan : Scan) : Settings :=
  let quantity (q : Quantity) (default : Nat) := (scan.quantities.lookup q).getD default
  let limits : Limits := {}
  let sizes : OpenSizes := {}
  { path := scan.path?.getD "-"
    full := scan.isOn .full
    exif := scan.isOn .exif
    image := scan.isOn .image
    tiff85 := scan.isOn .tiff85
    verbose := scan.isOn .verbose
    limits := {
      directories := quantity .maxDirectories limits.directories
      entries := quantity .maxEntries limits.entries
      valueSize := quantity .maxValueSize limits.valueSize }
    sizes := {
      unicode := quantity .unicodeSize sizes.unicode
      complex := quantity .complexSize sizes.complex } }

def read (arguments : List String) (env : String → Option String) : Except Stop Settings :=
  (Scan.run arguments env).map ofScan

def readsInput (settings : Settings) : Bool := settings.path == "-"

/-- What is wrong with the settings, the first thing if there are several. -/
def fault? (settings : Settings) : Option String :=
  if settings.path = "" then some "A file path is required, or \"-\" for standard input"
  else if settings.limits.directories = 0 then some "max_directories must be greater than 0"
  else if settings.limits.entries = 0 then some "max_entries must be greater than 0"
  else if settings.limits.valueSize = 0 then some "max_value_size must be greater than 0"
  else if settings.sizes.unicode = 0 ∨ settings.sizes.complex = 0 then
    some "Field type sizes must be greater than 0"
  else none

end Settings

end Tiff.CommandLine
