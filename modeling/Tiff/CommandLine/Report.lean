-- The report on a file: its header, its directories with their fields, and what
-- else the settings ask for. What was written stays written when a later part
-- fails.

import Tiff.CommandLine.Settings
import Tiff.Exif
import Tiff.Field.Summary
import Tiff.Image.Handler

namespace Tiff.CommandLine

/-! ## Lines -/

/-- A directory under its label, with an empty line before it. -/
def directoryLines (label : String) (directory : Directory) (full : Bool) : List String :=
  ["", s!"{label} at {directory.offset} ({directory.entryCount} entries, next {directory.next})"] ++
    directory.fields.map fun field => "  " ++ field.line full

def headerLines (name : String) (header : Header) : List String := [
  s!"Source: {name}",
  s!"Byte order: {header.order.describe}",
  s!"Version: {header.version.toNat} ({header.layout.name}, {header.offsetSize}-byte offsets)",
  s!"First IFD: {header.first}"]

/-- The header, and every directory of the chain under its number. -/
def containerLines (name : String) (container : Container) (full : Bool) : List String :=
  headerLines name container.header ++
    container.directories.zipIdx.flatMap fun (directory, index) =>
      directoryLines s!"IFD {index}" directory full

/-- The Exif directory and those that go with it. -/
def exifLines (exif : Exif) (full : Bool) : List String :=
  directoryLines "Exif" exif.exif full ++
    (exif.gps.map fun d => directoryLines "GPS" d full).getD [] ++
    (exif.interop.map fun d => directoryLines "Interoperability" d full).getD []

/-- The configuration of an image, with an empty line before it. -/
def imageLines (config : ImageConfig) : List String :=
  let bits := Text.bracketed (config.bitsPerSample.map fun b => toString b.toNat)
  let size := s!"{config.width.toNat}x{config.height.toNat}"
  let samples := s!"{config.samplesPerPixel.toNat} samples {bits} bits"
  ["", s!"Image: {size}, {samples}, compression {config.compression.toNat}, " ++
    config.colorModel.name]

/-! ## Runs -/

/-- How a run ended: the exit code, what it wrote, and the errors that it told. -/
structure Outcome where
  exit : Nat
  output : String := ""
  errors : List String := []
  /-- What is wrong with the arguments, if they lead to no run. -/
  complaint? : Option String := none
  deriving DecidableEq, Repr

def registryFor (settings : Settings) : Registry :=
  let registry := Registry.standard settings.sizes
  if settings.tiff85 then registry.registerDialect .tiff85 else registry

/-- The parts of the report, as far as they can be made, and the error that ends them early. -/
def report (settings : Settings) : ReadM (List String × Option Error) := do
  let container ← Container.read (registryFor settings) settings.limits
  let chain := containerLines (← get).source.name container settings.full
  let withExif ←
    if settings.exif then
      match ← Reader.attempt (Exif.read container) with
      | .ok exif => pure (chain ++ exifLines exif settings.full)
      | .error cause => return (chain, some cause)
    else pure chain
  if settings.image then
    match ({} : Handlers).decoder container >>= Decoder.config with
    | .ok config => return (withExif ++ imageLines config, none)
    | .error cause => return (withExif, some cause)
  else return (withExif, none)

def unlines (lines : List String) : String := String.join (lines.map (· ++ "\n"))

/-- Reports on a source that was opened, or on the error of opening it. -/
def run (settings : Settings) (source : Except SourceError Source) : Outcome :=
  let answer : Except Error (List String × Option Error) :=
    match source with
    | .error cause => .error (.source cause)
    | .ok source => ((report settings).outcome { source }).1
  match answer with
  | .error cause => { exit := 1, errors := [cause.message] }
  | .ok (lines, some cause) => { exit := 1, output := unlines lines, errors := [cause.message] }
  | .ok (lines, none) => { exit := 0, output := unlines lines }

end Tiff.CommandLine
