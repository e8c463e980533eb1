-- Exif directories. A pointer in the chain leads to the Exif directory, and from
-- there, or from the directory with that pointer, further pointers lead to the
-- GPS and the Interoperability directory. The latter two may be broken: then
-- they are left out, and a warning tells of it.

import Tiff.Container

namespace Tiff

structure Exif where
  exif : Directory
  gps : Option Directory
  interop : Option Directory

namespace Exif

/-- The place of the tag space of a name, or of the default space if there is none. -/
def spaceFor (container : Container) (name : String) : ReadM Nat := do
  match container.registry.tagSpace? name with
  | some space => return space
  | none =>
    Reader.warn (.unknownSpace name)
    return container.registry.defaultSpace

/-- The offset that a pointer of a directory holds, unless it is null or no offset at all. -/
def pointer? (tag : UInt16) (directory : Directory) : Option Nat :=
  match directory.get tag (Payload.natural · .uint64) with
  | .ok (some offset) => if offset = 0 then none else some offset
  | _ => none

/-- The directory that the first of the holders with a pointer leads to. -/
def linked (container : Container) (holders : List Directory) (tag : UInt16) (space : String) :
    ReadM (Option Directory) := do
  match holders.findSome? (pointer? tag) with
  | none => return none
  | some offset =>
    let place ← spaceFor container space
    match ← Reader.attempt (container.subDirectory offset place) with
    | .ok directory => return some directory
    | .error cause =>
      Reader.warn (.unreadable space tag offset cause)
      return none

/-- Finds the first directory of the chain with an Exif pointer, and reads what it leads to. -/
def read (container : Container) : ReadM Exif := do
  match container.directories.find? (·.has Catalog.exifPointer) with
  | none => throw (.missingTag Catalog.exifPointer)
  | some owner =>
    let offset ← MonadExcept.ofExcept
      (owner.require Catalog.exifPointer (Payload.natural · .uint64))
    let place ← spaceFor container "Exif"
    let exif ← container.subDirectory offset place
    let gps ← linked container [exif, owner] Catalog.gpsPointer "GPS"
    let interop ← linked container [exif, owner] Catalog.interopPointer "Interoperability"
    return { exif, gps, interop }

end Exif

end Tiff
