-- Handlers. A handler knows a family of files and makes decoders for them. It is
-- found by a tag that the first directory has, or by the maker that it names; the
-- baseline handler reads what nobody else wants.

import Tiff.Container
import Tiff.Image.Config
import Tiff.Text.Utf8

namespace Tiff

/-- The samples of an image, its strips one behind the other. -/
structure RawImage where
  config : ImageConfig
  data : List UInt8

/-- Reads the image of one file. -/
structure Decoder where
  config : Except Error ImageConfig
  image : ReadM RawImage

/-- Knows how to read a family of files. -/
structure Handler where
  accepts : Container → Bool
  decoder : Container → Except Error Decoder

/-! ## The baseline handler -/

namespace Baseline

/-- The offsets and lengths of the strips. Lists of different lengths are noted. -/
def strips (ifd : Directory) : ReadM (List Nat × List Nat) := do
  let offsets ← MonadExcept.ofExcept (ifd.require ImageTag.stripOffsets.id Payload.naturals)
  let counts ← MonadExcept.ofExcept (ifd.require ImageTag.stripByteCounts.id Payload.naturals)
  if offsets.length ≠ counts.length then
    Reader.warn (.stripLengths offsets.length counts.length)
  return (offsets, counts)

/-- Reads strips, one behind the other. -/
def readStrips (scheme : Compression) : List (Nat × Nat) → List (List UInt8) → ReadM (List UInt8)
  | [], done => return done.reverse.flatten
  | (offset, count) :: rest, done => do
    let strip ← Reader.readAt offset count
    let data ← MonadExcept.ofExcept (scheme.decompress strip)
    readStrips scheme rest (data :: done)

/-- The scheme of a configuration, if it can be decoded. -/
def supportedScheme (config : ImageConfig) : Except Error Compression :=
  match Compression.ofId? config.compression with
  | some scheme =>
    if scheme.isSupported then .ok scheme else .error (.compression config.compression)
  | none => .error (.compression config.compression)

def readImage (ifd : Directory) : ReadM RawImage := do
  let config ← MonadExcept.ofExcept (ImageConfig.ofDirectory ifd)
  let scheme ← MonadExcept.ofExcept (supportedScheme config)
  let (offsets, counts) ← strips ifd
  let data ← readStrips scheme (offsets.zip counts) []
  return { config, data }

/-- The tags that a strip image cannot do without. -/
def neededTags : List ImageTag := [.width, .length, .stripOffsets, .stripByteCounts]

/-- Reads the strips of the first directory. -/
def handler : Handler where
  accepts container :=
    match container.directories.head? with
    | none => false
    | some ifd => neededTags.all fun tag => ifd.has tag.id
  decoder container :=
    match container.directories.head? with
    | none => .error (.missingTag ImageTag.width.id)
    | some ifd => .ok { config := ImageConfig.ofDirectory ifd, image := readImage ifd }

end Baseline

/-! ## Finding a handler -/

structure Handlers where
  byMake : Std.TreeMap String Handler := {}
  byTag : Std.TreeMap UInt16 Handler := {}

namespace Handlers

/-- Registers a handler for files of a maker; it takes the place of an earlier one. -/
def registerMake (handlers : Handlers) (make : String) (handler : Handler) : Handlers :=
  { handlers with byMake := handlers.byMake.insert make handler }

/-- Registers a handler for files with a tag; it takes the place of an earlier one. -/
def registerTag (handlers : Handlers) (tag : UInt16) (handler : Handler) : Handlers :=
  { handlers with byTag := handlers.byTag.insert tag handler }

def tagIds (handlers : Handlers) : List UInt16 := handlers.byTag.keys

/-- The name of a maker without the blanks and NULs that fill it up. -/
def makeText (bytes : List UInt8) : String :=
  Text.ofUtf8 (bytes.reverse.dropWhile fun b => b == 0x20 || b == 0).reverse

/-- The handler of the least tag that the first directory has and whose handler wants the file. -/
def findByTag (handlers : Handlers) (container : Container) (ifd : Directory) : Option Handler :=
  handlers.byTag.toList.findSome? fun (tag, handler) =>
    if ifd.has tag && handler.accepts container then some handler else none

/-- The handler of the maker that the first directory names, if it wants the file. -/
def findByMake (handlers : Handlers) (container : Container) (ifd : Directory) : Option Handler :=
  (ifd.field? ImageTag.make.id).bind fun field =>
    handlers.byMake[makeText field.bytes]?.filter fun handler => handler.accepts container

/-- The handler for a file: one by tag before the one by maker. -/
def find (handlers : Handlers) (container : Container) : Option Handler :=
  container.directories.head?.bind fun ifd =>
    (handlers.findByTag container ifd).or (handlers.findByMake container ifd)

/-- A decoder from the handler for a file, or from the baseline handler. -/
def decoder (handlers : Handlers) (container : Container) : Except Error Decoder :=
  ((handlers.find container).getD Baseline.handler).decoder container

def describe (handlers : Handlers) : String :=
  Text.record "HandlerRegistry" [
    ("makes", Text.bracketed (handlers.byMake.keys.map Text.quote)),
    ("tags", Text.bracketed (handlers.tagIds.map fun t => toString t.toNat))]

end Handlers

end Tiff
