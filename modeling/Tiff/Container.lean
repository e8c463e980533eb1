-- Containers: a header and the chain of directories behind it. The chain ends at
-- the null offset. It may not come back to an offset, and it may not grow beyond
-- the limit. Other directories hang off pointers in fields; they are read on
-- their own, without following their links.

import Tiff.Directory
import Tiff.Header
import Tiff.Payload.Convert
import Tiff.Registry

namespace Tiff

/-- A file as far as its chain of directories was read, with what it was read by. -/
structure Container where
  header : Header
  /-- The directories of the chain, in its order. -/
  directories : List Directory
  registry : Registry
  limits : Limits

namespace Container

/-! ## The chain -/

/-- Walks the chain from an offset on. `left` directories may still follow, `visited` are the
offsets so far and `done` the directories read there, the last one first. -/
def walk (words : Dictionary) (limits : Limits) (layout : Layout) (left : Nat)
    (visited : List Nat) (done : List Directory) (offset : Nat) : ReadM (List Directory) :=
  if offset = 0 then return done.reverse
  else if offset ∈ visited then throw (.circular offset (done.length - 1))
  else
    match left with
    | 0 => throw (.tooManyDirectories limits.directories)
    | left + 1 => do
      let directory ← (Directory.read words limits layout offset).adaptExcept
        (Error.directory done.length offset)
      walk words limits layout left (offset :: visited) (directory :: done) directory.next

def read (registry : Registry) (limits : Limits) : ReadM Container := do
  let header ← Header.read registry.dialects
  let directories ← walk registry.defaultDictionary limits header.layout limits.directories [] []
    header.first
  return { header, directories, registry, limits }

/-! ## Directories outside the chain -/

/-- Reads the directory at an offset, whose tags mean what they do in a tag space. The cursor of
the reader stays where it is. -/
def subDirectory (container : Container) (offset space : Nat) : ReadM Directory :=
  Reader.detached <|
    Directory.read (container.registry.dictionary space) container.limits
      container.header.layout offset

/-- Reads the directories at some offsets, up to the first one that fails. Null offsets are only
noted. -/
def subDirectoriesAt (container : Container) (tag : UInt16) (space : Nat) :
    List Nat → List Directory → ReadM (List Directory)
  | [], done => return done.reverse
  | 0 :: offsets, done => do
    Reader.warn (.nullPointer tag)
    container.subDirectoriesAt tag space offsets done
  | offset :: offsets, done => do
    let directory ← container.subDirectory offset space
    container.subDirectoriesAt tag space offsets (directory :: done)

/-- Reads every directory that a pointer field leads to, none if there is no such field. -/
def subDirectories (container : Container) (directory : Directory) (tag : UInt16) (space : Nat) :
    ReadM (List Directory) := do
  match ← MonadExcept.ofExcept (directory.get tag Payload.naturals) with
  | none => return []
  | some offsets => container.subDirectoriesAt tag space offsets []

end Container

end Tiff
