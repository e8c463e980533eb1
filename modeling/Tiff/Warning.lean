-- Warnings: what a reading or a merge notes and then passes over.

import Tiff.Error

namespace Tiff

/-- Two sets of a space that give an id two names. -/
structure Conflict where
  /-- What the sets hold. -/
  kind : String
  space : String
  id : UInt16
  /-- The name in the set that is merged. -/
  name : String
  set : String
  /-- The name that the space had for the id, and the set that gave it. -/
  existing : String
  existingSet : String
  deriving DecidableEq, Repr

/-- Something odd that does not stop a reading. -/
inductive Warning where
  /-- The reserved word of a header is not zero. -/
  | reservedWord (source : String) (reserved : UInt16)
  /-- A list of pointers holds the null offset. -/
  | nullPointer (tag : UInt16)
  /-- A directory that a pointer leads to could not be read. -/
  | unreadable (space : String) (tag : UInt16) (offset : Nat) (cause : Error)
  /-- A tag space is missing, so the default one takes its place. -/
  | unknownSpace (space : String)
  /-- The two lists that describe the strips differ in length. -/
  | stripLengths (offsets byteCounts : Nat)
  deriving DecidableEq, Repr

def Conflict.message (conflict : Conflict) : String :=
  s!"Registration conflict for {conflict.kind}"

def Warning.message : Warning → String
  | reservedWord .. => "Non-zero reserved field in BigTIFF header"
  | nullPointer _ => "Skipping null sub-IFD pointer"
  | unreadable space .. => s!"Skipping unreadable {space} IFD"
  | unknownSpace _ => "Tag space not registered, using the default space"
  | stripLengths .. => "Strip offset and byte count lengths differ"

end Tiff
