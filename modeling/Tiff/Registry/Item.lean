-- Items of a registry. Tags and field types are registered under their ids, and
-- an id keeps the name that it was first registered with.

import Tiff.Tag

namespace Tiff

/-- Why a set does not accept an item. -/
inductive Refusal where
  | locked (set : String)
  | outOfRange (set : String) (id lower upper : UInt16)
  | tagConflict (set : String) (id : UInt16) (existing name : String)
  | typeConflict (set : String) (id : UInt16) (existing : String) (existingSize : Nat)
      (name : String) (size : Nat)
  deriving DecidableEq, Repr

def Refusal.message : Refusal → String
  | locked set => s!"Set {Text.quote set} is locked"
  | outOfRange set id lower upper =>
    s!"Tag {id.toNat} is outside the range {lower.toNat}..={upper.toNat} of set {Text.quote set}"
  | tagConflict set id existing name =>
    s!"Tag {id.toNat} in set {Text.quote set} is already registered as {Text.quote existing}, " ++
      s!"refusing {Text.quote name}"
  | typeConflict set id existing existingSize name size =>
    s!"Field type {id.toNat} in set {Text.quote set} is already registered as " ++
      s!"{Text.quote existing} ({existingSize} bytes), refusing {Text.quote name} ({size} bytes)"

/-- What can be registered: it has an id as its key and a name as its
title, something stands in for an id that nobody registered, and an item says which others may take
its place. -/
class Registrable (α : Type) where
  kind : String
  key : α → UInt16
  title : α → String
  placeholder : UInt16 → α
  /-- Why the second item may not replace the first one in the set of that name, if it may not. -/
  conflict? : α → α → String → Option Refusal

/-- A tag may be replaced by one of the same name. -/
instance : Registrable Tag where
  kind := "tag"
  key := Tag.id
  title := Tag.name
  placeholder := Tag.unknown
  conflict? old new set :=
    if old.name = new.name then none else some (.tagConflict set old.id old.name new.name)

/-- A field type may be replaced by one of the same name and size. -/
instance : Registrable FieldType where
  kind := "field type"
  key := FieldType.id
  title := FieldType.name
  placeholder := FieldType.unknown
  conflict? old new set :=
    if old.name = new.name ∧ old.size = new.size then none
    else some (.typeConflict set old.id old.name old.size new.name new.size)

end Tiff
