-- Sets of items. A set has a range of ids and takes registrations until it is
-- locked. Each registration that it takes raises its revision.

import Std.Data.TreeMap
import Tiff.Registry.Item

namespace Tiff

open Registrable

/-- A named set of items, by id. -/
structure ItemSet (α : Type) where
  name : String
  /-- The least id that the set accepts. -/
  lower : UInt16 := 0
  /-- The greatest id that the set accepts. -/
  upper : UInt16 := 0xFFFF
  items : Std.TreeMap UInt16 α := {}
  locked : Bool := false
  /-- The number of registrations so far, in 64 bits. -/
  revision : UInt64 := 0

namespace ItemSet

variable {α : Type} [Registrable α]

def accepts (set : ItemSet α) (id : UInt16) : Bool := set.lower ≤ id && id ≤ set.upper

/-- A set that holds the given items of its range from the start. Of two items with one id the
later stays. -/
def preloaded (name : String) (lower upper : UInt16) (items : List α) (locked : Bool) :
    ItemSet α where
  name := name
  lower := lower
  upper := upper
  items := (items.filter fun item => lower ≤ key item && key item ≤ upper).foldl
    (fun map item => map.insert (key item) item) {}
  locked := locked

/-- Adds an item. A lock comes before the range, and the range before the item that is there. -/
def register (set : ItemSet α) (item : α) : Except Refusal (ItemSet α) :=
  if set.locked then .error (.locked set.name)
  else if !set.accepts (key item) then
    .error (.outOfRange set.name (key item) set.lower set.upper)
  else
    match set.items[key item]? >>= fun old => conflict? old item set.name with
    | some refusal => .error refusal
    | none => .ok { set with
        items := set.items.insert (key item) item
        revision := set.revision + 1 }

/-- Refuses every registration from now on. -/
def lock (set : ItemSet α) : ItemSet α := { set with locked := true }

/-- The ids, in ascending order. -/
def ids (set : ItemSet α) : List UInt16 := set.items.keys

/-- The names, in alphabetical order. -/
def names (set : ItemSet α) : List String :=
  (set.items.values.map title).mergeSort fun a b => decide (a ≤ b)

def describe (set : ItemSet α) : String :=
  Text.record "RegistrySet" [
    ("kind", Text.quote (kind α)),
    ("name", Text.quote set.name),
    ("bounds", s!"{set.lower.toNat}..={set.upper.toNat}"),
    ("len", toString set.items.size),
    ("locked", toString set.locked)]

end ItemSet

end Tiff
