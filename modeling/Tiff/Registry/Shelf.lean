-- Shelves. A shelf holds sets and the spaces that merge them. Sets and spaces
-- are known by their places on the shelf, so that what is registered into a set
-- shows in every space that has it as a member.

import Tiff.Registry.Space

namespace Tiff

open Registrable

/-- Sets and the spaces over them. -/
structure Shelf (α : Type) where
  sets : Array (ItemSet α) := #[]
  spaces : Array (Space α) := #[]

namespace Shelf

variable {α : Type} [Registrable α]

/-- Puts a set on the shelf; its place is the number of sets before. -/
def addSet (shelf : Shelf α) (set : ItemSet α) : Shelf α :=
  { shelf with sets := shelf.sets.push set }

/-- Puts a space on the shelf; its place is the number of spaces before. -/
def addSpace (shelf : Shelf α) (space : Space α) : Shelf α :=
  { shelf with spaces := shelf.spaces.push space }

def register (shelf : Shelf α) (set : Nat) (item : α) : Except Refusal Unit × Shelf α :=
  match shelf.sets[set]? with
  | none => (.ok (), shelf)
  | some old =>
    match old.register item with
    | .ok new => (.ok (), { shelf with sets := shelf.sets.setIfInBounds set new })
    | .error refusal => (.error refusal, shelf)

def lock (shelf : Shelf α) (set : Nat) : Shelf α :=
  { shelf with sets := shelf.sets.modify set ItemSet.lock }

def merge (shelf : Shelf α) (space set : Nat) : List Conflict × Shelf α :=
  match shelf.spaces[space]? with
  | none => ([], shelf)
  | some old =>
    let (conflicts, new) := old.merge shelf.sets set
    (conflicts, { shelf with spaces := shelf.spaces.setIfInBounds space new })

/-- Merges pairs of a space and a set, one after the other. -/
def mergeAll (shelf : Shelf α) (pairs : List (Nat × Nat)) : List Conflict × Shelf α :=
  pairs.foldl (fun (told, shelf) (space, set) =>
    let (conflicts, shelf) := shelf.merge space set
    (told ++ conflicts, shelf)) ([], shelf)

def lookup (shelf : Shelf α) (space : Nat) (id : UInt16) : Option (Found α) × Shelf α :=
  match shelf.spaces[space]? with
  | none => (none, shelf)
  | some old =>
    let (found, new) := old.lookup shelf.sets id
    (found, { shelf with spaces := shelf.spaces.setIfInBounds space new })

/-- What an answer stands for: the item, or a placeholder where there is no answer. -/
def itemOf (id : UInt16) (found : Option (Found α)) : α :=
  (found.map Found.item).getD (placeholder id)

/-- The item that an id has in a space. -/
def get (shelf : Shelf α) (space : Nat) (id : UInt16) : α :=
  itemOf id (shelf.lookup space id).1

end Shelf

end Tiff
