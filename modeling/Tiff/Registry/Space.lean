-- Spaces. A space merges sets into one look-up: of the sets that know an id, the
-- one merged last answers. A space remembers its answers, and forgets them all
-- when a member set has changed since. Sets are shared: a space holds where in a
-- collection its members are, so a set can be a member of several spaces.

import Tiff.Registry.ItemSet
import Tiff.Warning

namespace Tiff

open Registrable

/-- An item and the name of the set that it comes from. -/
structure Found (α : Type) where
  set : String
  item : α

/-- A member set, by its place in the collection, and its revision when the memory was valid. -/
structure Member where
  set : Nat
  revision : UInt64
  deriving DecidableEq, Repr

/-- A named look-up over some sets. -/
structure Space (α : Type) where
  name : String
  /-- The member sets, the one merged last at the end. -/
  members : List Member := []
  /-- The answers that the space remembers. -/
  memory : Std.TreeMap UInt16 (Found α) := {}

namespace Space

variable {α : Type} [Registrable α]

/-! ## Looking up -/

/-- The answer of one member. -/
def answerOf (sets : Array (ItemSet α)) (id : UInt16) (member : Member) : Option (Found α) := do
  let set ← sets[member.set]?
  let item ← set.items[id]?
  return ⟨set.name, item⟩

/-- The answer of the member that was merged last among those that know the id. -/
def search (sets : Array (ItemSet α)) (space : Space α) (id : UInt16) : Option (Found α) :=
  space.members.reverse.findSome? (answerOf sets id)

def revisionOf (sets : Array (ItemSet α)) (index : Nat) : UInt64 :=
  (sets[index]?.map ItemSet.revision).getD 0

/-- Whether a member has changed since the memory was valid. -/
def isStale (sets : Array (ItemSet α)) (space : Space α) : Bool :=
  space.members.any fun m => revisionOf sets m.set != m.revision

/-- Forgets every answer and notes the revisions of now. -/
def refresh (sets : Array (ItemSet α)) (space : Space α) : Space α :=
  { space with
    members := space.members.map fun m => { m with revision := revisionOf sets m.set }
    memory := {} }

/-- The space with a memory that is valid now. -/
def refreshed (sets : Array (ItemSet α)) (space : Space α) : Space α :=
  if space.isStale sets then space.refresh sets else space

/-- Answers from memory, or searches the members and remembers what it found. -/
def lookup (sets : Array (ItemSet α)) (space : Space α) (id : UInt16) :
    Option (Found α) × Space α :=
  let space := space.refreshed sets
  match space.memory[id]? with
  | some found => (some found, space)
  | none =>
    match space.search sets id with
    | some found => (some found, { space with memory := space.memory.insert id found })
    | none => (none, space)

/-! ## Merging -/

/-- Drops the member of a name, with every answer that came from it. -/
def drop (sets : Array (ItemSet α)) (space : Space α) (name : String) : Space α :=
  let isNamed (m : Member) : Bool := sets[m.set]?.map ItemSet.name == some name
  if space.members.any isNamed then
    { space with
      members := space.members.eraseP isNamed
      memory := space.memory.filter fun _ found => found.set != name }
  else space

/-- What an item clashes with: the answer of the members, if it has another name. -/
def conflict? (sets : Array (ItemSet α)) (space : Space α) (set : String) (id : UInt16) (item : α) :
    Option Conflict := do
  let found ← space.search sets id
  if title found.item = title item then none
  else some {
    kind := kind α, space := space.name, id := id
    name := title item, set := set
    existing := title found.item, existingSet := found.set }

/-- Merges the set at a place of the collection. It takes the place of a member of the same name,
and every other item of its ids is shadowed; those of another name are told. -/
def merge (sets : Array (ItemSet α)) (space : Space α) (index : Nat) : List Conflict × Space α :=
  match sets[index]? with
  | none => ([], space)
  | some set =>
    let space := (space.drop sets set.name).refreshed sets
    let entries := set.items.toList
    (entries.filterMap fun e => space.conflict? sets set.name e.1 e.2,
      { space with
        members := space.members ++ [⟨index, set.revision⟩]
        memory := entries.foldl (fun memory e => memory.insert e.1 ⟨set.name, e.2⟩) space.memory })

/-! ## Members -/

/-- The names of the members, in the order of merging. -/
def memberNames (sets : Array (ItemSet α)) (space : Space α) : List String :=
  space.members.filterMap fun m => sets[m.set]?.map ItemSet.name

/-- The place of the member of a name. -/
def memberNamed? (sets : Array (ItemSet α)) (space : Space α) (name : String) : Option Nat :=
  (space.members.find? fun m => sets[m.set]?.map ItemSet.name == some name).map Member.set

/-- The names of the members, in alphabetical order. -/
def setNames (sets : Array (ItemSet α)) (space : Space α) : List String :=
  (space.memberNames sets).mergeSort fun a b => decide (a ≤ b)

def describe (sets : Array (ItemSet α)) (space : Space α) : String :=
  Text.record "RegistrySpace" [
    ("kind", Text.quote (kind α)),
    ("name", Text.quote space.name),
    ("sets", Text.bracketed ((space.setNames sets).map Text.quote))]

end Space

end Tiff
