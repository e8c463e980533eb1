-- Histories of a shelf. What happens to a shelf is told act by act. Beside the
-- shelf stands a plain one, whose spaces remember nothing: they only know the
-- order of merging, and search their members at every look-up.

import Tiff.Registry.Shelf

namespace Tiff

open Registrable

variable {α : Type}

/-! ## Acts and replies -/

/-- What can happen to a shelf. Sets and spaces are named by their places. -/
inductive Act (α : Type) where
  | register (set : Nat) (item : α)
  | lock (set : Nat)
  | merge (space set : Nat)
  | lookup (space : Nat) (id : UInt16)

/-- What an act gives back. -/
inductive Reply (α : Type) where
  | registered (result : Except Refusal Unit)
  | locked
  | merged (conflicts : List Conflict)
  | found (answer : Option (Found α))

/-- Whether an act only asks. -/
def Act.isLookup : Act α → Bool
  | lookup .. => true
  | _ => false

/-- Whether an act is a registration in the set at a place, and the set takes it. -/
def Act.isTaken (place : Nat) : Act α → Reply α → Bool
  | register set _, .registered (.ok _) => set == place
  | _, _ => false

section Histories

variable {σ : Type} (step : σ → Act α → Reply α × σ)

/-- What some acts leave, one after the other. -/
def after (state : σ) (acts : List (Act α)) : σ :=
  acts.foldl (fun state act => (step state act).2) state

/-- What some acts give back, one after the other. -/
def replies (state : σ) : List (Act α) → List (Reply α)
  | [] => []
  | act :: acts => (step state act).1 :: replies (step state act).2 acts

theorem after_cons (state : σ) (act : Act α) (acts : List (Act α)) :
    after step state (act :: acts) = after step (step state act).2 acts := rfl

end Histories

/-! ## The shelf -/

namespace Shelf

variable [Registrable α]

def step (shelf : Shelf α) : Act α → Reply α × Shelf α
  | .register set item =>
    let (result, shelf) := shelf.register set item
    (.registered result, shelf)
  | .lock set => (.locked, shelf.lock set)
  | .merge space set => let (conflicts, shelf) := shelf.merge space set; (.merged conflicts, shelf)
  | .lookup space id => let (answer, shelf) := shelf.lookup space id; (.found answer, shelf)

/-- The number of registrations that the set at a place takes by an act: one or none. -/
def gain (shelf : Shelf α) (act : Act α) (place : Nat) : Nat :=
  if act.isTaken place (shelf.step act).1 then 1 else 0

/-- The number of registrations that the set at a place takes in a history. -/
def taken (shelf : Shelf α) (place : Nat) (acts : List (Act α)) : Nat :=
  (acts.zip (replies step shelf acts)).countP fun (act, reply) => act.isTaken place reply

theorem taken_cons (shelf : Shelf α) (place : Nat) (act : Act α) (acts : List (Act α)) :
    shelf.taken place (act :: acts) =
      shelf.gain act place + (shelf.step act).2.taken place acts := by
  simp only [taken, gain, replies, List.zip_cons_cons, List.countP_cons]
  omega

theorem taken_append (shelf : Shelf α) (place : Nat) (acts later : List (Act α)) :
    shelf.taken place (acts ++ later) =
      shelf.taken place acts + (after step shelf acts).taken place later := by
  induction acts generalizing shelf with
  | nil => exact (Nat.zero_add _).symm
  | cons act acts ih => rw [List.cons_append, taken_cons, taken_cons, ih, after_cons, Nat.add_assoc]

/-- A shelf with some sets, and with spaces that have no members yet. -/
def fresh (sets : Array (ItemSet α)) (names : Array String) : Shelf α where
  sets := sets
  spaces := names.map fun name => { name }

end Shelf

/-! ## The plain shelf -/

structure PlainSpace where
  name : String
  /-- The places of the member sets, the one merged last at the end. -/
  order : List Nat := []

namespace PlainSpace

variable [Registrable α]

/-- The answer of the first set that has the id now, from the one merged last to the one merged
first. -/
def resolve (sets : Array (ItemSet α)) (space : PlainSpace) (id : UInt16) : Option (Found α) :=
  space.order.reverse.findSome? fun place => do
    let set ← sets[place]?
    let item ← set.items[id]?
    return ⟨set.name, item⟩

/-- The space without the member of a name. -/
def without (sets : Array (ItemSet α)) (space : PlainSpace) (name : String) : PlainSpace :=
  { space with order := space.order.filter fun place => sets[place]?.map ItemSet.name != some name }

/-- What an item clashes with: the answer of the members, if it has another name. -/
def clash? (sets : Array (ItemSet α)) (space : PlainSpace) (set : String) (id : UInt16) (item : α) :
    Option Conflict := do
  let found ← space.resolve sets id
  if title found.item = title item then none
  else some {
    kind := kind α, space := space.name, id := id
    name := title item, set := set
    existing := title found.item, existingSet := found.set }

/-- Merges the set at a place as the last one; a member of the same name goes. -/
def merge (sets : Array (ItemSet α)) (space : PlainSpace) (index : Nat) :
    List Conflict × PlainSpace :=
  match sets[index]? with
  | none => ([], space)
  | some set =>
    let space := space.without sets set.name
    (set.items.toList.filterMap fun e => space.clash? sets set.name e.1 e.2,
      { space with order := space.order ++ [index] })

end PlainSpace

structure PlainShelf (α : Type) where
  sets : Array (ItemSet α)
  spaces : Array PlainSpace

namespace PlainShelf

variable [Registrable α]

/-- The answer of a space now. -/
def resolve (plain : PlainShelf α) (space : Nat) (id : UInt16) : Option (Found α) := do
  let old ← plain.spaces[space]?
  old.resolve plain.sets id

def merge (plain : PlainShelf α) (space set : Nat) : List Conflict × PlainShelf α :=
  match plain.spaces[space]? with
  | none => ([], plain)
  | some old =>
    let (conflicts, new) := old.merge plain.sets set
    (conflicts, { plain with spaces := plain.spaces.setIfInBounds space new })

/-- One act on a plain shelf. Registering and locking are up to the sets alone. -/
def step (plain : PlainShelf α) : Act α → Reply α × PlainShelf α
  | .register set item =>
    let (result, shelf) := Shelf.register { sets := plain.sets } set item
    (.registered result, { plain with sets := shelf.sets })
  | .lock set => (.locked, { plain with sets := (Shelf.lock { sets := plain.sets } set).sets })
  | .merge space set => let (conflicts, plain) := plain.merge space set; (.merged conflicts, plain)
  | .lookup space id => (.found (plain.resolve space id), plain)

/-- A plain shelf with some sets, and with spaces that have no members yet. -/
def fresh (sets : Array (ItemSet α)) (names : Array String) : PlainShelf α where
  sets := sets
  spaces := names.map fun name => { name }

theorem after_filter (plain : PlainShelf α) (acts : List (Act α)) :
    after step plain (acts.filter fun act => !act.isLookup) = after step plain acts := by
  induction acts generalizing plain with
  | nil => rfl
  | cons act acts ih =>
    cases act with
    | lookup space id => exact ih plain
    | register set item => exact ih _
    | lock set => exact ih _
    | merge space set => exact ih _

end PlainShelf

/-! ## From the shelf to the plain one -/

/-- A space without what it remembers. -/
def Space.plain (space : Space α) : PlainSpace where
  name := space.name
  order := space.members.map Member.set

/-- A shelf without what its spaces remember. -/
def Shelf.plain (shelf : Shelf α) : PlainShelf α where
  sets := shelf.sets
  spaces := shelf.spaces.map Space.plain

end Tiff
