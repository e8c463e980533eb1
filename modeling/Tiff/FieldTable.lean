-- Tables of fields. A table keeps its fields in the order of the file, and an
-- index leads from each tag to the last field that has it. The index is filled
-- field by field, together with the table.

import Std.Data.TreeMap
import Tiff.Field

namespace Tiff

/-! ## Tags in a row of fields -/

/-- The tag of the field at a position. -/
def tagAt (fields : Array Field) (position : Nat) : Option UInt16 :=
  fields[position]?.map fun f => f.tagId

/-- A tag stands at a position, and nowhere behind it. -/
def LastAt (fields : Array Field) (tag : UInt16) (position : Nat) : Prop :=
  tagAt fields position = some tag ∧ ∀ later, position < later → tagAt fields later ≠ some tag

section

variable {fields : Array Field} {field : Field} {tag : UInt16} {position : Nat}

theorem tagAt_of_size_le (h : fields.size ≤ position) : tagAt fields position = none := by
  rw [tagAt, Array.getElem?_eq_none h, Option.map_none]

theorem tagAt_push (fields : Array Field) (field : Field) (position : Nat) :
    tagAt (fields.push field) position =
      if position = fields.size then some field.tagId else tagAt fields position := by
  unfold tagAt
  rw [Array.getElem?_push]
  split <;> rfl

theorem tagAt_push_eq_some_iff (h : field.tagId ≠ tag) :
    tagAt (fields.push field) position = some tag ↔ tagAt fields position = some tag := by
  rw [tagAt_push]
  split
  · rename_i hend
    simp [h, tagAt_of_size_le (Nat.le_of_eq hend.symm)]
  · rfl

theorem LastAt.unique {other : Nat} (h : LastAt fields tag position)
    (hother : LastAt fields tag other) : position = other := by
  rcases Nat.lt_trichotomy position other with hlt | heq | hgt
  · exact absurd hother.1 (h.2 other hlt)
  · exact heq
  · exact absurd h.1 (hother.2 position hgt)

/-- A field that is put behind the others is the last one with its tag. -/
theorem lastAt_push (fields : Array Field) (field : Field) :
    LastAt (fields.push field) field.tagId fields.size := by
  refine ⟨by rw [tagAt_push, if_pos rfl], fun later hlater => ?_⟩
  have hnone : tagAt (fields.push field) later = none := by
    apply tagAt_of_size_le
    rw [Array.size_push]
    exact hlater
  simp [hnone]

/-- For any other tag it changes nothing. -/
theorem lastAt_push_iff_of_ne (h : field.tagId ≠ tag) :
    LastAt (fields.push field) tag position ↔ LastAt fields tag position := by
  simp only [LastAt, ne_eq, tagAt_push_eq_some_iff h]

end

/-! ## Tables -/

/-- Fields and an index of their tags. -/
structure FieldTable where
  fields : Array Field
  index : Std.TreeMap UInt16 Nat
  indexed : ∀ tag position, index[tag]? = some position ↔ LastAt fields tag position

namespace FieldTable

def empty : FieldTable where
  fields := #[]
  index := {}
  indexed tag position := by
    have hnone : tagAt #[] position = none := rfl
    simp [LastAt, hnone]

/-- Puts a field behind the others; its tag leads to it from now on. -/
def push (table : FieldTable) (field : Field) : FieldTable where
  fields := table.fields.push field
  index := table.index.insert field.tagId table.fields.size
  indexed tag position := by
    rw [Std.TreeMap.getElem?_insert]
    simp only [Std.LawfulEqCmp.compare_eq_iff_eq]
    split
    · rename_i htag
      have hlast : LastAt (table.fields.push field) tag table.fields.size :=
        htag ▸ lastAt_push table.fields field
      rw [Option.some.injEq]
      exact ⟨fun heq => heq ▸ hlast, hlast.unique⟩
    · rename_i htag
      rw [lastAt_push_iff_of_ne htag]
      exact table.indexed tag position

end FieldTable

end Tiff
