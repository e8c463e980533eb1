-- The field types of the standard registry. An id means what the types with
-- 64-bit elements say of it, then what the provisional ones say, and then what
-- the types of TIFF 6.0 say.

import Tiff.Proofs.Recall
import Tiff.Registry

namespace Tiff

/-- Merging pairs one after the other is a history of merges. -/
theorem Shelf.mergeAll_eq_after {α : Type} [Registrable α] (shelf : Shelf α)
    (pairs : List (Nat × Nat)) :
    (shelf.mergeAll pairs).2 =
      after Shelf.step shelf (pairs.map fun pair => .merge pair.1 pair.2) := by
  unfold mergeAll
  generalize ([] : List Conflict) = told
  induction pairs generalizing told shelf with
  | nil => rfl
  | cons pair pairs ih => exact ih (shelf.merge pair.1 pair.2).2 _

/-- A history of merges alone registers nothing. -/
theorem Shelf.taken_merges {α : Type} [Registrable α] (shelf : Shelf α) (place : Nat)
    (pairs : List (Nat × Nat)) :
    shelf.taken place (pairs.map fun pair => .merge pair.1 pair.2) = 0 := by
  induction pairs generalizing shelf with
  | nil => rfl
  | cons pair pairs ih =>
    rw [List.map_cons, taken_cons, ih]
    rfl

/-- The ids of the codings mean what the format says. -/
def Dictionary.KnowsCodings (words : Dictionary) : Prop :=
  ∀ coding : Coding, words.type coding.id = coding.fieldType

namespace Registry

/-- The sets of field types, in their places on the shelf. -/
def standardTypeSets (sizes : OpenSizes) : Array (ItemSet FieldType) :=
  #[Catalog.defaultTypes, Catalog.provisionalTypes sizes, Catalog.bigTypes]

theorem standardTypes_eq_after (sizes : OpenSizes) :
    (standardTypes sizes).2 =
      after Shelf.step (.fresh (standardTypeSets sizes) #[defaultName])
        ([(0, 0), (0, 1), (0, 2)].map fun pair => .merge pair.1 pair.2) := by
  have hfresh : ({
      sets := standardTypeSets sizes
      spaces := #[{ name := defaultName }] } : Shelf FieldType) =
        .fresh (standardTypeSets sizes) #[defaultName] := by
    simp [Shelf.fresh]
  rw [← hfresh]
  exact Shelf.mergeAll_eq_after _ _

theorem plain_standardTypes (sizes : OpenSizes) :
    (standardTypes sizes).2.plain = ⟨standardTypeSets sizes, #[⟨defaultName, [0, 1, 2]⟩]⟩ ∧
      ∃ spent, (standardTypes sizes).2.Sound spent := by
  obtain ⟨hplain, hsound, -⟩ := Shelf.run_fresh (standardTypeSets sizes) #[defaultName]
    ([(0, 0), (0, 1), (0, 2)].map fun pair => .merge pair.1 pair.2) [] fun place _ => by
      rw [List.append_nil, Shelf.taken_merges]
      decide
  rw [standardTypes_eq_after]
  refine ⟨hplain.trans ?_, hsound⟩
  have hdefault : Catalog.defaultTypes.name = "Default" := rfl
  have hprovisional : (Catalog.provisionalTypes sizes).name = "Provisional" := rfl
  have hbig : Catalog.bigTypes.name = "BigTIFF" := rfl
  simp [after, PlainShelf.step, PlainShelf.merge, PlainShelf.fresh, PlainSpace.merge,
    PlainSpace.without, standardTypeSets, hdefault, hprovisional, hbig]

/-- What an id means for field types. -/
theorem type_standard (sizes : OpenSizes) (id : UInt16) :
    (standard sizes).defaultDictionary.type id =
      (Catalog.bigTypes.items[id]?.or ((Catalog.provisionalTypes sizes).items[id]?.or
        Catalog.defaultTypes.items[id]?)).getD (.unknown id) := by
  obtain ⟨hplain, spent, hsound⟩ := plain_standardTypes sizes
  have hlookup := hsound.lookup 0 id
  rw [hplain] at hlookup
  simp only [defaultDictionary, dictionary, standard, Shelf.get, hlookup]
  simp only [PlainShelf.resolve, PlainSpace.resolve, standardTypeSets]
  cases hbig : Catalog.bigTypes.items[id]? with
  | some type => simp [hbig, Shelf.itemOf]
  | none =>
    cases hprovisional : (Catalog.provisionalTypes sizes).items[id]? with
    | some type => simp [hbig, hprovisional, Shelf.itemOf]
    | none =>
      cases hdefault : Catalog.defaultTypes.items[id]? with
      | some type => simp [hbig, hprovisional, hdefault, Shelf.itemOf]
      | none =>
        have hunknown : (Registrable.placeholder id : FieldType) = .unknown id := rfl
        simp [hbig, hprovisional, hdefault, Shelf.itemOf, hunknown]

/-- Every coding of the format has its id. -/
theorem knowsCodings_standard (sizes : OpenSizes) :
    (standard sizes).defaultDictionary.KnowsCodings := by
  intro coding
  rw [type_standard]
  cases coding <;> rfl

end Registry

end Tiff
