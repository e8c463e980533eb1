-- The tags of the standard registry. The spaces for the chain and for Exif
-- directories both have the Exif tags, and no other set of theirs knows the tag
-- of exposure times.

import Tiff.Proofs.StandardTypes

namespace Tiff.Registry

/-- The merges that fill the tag spaces: the places of a space and of a set. -/
def standardTagMerges : List (Nat × Nat) := [
  (0, 0), (0, 1), (0, 2), (0, 3), (0, 4), (0, 5), (0, 6),
  (1, 0), (1, 1), (1, 3),
  (2, 7),
  (3, 8)]

def standardTagNames : Array String := #[defaultName, "Exif", "GPS", "Interoperability"]

theorem standardTags_eq_after :
    standardTags.2 =
      after Shelf.step (.fresh standardTagSets standardTagNames)
        (standardTagMerges.map fun pair => .merge pair.1 pair.2) := by
  have hfresh : ({
      sets := standardTagSets
      spaces := #[{ name := defaultName }, { name := "Exif" }, { name := "GPS" },
        { name := "Interoperability" }] } : Shelf Tag) =
        .fresh standardTagSets standardTagNames := by
    simp [Shelf.fresh, standardTagNames]
  unfold standardTags
  rw [hfresh]
  exact Shelf.mergeAll_eq_after _ _

theorem plain_standardTags :
    standardTags.2.plain = ⟨standardTagSets, #[
      ⟨defaultName, [0, 1, 2, 3, 4, 5, 6]⟩, ⟨"Exif", [0, 1, 3]⟩, ⟨"GPS", [7]⟩,
      ⟨"Interoperability", [8]⟩]⟩ ∧
      ∃ spent, standardTags.2.Sound spent := by
  obtain ⟨hplain, hsound, -⟩ := Shelf.run_fresh standardTagSets standardTagNames
    (standardTagMerges.map fun pair => .merge pair.1 pair.2) [] fun place _ => by
      rw [List.append_nil, Shelf.taken_merges]
      decide
  rw [standardTags_eq_after]
  refine ⟨hplain.trans ?_, hsound⟩
  have hbaseline : Catalog.baseline.name = "Baseline" := rfl
  have hextended : Catalog.extended.name = "Extended" := rfl
  have hprivate : Catalog.privateTags.name = "Private" := rfl
  have hexif : Catalog.exif.name = "Exif" := rfl
  have hgeoTiff : Catalog.geoTiff.name = "GeoTIFF" := rfl
  have hmodi : Catalog.modi.name = "MODI" := rfl
  have htiffEp : Catalog.tiffEp.name = "TIFF/EP" := rfl
  simp [after, PlainShelf.step, PlainShelf.merge, PlainShelf.fresh, PlainSpace.merge,
    PlainSpace.without, standardTagSets, standardTagNames, standardTagMerges, hbaseline,
    hextended, hprivate, hexif, hgeoTiff, hmodi, htiffEp]

/-! ## Exposure times -/

def exposureTag : Tag := Tag.make 33434 "ExposureTime" (some Catalog.exposureTime)

theorem filter_accepted (tags : List Tag) :
    (tags.filter fun tag => 0 ≤ Registrable.key tag && Registrable.key tag ≤ 65535) = tags := by
  rw [List.filter_eq_self]
  intro tag _
  have hlt := (Registrable.key tag).toNat_lt
  rw [Bool.and_eq_true, decide_eq_true_iff, decide_eq_true_iff, UInt16.le_iff_toNat_le,
    UInt16.le_iff_toNat_le]
  exact ⟨Nat.zero_le _, Nat.le_of_lt_succ hlt⟩

/-- Of the set of Exif tags only the end matters, where the tags with an interpreter are. -/
theorem getElem?_exif : Catalog.exif.items[(33434 : UInt16)]? = some exposureTag := by
  unfold Catalog.exif ItemSet.preloaded
  simp only [filter_accepted]
  rw [List.append_assoc, List.foldl_append]
  generalize List.foldl _ _ Catalog.exifTable.tags = map
  simp [Catalog.interpretedTags, Catalog.pointerTable, Catalog.Table.tags, Registrable.key,
    Std.TreeMap.getElem_insert, Tag.make, exposureTag, Catalog.exifPointer, Catalog.gpsPointer,
    Catalog.interopPointer]

theorem tagSpace?_standard (sizes : OpenSizes) :
    (standard sizes).tagSpace? defaultName = some 0 ∧
      (standard sizes).tagSpace? "Exif" = some 1 := by
  have hname : (standard sizes).spaceName 0 = defaultName := by
    have hspace := congrArg (fun shelf => (shelf.spaces[0]?.map PlainSpace.name).getD "")
      plain_standardTags.1
    simpa [Shelf.plain, Function.comp_def, Space.plain, standard, spaceName] using hspace
  constructor
  · exact if_pos hname.symm
  · have hother : "Exif" ≠ (standard sizes).spaceName 0 := by
      rw [hname]
      decide
    refine (if_neg hother).trans ?_
    simp [standard, Std.TreeMap.getElem_insert]

/-- What the tag of exposure times means in the chain and in Exif directories. -/
theorem tag_exposure (sizes : OpenSizes) {name : String} {space : Nat}
    (hname : name = defaultName ∨ name = "Exif")
    (hspace : (standard sizes).tagSpace? name = some space) :
    ((standard sizes).dictionary space).tag 33434 = exposureTag := by
  obtain ⟨hdefault, hexif⟩ := tagSpace?_standard sizes
  have hplace : space = 0 ∨ space = 1 := by
    rcases hname with rfl | rfl
    · exact .inl (Option.some.inj (hspace.symm.trans hdefault))
    · exact .inr (Option.some.inj (hspace.symm.trans hexif))
  obtain ⟨hplain, spent, hsound⟩ := plain_standardTags
  have hlookup := hsound.lookup space 33434
  rw [hplain] at hlookup
  simp only [dictionary, standard, Shelf.get, hlookup]
  have hgeoTiff : Catalog.geoTiff.items[(33434 : UInt16)]? = none := rfl
  have hmodi : Catalog.modi.items[(33434 : UInt16)]? = none := rfl
  have htiffEp : Catalog.tiffEp.items[(33434 : UInt16)]? = none := rfl
  rcases hplace with rfl | rfl
  · simp [PlainShelf.resolve, PlainSpace.resolve, standardTagSets, getElem?_exif, hgeoTiff, hmodi,
      htiffEp, Shelf.itemOf]
  · simp [PlainShelf.resolve, PlainSpace.resolve, standardTagSets, getElem?_exif, Shelf.itemOf]

end Tiff.Registry
