-- Links that are lost. A link is left out if neither of its two directories points
-- anywhere, or if no directory can be read at the offset. Only the latter is told.
-- A pointer that converts into no offset is as good as none, and nothing tells.

import Tiff.Proofs.Pointers

namespace Tiff

/-- The tag of the pointer that a warning is about. -/
def Warning.tag? : Warning → Option UInt16
  | .nullPointer tag => some tag
  | .unreadable _ tag _ _ => some tag
  | _ => none

/-- The tags of the pointers that some warnings tell of. -/
def toldTags (warnings : List Warning) : List UInt16 := warnings.filterMap Warning.tag?

theorem toldTags_append (warnings later : List Warning) :
    toldTags (warnings ++ later) = toldTags warnings ++ toldTags later :=
  List.filterMap_append

namespace Exif

/-- Whether a link is told, as far as it is left out although one of its two directories points
somewhere. -/
structure Tells (tag : UInt16) (exif owner : Directory) (found? : Option Directory)
    (told : List Warning) : Prop where
  mem_iff : tag ∈ toldTags told ↔
    found? = none ∧ ∃ offset, exif.PointsTo tag offset ∨ owner.PointsTo tag offset
  only : ∀ other ∈ toldTags told, other = tag

/-- Looking for a tag space tells of no pointer, whether the space is there or not. -/
theorem exists_noted (container : Container) (space : String) (reader : Reader) :
    ∃ place noted, (spaceFor container space).outcome reader =
        (.ok place, { reader with warnings := reader.warnings ++ noted }) ∧
      toldTags noted = [] := by
  cases hspace : container.registry.tagSpace? space with
  | some place =>
    refine ⟨place, [], ?_, rfl⟩
    rw [outcome_spaceFor hspace, List.append_nil]
  | none =>
    refine ⟨container.registry.defaultSpace, [.unknownSpace space], ?_, rfl⟩
    unfold spaceFor
    simp only [hspace]
    rfl

/-- However a link ends, it tells as it should. -/
theorem exists_told (container : Container) (exif owner : Directory) (tag : UInt16)
    (space : String) (reader : Reader) :
    ∃ found? told after,
      (linked container [exif, owner] tag space).outcome reader = (.ok found?, after) ∧
      after.warnings = reader.warnings ++ told ∧ Tells tag exif owner found? told := by
  cases hlink : [exif, owner].findSome? (pointer? tag) with
  | none =>
    have hnowhere := linkTo_iff.mp hlink
    refine ⟨none, [], reader, outcome_linked_of_none hnowhere reader, by simp, ?_, nofun⟩
    simp only [← exists_linkTo_iff, ← linkTo_iff, hlink]
    simp [toldTags]
  | some offset =>
    have hsomewhere := linkTo_iff.mp hlink
    obtain ⟨place, noted, hspace, hnoted⟩ := exists_noted container space reader
    let middle : Reader := { reader with warnings := reader.warnings ++ noted }
    obtain ⟨hkept, -⟩ := Quiet.subDirectory container offset place middle
    rw [outcome_linked_of_some hsomewhere hspace]
    rcases hread : (container.subDirectory offset place).outcome middle with
      ⟨cause | directory, after⟩ <;> rw [hread] at hkept
    · have htold : toldTags (noted ++ [.unreadable space tag offset cause]) = [tag] := by
        rw [toldTags_append, hnoted]
        rfl
      refine ⟨none, noted ++ [.unreadable space tag offset cause], _, rfl, ?_, ?_, ?_⟩
      · rw [← List.append_assoc]
        exact congrArg (· ++ _) hkept
      · rw [htold, ← exists_linkTo_iff]
        exact iff_of_true (List.mem_singleton.mpr rfl) ⟨rfl, offset, hsomewhere⟩
      · rw [htold]
        exact fun other => List.mem_singleton.mp
    · refine ⟨some directory, noted, after, rfl, hkept, ?_, ?_⟩
      · rw [hnoted]
        simp
      · rw [hnoted]
        exact nofun

/-- What is read of an Exif directory, and what each of the links tells. -/
theorem exists_told_of_readFrom {container : Container} {owner : Directory} {offset : Nat}
    {exif : Exif} {reader last : Reader}
    (h : (readFrom container owner offset).outcome reader = (.ok exif, last)) :
    ∃ noted toldOfGps toldOfInterop,
      last.warnings = reader.warnings ++ (noted ++ (toldOfGps ++ toldOfInterop)) ∧
      toldTags noted = [] ∧
      Tells Catalog.gpsPointer exif.exif owner exif.gps toldOfGps ∧
      Tells Catalog.interopPointer exif.exif owner exif.interop toldOfInterop := by
  obtain ⟨place, noted, hspace, hnoted⟩ := exists_noted container "Exif" reader
  unfold readFrom at h
  rw [ReadM.outcome_bind_ok hspace] at h
  obtain ⟨directory, found, hread, h⟩ := ReadM.outcome_bind_eq_ok h
  obtain ⟨gps, toldOfGps, middle, hgps, htold, htells⟩ :=
    exists_told container directory owner Catalog.gpsPointer "GPS" found
  obtain ⟨interop, toldOfInterop, behind, hinterop, htold', htells'⟩ :=
    exists_told container directory owner Catalog.interopPointer "Interoperability" middle
  rw [ReadM.outcome_bind_ok hgps, ReadM.outcome_bind_ok hinterop] at h
  cases h
  have hquiet : found.warnings = reader.warnings ++ noted := by
    obtain ⟨hkept, -⟩ := Quiet.subDirectory container offset place
      { reader with warnings := reader.warnings ++ noted }
    rwa [hread] at hkept
  refine ⟨noted, toldOfGps, toldOfInterop, ?_, hnoted, htells, htells'⟩
  rw [htold', htold, hquiet]
  simp only [List.append_assoc]

/-- The two links of an Exif directory, by the tags of their pointers. -/
def links (exif : Exif) : List (UInt16 × Option Directory) :=
  [(Catalog.gpsPointer, exif.gps), (Catalog.interopPointer, exif.interop)]

/-- A link that is left out is told just where one of its two directories points somewhere. What is
lost in silence are pointers that are null, and pointers that convert into no offset. -/
theorem a_lost_link_is_told_where_a_pointer_converts (container : Container)
    {reader last : Reader} {exif : Exif} (h : (read container).outcome reader = (.ok exif, last)) :
    ∃ owner told, IsOwner container.directories owner ∧
      last.warnings = reader.warnings ++ told ∧
      ∀ tag found?, (tag, found?) ∈ exif.links →
        (tag ∈ toldTags told ↔ found? = none ∧
          ∃ offset, exif.exif.PointsTo tag offset ∨ owner.PointsTo tag offset) ∧
        (found? = none → tag ∉ toldTags told → ∀ holder ∈ [exif.exif, owner], ∀ offset,
          holder.require tag (Payload.natural · .uint64) = .ok offset → offset = 0) := by
  obtain ⟨owner, offset, howner, -, hfrom⟩ := exists_readFrom h
  obtain ⟨noted, toldOfGps, toldOfInterop, htold, hnoted, hgps, hinterop⟩ :=
    exists_told_of_readFrom hfrom
  refine ⟨owner, noted ++ (toldOfGps ++ toldOfInterop), howner, htold, ?_⟩
  have hiff : ∀ tag found?, (tag, found?) ∈ exif.links →
      (tag ∈ toldTags (noted ++ (toldOfGps ++ toldOfInterop)) ↔ found? = none ∧
        ∃ offset, exif.exif.PointsTo tag offset ∨ owner.PointsTo tag offset) := by
    intro tag found? hlink
    have hne : Catalog.gpsPointer ≠ Catalog.interopPointer := by decide
    rw [toldTags_append, toldTags_append, hnoted, List.nil_append, List.mem_append]
    simp only [links, List.mem_cons, Prod.mk.injEq, List.not_mem_nil, or_false] at hlink
    rcases hlink with ⟨rfl, rfl⟩ | ⟨rfl, rfl⟩
    · rw [← hgps.mem_iff]
      exact ⟨fun h => h.resolve_right fun hother => hne (hinterop.only _ hother), .inl⟩
    · rw [← hinterop.mem_iff]
      exact ⟨fun h => h.resolve_left fun hother => hne (hgps.only _ hother).symm, .inr⟩
  refine fun tag found? hlink => ⟨hiff tag found? hlink, fun hlost huntold holder hholder => ?_⟩
  intro place hplace
  rw [hiff tag found? hlink] at huntold
  by_cases hzero : place = 0
  · exact hzero
  · have hpoints : holder.PointsTo tag place := ⟨hplace, hzero⟩
    refine absurd ⟨hlost, place, ?_⟩ huntold
    simp only [List.mem_cons, List.not_mem_nil, or_false] at hholder
    rcases hholder with rfl | rfl
    · exact .inl hpoints
    · exact .inr hpoints

/-- A GPS pointer that leads behind the end is told. -/
theorem a_lost_link_is_told_where_a_pointer_converts_of_pointing :
    ∃ exif last, (read pointing).outcome { source := .ofBytes pointedTo } = (.ok exif, last) ∧
      exif.gps = none ∧ Catalog.gpsPointer ∈ toldTags last.warnings := by
  have hfound : ((read pointing).outcome { source := .ofBytes pointedTo }).1.map (fun exif =>
      (exif.gps.isNone, exif.exif.require Catalog.gpsPointer (Payload.natural · .uint64))) =
      .ok (true, .ok 200) := by decide +kernel
  rcases hread : (read pointing).outcome { source := .ofBytes pointedTo } with ⟨e | exif, last⟩ <;>
    rw [hread] at hfound
  · cases hfound
  · obtain ⟨owner, told, -, htold, hlinks⟩ :=
      a_lost_link_is_told_where_a_pointer_converts pointing hread
    obtain ⟨hiff, -⟩ := hlinks Catalog.gpsPointer exif.gps (List.mem_cons_self ..)
    simp only [Except.map, Except.ok.injEq, Prod.mk.injEq, Option.isNone_iff_eq_none] at hfound
    obtain ⟨hgps, hpointer⟩ := hfound
    have hmem := hiff.mpr ⟨hgps, 200, .inl ⟨hpointer, by decide⟩⟩
    exact ⟨exif, last, rfl, hgps, by rwa [htold]⟩

/-- A file whose Exif directory has a text where the GPS pointer should be. -/
def textPointer : ByteArray := ⟨#[
  0x49, 0x49, 42, 0, 8, 0, 0, 0,
  1, 0, 0x69, 0x87, 4, 0, 1, 0, 0, 0, 26, 0, 0, 0, 0, 0, 0, 0,
  1, 0, 0x25, 0x88, 2, 0, 4, 0, 0, 0, 0x47, 0x50, 0x53, 0, 0, 0, 0, 0]⟩

/-- The pointer is there and converts into no offset, the GPS directory is left out, and no warning
tells of it. -/
theorem a_text_for_a_pointer_is_lost_in_silence :
    ∃ container after exif last,
      (Container.read (.standard {}) {}).outcome { source := .ofBytes textPointer } =
        (.ok container, after) ∧
      (read container).outcome after = (.ok exif, last) ∧
      exif.gps = none ∧ exif.exif.has Catalog.gpsPointer = true ∧
      exif.exif.require Catalog.gpsPointer (Payload.natural · .uint64) =
        .error (.conversion 34853 "u64" "ASCII" 4) ∧
      last.warnings = [] := by
  have hfound : ((Container.read (.standard {}) {} >>= read).outcome
      { source := .ofBytes textPointer }).1.map (fun exif =>
        (exif.gps.isNone, exif.exif.has Catalog.gpsPointer,
          exif.exif.require Catalog.gpsPointer (Payload.natural · .uint64))) =
      .ok (true, true, .error (.conversion 34853 "u64" "ASCII" 4)) := by decide +kernel
  have hsilent : ((Container.read (.standard {}) {} >>= read).outcome
      { source := .ofBytes textPointer }).2.warnings = [] := by decide +kernel
  rcases hread : (Container.read (.standard {}) {} >>= read).outcome
      { source := .ofBytes textPointer } with ⟨e | exif, last⟩ <;> rw [hread] at hfound hsilent
  · cases hfound
  · obtain ⟨container, after, hcontainer, hexif⟩ := ReadM.outcome_bind_eq_ok hread
    simp only [Except.map, Except.ok.injEq, Prod.mk.injEq, Option.isNone_iff_eq_none] at hfound
    obtain ⟨hgps, hhas, hrequire⟩ := hfound
    exact ⟨container, after, exif, last, hcontainer, hexif, hgps, hhas, hrequire, hsilent⟩

end Exif

end Tiff
