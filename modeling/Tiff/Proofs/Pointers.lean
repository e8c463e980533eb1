-- Pointers to directories outside the chain. The first directory with an Exif
-- pointer is the owner of the Exif directory. From these two a link leads on to a
-- GPS or Interoperability directory, by the pointer of the one or the other. A
-- link that leads nowhere is left out, and what that tells depends on its pointers.

import Tiff.Proofs.Answers
import Tiff.Proofs.Conversions
import Tiff.Proofs.Requests

namespace Tiff

/-! ## Pointers -/

/-- A directory points to an offset if the field of the tag converts into it, and it is not null. -/
def Directory.PointsTo (directory : Directory) (tag : UInt16) (offset : Nat) : Prop :=
  directory.require tag (Payload.natural · .uint64) = .ok offset ∧ offset ≠ 0

/-- A field that is there is refused, if it is, for what it holds. -/
theorem Directory.ne_missingTag_of_require {directory : Directory} {tag : UInt16}
    (h : directory.has tag = true) (other : UInt16) :
    directory.require tag (Payload.natural · .uint64) ≠ .error (.missingTag other) := by
  rw [has_eq_isSome_field?] at h
  unfold require
  cases hfield : directory.field? tag with
  | none => simp [hfield] at h
  | some field =>
    simp only [Payload.natural]
    cases hinteger : field.toPayload.integer .uint64 with
    | ok n => exact nofun
    | error e =>
      intro hmissing
      rw [Payload.expecting_eq_error hinteger] at hmissing
      cases hmissing

namespace Exif

/-- The owner of the Exif directory: the first directory of a chain with a pointer to it. -/
def IsOwner (chain : List Directory) (owner : Directory) : Prop :=
  owner.has Catalog.exifPointer = true ∧ ∃ before behind, chain = before ++ owner :: behind ∧
    ∀ directory ∈ before, directory.has Catalog.exifPointer = false

/-- Where a link leads: to where the Exif directory points, otherwise to where its owner points, or
nowhere. -/
inductive LinkTo (tag : UInt16) (exif owner : Directory) : Option Nat → Prop
  | exif {offset : Nat} (h : exif.PointsTo tag offset) : LinkTo tag exif owner (some offset)
  | owner {offset : Nat} (hexif : ∀ other, ¬ exif.PointsTo tag other)
      (h : owner.PointsTo tag offset) : LinkTo tag exif owner (some offset)
  | nowhere (hexif : ∀ other, ¬ exif.PointsTo tag other)
      (howner : ∀ other, ¬ owner.PointsTo tag other) : LinkTo tag exif owner none

theorem isOwner_iff {chain : List Directory} {owner : Directory} :
    chain.find? (·.has Catalog.exifPointer) = some owner ↔ IsOwner chain owner := by
  rw [List.find?_eq_some_iff_append]
  simp [IsOwner]

theorem pointer?_eq_some_iff {tag : UInt16} {directory : Directory} {offset : Nat} :
    pointer? tag directory = some offset ↔ directory.PointsTo tag offset := by
  unfold pointer? Directory.PointsTo Directory.get Directory.require
  cases directory.field? tag with
  | none => simp
  | some field =>
    cases hnatural : field.toPayload.natural .uint64 with
    | error e => simp [hnatural, Except.map]
    | ok n =>
      by_cases hzero : n = 0
      · simp only [hnatural, Except.map, hzero, if_true, Except.ok.injEq]
        exact ⟨nofun, fun h => absurd h.1.symm h.2⟩
      · simp only [hnatural, Except.map, hzero, if_false, Option.some.injEq, Except.ok.injEq]
        exact ⟨fun hsame => ⟨hsame, hsame ▸ hzero⟩, And.left⟩

theorem pointer?_eq_none_iff {tag : UInt16} {directory : Directory} :
    pointer? tag directory = none ↔ ∀ offset, ¬ directory.PointsTo tag offset := by
  simp only [Option.eq_none_iff_forall_ne_some, ne_eq, pointer?_eq_some_iff]

section

variable {tag : UInt16} {exif owner : Directory}

theorem linkTo_iff {offset? : Option Nat} :
    [exif, owner].findSome? (pointer? tag) = offset? ↔ LinkTo tag exif owner offset? := by
  simp only [List.findSome?_cons, List.findSome?_nil]
  constructor
  · rintro rfl
    cases hexif : pointer? tag exif with
    | some offset => exact .exif (pointer?_eq_some_iff.mp hexif)
    | none =>
      have hexif' := pointer?_eq_none_iff.mp hexif
      cases howner : pointer? tag owner with
      | some offset => exact .owner hexif' (pointer?_eq_some_iff.mp howner)
      | none => exact .nowhere hexif' (pointer?_eq_none_iff.mp howner)
  · intro h
    cases h with
    | exif h => rw [pointer?_eq_some_iff.mpr h]
    | owner hexif h => rw [pointer?_eq_none_iff.mpr hexif, pointer?_eq_some_iff.mpr h]
    | nowhere hexif howner => rw [pointer?_eq_none_iff.mpr hexif, pointer?_eq_none_iff.mpr howner]

/-- A link leads somewhere just where one of the two directories points somewhere. -/
theorem exists_linkTo_iff : (∃ offset, LinkTo tag exif owner (some offset)) ↔
    ∃ offset, exif.PointsTo tag offset ∨ owner.PointsTo tag offset := by
  constructor
  · rintro ⟨offset, h | ⟨_, h⟩⟩
    · exact ⟨offset, .inl h⟩
    · exact ⟨offset, .inr h⟩
  · rintro ⟨offset, h⟩
    cases hlink : [exif, owner].findSome? (pointer? tag) with
    | some found => exact ⟨found, linkTo_iff.mp hlink⟩
    | none =>
      cases linkTo_iff.mp hlink with
      | nowhere hexif howner => exact (h.elim (hexif offset) (howner offset)).elim

/-! ## Links -/

variable {container : Container} {space : String} {reader : Reader}

theorem outcome_spaceFor {place : Nat} (h : container.registry.tagSpace? space = some place)
    (reader : Reader) : (spaceFor container space).outcome reader = (.ok place, reader) := by
  unfold spaceFor
  simp only [h]
  rfl

/-- A link that leads nowhere is left out and tells nothing. -/
theorem outcome_linked_of_none (h : LinkTo tag exif owner none) (reader : Reader) :
    (linked container [exif, owner] tag space).outcome reader = (.ok none, reader) := by
  unfold linked
  simp only [linkTo_iff.mpr h]
  rfl

/-- A link that leads somewhere finds the directory there, or tells why it does not. -/
theorem outcome_linked_of_some {offset place : Nat} {middle : Reader}
    (h : LinkTo tag exif owner (some offset))
    (hspace : (spaceFor container space).outcome reader = (.ok place, middle)) :
    (linked container [exif, owner] tag space).outcome reader =
      match (container.subDirectory offset place).outcome middle with
      | (.ok directory, after) => (.ok (some directory), after)
      | (.error cause, after) => (.ok none,
          { after with warnings := after.warnings ++ [.unreadable space tag offset cause] }) := by
  unfold linked
  simp only [linkTo_iff.mpr h]
  rw [ReadM.outcome_bind_ok hspace, ReadM.outcome_bind, Reader.outcome_attempt]
  rcases (container.subDirectory offset place).outcome middle with ⟨cause | directory, after⟩ <;>
    rfl

end

/-- How a link ends, in the tag space at a place: with nothing, where it leads nowhere, or with the
directory that is there, or with a warning of why there is none. -/
inductive LinkEnds (container : Container) (exif owner : Directory) (tag : UInt16)
    (space : String) (place : Nat) (reader : Reader) :
    Option Directory → List Warning → Reader → Prop
  | nowhere (h : LinkTo tag exif owner none) :
      LinkEnds container exif owner tag space place reader none [] reader
  | found {offset : Nat} {directory : Directory} {after : Reader}
      (h : LinkTo tag exif owner (some offset))
      (hread : (container.subDirectory offset place).outcome reader = (.ok directory, after)) :
      LinkEnds container exif owner tag space place reader (some directory) [] after
  | unreadable {offset : Nat} {cause : Error} {after : Reader}
      (h : LinkTo tag exif owner (some offset))
      (hread : (container.subDirectory offset place).outcome reader = (.error cause, after)) :
      LinkEnds container exif owner tag space place reader none
        [.unreadable space tag offset cause]
        { after with warnings := after.warnings ++ [.unreadable space tag offset cause] }

section

variable {container : Container} {exif owner : Directory} {tag : UInt16} {space : String}
  {place : Nat} {reader after : Reader} {found? : Option Directory} {told : List Warning}

theorem exists_linkEnds (hspace : container.registry.tagSpace? space = some place)
    (exif owner : Directory) (tag : UInt16) (reader : Reader) :
    ∃ found? told after,
      (linked container [exif, owner] tag space).outcome reader = (.ok found?, after) ∧
      LinkEnds container exif owner tag space place reader found? told after := by
  cases hlink : [exif, owner].findSome? (pointer? tag) with
  | none =>
    have h := linkTo_iff.mp hlink
    exact ⟨none, [], reader, outcome_linked_of_none h reader, .nowhere h⟩
  | some offset =>
    have h := linkTo_iff.mp hlink
    rw [outcome_linked_of_some h (outcome_spaceFor hspace reader)]
    rcases hread : (container.subDirectory offset place).outcome reader with
      ⟨cause | directory, after⟩
    · exact ⟨none, _, _, rfl, .unreadable h hread⟩
    · exact ⟨some directory, [], after, rfl, .found h hread⟩

/-- A link tells what it tells, and no more. -/
theorem LinkEnds.warnings_eq
    (h : LinkEnds container exif owner tag space place reader found? told after) :
    after.warnings = reader.warnings ++ told := by
  cases h with
  | nowhere => exact (List.append_nil _).symm
  | found _ hread =>
    obtain ⟨hkept, -⟩ := Quiet.subDirectory container _ place reader
    rw [hread] at hkept
    rw [hkept, List.append_nil]
  | unreadable _ hread =>
    obtain ⟨hkept, -⟩ := Quiet.subDirectory container _ place reader
    rw [hread] at hkept
    rw [hkept]

/-- A link finds a directory just where its offset is that of one. -/
theorem LinkEnds.eq_some_iff {offset : Nat} {directory : Directory}
    (h : LinkEnds container exif owner tag space place reader found? told after)
    (hlink : LinkTo tag exif owner (some offset)) :
    found? = some directory ↔
      ((container.subDirectory offset place).outcome reader).1 = .ok directory := by
  rw [← linkTo_iff] at hlink
  cases h with
  | nowhere hnone =>
    rw [← linkTo_iff, hlink] at hnone
    cases hnone
  | found hsome hread =>
    rw [← linkTo_iff, hlink] at hsome
    cases hsome
    rw [hread]
    simp
  | unreadable hsome hread =>
    rw [← linkTo_iff, hlink] at hsome
    cases hsome
    rw [hread]
    simp

/-- A link leaves the cursor as it is, and the source with what it held. -/
theorem LinkEnds.keeps {content : ByteArray} {sized : Prop}
    (h : LinkEnds container exif owner tag space place reader found? told after)
    (hbacks : reader.source.Backs content sized) :
    after.source.Backs content sized ∧ after.cursor = reader.cursor := by
  cases h with
  | nowhere => exact ⟨hbacks, rfl⟩
  | @found offset directory _ _ hread =>
    have hkept := Aside.subDirectory container offset place content sized reader hbacks
    rwa [hread] at hkept
  | @unreadable offset cause _ _ hread =>
    have hkept := Aside.subDirectory container offset place content sized reader hbacks
    rwa [hread] at hkept

end

/-- Readers at one place over one content find the same directories. -/
theorem subDirectory_eq_ok_iff_of_backs {container : Container} {content : ByteArray} {sized : Prop}
    {reader reader' : Reader} (hbacks : reader.source.Backs content sized)
    (hbacks' : reader'.source.Backs content sized) (hcursor : reader'.cursor = reader.cursor)
    (offset place : Nat) (directory : Directory) :
    ((container.subDirectory offset place).outcome reader').1 = .ok directory ↔
      ((container.subDirectory offset place).outcome reader).1 = .ok directory := by
  let opened : Opened := ⟨container, reader⟩
  let opened' : Opened := ⟨container, reader'⟩
  have hexpected : opened'.expected content offset place = opened.expected content offset place := by
    unfold Opened.expected
    rw [show opened'.reader.cursor = opened.reader.cursor from hcursor]
  calc opened'.subDirectory offset place = .ok directory
    ↔ opened'.expected content offset place = .ok directory :=
      Opened.subDirectory_eq_ok_iff hbacks' offset place directory
    _ ↔ opened.expected content offset place = .ok directory := by rw [hexpected]
    _ ↔ opened.subDirectory offset place = .ok directory :=
      (Opened.subDirectory_eq_ok_iff hbacks offset place directory).symm

/-! ## Exif directories -/

section

variable {container : Container} {owner exif : Directory} {offset exifSpace : Nat} {reader : Reader}

theorem outcome_read_of_none
    (h : ∀ directory ∈ container.directories, directory.has Catalog.exifPointer = false) :
    (read container).outcome reader = (.error (.missingTag Catalog.exifPointer), reader) := by
  have hnone : container.directories.find? (·.has Catalog.exifPointer) = none := by
    simpa [List.find?_eq_none] using h
  unfold read
  simp only [hnone]
  rfl

/-- What the reading of an Exif directory goes on with, once its pointer is known. -/
def readFrom (container : Container) (owner : Directory) (offset : Nat) : ReadM Exif := do
  let place ← spaceFor container "Exif"
  let exif ← container.subDirectory offset place
  let gps ← linked container [exif, owner] Catalog.gpsPointer "GPS"
  let interop ← linked container [exif, owner] Catalog.interopPointer "Interoperability"
  return { exif, gps, interop }

/-- The owner's pointer comes first, and no other directory of the chain counts. -/
theorem read_eq_of_owner (howner : IsOwner container.directories owner) :
    read container = MonadExcept.ofExcept (owner.require Catalog.exifPointer
      (Payload.natural · .uint64)) >>= readFrom container owner := by
  rw [← isOwner_iff] at howner
  unfold read
  simp only [howner]
  rfl

theorem read_congr {chain : List Directory} (howner : IsOwner container.directories owner)
    (howner' : IsOwner chain owner) :
    read { container with directories := chain } = read container := by
  rw [read_eq_of_owner howner, read_eq_of_owner howner']
  rfl

/-- A pointer that says no offset is an error. -/
theorem outcome_read_of_refused {e : Error} (howner : IsOwner container.directories owner)
    (he : owner.require Catalog.exifPointer (Payload.natural · .uint64) = .error e) :
    (read container).outcome reader = (.error e, reader) := by
  rw [read_eq_of_owner howner, he]
  rfl

theorem outcome_read_of_pointer (howner : IsOwner container.directories owner)
    (hoffset : owner.require Catalog.exifPointer (Payload.natural · .uint64) = .ok offset) :
    (read container).outcome reader = (readFrom container owner offset).outcome reader := by
  rw [read_eq_of_owner howner, hoffset]
  rfl

/-- An offset that leads to no directory is an error, too. -/
theorem outcome_readFrom_of_error {e : Error} {after : Reader}
    (hexif : container.registry.tagSpace? "Exif" = some exifSpace)
    (hread : (container.subDirectory offset exifSpace).outcome reader = (.error e, after)) :
    (readFrom container owner offset).outcome reader = (.error e, after) := by
  unfold readFrom
  rw [ReadM.outcome_bind_ok (outcome_spaceFor hexif reader), ReadM.outcome_bind_error hread]

/-- Behind the Exif directory come the two links, and none of them is an error. -/
theorem outcome_readFrom_of_ok {gps interop : Option Directory} {found middle last : Reader}
    (hexif : container.registry.tagSpace? "Exif" = some exifSpace)
    (hread : (container.subDirectory offset exifSpace).outcome reader = (.ok exif, found))
    (hgps : (linked container [exif, owner] Catalog.gpsPointer "GPS").outcome found =
      (.ok gps, middle))
    (hinterop : (linked container [exif, owner] Catalog.interopPointer
      "Interoperability").outcome middle = (.ok interop, last)) :
    (readFrom container owner offset).outcome reader = (.ok { exif, gps, interop }, last) := by
  unfold readFrom
  rw [ReadM.outcome_bind_ok (outcome_spaceFor hexif reader), ReadM.outcome_bind_ok hread,
    ReadM.outcome_bind_ok hgps, ReadM.outcome_bind_ok hinterop, ReadM.outcome_pure]

end

/-- A chain with an Exif pointer has a first directory with one. -/
theorem exists_isOwner {chain : List Directory} {directory : Directory} (hmem : directory ∈ chain)
    (hhas : directory.has Catalog.exifPointer = true) : ∃ owner, IsOwner chain owner := by
  have hsome : (chain.find? (·.has Catalog.exifPointer)).isSome = true :=
    List.find?_isSome.mpr ⟨directory, hmem, hhas⟩
  obtain ⟨owner, howner⟩ := Option.isSome_iff_exists.mp hsome
  exact ⟨owner, isOwner_iff.mp howner⟩

/-- An Exif directory that could be read has an owner, whose pointer led to it. -/
theorem exists_readFrom {container : Container} {exif : Exif} {reader last : Reader}
    (h : (read container).outcome reader = (.ok exif, last)) :
    ∃ owner offset, IsOwner container.directories owner ∧
      owner.require Catalog.exifPointer (Payload.natural · .uint64) = .ok offset ∧
      (readFrom container owner offset).outcome reader = (.ok exif, last) := by
  cases hchain : container.directories.find? (·.has Catalog.exifPointer) with
  | none =>
    rw [outcome_read_of_none (by simpa [List.find?_eq_none] using hchain)] at h
    cases h
  | some owner =>
    have howner := isOwner_iff.mp hchain
    cases hpointer : owner.require Catalog.exifPointer (Payload.natural · .uint64) with
    | error e =>
      rw [outcome_read_of_refused howner hpointer] at h
      cases h
    | ok offset =>
      rw [outcome_read_of_pointer howner hpointer] at h
      exact ⟨owner, offset, howner, hpointer, h⟩

section

variable {container : Container} {owner exif : Directory} {reader found : Reader}
  {offset exifSpace gpsSpace interopSpace : Nat}

/-- Behind an Exif directory both links end, the one after the other. -/
theorem exists_links (hexif : container.registry.tagSpace? "Exif" = some exifSpace)
    (hgps : container.registry.tagSpace? "GPS" = some gpsSpace)
    (hinterop : container.registry.tagSpace? "Interoperability" = some interopSpace)
    (owner : Directory)
    (hread : (container.subDirectory offset exifSpace).outcome reader = (.ok exif, found)) :
    ∃ gps interop toldOfGps toldOfInterop middle last,
      (readFrom container owner offset).outcome reader = (.ok { exif, gps, interop }, last) ∧
      LinkEnds container exif owner Catalog.gpsPointer "GPS" gpsSpace found
        gps toldOfGps middle ∧
      LinkEnds container exif owner Catalog.interopPointer "Interoperability" interopSpace middle
        interop toldOfInterop last := by
  obtain ⟨gps, toldOfGps, middle, hlinked, hends⟩ :=
    exists_linkEnds hgps exif owner Catalog.gpsPointer found
  obtain ⟨interop, toldOfInterop, last, hlinked', hends'⟩ :=
    exists_linkEnds hinterop exif owner Catalog.interopPointer middle
  exact ⟨gps, interop, toldOfGps, toldOfInterop, middle, last,
    outcome_readFrom_of_ok hexif hread hlinked hlinked', hends, hends'⟩

/-- Where a chain has an owner, no tag is missing. -/
theorem ne_missingTag_of_owner (hexif : container.registry.tagSpace? "Exif" = some exifSpace)
    (hgps : container.registry.tagSpace? "GPS" = some gpsSpace)
    (hinterop : container.registry.tagSpace? "Interoperability" = some interopSpace)
    (howner : IsOwner container.directories owner) (tag : UInt16) :
    ((read container).outcome reader).1 ≠ .error (.missingTag tag) := by
  cases hpointer : owner.require Catalog.exifPointer (Payload.natural · .uint64) with
  | error e =>
    have hne := Directory.ne_missingTag_of_require howner.1 tag
    rw [hpointer] at hne
    rw [outcome_read_of_refused howner hpointer]
    exact fun herror => hne (congrArg Except.error (Except.error.inj herror))
  | ok offset =>
    rw [outcome_read_of_pointer howner hpointer]
    rcases hread : (container.subDirectory offset exifSpace).outcome reader with ⟨e | exif, found⟩
    · obtain ⟨-, hfails⟩ := Quiet.subDirectory container offset exifSpace reader
      rw [outcome_readFrom_of_error hexif hread]
      rintro ⟨⟩
      cases hfails (.missingTag tag) (congrArg Prod.fst hread)
    · obtain ⟨gps, interop, -, -, -, last, hfrom, -⟩ :=
        exists_links hexif hgps hinterop owner hread
      rw [hfrom]
      exact nofun

/-- Over a content, both links find what they would have found at once. -/
theorem links_of_holds {content : ByteArray} {gps interop : Option Directory}
    {toldOfGps toldOfInterop : List Warning} {middle last : Reader}
    (hholds : reader.source.Holds content)
    (hread : (container.subDirectory offset exifSpace).outcome reader = (.ok exif, found))
    (hgps : LinkEnds container exif owner Catalog.gpsPointer "GPS" gpsSpace found
      gps toldOfGps middle)
    (hinterop : LinkEnds container exif owner Catalog.interopPointer "Interoperability"
      interopSpace middle interop toldOfInterop last) :
    (∀ place directory, LinkTo Catalog.gpsPointer exif owner (some place) →
      (gps = some directory ↔
        ((container.subDirectory place gpsSpace).outcome reader).1 = .ok directory)) ∧
    ∀ place directory, LinkTo Catalog.interopPointer exif owner (some place) →
      (interop = some directory ↔
        ((container.subDirectory place interopSpace).outcome reader).1 = .ok directory) := by
  have hbacks : reader.source.Backs content False := ⟨hholds, False.elim⟩
  have hfound := Aside.subDirectory container offset exifSpace content False reader hbacks
  rw [hread] at hfound
  obtain ⟨hfound, hcursor⟩ := hfound
  obtain ⟨hmiddle, hcursor'⟩ := hgps.keeps hfound
  refine ⟨fun place directory hlink => ?_, fun place directory hlink => ?_⟩
  · rw [hgps.eq_some_iff hlink]
    exact subDirectory_eq_ok_iff_of_backs hbacks hfound hcursor place gpsSpace directory
  · rw [hinterop.eq_some_iff hlink]
    exact subDirectory_eq_ok_iff_of_backs hbacks hmiddle (hcursor'.trans hcursor) place
      interopSpace directory

end

/-- The Exif directory is read from where the first directory with a pointer to it points; no such
directory is a missing tag, and a pointer that converts into no offset or leads to no directory is
the error. No other directory of the chain counts. Behind it, each of the two links goes to where
the Exif directory points, or else to where its owner points. It finds the directory there, or one
warning tells why not, and neither is an error. Whatever source holds the content, a link finds
what it would have found at once. -/
theorem the_pointers_decide_what_is_read (container : Container) (reader : Reader)
    {exifSpace gpsSpace interopSpace : Nat}
    (hexif : container.registry.tagSpace? "Exif" = some exifSpace)
    (hgps : container.registry.tagSpace? "GPS" = some gpsSpace)
    (hinterop : container.registry.tagSpace? "Interoperability" = some interopSpace) :
    let answer := (read container).outcome reader
    (answer.1 = .error (.missingTag Catalog.exifPointer) ↔
      ∀ directory ∈ container.directories, directory.has Catalog.exifPointer = false) ∧
    ∀ owner, IsOwner container.directories owner →
      let pointer := owner.require Catalog.exifPointer (Payload.natural · .uint64)
      (∀ chain, IsOwner chain owner →
        (read { container with directories := chain }).outcome reader = answer) ∧
      (∀ e, pointer = .error e → answer = (.error e, reader)) ∧
      ∀ offset, pointer = .ok offset →
        (∀ e after, (container.subDirectory offset exifSpace).outcome reader = (.error e, after) →
          answer = (.error e, after)) ∧
        ∀ exif found,
          (container.subDirectory offset exifSpace).outcome reader = (.ok exif, found) →
          ∃ gps interop toldOfGps toldOfInterop middle last,
            answer = (.ok { exif, gps, interop }, last) ∧
            LinkEnds container exif owner Catalog.gpsPointer "GPS" gpsSpace found
              gps toldOfGps middle ∧
            LinkEnds container exif owner Catalog.interopPointer "Interoperability" interopSpace
              middle interop toldOfInterop last ∧
            last.warnings = reader.warnings ++ toldOfGps ++ toldOfInterop ∧
            ∀ content, reader.source.Holds content →
              (∀ place directory, LinkTo Catalog.gpsPointer exif owner (some place) →
                (gps = some directory ↔
                  ((container.subDirectory place gpsSpace).outcome reader).1 = .ok directory)) ∧
              ∀ place directory, LinkTo Catalog.interopPointer exif owner (some place) →
                (interop = some directory ↔
                  ((container.subDirectory place interopSpace).outcome reader).1 =
                    .ok directory) := by
  intro answer
  refine ⟨⟨fun hmissing directory hmem => ?_, fun hnone => ?_⟩, fun owner howner => ⟨?_, ?_, ?_⟩⟩
  · cases hhas : directory.has Catalog.exifPointer with
    | false => rfl
    | true =>
      obtain ⟨owner, howner⟩ := exists_isOwner hmem hhas
      exact absurd hmissing (ne_missingTag_of_owner hexif hgps hinterop howner _)
  · exact congrArg Prod.fst (outcome_read_of_none hnone)
  · intro chain hchain
    rw [read_congr howner hchain]
  · exact fun e he => outcome_read_of_refused howner he
  · intro offset hoffset
    have hanswer : answer = (readFrom container owner offset).outcome reader :=
      outcome_read_of_pointer howner hoffset
    refine ⟨fun e after hread => hanswer.trans (outcome_readFrom_of_error hexif hread), ?_⟩
    intro exif found hread
    obtain ⟨gps, interop, toldOfGps, toldOfInterop, middle, last, hfrom, hends, hends'⟩ :=
      exists_links hexif hgps hinterop owner hread
    have hquiet : found.warnings = reader.warnings := by
      obtain ⟨hkept, -⟩ := Quiet.subDirectory container offset exifSpace reader
      rwa [hread] at hkept
    have hwarnings : last.warnings = reader.warnings ++ toldOfGps ++ toldOfInterop := by
      rw [hends'.warnings_eq, hends.warnings_eq, hquiet]
    exact ⟨gps, interop, toldOfGps, toldOfInterop, middle, last, hanswer.trans hfrom, hends,
      hends', hwarnings, fun content hholds => links_of_holds hholds hread hends hends'⟩

/-- A pointer in the slot of its entry. -/
def pointerField (tag : UInt16) (offset : UInt8) : Field where
  entry := { layout := .classic, tag, type := 4, count := 1, slot := [offset, 0, 0, 0] }
  type := Coding.long.fieldType
  order := .little
  bytes := [offset, 0, 0, 0]
  offset := 0
  tag := .unknown tag

/-- A chain of one directory, which points to an Exif and an Interoperability directory. -/
def pointing : Container where
  header := ⟨.little, 42, .classic, 4, 8⟩
  directories := [{
    offset := 8, layout := .classic, entryCount := 2, next := 0
    table := .ofList [pointerField Catalog.exifPointer 8, pointerField Catalog.interopPointer 38] }]
  registry := .standard {}
  limits := {}

/-- An Exif directory, whose GPS pointer leads behind the end and whose Interoperability pointer is
null, and a directory without entries. -/
def pointedTo : ByteArray := ⟨#[
  0, 0, 0, 0, 0, 0, 0, 0,
  2, 0, 0x25, 0x88, 4, 0, 1, 0, 0, 0, 200, 0, 0, 0, 0x05, 0xA0, 4, 0, 1, 0, 0, 0, 0, 0, 0, 0,
  0, 0, 0, 0,
  0, 0, 0, 0, 0, 0]⟩

/-- The broken link is left out with a warning, and the other one goes by the pointer of the owner
of the Exif directory. -/
theorem the_pointers_decide_what_is_read_of_pointing :
    let reader : Reader := { source := .ofBytes pointedTo }
    (Registry.standard {}).tagSpace? "Exif" = some 1 ∧
    (Registry.standard {}).tagSpace? "GPS" = some 2 ∧
    (Registry.standard {}).tagSpace? "Interoperability" = some 3 ∧
    ∃ exif last, (read pointing).outcome reader = (.ok exif, last) ∧ exif.exif.offset = 8 ∧
      exif.gps = none ∧ (exif.interop.map (·.offset)) = some 38 ∧
      last.warnings = [.unreadable "GPS" Catalog.gpsPointer 200 (.truncated 200 2)] := by
  intro reader
  have hexif : (Registry.standard {}).tagSpace? "Exif" = some 1 := by decide +kernel
  have hgps : (Registry.standard {}).tagSpace? "GPS" = some 2 := by decide +kernel
  have hinterop : (Registry.standard {}).tagSpace? "Interoperability" = some 3 := by decide +kernel
  have hpointers : ((pointing.subDirectory 8 1).outcome reader).1.map (fun exif =>
      (exif.offset, exif.require Catalog.gpsPointer (Payload.natural · .uint64),
        exif.require Catalog.interopPointer (Payload.natural · .uint64))) =
      .ok (8, .ok 200, .ok 0) := by decide +kernel
  have hbroken : ((pointing.subDirectory 200 2).outcome reader).1 =
      .error (.truncated 200 2) := by decide +kernel
  have htold : ((read pointing).outcome reader).2.warnings =
      [.unreadable "GPS" Catalog.gpsPointer 200 (.truncated 200 2)] := by decide +kernel
  have hthere : ((pointing.subDirectory 38 3).outcome reader).1.map (·.offset) = .ok 38 := by
    decide +kernel
  obtain ⟨-, howned⟩ := the_pointers_decide_what_is_read pointing reader hexif hgps hinterop
  obtain ⟨-, -, hpointed⟩ := howned _ ⟨rfl, [], [], rfl, nofun⟩
  obtain ⟨-, hfound⟩ := hpointed 8 rfl
  rcases hread : (pointing.subDirectory 8 1).outcome reader with ⟨e | exif, found⟩
  · rw [hread] at hpointers
    cases hpointers
  rcases hreadInterop : ((pointing.subDirectory 38 3).outcome reader).1 with e | directory
  · rw [hreadInterop] at hthere
    cases hthere
  rw [hread] at hpointers
  rw [hreadInterop] at hthere
  simp only [Except.map, Except.ok.injEq, Prod.mk.injEq] at hpointers hthere
  obtain ⟨hoffset, hgpsPointer, hinteropPointer⟩ := hpointers
  obtain ⟨gps, interop, -, -, -, last, hanswer, -, -, -, hheld⟩ := hfound exif found hread
  obtain ⟨hgpsFound, hinteropFound⟩ := hheld pointedTo rfl
  have hnull : ∀ other, ¬ exif.PointsTo Catalog.interopPointer other := by
    rintro other ⟨hother, hne⟩
    rw [hinteropPointer] at hother
    exact hne (Except.ok.inj hother).symm
  have hlost : gps = none := by
    rw [Option.eq_none_iff_forall_ne_some]
    intro d hd
    have hok := (hgpsFound 200 d (.exif ⟨hgpsPointer, by decide⟩)).mp hd
    rw [hbroken] at hok
    cases hok
  have hkept : interop = some directory :=
    (hinteropFound 38 directory (.owner hnull ⟨rfl, by decide⟩)).mpr hreadInterop
  rw [hanswer] at htold
  exact ⟨hexif, hgps, hinterop, _, last, hanswer, hoffset, hlost, by simp [hkept, hthere], htold⟩

end Exif

end Tiff
