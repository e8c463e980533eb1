-- The null offset. A link, a list of pointers and the pointers in and beside an
-- Exif directory take it for no directory, so what is read does not depend on
-- what stands there. The pointer to the Exif directory itself is followed as it is.

import Tiff.Proofs.LostLinks

namespace Tiff

/-! ## Readings by a way to open directories -/

namespace Container

/-- A walk along a chain whose directories are opened in some way. -/
def walkBy (opening : Nat → ReadM Directory) (limits : Limits) (left : Nat) (visited : List Nat)
    (done : List Directory) (offset : Nat) : ReadM (List Directory) :=
  if offset = 0 then return done.reverse
  else if offset ∈ visited then throw (.circular offset (done.length - 1))
  else
    match left with
    | 0 => throw (.tooManyDirectories limits.directories)
    | left + 1 => do
      let directory ← (opening offset).adaptExcept (Error.directory done.length offset)
      walkBy opening limits left (offset :: visited) (directory :: done) directory.next

def readBy (registry : Registry) (limits : Limits) (opening : Layout → Nat → ReadM Directory) :
    ReadM Container := do
  let header ← Header.read registry.dialects
  let directories ← walkBy (opening header.layout) limits limits.directories [] [] header.first
  return { header, directories, registry, limits }

def subDirectoriesAtBy (tag : UInt16) (opening : Nat → ReadM Directory) :
    List Nat → List Directory → ReadM (List Directory)
  | [], done => return done.reverse
  | 0 :: offsets, done => do
    Reader.warn (.nullPointer tag)
    subDirectoriesAtBy tag opening offsets done
  | offset :: offsets, done => do
    let directory ← opening offset
    subDirectoriesAtBy tag opening offsets (directory :: done)

def subDirectoriesBy (directory : Directory) (tag : UInt16) (space : Nat)
    (opening : Nat → Nat → ReadM Directory) : ReadM (List Directory) := do
  match ← MonadExcept.ofExcept (directory.get tag Payload.naturals) with
  | none => return []
  | some offsets => subDirectoriesAtBy tag (opening space) offsets []

end Container

namespace Exif

def linkedBy (container : Container) (holders : List Directory) (tag : UInt16) (space : String)
    (opening : Nat → Nat → ReadM Directory) : ReadM (Option Directory) := do
  match holders.findSome? (pointer? tag) with
  | none => return none
  | some offset =>
    let place ← spaceFor container space
    match ← Reader.attempt (opening place offset) with
    | .ok directory => return some directory
    | .error cause =>
      Reader.warn (.unreadable space tag offset cause)
      return none

def readFromBy (container : Container) (owner : Directory) (offset : Nat)
    (opening : Nat → Nat → ReadM Directory) : ReadM Exif := do
  let place ← spaceFor container "Exif"
  let exif ← opening place offset
  let gps ← linkedBy container [exif, owner] Catalog.gpsPointer "GPS" opening
  let interop ← linkedBy container [exif, owner] Catalog.interopPointer "Interoperability" opening
  return { exif, gps, interop }

def readBy (container : Container) (opening : Nat → Nat → ReadM Directory) : ReadM Exif := do
  match container.directories.find? (·.has Catalog.exifPointer) with
  | none => throw (.missingTag Catalog.exifPointer)
  | some owner =>
    let offset ← MonadExcept.ofExcept
      (owner.require Catalog.exifPointer (Payload.natural · .uint64))
    readFromBy container owner offset opening

end Exif

/-! ## Readings that spare the null offset -/

/-- Two ways to open directories that agree on all offsets but the null one. -/
def AgreeOffNull {κ : Type} (opening opens : κ → Nat → ReadM Directory) : Prop :=
  ∀ key offset, offset ≠ 0 → opening key offset = opens key offset

/-- A reading comes out the same, whatever opening the null offset would do. -/
def SparesNull {κ α : Type} (opens : κ → Nat → ReadM Directory)
    (readBy : (κ → Nat → ReadM Directory) → ReadM α) (reading : ReadM α) : Prop :=
  ∀ opening, AgreeOffNull opening opens → readBy opening = reading

namespace Container

theorem walkBy_eq {words : Dictionary} {limits : Limits} {layout : Layout}
    {opening : Nat → ReadM Directory}
    (h : ∀ offset, offset ≠ 0 → opening offset = Directory.read words limits layout offset)
    (left : Nat) (visited : List Nat) (done : List Directory) (offset : Nat) :
    walkBy opening limits left visited done offset =
      walk words limits layout left visited done offset := by
  induction left generalizing visited done offset with
  | zero =>
    unfold walkBy walk
    rfl
  | succ left ih =>
    unfold walkBy walk
    by_cases hzero : offset = 0
    · rw [if_pos hzero, if_pos hzero]
    · simp only [hzero, h offset hzero, ih]

theorem sparesNull_read (registry : Registry) (limits : Limits) :
    SparesNull (Directory.read registry.defaultDictionary limits) (readBy registry limits)
      (read registry limits) := by
  intro opening hagree
  unfold readBy read
  simp only [walkBy_eq (hagree _)]

variable (container : Container)

/-- How a container opens the directories outside its chain. -/
def opens (space offset : Nat) : ReadM Directory := container.subDirectory offset space

theorem subDirectoriesAtBy_eq {opening : Nat → ReadM Directory} {space : Nat}
    (h : ∀ offset, offset ≠ 0 → opening offset = container.subDirectory offset space)
    (tag : UInt16) (offsets : List Nat) (done : List Directory) :
    subDirectoriesAtBy tag opening offsets done =
      container.subDirectoriesAt tag space offsets done := by
  induction offsets generalizing done with
  | nil => rfl
  | cons offset offsets ih =>
    cases offset with
    | zero =>
      unfold subDirectoriesAtBy subDirectoriesAt
      simp only [ih]
    | succ n =>
      unfold subDirectoriesAtBy subDirectoriesAt
      simp only [ih, h (n + 1) (Nat.succ_ne_zero n)]

theorem sparesNull_subDirectories (directory : Directory) (tag : UInt16) (space : Nat) :
    SparesNull container.opens (subDirectoriesBy directory tag space)
      (container.subDirectories directory tag space) := by
  intro opening hagree
  refine bind_congr fun offsets? => ?_
  cases offsets? with
  | none => rfl
  | some offsets => exact container.subDirectoriesAtBy_eq (hagree space) tag offsets []

end Container

namespace Exif

variable (container : Container)

theorem sparesNull_linked (holders : List Directory) (tag : UInt16) (space : String) :
    SparesNull container.opens (linkedBy container holders tag space)
      (linked container holders tag space) := by
  intro opening hagree
  have hopens : linkedBy container holders tag space opening =
      linkedBy container holders tag space container.opens := by
    unfold linkedBy
    cases hlink : holders.findSome? (pointer? tag) with
    | none => rfl
    | some offset => simp only [hagree _ offset (ne_zero_of_link hlink)]
  exact hopens.trans rfl

theorem sparesNull_readFrom (owner : Directory) {offset : Nat} (h : offset ≠ 0) :
    SparesNull container.opens (readFromBy container owner offset)
      (readFrom container owner offset) := by
  intro opening hagree
  unfold readFromBy readFrom
  simp only [sparesNull_linked container _ _ _ opening hagree, hagree _ offset h]
  rfl

end Exif

/-! ## Null pointers to Exif directories -/

/-- A directory tells where it was read. -/
theorem Directory.yields_offset (words : Dictionary) (limits : Limits) (layout : Layout)
    (offset : Nat) :
    Yields (fun directory => directory.offset = offset) (read words limits layout offset) :=
  fun _ _ _ hread => offset_eq_of_read hread

theorem Container.yields_offset (container : Container) (offset space : Nat) :
    Yields (fun directory => directory.offset = offset) (container.subDirectory offset space) :=
  .detached (Directory.yields_offset _ _ _ offset)

namespace Exif

variable (container : Container)

/-- The first directory with an Exif pointer points to an offset, be it the null one. -/
def PointedAt (offset : Nat) : Prop :=
  ∃ owner, IsOwner container.directories owner ∧
    owner.require Catalog.exifPointer (Payload.natural · .uint64) = .ok offset

theorem readBy_eq_of_owner {owner : Directory} (howner : IsOwner container.directories owner)
    (opening : Nat → Nat → ReadM Directory) :
    readBy container opening = MonadExcept.ofExcept (owner.require Catalog.exifPointer
      (Payload.natural · .uint64)) >>= (readFromBy container owner · opening) := by
  unfold readBy
  simp only [isOwner_iff.mpr howner]

/-- An Exif pointer that is null opens the null offset. -/
theorem outcome_readBy_of_null {opening : Nat → Nat → ReadM Directory} {e : Error}
    (hnull : PointedAt container 0) (hopening : ∀ space, opening space 0 = throw e)
    (reader : Reader) : ((readBy container opening).outcome reader).1 = .error e := by
  obtain ⟨owner, howner, hpointer⟩ := hnull
  obtain ⟨place, noted, hspace, -⟩ := exists_noted container "Exif" reader
  have hfrom : (readBy container opening).outcome reader =
      (readFromBy container owner 0 opening).outcome reader := by
    rw [readBy_eq_of_owner container howner, hpointer]
    rfl
  unfold readFromBy at hfrom
  rw [hfrom, ReadM.outcome_bind_ok hspace, hopening]
  rfl

/-- The reading of an Exif directory spares the null offset just where no Exif pointer is null. -/
theorem sparesNull_read_iff :
    SparesNull container.opens (readBy container) (read container) ↔ ¬ PointedAt container 0 := by
  constructor
  · intro hspares hnull
    -- What opening the null offset fails with would be what the reading fails with.
    let opening (e : Error) (space offset : Nat) : ReadM Directory :=
      if offset = 0 then throw e else container.opens space offset
    have hfails : ∀ e reader, ((read container).outcome reader).1 = .error e := by
      intro e reader
      rw [← hspares (opening e) fun _ offset hne => if_neg hne]
      exact outcome_readBy_of_null container hnull (fun _ => rfl) reader
    have hboth := (hfails (.missingTag 0) { source := .ofBytes .empty }).symm.trans
      (hfails (.missingTag 1) { source := .ofBytes .empty })
    simp at hboth
  · intro hnull opening hagree
    cases hchain : container.directories.find? (·.has Catalog.exifPointer) with
    | none =>
      unfold readBy read
      simp only [hchain]
    | some owner =>
      have howner := isOwner_iff.mp hchain
      rw [readBy_eq_of_owner container howner, read_eq_of_owner howner]
      cases hpointer : owner.require Catalog.exifPointer (Payload.natural · .uint64) with
      | error e => rfl
      | ok offset =>
        have hne : offset ≠ 0 := by
          rintro rfl
          exact hnull ⟨owner, howner, hpointer⟩
        exact sparesNull_readFrom container owner hne opening hagree

/-- No chain, no list of pointers and no link opens the null offset, and so no directory from there
is found, and no error or warning names one. An Exif directory is the exception: it is read from
where its pointer leads, and that may be the null offset. -/
theorem only_an_exif_pointer_opens_the_null_offset (registry : Registry) (limits : Limits)
    (container : Container) :
    SparesNull (Directory.read registry.defaultDictionary limits)
      (Container.readBy registry limits) (Container.read registry limits) ∧
    Touches (· ≠ 0) (fun found => ∀ directory ∈ found.directories, directory.offset ≠ 0)
      (Container.read registry limits) ∧
    (∀ holder tag space,
      SparesNull container.opens (Container.subDirectoriesBy holder tag space)
        (container.subDirectories holder tag space) ∧
      Touches (· ≠ 0) (fun found => ∀ directory ∈ found, directory.offset ≠ 0)
        (container.subDirectories holder tag space)) ∧
    (∀ holders tag space,
      SparesNull container.opens (linkedBy container holders tag space)
        (linked container holders tag space)) ∧
    (SparesNull container.opens (readBy container) (read container) ↔ ¬ PointedAt container 0) ∧
    Touches (fun offset => offset ≠ 0 ∨ PointedAt container offset)
      (fun exif => PointedAt container exif.exif.offset ∧
        ∀ directory ∈ exif.gps.toList ++ exif.interop.toList, directory.offset ≠ 0)
      (read container) := by
  have hsub : ∀ offset space, offset ≠ 0 →
      Yields (fun directory => directory.offset ≠ 0) (container.subDirectory offset space) :=
    fun offset space hne => (container.yields_offset offset space).imp fun _ hsame => hsame ▸ hne
  refine ⟨Container.sparesNull_read registry limits, ?_, fun holder tag space => ⟨?_, ?_⟩, ?_,
    sparesNull_read_iff container, ?_⟩
  · refine Container.touches_read (fun _ => id) fun layout offset hne => ?_
    exact (Directory.yields_offset _ limits layout offset).imp fun _ hsame => hsame ▸ hne
  · exact container.sparesNull_subDirectories holder tag space
  · exact Container.touches_subDirectories (fun _ => id) hsub holder tag space
  · exact sparesNull_linked container
  · refine touches_read (P := fun offset => offset ≠ 0 ∨ PointedAt container offset)
      (B := fun directory => PointedAt container directory.offset) (fun _ => .inl) hsub ?_
    intro owner offset howner hpointer
    have hpointed : PointedAt container offset := ⟨owner, isOwner_iff.mp howner, hpointer⟩
    exact ⟨.inr hpointed, fun space =>
      (container.yields_offset offset space).imp fun _ hsame => hsame ▸ hpointed⟩

/-- A file whose Exif pointer is null. -/
def nullPointer : ByteArray := ⟨#[
  0x49, 0x49, 42, 0, 8, 0, 0, 0,
  1, 0, 0x69, 0x87, 4, 0, 1, 0, 0, 0, 0, 0, 0, 0, 0, 0, 0, 0]⟩

/-- The header is taken for a directory, with its magic bytes for the number of entries. -/
theorem a_null_exif_pointer_is_followed :
    ∃ container after,
      (Container.read (.standard {}) {}).outcome { source := .ofBytes nullPointer } =
        (.ok container, after) ∧
      ((read container).outcome after).1 = .error (.directoryTooLarge 0 0x4949) := by
  have hfound : ((Container.read (.standard {}) {} >>= read).outcome
      { source := .ofBytes nullPointer }).1 = .error (.directoryTooLarge 0 0x4949) := by
    decide +kernel
  rcases hread : (Container.read (.standard {}) {}).outcome { source := .ofBytes nullPointer } with
    ⟨e | container, after⟩
  · have hok : (((Container.read (.standard {}) {}).outcome
        { source := .ofBytes nullPointer }).1.map (fun _ => ())) = .ok () := by decide +kernel
    rw [hread] at hok
    cases hok
  · rw [ReadM.outcome_bind_ok hread] at hfound
    exact ⟨container, after, rfl, hfound⟩

end Exif

end Tiff
