-- Words and bytes. What the tags and the types of a registry are called, how
-- they show a value and how they decode it, decorates what is read. Only one
-- thing of all that decides where a reading goes: how many bytes an element has.

import Mathlib.Data.List.Forall2
import Tiff.Proofs.Directory

namespace Tiff

/-! ## What is read apart from words -/

/-- Fields of one entry, which says tag, type, count and slot, with one run of bytes at one place.
The tag and the type that they were given may differ. -/
structure Field.SameData (field field' : Field) : Prop where
  entry_eq : field.entry = field'.entry
  order_eq : field.order = field'.order
  bytes_eq : field.bytes = field'.bytes
  offset_eq : field.offset = field'.offset

/-- Tables whose fields differ in nothing but words. The index does not know these. -/
structure FieldTable.SameData (table table' : FieldTable) : Prop where
  index_eq : table.index = table'.index
  fields : List.Forall₂ Field.SameData table.fields.toList table'.fields.toList

/-- Directories whose fields differ in nothing but words. -/
structure Directory.SameData (directory directory' : Directory) : Prop where
  offset_eq : directory.offset = directory'.offset
  layout_eq : directory.layout = directory'.layout
  next_eq : directory.next = directory'.next
  entryCount_eq : directory.entryCount = directory'.entryCount
  tagIds_eq : directory.tagIds = directory'.tagIds
  fields : List.Forall₂ Field.SameData directory.fields directory'.fields

/-- Containers whose directories differ in nothing but words. -/
structure Container.SameData (container container' : Container) : Prop where
  header_eq : container.header = container'.header
  directories : List.Forall₂ Directory.SameData container.directories container'.directories

theorem FieldTable.SameData.push {table table' : FieldTable} {field field' : Field}
    (h : table.SameData table') (hfield : field.SameData field') :
    (table.push field).SameData (table'.push field') where
  index_eq := by
    have htag : field.tagId = field'.tagId := congrArg Entry.tag hfield.entry_eq
    have hsize : table.fields.size = table'.fields.size := h.fields.length_eq
    simp only [FieldTable.push, h.index_eq, htag, hsize]
  fields := by
    simp only [FieldTable.push, Array.toList_push]
    exact List.rel_append h.fields (.cons hfield .nil)

theorem Directory.sameData_of_table {table table' : FieldTable} (h : table.SameData table')
    (offset : Nat) (layout : Layout) (entryCount next : Nat) :
    SameData { offset, layout, entryCount, table, next }
      { offset, layout, entryCount, table := table', next } :=
  ⟨rfl, rfl, rfl, rfl, congrArg Std.TreeMap.keys h.index_eq, h.fields⟩

/-! ## Readings by two dictionaries -/

/-- Dictionaries in which every type has elements of one size. -/
def Dictionary.SameSizes (words words' : Dictionary) : Prop :=
  ∀ id, (words.type id).size = (words'.type id).size

section

variable {words words' : Dictionary} (h : words.SameSizes words') (limits : Limits)

include h

theorem Field.alike_resolve (entry : Entry) :
    Alike Eq SameData (resolve words limits entry) (resolve words' limits entry) := by
  unfold resolve
  apply (Alike.refl Reader.order).bind
  rintro order _ rfl
  simp only [h entry.type]
  apply Alike.ite
  · exact Alike.throw _
  · apply Alike.ite
    · exact Alike.pure ⟨rfl, rfl, rfl, rfl⟩
    · apply ((Alike.refl (readValue _ _)).adaptExcept _).bind
      rintro bytes _ rfl
      exact Alike.pure ⟨rfl, rfl, rfl, rfl⟩

theorem Field.alike_read (layout : Layout) :
    Alike Eq SameData (read words limits layout) (read words' limits layout) := by
  apply (Alike.refl (Entry.read layout)).bind
  rintro entry _ rfl
  exact alike_resolve h limits entry

theorem Directory.alike_readFields (layout : Layout) (count : Nat) {table table' : FieldTable}
    (htable : table.SameData table') :
    Alike Eq FieldTable.SameData (readFields words limits layout count table)
      (readFields words' limits layout count table') := by
  induction count generalizing table table' with
  | zero => exact Alike.pure htable
  | succ count ih =>
    apply (Field.alike_read h limits layout).bind
    intro field field' hfield
    exact ih (htable.push hfield)

theorem Directory.alike_read (layout : Layout) (offset : Nat) :
    Alike Eq SameData (read words limits layout offset) (read words' limits layout offset) := by
  apply (Alike.refl (Reader.seek offset)).bind
  rintro _ _ rfl
  apply (Alike.refl (Reader.readNat layout.countSize)).bind
  rintro count _ rfl
  apply (Alike.refl MonadState.get).bind
  rintro reader _ rfl
  apply Alike.ite
  · exact Alike.throw _
  · apply (alike_readFields h limits layout count ⟨rfl, .nil⟩).bind
    intro table table' htable
    apply (Alike.refl (Reader.readNat layout.linkSize)).bind
    rintro next _ rfl
    exact Alike.pure (sameData_of_table htable offset layout count next)

/-- The chain of directories goes where the links say, and these are no words. -/
theorem Container.alike_walk (layout : Layout) (left : Nat) (visited : List Nat)
    {done done' : List Directory} (hdone : List.Forall₂ Directory.SameData done done')
    (offset : Nat) :
    Alike Eq (List.Forall₂ Directory.SameData)
      (walk words limits layout left visited done offset)
      (walk words' limits layout left visited done' offset) := by
  induction left generalizing visited done done' offset with
  | zero =>
    unfold walk
    rw [hdone.length_eq]
    apply Alike.ite
    · exact Alike.pure (List.rel_reverse hdone)
    · exact Alike.ite (Alike.throw _) (Alike.throw _)
  | succ left ih =>
    unfold walk
    rw [hdone.length_eq]
    apply Alike.ite
    · exact Alike.pure (List.rel_reverse hdone)
    · apply Alike.ite
      · exact Alike.throw _
      · apply ((Directory.alike_read h limits layout offset).adaptExcept _).bind
        intro directory directory' hdirectory
        rw [hdirectory.next_eq]
        exact ih _ (hdone.cons hdirectory) _

end

/-! ## Containers -/

/-- Registries in which every field type has elements of one size. -/
def Registry.SameSizes (registry registry' : Registry) : Prop :=
  ∀ id, (registry.types.get registry.typeSpace id).size =
    (registry'.types.get registry'.typeSpace id).size

theorem Registry.SameSizes.dictionary {registry registry' : Registry}
    (h : registry.SameSizes registry') (space space' : Nat) :
    (registry.dictionary space).SameSizes (registry'.dictionary space') := h

namespace Container

variable {registry registry' : Registry}

theorem alike_read
    (hdialects : ∀ version, registry.dialects.get? version = registry'.dialects.get? version)
    (hsizes : registry.SameSizes registry') (limits : Limits) :
    Alike Eq SameData (read registry limits) (read registry' limits) := by
  have hheader : Header.read registry.dialects = Header.read registry'.dialects := by
    unfold Header.read
    simp only [hdialects]
  unfold read
  rw [hheader]
  apply (Alike.refl (Header.read registry'.dialects)).bind
  rintro header _ rfl
  apply (alike_walk (hsizes.dictionary _ _) limits header.layout limits.directories []
    .nil header.first).bind
  intro directories directories' hdirectories
  exact Alike.pure ⟨rfl, hdirectories⟩

theorem alike_subDirectory {container container' : Container} (h : container.SameData container')
    (hlimits : container.limits = container'.limits)
    (hsizes : container.registry.SameSizes container'.registry) (offset space space' : Nat) :
    Alike Eq Directory.SameData (container.subDirectory offset space)
      (container'.subDirectory offset space') := by
  unfold subDirectory
  rw [h.header_eq, hlimits]
  exact (Directory.alike_read (hsizes.dictionary space space') _ _ _).detached

/-- Words decide nothing. Two registries with the same dialects, whose types have elements of the
same sizes, read a source to the same error, or to containers that differ in nothing but words.
Either way they leave the same reader. So it is with any directory outside the chain, whatever tag
spaces it is read with. -/
theorem words_decide_nothing (registry registry' : Registry) (limits : Limits) (reader : Reader)
    (hdialects : ∀ version, registry.dialects.get? version = registry'.dialects.get? version)
    (hsizes : registry.SameSizes registry') :
    let left := (read registry limits).outcome reader
    let right := (read registry' limits).outcome reader
    SameEnd SameData left.1 right.1 ∧ left.2 = right.2 ∧
    ∀ container container', left.1 = .ok container → right.1 = .ok container' →
      ∀ (later : Reader) (offset space space' : Nat),
        let below := (container.subDirectory offset space).outcome later
        let below' := (container'.subDirectory offset space').outcome later
        SameEnd Directory.SameData below.1 below'.1 ∧ below.2 = below'.2 := by
  intro left right
  obtain ⟨hend, hleft⟩ := alike_read hdialects hsizes limits reader reader rfl
  refine ⟨hend, hleft, ?_⟩
  intro container container' hok hok' later offset space space' below below'
  have hsame : container.SameData container' := by
    have hboth : SameEnd SameData left.1 right.1 := hend
    rw [hok, hok'] at hboth
    cases hboth
    assumption
  obtain ⟨_, _, _, -, -, hcontainer⟩ := steps_of_read (Prod.ext hok rfl)
  obtain ⟨_, _, _, -, -, hcontainer'⟩ := steps_of_read (Prod.ext hok' rfl)
  have hlimits : container.limits = container'.limits := by rw [hcontainer, hcontainer']
  have hregistries : container.registry.SameSizes container'.registry := by
    rwa [hcontainer, hcontainer']
  exact alike_subDirectory hsame hlimits hregistries offset space space' later later rfl

/-- A registry without tags, whose one type of single bytes has the name that it is given. -/
def naming (name : String) : Registry where
  tags := {}
  types := {
    sets := #[{
      name := "bytes"
      items := ({} : Std.TreeMap UInt16 FieldType).insert 7
        { FieldType.unknown 7 with name := name } }]
    spaces := #[{ name := "types", members := [⟨0, 0⟩] }] }
  defaultSpace := 0
  typeSpace := 0
  privateSet := 0

theorem size_naming (name : String) (id : UInt16) :
    ((naming name).types.get (naming name).typeSpace id).size = 1 := by
  unfold naming Shelf.get Shelf.lookup Shelf.itemOf Space.lookup Space.search Space.answerOf
    Space.refreshed Space.isStale Space.revisionOf
  by_cases h : id = 7
  · simp [h, FieldType.unknown]
  · simp [Ne.symm h, Registrable.placeholder, FieldType.unknown]

/-- One directory with one field of three bytes. -/
def threeBytes : ByteArray := ⟨#[
  0x49, 0x49, 42, 0, 8, 0, 0, 0,
  1, 0,
  0, 1, 7, 0, 3, 0, 0, 0, 0x61, 0x62, 0x63, 0,
  0, 0, 0, 0]⟩

/-- The names of the types of the fields that reading a source gives. -/
def typeNames (registry : Registry) (reader : Reader) : Except Error (List String) :=
  ((read registry {}).outcome reader).1.map fun container =>
    container.directories.flatMap fun directory => directory.fields.map fun field => field.type.name

/-- One field whose type has another name in each of two registries. -/
theorem words_decide_nothing_of_threeBytes :
    (∀ version, (naming "OPAQUE").dialects.get? version =
      (naming "UNDEFINED").dialects.get? version) ∧
    (naming "OPAQUE").SameSizes (naming "UNDEFINED") ∧
    typeNames (naming "OPAQUE") { source := .ofBytes threeBytes } = .ok ["OPAQUE"] ∧
    typeNames (naming "UNDEFINED") { source := .ofBytes threeBytes } = .ok ["UNDEFINED"] ∧
    SameEnd SameData
      ((read (naming "OPAQUE") {}).outcome { source := .ofBytes threeBytes }).1
      ((read (naming "UNDEFINED") {}).outcome { source := .ofBytes threeBytes }).1 := by
  have hdialects (version : UInt16) : (naming "OPAQUE").dialects.get? version =
      (naming "UNDEFINED").dialects.get? version := rfl
  have hsizes : (naming "OPAQUE").SameSizes (naming "UNDEFINED") := by
    intro id
    rw [size_naming, size_naming]
  obtain ⟨hend, -⟩ := words_decide_nothing (naming "OPAQUE") (naming "UNDEFINED") {}
    { source := .ofBytes threeBytes } hdialects hsizes
  exact ⟨hdialects, hsizes, by decide +kernel, by decide +kernel, hend⟩

end Container

end Tiff
