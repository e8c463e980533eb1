-- Values of entries. A type says how large an element is, an entry how many there
-- are, and so a value takes a certain number of bytes. They stand in the slot of
-- the entry or where the slot points to, and a field has all of them.

import Tiff.Proofs.Answers

namespace Tiff

/-! ## One value in memory -/

namespace Field

/-- What a content says of a section of it. -/
def sectionOf (content : ByteArray) (offset length : Nat) : Except Error (List UInt8) :=
  if offset < signedLimit ∧ length < signedLimit then rangeOf content offset length
  else .error (.sectionBounds (asSigned64 offset) (asSigned64 length))

/-- What a content says of an entry. -/
def resolved (words : Dictionary) (limits : Limits) (content : ByteArray) (order : ByteOrder)
    (entry : Entry) : Except Error Field :=
  let type := words.type entry.type
  let size := entry.count * type.size
  let field (bytes : List UInt8) (offset : Nat) : Field :=
    { entry, tag := words.tag entry.tag, type, order, bytes, offset }
  if addressLimit ≤ size ∨ limits.valueSize < size then
    .error (.valueTooLarge entry.tag entry.count type.size)
  else if size ≤ entry.layout.slotSize then .ok (field (entry.slot.take size) 0)
  else
    match sectionOf content (entry.offset order) size with
    | .ok bytes => .ok (field bytes (entry.offset order))
    | .error cause => .error (.value entry.tag (entry.offset order) cause)

variable {content : ByteArray} {reader : Reader}

theorem sectionOf_of_le {offset length : Nat} (hsize : content.size < signedLimit)
    (hin : offset + length ≤ content.size) :
    sectionOf content offset length = .ok (slice content offset length) := by
  have haddress : signedLimit ≤ addressLimit := by decide
  unfold sectionOf
  rw [if_pos (by omega), rangeOf_eq_ok_iff]
  exact ⟨.inr ⟨by omega, hin⟩, rfl⟩

/-- A section that is not there is truncated, unless it cannot even be spoken of. -/
theorem sectionOf_of_lt {offset length : Nat} (hpos : 0 < length)
    (hout : content.size < offset + length) :
    sectionOf content offset length = .error
      (if signedLimit ≤ offset ∨ signedLimit ≤ length then
        .sectionBounds (asSigned64 offset) (asSigned64 length)
      else .truncated offset length) := by
  unfold sectionOf
  by_cases hsigned : signedLimit ≤ offset ∨ signedLimit ≤ length
  · rw [if_neg (by omega), if_pos hsigned]
  · rw [if_pos (by omega), if_neg hsigned, rangeOf, if_neg (by omega), if_neg (by omega)]

/-- The value of an entry, if offsets into the content are no negative numbers. -/
theorem resolved_eq (words : Dictionary) (limits : Limits) (order : ByteOrder) (entry : Entry)
    (hsize : content.size < signedLimit) :
    let type := words.type entry.type
    let length := entry.count * type.size
    let place := entry.offset order
    let field (bytes : List UInt8) (offset : Nat) : Field :=
      { entry, tag := words.tag entry.tag, type, order, bytes, offset }
    resolved words limits content order entry =
      if addressLimit ≤ length ∨ limits.valueSize < length then
        .error (.valueTooLarge entry.tag entry.count type.size)
      else if length ≤ entry.layout.slotSize then .ok (field (entry.slot.take length) 0)
      else if place + length ≤ content.size then .ok (field (slice content place length) place)
      else .error (.value entry.tag place
        (if signedLimit ≤ place ∨ signedLimit ≤ length then
          .sectionBounds (asSigned64 place) (asSigned64 length)
        else .truncated place length)) := by
  intro type length place field
  unfold resolved
  refine ite_congr rfl (fun _ => rfl) fun _ => ite_congr rfl (fun _ => rfl) fun hslot => ?_
  by_cases hin : place + length ≤ content.size
  · rw [if_pos hin, sectionOf_of_le hsize hin]
  · rw [if_neg hin, sectionOf_of_lt (Nat.zero_lt_of_lt (Nat.not_le.mp hslot)) (Nat.not_le.mp hin)]

theorem outcome_readValue (h : reader.source.backing = .memory content) (offset : Nat)
    {length : Nat} (hpos : 0 < length) :
    (readValue offset length).outcome reader = (sectionOf content offset length, reader) := by
  unfold readValue sectionOf
  split
  · have hbounds : ¬ ((offset : Int) < 0 ∨ (length : Int) < 1) := by omega
    rw [Reader.readSection, if_neg hbounds, Int.toNat_natCast, Int.toNat_natCast]
    exact Reader.outcome_readAt_of_memory h offset length
  · rfl

/-- The value of an entry is up to the content and the byte order, and looking for it changes
nothing. -/
theorem outcome_resolve (h : reader.source.backing = .memory content) (words : Dictionary)
    (limits : Limits) (entry : Entry) :
    (resolve words limits entry).outcome reader =
      (resolved words limits content reader.cursor.order entry, reader) := by
  have horder : Reader.order.outcome reader = (.ok reader.cursor.order, reader) := rfl
  unfold resolve resolved
  simp only
  rw [ReadM.outcome_bind_ok horder]
  split
  · rfl
  split
  · rfl
  · have hpos : 0 < entry.count * (words.type entry.type).size := by omega
    have hvalue := outcome_readValue h (entry.offset reader.cursor.order) hpos
    rw [ReadM.outcome_bind, ReadM.outcome_adaptExcept, hvalue]
    cases sectionOf content (entry.offset reader.cursor.order)
      (entry.count * (words.type entry.type).size) <;> rfl

end Field

/-! ## Ranges of any source -/

theorem Handle.length_pull_le (handle : Handle) (wanted : Nat) :
    (handle.pull wanted).bytes.length ≤ wanted := by
  fun_induction Handle.pull handle wanted with
  | case1 => exact Nat.le_refl 0
  | case2 => exact Nat.zero_le _
  | case3 => exact Nat.zero_le _
  | case4 handle wanted hwanted b bytes after hcall got rest ih =>
    have hgot : got.length ≤ wanted := Device.length_call (call_eq_ok hcall).1
    have hrest : rest.bytes.length ≤ wanted - got.length := ih
    rw [List.length_append]
    omega

/-- A range is all there or it is an error, however the device behaves. -/
theorem Source.length_of_read {source source' : Source} {offset length : Nat} {bytes : List UInt8}
    (h : source.read offset length = (.ok bytes, source')) : bytes.length = length := by
  rcases source with ⟨name, content | ⟨handle, size⟩ | stream⟩
  · simp only [read] at h
    split at h
    · cases h
      rw [length_slice]
      omega
    · cases h
  · simp only [read] at h
    split at h
    · have hle := (handle.seek offset).length_pull_le length
      split at h
      · cases h
      · split at h
        · cases h
        · cases h
          omega
    · cases h
  · have hstream : (stream.read offset length).1 = .ok bytes := congrArg Prod.fst h
    simp only [Stream.read] at hstream
    split at hstream
    · cases hstream
    · split at hstream
      · cases hstream
      · split at hstream
        · cases hstream
        · cases hstream
          rw [length_slice]
          omega

namespace Yields

theorem readAt (offset length : Nat) :
    Yields (fun bytes => bytes.length = length) (Reader.readAt offset length) := by
  intro reader after bytes hread
  unfold ReadM.outcome Reader.readAt at hread
  simp only [EStateM.run] at hread
  by_cases hzero : length = 0
  · rw [if_pos hzero] at hread
    cases hread
    exact hzero.symm
  · rw [if_neg hzero] at hread
    rcases hsource : reader.source.read offset length with ⟨cause | bytes', source⟩ <;>
      rw [hsource] at hread <;> cases hread
    exact Source.length_of_read hsource

theorem readBytes (length : Nat) :
    Yields (fun bytes => bytes.length = length) (Reader.readBytes length) :=
  next fun _ => bind (readAt _ length) fun _ hbytes => next fun _ => pure hbytes

end Yields

/-! ## Whole values -/

/-- An entry whose slot is as wide as its layout has it. -/
def Entry.Whole (entry : Entry) : Prop := entry.slot.length = entry.layout.slotSize

/-- A field with all bytes of its value, not more of them than the limit. -/
structure Field.Whole (limits : Limits) (field : Field) : Prop where
  length_eq : field.bytes.length = field.count * field.type.size
  length_le : field.bytes.length ≤ limits.valueSize

def Directory.Whole (limits : Limits) (directory : Directory) : Prop :=
  ∀ field ∈ directory.fields, field.Whole limits

section

variable (words : Dictionary) (limits : Limits) (layout : Layout)

theorem Entry.yields_read : Yields Whole (read layout) :=
  .next fun _ => .next fun _ => .next fun _ => .bind (.readBytes _) fun _ hslot => .pure hslot

theorem Field.yields_readValue (offset length : Nat) :
    Yields (fun bytes => bytes.length = length) (readValue offset length) := by
  refine .dite (fun _ => ?_) fun _ => .throw _
  rw [Reader.readSection, Int.toNat_natCast, Int.toNat_natCast]
  exact .dite (fun _ => .throw _) fun _ => .readAt offset length

theorem Field.yields_resolve {entry : Entry} (hslot : entry.Whole) :
    Yields (Whole limits) (resolve words limits entry) := by
  refine .next fun order => .dite (fun _ => .throw _) fun hsize => ?_
  obtain ⟨-, hlimit⟩ := not_or.mp hsize
  rw [Nat.not_lt] at hlimit
  refine .dite (fun hinline => .pure ?_) fun _ =>
    .bind (.adaptExcept _ (yields_readValue _ _)) fun bytes hbytes => .pure ?_
  · have hlength : (entry.slot.take (entry.count * (words.type entry.type).size)).length =
        entry.count * (words.type entry.type).size := by
      rw [List.length_take, hslot, Nat.min_eq_left hinline]
    exact ⟨hlength, Nat.le_trans (Nat.le_of_eq hlength) hlimit⟩
  · exact ⟨hbytes, Nat.le_trans (Nat.le_of_eq hbytes) hlimit⟩

theorem Field.yields_read : Yields (Whole limits) (read words limits layout) :=
  .bind (Entry.yields_read layout) fun _ hslot => yields_resolve words limits hslot

theorem Directory.yields_readFields (count : Nat) {table : FieldTable}
    (htable : ∀ field ∈ table.fields.toList, field.Whole limits) :
    Yields (fun table => ∀ field ∈ table.fields.toList, field.Whole limits)
      (readFields words limits layout count table) := by
  induction count generalizing table with
  | zero => exact .pure htable
  | succ count ih =>
    refine .bind (Field.yields_read words limits layout) fun field hfield => ih ?_
    rw [FieldTable.push, Array.toList_push]
    exact List.forall_mem_append.mpr ⟨htable, List.forall_mem_singleton.mpr hfield⟩

theorem Directory.yields_read (offset : Nat) :
    Yields (Whole limits) (read words limits layout offset) :=
  .next fun _ => .next fun _ => .next fun _ => .dite (fun _ => .throw _) fun _ =>
    .bind (yields_readFields words limits layout _ nofun) fun _ hfields =>
      .next fun _ => .pure hfields

end

/-! ## Directories of a file -/

/-- The directories that there are. -/
def Exif.directories (exif : Exif) : List Directory :=
  exif.exif :: (exif.gps.toList ++ exif.interop.toList)

theorem Container.yields_subDirectory (container : Container) (offset space : Nat) :
    Yields (Directory.Whole container.limits) (container.subDirectory offset space) :=
  .detached (Directory.yields_read _ _ _ offset)

/-- The directories that come from files under some limits: those of a chain, those that an offset
or a pointer field leads to, and the Exif ones. -/
inductive Directory.Returned : Limits → Directory → Prop
  | chain {registry : Registry} {limits : Limits} {reader after : Reader} {container : Container}
      {directory : Directory}
      (hread : (Container.read registry limits).outcome reader = (.ok container, after))
      (hmem : directory ∈ container.directories) : Returned limits directory
  | offset {container : Container} {offset space : Nat} {reader after : Reader}
      {directory : Directory}
      (hread : (container.subDirectory offset space).outcome reader = (.ok directory, after)) :
      Returned container.limits directory
  | pointers {container : Container} {holder : Directory} {tag : UInt16} {space : Nat}
      {reader after : Reader} {directories : List Directory} {directory : Directory}
      (hread : (container.subDirectories holder tag space).outcome reader =
        (.ok directories, after))
      (hmem : directory ∈ directories) : Returned container.limits directory
  | exif {container : Container} {reader after : Reader} {exif : Exif} {directory : Directory}
      (hread : (Exif.read container).outcome reader = (.ok exif, after))
      (hmem : directory ∈ exif.directories) : Returned container.limits directory

theorem Directory.Returned.whole {limits : Limits} {directory : Directory}
    (h : Returned limits directory) : directory.Whole limits := by
  have hany : ∀ offset : Nat, offset ≠ 0 → True := fun _ _ => trivial
  have hsub : ∀ (container : Container) (offset space : Nat), offset ≠ 0 →
      Yields (Directory.Whole container.limits) (container.subDirectory offset space) :=
    fun container offset space _ => container.yields_subDirectory offset space
  cases h with
  | @chain registry _ _ _ _ _ hread hmem =>
    have htouches := Container.touches_read hany fun layout offset _ =>
      Directory.yields_read registry.defaultDictionary limits layout offset
    exact htouches.yields _ _ _ hread _ hmem
  | @offset container _ _ _ _ _ hread => exact container.yields_subDirectory _ _ _ _ _ hread
  | @pointers container holder tag space _ _ _ _ hread hmem =>
    have htouches := Container.touches_subDirectories hany (hsub container) holder tag space
    exact htouches.yields _ _ _ hread _ hmem
  | @exif container _ _ _ _ hread hmem =>
    have htouches := Exif.touches_read hany (hsub container) fun _ offset _ _ =>
      ⟨trivial, container.yields_subDirectory offset⟩
    exact List.forall_mem_cons.mpr (htouches.yields _ _ _ hread) _ hmem

/-! ## Values -/

namespace Field

/-- An entry in memory is refused just where its value has too many bytes. Otherwise the value is
the front of the slot, or all of the range that the slot says, or the range is not there. In no
case is anything moved or read beyond an end. So all fields of directories are whole, whatever
they were read from. -/
theorem a_value_is_where_its_entry_says (words : Dictionary) (limits : Limits)
    (content : ByteArray) (name : String) (cursor : Cursor) (warnings : List Warning)
    (entry : Entry) (hsize : content.size < signedLimit) (hslot : entry.Whole) :
    let reader : Reader := { source := .ofBytes content name, cursor, warnings }
    let resolution := (resolve words limits entry).outcome reader
    let type := words.type entry.type
    let length := entry.count * type.size
    let place := entry.offset cursor.order
    let field (bytes : List UInt8) (offset : Nat) : Field :=
      { entry, tag := words.tag entry.tag, type, order := cursor.order, bytes, offset }
    resolution.2 = reader ∧
    (resolution.1 = .error (.valueTooLarge entry.tag entry.count type.size) ↔
      addressLimit ≤ length ∨ limits.valueSize < length) ∧
    (length < addressLimit → length ≤ limits.valueSize →
      (length ≤ entry.layout.slotSize →
        resolution.1 = .ok (field (entry.slot.take length) 0)) ∧
      (entry.layout.slotSize < length → place + length ≤ content.size →
        resolution.1 = .ok (field (slice content place length) place)) ∧
      (entry.layout.slotSize < length → content.size < place + length →
        resolution.1 = .error (.value entry.tag place
          (if signedLimit ≤ place ∨ signedLimit ≤ length then
            .sectionBounds (asSigned64 place) (asSigned64 length)
          else .truncated place length)))) ∧
    (∀ field, resolution.1 = .ok field → field.Whole limits) ∧
    ∀ limits directory, Directory.Returned limits directory →
      ∀ field ∈ directory.fields, field.Whole limits := by
  intro reader resolution type length place field
  have hresolution : resolution = (resolved words limits content cursor.order entry, reader) :=
    outcome_resolve rfl words limits entry
  have hanswer := congrArg Prod.fst hresolution
  rw [resolved_eq words limits cursor.order entry hsize] at hanswer
  refine ⟨congrArg Prod.snd hresolution, ?_, ?_, ?_, fun _ _ h => h.whole⟩
  · by_cases hexcess : addressLimit ≤ length ∨ limits.valueSize < length
    · rw [if_pos hexcess] at hanswer
      exact iff_of_true hanswer hexcess
    · rw [if_neg hexcess] at hanswer
      refine iff_of_false (fun herror => ?_) hexcess
      rw [hanswer] at herror
      split at herror
      · cases herror
      · split at herror <;> cases herror
  · intro haddress hlimit
    rw [if_neg (not_or.mpr ⟨Nat.not_le.mpr haddress, Nat.not_lt.mpr hlimit⟩)] at hanswer
    refine ⟨fun hinline => ?_, fun hslot hin => ?_, fun hslot hout => ?_⟩
    · rwa [if_pos hinline] at hanswer
    · rwa [if_neg (Nat.not_le.mpr hslot), if_pos hin] at hanswer
    · rwa [if_neg (Nat.not_le.mpr hslot), if_neg (Nat.not_le.mpr hout)] at hanswer
  · intro field hfield
    exact yields_resolve words limits hslot reader resolution.2 field (Prod.ext hfield rfl)

/-- Nine bytes are too many for a slot. One slot leads to bytes of the content, the other one
further than a signed number goes. -/
theorem a_value_is_where_its_entry_says_of_nine_bytes :
    let content : ByteArray := ⟨#[0, 0, 1, 2, 3, 4, 5, 6, 7, 8, 9, 0]⟩
    let entry (slot : List UInt8) : Entry := { layout := .big, tag := 273, type := 1, count := 9, slot }
    let near := entry [2, 0, 0, 0, 0, 0, 0, 0]
    let far := entry [255, 255, 255, 255, 255, 255, 255, 255]
    let words : Dictionary := { tag := .unknown, type := .unknown }
    let answer (entry : Entry) := ((resolve words {} entry).outcome { source := .ofBytes content }).1
    content.size < signedLimit ∧ near.Whole ∧ far.Whole ∧
    (answer near).map (fun field => (field.bytes, field.offset)) =
      .ok ([1, 2, 3, 4, 5, 6, 7, 8, 9], 2) ∧
    answer far = .error (.value 273 18446744073709551615 (.sectionBounds (-1) 9)) := by
  intro content entry near far words answer
  have hsize : content.size < signedLimit := by decide
  refine ⟨hsize, rfl, rfl, ?_, ?_⟩
  · obtain ⟨-, -, hfits, -⟩ :=
      a_value_is_where_its_entry_says words {} content "memory" {} [] near hsize rfl
    obtain ⟨-, hnear, -⟩ := hfits (by decide) (by decide)
    have hfield : answer near = _ := hnear (by decide) (by decide)
    rw [hfield]
    decide
  · obtain ⟨-, -, hfits, -⟩ :=
      a_value_is_where_its_entry_says words {} content "memory" {} [] far hsize rfl
    obtain ⟨-, -, hfar⟩ := hfits (by decide) (by decide)
    exact (hfar (by decide) (by decide)).trans (by decide)

end Field

end Tiff
