-- Headers and directories, as they are read. All headers end alike. A directory
-- begins with the number of entries, then comes a test whether so many can be
-- there, and then the fields and the link in one piece. A container is a header
-- and the walk along such directories.

import Tiff.Container
import Tiff.Proofs.Cursor

namespace Tiff

namespace Header

/-- What all headers of a dialect end with: the way to the first directory. -/
def readRest (dialect : Dialect) : ReadM Header := do
  let first ← readFirst dialect.layout
  return {
    order := ← Reader.order
    version := dialect.version
    layout := dialect.layout
    offsetSize := dialect.layout.slotSize
    first }

theorem readTail_eq (dialect : Dialect) :
    readTail dialect = match dialect.layout with
      | .classic => readRest dialect
      | .big => readWidth >>= fun _ => readRest dialect := by
  obtain ⟨version, name, layout⟩ := dialect
  cases layout <;> rfl

/-! ## Headers that could be read -/

section

variable {reader after : Reader} {header : Header}

theorem headerSize_le_of_readFirst {layout : Layout} {first : Nat}
    (h : (readFirst layout).outcome reader = (.ok first, after)) : layout.headerSize ≤ first := by
  unfold readFirst at h
  obtain ⟨offset, _, -, h⟩ := ReadM.outcome_bind_eq_ok h
  by_cases hinside : offset < layout.headerSize
  · rw [if_pos hinside] at h
    cases h
  · rw [if_neg hinside] at h
    cases h
    exact Nat.le_of_not_lt hinside

/-- The tail of a header keeps the byte order, has the layout of its dialect, and leads behind the
header. -/
theorem of_readTail {dialect : Dialect}
    (h : (readTail dialect).outcome reader = (.ok header, after)) :
    header.order = after.cursor.order ∧ header.layout = dialect.layout ∧
      header.layout.headerSize ≤ header.first := by
  have hrest : ∀ middle, (readRest dialect).outcome middle = (.ok header, after) →
      header.order = after.cursor.order ∧ header.layout = dialect.layout ∧
        header.layout.headerSize ≤ header.first := by
    intro middle h
    obtain ⟨first, _, hfirst, h⟩ := ReadM.outcome_bind_eq_ok h
    obtain ⟨order, _, horder, h⟩ := ReadM.outcome_bind_eq_ok h
    cases horder
    cases h
    exact ⟨rfl, rfl, headerSize_le_of_readFirst hfirst⟩
  rw [readTail_eq] at h
  split at h
  · exact hrest _ h
  · obtain ⟨_, middle, -, htail⟩ := ReadM.outcome_bind_eq_ok h
    exact hrest middle htail

theorem of_read {dialects : Dialects} (h : (read dialects).outcome reader = (.ok header, after)) :
    header.order = after.cursor.order ∧ header.layout.headerSize ≤ header.first := by
  unfold read at h
  obtain ⟨_, _, -, h⟩ := ReadM.outcome_bind_eq_ok h
  obtain ⟨magic, _, -, h⟩ := ReadM.outcome_bind_eq_ok h
  split at h
  · cases h
  · obtain ⟨_, _, -, h⟩ := ReadM.outcome_bind_eq_ok h
    obtain ⟨version, _, -, h⟩ := ReadM.outcome_bind_eq_ok h
    split at h
    · cases h
    · obtain ⟨horder, -, hfirst⟩ := of_readTail h
      exact ⟨horder, hfirst⟩

/-- A header that could be read has at least its magic bytes and its version. -/
theorem size_of_read {content : ByteArray} {sized : Prop} {dialects : Dialects}
    (hbacks : reader.source.Backs content sized)
    (h : (read dialects).outcome reader = (.ok header, after)) : 4 ≤ content.size := by
  unfold read at h
  rw [ReadM.outcome_bind_ok (Reader.outcome_seek 0 reader)] at h
  obtain ⟨magic, middle, hmagic, h⟩ := ReadM.outcome_bind_eq_ok h
  obtain ⟨hmiddle, hcursor, -⟩ := Advances.readBytes 2 content sized
    { reader with cursor := { reader.cursor with position := 0 } } middle magic hbacks hmagic
  split at h
  · cases h
  · rename_i order _
    rw [ReadM.outcome_bind_ok (Reader.outcome_setOrder order middle)] at h
    obtain ⟨version, behind, hversion, -⟩ := ReadM.outcome_bind_eq_ok h
    obtain ⟨-, -, hin⟩ := Advances.readU16 content sized
      { middle with cursor := { middle.cursor with order } } behind version hmiddle hversion
    simp only [hcursor] at hin
    omega

end

end Header

/-! ## Tables of fields -/

namespace FieldTable

/-- A table with more fields behind, put there one after the other. -/
def append (table : FieldTable) (fields : List Field) : FieldTable := fields.foldl push table

def ofList (fields : List Field) : FieldTable := empty.append fields

theorem toList_fields_append (table : FieldTable) (fields : List Field) :
    (table.append fields).fields.toList = table.fields.toList ++ fields := by
  induction fields generalizing table with
  | nil => exact (List.append_nil _).symm
  | cons field fields ih =>
    have hpush : (table.push field).fields.toList = table.fields.toList ++ [field] :=
      Array.toList_push
    rw [append, List.foldl_cons, ← append, ih, hpush, List.append_assoc, List.singleton_append]

theorem toList_fields_ofList (fields : List Field) : (ofList fields).fields.toList = fields :=
  toList_fields_append empty fields

end FieldTable

theorem tagAt_eq_getElem?_toList (fields : Array Field) (position : Nat) :
    tagAt fields position = fields.toList[position]?.map fun f => f.tagId := by
  rw [tagAt, Array.getElem?_toList]

theorem lastAt_of_append {fields : Array Field} {tag : UInt16} {front back : List Field}
    {field : Field} (h : fields.toList = front ++ field :: back) (htag : field.tagId = tag)
    (hback : ∀ later ∈ back, later.tagId ≠ tag) : LastAt fields tag front.length := by
  simp only [LastAt, tagAt_eq_getElem?_toList, h]
  refine ⟨by simp [htag], fun later hlater hsame => ?_⟩
  obtain ⟨other, hother, rfl⟩ := Option.map_eq_some_iff.mp hsame
  obtain ⟨i, rfl⟩ := Nat.exists_eq_add_of_lt hlater
  rw [List.getElem?_append_right (by omega)] at hother
  rw [show front.length + i + 1 - front.length = i + 1 by omega, List.getElem?_cons_succ] at hother
  exact hback other (List.mem_of_getElem? hother) rfl

namespace Directory

section

variable (directory : Directory) (tag : UInt16)

/-- What the index has for a tag is what a search from the end finds. -/
theorem field?_eq_findRev? :
    directory.field? tag = directory.fields.findRev? fun f => f.tagId == tag := by
  have hindexed := directory.table.indexed tag
  rw [List.findRev?_eq_find?_reverse]
  unfold field?
  cases hfound : directory.fields.reverse.find? fun f => f.tagId == tag with
  | some field =>
    obtain ⟨htag, back, front, hsplit, hback⟩ := List.find?_eq_some_iff_append.mp hfound
    have hfields : directory.table.fields.toList = front.reverse ++ field :: back.reverse := by
      rw [← List.reverse_reverse directory.table.fields.toList,
        show directory.table.fields.toList.reverse = _ from hsplit]
      simp
    have hlast := lastAt_of_append hfields (beq_iff_eq.mp htag) (fun later hlater => by
      simpa using hback later (List.mem_reverse.mp hlater))
    rw [(hindexed _).mpr hlast, Option.bind_some, ← Array.getElem?_toList, hfields]
    simp
  | none =>
    cases hindex : directory.table.index[tag]? with
    | none => rfl
    | some position =>
      obtain ⟨field, hfield, htag⟩ := Option.map_eq_some_iff.mp ((hindexed position).mp hindex).1
      have hmem : field ∈ directory.fields.reverse :=
        List.mem_reverse.mpr (Array.mem_toList_iff.mpr (Array.mem_of_getElem? hfield))
      exact absurd (beq_iff_eq.mpr htag) (List.find?_eq_none.mp hfound field hmem)

theorem has_eq_isSome_field? : directory.has tag = (directory.field? tag).isSome := by
  have hindexed := directory.table.indexed tag
  rw [has, Std.TreeMap.contains_eq_isSome_getElem?, field?]
  cases hindex : directory.table.index[tag]? with
  | none => rfl
  | some position =>
    obtain ⟨field, hfield, -⟩ := Option.map_eq_some_iff.mp ((hindexed position).mp hindex).1
    rw [Option.bind_some, hfield]
    rfl

end

/-! ## One directory -/

/-- What follows the number of entries: the fields and the link. -/
def readRest (words : Dictionary) (limits : Limits) (layout : Layout) (offset count : Nat) :
    ReadM Directory := do
  let table ← readFields words limits layout count .empty
  let next ← Reader.readNat layout.linkSize
  return { offset, layout, entryCount := count, table, next }

theorem outcome_read (words : Dictionary) (limits : Limits) (layout : Layout) (offset : Nat)
    (reader : Reader) :
    (read words limits layout offset).outcome reader =
      match (Reader.readNat layout.countSize).outcome
        { reader with cursor := { reader.cursor with position := offset } } with
      | (.error e, after) => (.error e, after)
      | (.ok count, after) =>
        if limits.entries < count ∨ !fits layout offset count after.source.size? then
          (.error (.directoryTooLarge offset count), after)
        else (readRest words limits layout offset count).outcome after := by
  unfold read
  rw [ReadM.outcome_bind_ok (Reader.outcome_seek offset reader), ReadM.outcome_bind]
  rcases (Reader.readNat layout.countSize).outcome
    { reader with cursor := { reader.cursor with position := offset } } with ⟨e | count, after⟩
  · rfl
  · simp only
    rw [ReadM.outcome_bind_ok (ReadM.outcome_get after)]
    split <;> rfl

theorem fits_iff (layout : Layout) (offset count : Nat) (size? : Option Nat) :
    fits layout offset count size? = true ↔
      offset + (count * layout.entrySize + (layout.countSize + layout.linkSize)) < addressLimit ∧
      ∀ size ∈ size?,
        offset + (count * layout.entrySize + (layout.countSize + layout.linkSize)) ≤ size := by
  unfold fits Layout.span?
  simp only
  split
  · rename_i hnone
    split at hnone
    · cases hnone
    · simp only [Bool.false_eq_true, false_iff, not_and]
      omega
  · rename_i span hspan
    split at hspan
    · cases hspan
      cases size? <;> simp
    · cases hspan

theorem advances_readRest (words : Dictionary) (limits : Limits) (layout : Layout)
    (offset count : Nat) :
    Advances (count * layout.entrySize + layout.linkSize)
      (readRest words limits layout offset count) :=
  .bind (.readFields words limits layout count .empty) fun _ =>
    .bind (.readNat layout.linkSize) fun _ => .pure _

/-- What follows the number of entries cannot be read where the content is too short for it. -/
theorem readRest_fails {content : ByteArray} {sized : Prop} {reader : Reader}
    (words : Dictionary) (limits : Limits) (layout : Layout) (offset count : Nat)
    (hbacks : reader.source.Backs content sized)
    (hshort : content.size <
      reader.cursor.position + (count * layout.entrySize + layout.linkSize)) :
    ∃ cause, ((readRest words limits layout offset count).outcome reader).1 = .error cause := by
  rcases hread : (readRest words limits layout offset count).outcome reader with
    ⟨cause | directory, after⟩
  · exact ⟨cause, rfl⟩
  · obtain ⟨-, -, hin⟩ := advances_readRest words limits layout offset count
      content sized reader after directory hbacks hread
    have hlink : 0 < layout.linkSize := by cases layout <;> decide
    omega

/-! ## Directories that could be read -/

section

variable {words : Dictionary} {limits : Limits} {layout : Layout} {offset count : Nat}
  {reader after : Reader} {table table' : FieldTable} {directory : Directory}

/-- The fields that are read stand behind those that were there. -/
theorem of_readFields
    (h : (readFields words limits layout count table).outcome reader = (.ok table', after)) :
    table'.fields.size = table.fields.size + count ∧
      table.fields.toList <+: table'.fields.toList := by
  induction count generalizing table reader with
  | zero =>
    cases h
    exact ⟨rfl, List.prefix_refl _⟩
  | succ count ih =>
    obtain ⟨field, middle, -, hrest⟩ := ReadM.outcome_bind_eq_ok h
    obtain ⟨hsize, hfront⟩ := ih hrest
    rw [FieldTable.push, Array.size_push] at hsize
    rw [FieldTable.push, Array.toList_push] at hfront
    exact ⟨by omega, (List.prefix_append _ _).trans hfront⟩

/-- What a directory is made of that could be read. -/
theorem of_readRest
    (h : (readRest words limits layout offset count).outcome reader = (.ok directory, after)) :
    directory.offset = offset ∧ directory.layout = layout ∧ directory.entryCount = count := by
  obtain ⟨table, atLink, -, hlink⟩ := ReadM.outcome_bind_eq_ok h
  obtain ⟨next, last, -, hpure⟩ := ReadM.outcome_bind_eq_ok hlink
  cases hpure
  exact ⟨rfl, rfl, rfl⟩

/-- A directory takes the bytes of its entries, of their number and of the link, as long as that is
a 64-bit number. -/
theorem byteSpan_of_lt (h : directory.entryCount * directory.layout.entrySize +
      (directory.layout.countSize + directory.layout.linkSize) < addressLimit) :
    directory.layout.span? directory.entryCount = some directory.byteSpan ∧
      directory.byteSpan = directory.entryCount * directory.layout.entrySize +
        (directory.layout.countSize + directory.layout.linkSize) := by
  have hspan : directory.layout.span? directory.entryCount = some _ := if_pos h
  rw [byteSpan, hspan]
  exact ⟨rfl, rfl⟩

theorem byteSpan_of_readRest {size? : Option Nat} (hfits : fits layout offset count size? = true)
    (h : (readRest words limits layout offset count).outcome reader = (.ok directory, after)) :
    directory.byteSpan = count * layout.entrySize + (layout.countSize + layout.linkSize) := by
  obtain ⟨-, rfl, rfl⟩ := of_readRest h
  have haddress := ((fits_iff _ offset _ size?).mp hfits).1
  exact (byteSpan_of_lt (by omega)).2

/-- A directory is read in three steps, and all of them succeed. -/
theorem steps_of_read
    (h : (read words limits layout offset).outcome reader = (.ok directory, after)) :
    ∃ count middle,
      (Reader.readNat layout.countSize).outcome
        { reader with cursor := { reader.cursor with position := offset } } = (.ok count, middle) ∧
      count ≤ limits.entries ∧ fits layout offset count middle.source.size? = true ∧
      (readRest words limits layout offset count).outcome middle = (.ok directory, after) := by
  rw [outcome_read] at h
  rcases hcount : (Reader.readNat layout.countSize).outcome
    { reader with cursor := { reader.cursor with position := offset } } with ⟨e | count, middle⟩
  · simp [hcount] at h
  · simp only [hcount] at h
    split at h
    · cases h
    · rename_i hfits
      rw [not_or, Bool.not_eq_true', Bool.not_eq_false] at hfits
      exact ⟨count, middle, rfl, Nat.le_of_not_lt hfits.1, hfits.2, h⟩

theorem offset_eq_of_read
    (h : (read words limits layout offset).outcome reader = (.ok directory, after)) :
    directory.offset = offset := by
  obtain ⟨count, middle, -, -, -, hrest⟩ := steps_of_read h
  exact (of_readRest hrest).1

/-- Reading a directory keeps what the source holds and the byte order. -/
theorem backs_of_read {content : ByteArray} {sized : Prop}
    (h : (read words limits layout offset).outcome reader = (.ok directory, after))
    (hbacks : reader.source.Backs content sized) :
    after.source.Backs content sized ∧ after.cursor.order = reader.cursor.order := by
  obtain ⟨count, middle, hcount, -, -, hrest⟩ := steps_of_read h
  obtain ⟨hmiddle, hcursor, -⟩ := Advances.readNat layout.countSize content sized
    { reader with cursor := { reader.cursor with position := offset } } middle count hbacks hcount
  obtain ⟨hafter, hcursor', -⟩ := advances_readRest words limits layout offset count
    content sized middle after directory hmiddle hrest
  exact ⟨hafter, by rw [hcursor', hcursor]⟩

end

end Directory

namespace Container

/-! ## Walks -/

section

variable {words : Dictionary} {limits : Limits} {layout : Layout} {left offset : Nat}
  {visited : List Nat} {done directories : List Directory} {reader middle after : Reader}
  {directory : Directory}

theorem outcome_walk_null :
    (walk words limits layout left visited done 0).outcome reader = (.ok done.reverse, reader) := by
  unfold walk
  rfl

theorem outcome_walk_step (hzero : offset ≠ 0) (hfresh : offset ∉ visited)
    (hread : (Directory.read words limits layout offset).outcome reader = (.ok directory, middle)) :
    (walk words limits layout (left + 1) visited done offset).outcome reader =
      (walk words limits layout left (offset :: visited) (directory :: done)
        directory.next).outcome middle := by
  rw [walk, if_neg hzero, if_neg hfresh]
  exact ReadM.outcome_bind_ok (ReadM.outcome_adaptExcept_ok _ hread)

/-- A walk that succeeds has come to its end, or reads a directory and goes on behind it. -/
theorem cases_of_walk
    (h : (walk words limits layout left visited done offset).outcome reader =
      (.ok directories, after)) :
    (offset = 0 ∧ directories = done.reverse ∧ after = reader) ∨
      offset ≠ 0 ∧ offset ∉ visited ∧ ∃ left' directory middle, left = left' + 1 ∧
        (Directory.read words limits layout offset).outcome reader = (.ok directory, middle) ∧
        (walk words limits layout left' (offset :: visited) (directory :: done)
          directory.next).outcome middle = (.ok directories, after) := by
  by_cases hzero : offset = 0
  · subst hzero
    rw [outcome_walk_null] at h
    cases h
    exact .inl ⟨rfl, rfl, rfl⟩
  · unfold walk at h
    rw [if_neg hzero] at h
    by_cases hseen : offset ∈ visited
    · rw [if_pos hseen] at h
      cases h
    · rw [if_neg hseen] at h
      cases left with
      | zero => cases h
      | succ left =>
        obtain ⟨directory, middle, hread, hrest⟩ := ReadM.outcome_bind_eq_ok h
        exact .inr ⟨hzero, hseen, left, directory, middle, rfl,
          ReadM.outcome_adaptExcept_eq_ok hread, hrest⟩

/-- Every directory that was read before is one of the directories in the end. -/
theorem subset_of_walk
    (h : (walk words limits layout left visited done offset).outcome reader =
      (.ok directories, after)) : done ⊆ directories := by
  induction left generalizing visited done offset reader with
  | zero =>
    rcases cases_of_walk h with ⟨-, rfl, -⟩ | ⟨-, -, _, _, _, hleft, -⟩
    · exact fun _ => List.mem_reverse.mpr
    · cases hleft
  | succ left ih =>
    rcases cases_of_walk h with ⟨-, rfl, -⟩ | ⟨-, -, _, directory, middle, hleft, -, hrest⟩
    · exact fun _ => List.mem_reverse.mpr
    · cases hleft
      exact List.Subset.trans (List.subset_cons_self _ _) (ih hrest)

end

/-! ## Containers that could be read -/

/-- A container is read in two steps, and both of them succeed. -/
theorem steps_of_read {registry : Registry} {limits : Limits} {reader after : Reader}
    {container : Container}
    (h : (read registry limits).outcome reader = (.ok container, after)) :
    ∃ header directories middle,
      (Header.read registry.dialects).outcome reader = (.ok header, middle) ∧
      (walk registry.defaultDictionary limits header.layout limits.directories [] []
        header.first).outcome middle = (.ok directories, after) ∧
      container = { header, directories, registry, limits } := by
  obtain ⟨header, middle, hheader, hrest⟩ := ReadM.outcome_bind_eq_ok h
  obtain ⟨directories, last, hwalk, hpure⟩ := ReadM.outcome_bind_eq_ok hrest
  cases hpure
  exact ⟨header, directories, middle, hheader, hwalk, rfl⟩

end Container

end Tiff
