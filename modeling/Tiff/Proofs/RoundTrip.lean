-- Reading what was written. A file that keeps to the widths of its layout and to
-- the limits of the reading is read back as it was written.

import Tiff.Proofs.Directory
import Tiff.Proofs.Writer

namespace Tiff

variable {content : ByteArray} {order : ByteOrder} {layout : Layout} {words : Dictionary}
  {limits : Limits}

theorem signedLimit_lt : signedLimit < addressLimit := by decide

/-! ## Entries -/

namespace Draft

/-- The entry that is written, with the place for its payload. -/
def entry (order : ByteOrder) (layout : Layout) (draft : Draft) (place : Nat) : Entry where
  layout := layout
  tag := draft.tag
  type := draft.elements.type
  count := draft.elements.count
  slot := draft.slot order layout place

/-- The field that the entry stands for. -/
def field (words : Dictionary) (order : ByteOrder) (layout : Layout) (draft : Draft)
    (place : Nat) : Field where
  entry := draft.entry order layout place
  tag := words.tag draft.tag
  type := words.type draft.elements.type
  order := order
  bytes := draft.bytes order
  offset := if draft.isInline order layout then 0 else place

/-- An entry that keeps to the widths of the layout and to the limits. -/
structure Fits (words : Dictionary) (limits : Limits) (order : ByteOrder) (layout : Layout)
    (draft : Draft) (place : Nat) : Prop where
  wellFormed : draft.elements.WellFormed words
  count_lt : draft.elements.count < 256 ^ layout.slotSize
  size_le : (draft.bytes order).length ≤ limits.valueSize
  place_lt : draft.isInline order layout = false → place < 256 ^ layout.slotSize

variable {draft : Draft} {place : Nat}

instance : Decidable (draft.Fits words limits order layout place) :=
  decidable_of_iff
    (draft.elements.WellFormed words ∧ draft.elements.count < 256 ^ layout.slotSize ∧
      (draft.bytes order).length ≤ limits.valueSize ∧
      (draft.isInline order layout = false → place < 256 ^ layout.slotSize))
    ⟨fun ⟨hform, hcount, hsize, hplace⟩ => ⟨hform, hcount, hsize, hplace⟩,
      fun h => ⟨h.wellFormed, h.count_lt, h.size_le, h.place_lt⟩⟩

theorem reads_entry (hsize : content.size < addressLimit)
    (hcount : draft.elements.count < 256 ^ layout.slotSize) :
    Reads content order (Entry.read layout) (draft.entry order layout place)
      (draft.entryBytes order layout place) := by
  have hslot : Reads content order (Reader.readBytes layout.slotSize)
      (draft.slot order layout place) (draft.slot order layout place) :=
    length_slot order layout draft place ▸ Reads.readBytes hsize _
  exact (Reads.readU16 hsize draft.tag).bind <| (Reads.readU16 hsize draft.elements.type).bind <|
    (Reads.readNat hsize hcount).bind <| hslot.bind_nil <| .pure rfl

/-- A value that does not fit into its slot is read where it stands, and the cursor stays. -/
theorem reads_value (hsize : content.size < signedLimit) {bytes : List UInt8}
    (h : Spelled content place bytes) (hpos : 0 < bytes.length) :
    Reads content order (Field.readValue place bytes.length) bytes [] := by
  intro position _
  have hle := h.le_size
  have hlimit := signedLimit_lt
  have hsigned : place < signedLimit ∧ bytes.length < signedLimit := by omega
  have hsection : ¬ ((place : Int) < 0 ∨ (bytes.length : Int) < 1) := by omega
  rw [Field.readValue, if_pos hsigned, Reader.readSection, if_neg hsection, Int.toNat_natCast,
    Int.toNat_natCast, outcome_readAt_of_spelled (by omega) h _ rfl]
  rfl

/-- The value of a written entry is found, in its slot or at its place. -/
theorem reads_resolve (hwords : words.KnowsCodings) (hsize : content.size < signedLimit)
    (hfits : draft.Fits words limits order layout place)
    (hplace : draft.isInline order layout = false → Spelled content place (draft.bytes order)) :
    Reads content order (Field.resolve words limits (draft.entry order layout place))
      (draft.field words order layout place) [] := by
  have hlength : draft.elements.count * (words.type draft.elements.type).size =
      (draft.bytes order).length := draft.elements.count_mul_size hwords hfits.wellFormed order
  have hsmall : (draft.bytes order).length < addressLimit := by
    have hslot : layout.slotSize < addressLimit := by cases layout <;> decide
    have hlimit := signedLimit_lt
    cases hinline : draft.isInline order layout with
    | true => exact Nat.lt_of_le_of_lt ((isInline_iff order layout draft).mp hinline) hslot
    | false =>
      have hle := (hplace hinline).le_size
      omega
  have hsize_le := hfits.size_le
  have haccepted : ¬ (addressLimit ≤ (draft.bytes order).length ∨
      limits.valueSize < (draft.bytes order).length) := by omega
  unfold Field.resolve
  refine Reads.readOrder.bind_nil ?_
  simp only [entry, hlength, if_neg haccepted]
  cases hinline : draft.isInline order layout with
  | true =>
    have hshort := (isInline_iff order layout draft).mp hinline
    have htake : (draft.slot order layout place).take (draft.bytes order).length =
        draft.bytes order := by
      rw [slot, if_pos hinline, List.rightpad, List.take_left']
      rfl
    simp only [if_pos hshort, htake]
    exact .pure (by simp [field, entry, hinline])
  | false =>
    have hlong : ¬ (draft.bytes order).length ≤ layout.slotSize := by
      rw [← isInline_iff order layout draft, hinline]
      decide
    have hoffset : (draft.entry order layout place).offset order = place := by
      simp only [Entry.offset, entry, slot, hinline, Bool.false_eq_true, if_false]
      exact order.read_toBytes (hfits.place_lt hinline)
    simp only [entry] at hoffset
    simp only [if_neg hlong, hoffset]
    refine ((reads_value hsize (hplace hinline) (by omega)).adaptExcept _).bind_nil (.pure ?_)
    simp [field, entry, hinline]

end Draft

/-! ## Directories -/

/-- The fields of a directory, put into the table one after the other. -/
theorem reads_fields (hwords : words.KnowsCodings) (hsize : content.size < signedLimit)
    (drafts : List (Draft × Nat))
    (hfits : ∀ d ∈ drafts, d.1.Fits words limits order layout d.2)
    (hplaces : ∀ d ∈ drafts, d.1.isInline order layout = false →
      Spelled content d.2 (d.1.bytes order)) (table : FieldTable) :
    Reads content order (Directory.readFields words limits layout drafts.length table)
      (table.append (drafts.map fun d => d.1.field words order layout d.2))
      (drafts.flatMap fun d => d.1.entryBytes order layout d.2) := by
  have hlimit := signedLimit_lt
  induction drafts generalizing table with
  | nil => exact .pure rfl
  | cons d drafts ih =>
    have hd := hfits d (by simp)
    have hfield : Reads content order (Field.read words limits layout)
        (d.1.field words order layout d.2) (d.1.entryBytes order layout d.2) :=
      (Draft.reads_entry (by omega) hd.count_lt).bind_nil
        (Draft.reads_resolve hwords hsize hd (hplaces d (by simp)))
    have hrest := ih (fun e he => hfits e (by simp [he])) (fun e he => hplaces e (by simp [he]))
      (table.push (d.1.field words order layout d.2))
    exact hfield.bind hrest

namespace Table

/-- The directory that a table stands for. -/
def directory (words : Dictionary) (order : ByteOrder) (layout : Layout) (table : Table) :
    Directory where
  offset := table.offset
  layout := layout
  entryCount := table.drafts.length
  table := .ofList (table.drafts.map fun d => d.1.field words order layout d.2)
  next := table.next

theorem fields_directory (words : Dictionary) (order : ByteOrder) (layout : Layout)
    (table : Table) :
    (table.directory words order layout).fields =
      table.drafts.map fun d => d.1.field words order layout d.2 :=
  FieldTable.toList_fields_ofList _

/-- A table that keeps to the widths of the layout and to the limits. -/
structure Fits (words : Dictionary) (limits : Limits) (order : ByteOrder) (layout : Layout)
    (table : Table) : Prop where
  offset_lt : table.offset < 256 ^ layout.slotSize
  entries_lt : table.drafts.length < 256 ^ layout.countSize
  entries_le : table.drafts.length ≤ limits.entries
  drafts : ∀ d ∈ table.drafts, d.1.Fits words limits order layout d.2

variable {table : Table}

instance : Decidable (table.Fits words limits order layout) :=
  decidable_of_iff
    (table.offset < 256 ^ layout.slotSize ∧ table.drafts.length < 256 ^ layout.countSize ∧
      table.drafts.length ≤ limits.entries ∧
      ∀ d ∈ table.drafts, d.1.Fits words limits order layout d.2)
    ⟨fun ⟨hoffset, hwidth, hlimit, hdrafts⟩ => ⟨hoffset, hwidth, hlimit, hdrafts⟩,
      fun h => ⟨h.offset_lt, h.entries_lt, h.entries_le, h.drafts⟩⟩

/-- A table is read into its directory, from wherever the reader stands. -/
theorem outcome_read (hwords : words.KnowsCodings) (hsize : content.size < signedLimit)
    (hfits : table.Fits words limits order layout) (hnext : table.next < 256 ^ layout.linkSize)
    (hspelled : Spelled content table.offset (table.bytes order layout))
    (hplaces : ∀ d ∈ table.drafts, d.1.isInline order layout = false →
      Spelled content d.2 (d.1.bytes order)) (position : Nat) :
    (Directory.read words limits layout table.offset).outcome
        (standing content order position) =
      (.ok (table.directory words order layout),
        standing content order (table.offset + span layout table.drafts.length)) := by
  have hlimit := signedLimit_lt
  obtain ⟨htable, -⟩ := hspelled.append
  obtain ⟨hcount, hrest⟩ := htable.append
  have hcounted := Reads.readNat (by omega) hfits.entries_lt _ hcount
  have hfields := reads_fields hwords hsize table.drafts hfits.drafts hplaces .empty
  have hread : Reads content order
      (Directory.readRest words limits layout table.offset table.drafts.length)
      (table.directory words order layout)
      (table.entries order layout ++ order.toBytes layout.linkSize table.next) :=
    hfields.bind ((Reads.readNat (by omega) hnext).bind_nil (.pure rfl))
  have hend := htable.le_size
  rw [length_table, span] at hend
  have hinside : Directory.fits layout table.offset table.drafts.length
      (some content.size) = true := by
    rw [Directory.fits_iff]
    simp only [Option.mem_def, Option.some.injEq, forall_eq']
    omega
  have haccepted : ¬ (limits.entries < table.drafts.length ∨
      (!Directory.fits layout table.offset table.drafts.length (some content.size)) = true) := by
    rw [hinside, not_or]
    exact ⟨Nat.not_lt.mpr hfits.entries_le, by decide⟩
  rw [Directory.outcome_read]
  have hstart : { standing content order position with
      cursor := { (standing content order position).cursor with position := table.offset } } =
      standing content order table.offset := rfl
  rw [hstart, hcounted]
  refine (if_neg haccepted).trans ?_
  rw [hread _ hrest, Nat.add_assoc, ← List.length_append, length_table]

/-- Every directory of a chain stands where it says, with what stands behind its table. -/
theorem spelled_of_chained {offset : Nat} {dirs : List (List Draft)}
    (h : Spelled content offset ((chained order layout offset dirs).flatMap (bytes order layout)))
    (hmem : table ∈ chained order layout offset dirs) :
    offset ≤ table.offset ∧ Spelled content table.offset (table.bytes order layout) ∧
      ∀ d ∈ table.drafts, d.1.isInline order layout = false →
        table.offset < d.2 ∧ Spelled content d.2 (d.1.bytes order) := by
  induction dirs generalizing offset with
  | nil => cases hmem
  | cons drafts dirs ih =>
    rw [chained, List.flatMap_cons] at h
    obtain ⟨hfirst, hrest⟩ := h.append
    rcases List.mem_cons.mp hmem with rfl | hmem
    · exact ⟨Nat.le_refl _, hfirst, fun d hd hout => spelled_of_made hfirst hd hout⟩
    · rw [length_bytes_made] at hrest
      obtain ⟨hle, hstands⟩ := ih hrest hmem
      exact ⟨by omega, hstands⟩

end Table

/-! ## The chain -/

/-- From a directory of the file on, the walk reads all that follow. -/
theorem walk_chained (hwords : words.KnowsCodings) (hsize : content.size < signedLimit)
    (dirs : List (List Draft)) (hdirs : dirs ≠ []) {offset left position : Nat}
    {visited : List Nat} {done : List Directory} (hleft : dirs.length ≤ left)
    (hpos : 0 < offset) (hvisited : ∀ o ∈ visited, o < offset)
    (hfits : ∀ table ∈ Table.chained order layout offset dirs,
      table.Fits words limits order layout)
    (hspelled : Spelled content offset
      ((Table.chained order layout offset dirs).flatMap (Table.bytes order layout))) :
    ((Container.walk words limits layout left visited done offset).outcome
      (standing content order position)).1 =
      .ok (done.reverse ++ (Table.chained order layout offset dirs).map
        (Table.directory words order layout)) := by
  induction dirs generalizing offset left position visited done with
  | nil => exact absurd rfl hdirs
  | cons drafts rest ih =>
    obtain ⟨left, rfl⟩ : ∃ n, left = n + 1 := ⟨left - 1, by simp at hleft; omega⟩
    rw [Table.chained] at hfits
    rw [Table.chained, List.flatMap_cons] at hspelled
    obtain ⟨hfirst, hrest⟩ := hspelled.append
    rw [Table.length_bytes_made] at hrest
    generalize htable : Table.made order layout offset drafts rest.isEmpty = table at *
    have hchain : Table.chained order layout offset (drafts :: rest) =
        table :: Table.chained order layout (offset + Table.size order layout drafts) rest :=
      htable ▸ rfl
    have hoffset : table.offset = offset := htable ▸ rfl
    have hnext : table.next < 256 ^ layout.linkSize := by
      rw [← htable]
      cases rest with
      | nil => exact Nat.pow_pos (by decide)
      | cons following rest =>
        have hwidth : layout.linkSize = layout.slotSize := by cases layout <;> rfl
        rw [hwidth]
        exact (hfits _ (.tail _ (.head _))).offset_lt
    have hread := Table.outcome_read hwords hsize (hfits _ (.head _)) hnext (hoffset ▸ hfirst)
      (fun d hd hout => (Table.spelled_of_made (htable ▸ hfirst) (htable ▸ hd) hout).2) position
    rw [hoffset] at hread
    have hfresh : offset ∉ visited := fun hmem => Nat.lt_irrefl _ (hvisited offset hmem)
    rw [Container.outcome_walk_step (Nat.ne_of_gt hpos) hfresh hread]
    cases rest with
    | nil =>
      have hlast : (table.directory words order layout).next = 0 := htable ▸ rfl
      rw [hlast, Container.outcome_walk_null, hchain]
      simp [Table.chained]
    | cons following rest =>
      have hlink : (table.directory words order layout).next =
          offset + Table.size order layout drafts := htable ▸ rfl
      have hlonger : 0 < Table.size order layout drafts :=
        Nat.add_pos_left (Table.span_pos layout drafts.length) _
      have hbehind : ∀ o ∈ offset :: visited, o < offset + Table.size order layout drafts := by
        intro o ho
        rcases List.mem_cons.mp ho with rfl | ho
        · omega
        · have hlt := hvisited o ho
          omega
      rw [hlink, ih (List.cons_ne_nil _ _) (by simpa using hleft) (by omega) hbehind
        (fun t ht => hfits t (.tail _ ht)) hrest, hchain]
      simp

/-! ## Files -/

def headerOf (order : ByteOrder) (layout : Layout) : Header where
  order := order
  version := layout.dialect.version
  layout := layout
  offsetSize := layout.slotSize
  first := layout.headerSize

theorem reads_tail (hsize : content.size < addressLimit) :
    Reads content order (Header.readTail layout.dialect) (headerOf order layout)
      (widthBytes order layout ++ order.toBytes layout.slotSize layout.headerSize) := by
  have hfirst : Reads content order (Header.readFirst layout) layout.headerSize
      (order.toBytes layout.slotSize layout.headerSize) := by
    have hlt : layout.headerSize < 256 ^ layout.slotSize := by cases layout <;> decide
    refine (Reads.readNat hsize hlt).bind_nil ?_
    rw [if_neg (Nat.lt_irrefl _)]
    exact .pure rfl
  have hrest : Reads content order (Header.readRest layout.dialect) (headerOf order layout)
      (order.toBytes layout.slotSize layout.headerSize) := by
    cases layout <;> exact hfirst.bind_nil (Reads.readOrder.bind_nil (.pure rfl))
  cases layout with
  | classic => exact hrest
  | big =>
    have hwidth : Reads content order Header.readWidth () (widthBytes order .big) := by
      refine (Reads.readU16 hsize 8).bind ?_
      exact (Reads.readU16 hsize 0).bind_nil (.pure rfl)
    exact hwidth.bind hrest

theorem outcome_readHeader (hsize : content.size < addressLimit) {dialects : Dialects}
    (hdialects : dialects.get? layout.dialect.version = some layout.dialect)
    (h : Spelled content 0 (headerBytes order layout)) :
    (Header.read dialects).outcome { source := .ofBytes content } =
      (.ok (headerOf order layout),
        standing content order layout.headerSize) := by
  obtain ⟨hmagic, hrest⟩ := h.append
  have hlength : order.magic.length = 2 := by cases order <;> rfl
  have hread : (Reader.readBytes 2).outcome (standing content .little 0) =
      (.ok order.magic, standing content .little 2) := by
    have hbytes : Reads content .little (Reader.readBytes order.magic.length) _ _ :=
      Reads.readBytes hsize order.magic
    have hstart := hbytes 0 hmagic
    rwa [hlength] at hstart
  obtain ⟨hversion, htail⟩ := hrest.append
  rw [Nat.zero_add, hlength] at hversion htail
  have hnumber := Reads.readU16 hsize layout.dialect.version 2 hversion
  have hend : 2 + (order.toBytes 2 layout.dialect.version.toNat).length +
      (widthBytes order layout ++ order.toBytes layout.slotSize layout.headerSize).length =
        layout.headerSize := by
    cases layout <;> simp [widthBytes, Layout.slotSize, Layout.headerSize]
  have hdone := reads_tail hsize _ htail
  rw [hend] at hdone
  unfold Header.read
  refine (ReadM.outcome_bind_ok (Reader.outcome_seek 0 _)).trans ?_
  refine (ReadM.outcome_bind_ok hread).trans ?_
  rw [ByteOrder.ofMagic?_magic]
  refine (ReadM.outcome_bind_ok (Reader.outcome_setOrder order _)).trans ?_
  refine (ReadM.outcome_bind_ok hnumber).trans ?_
  rw [hdialects]
  exact hdone

theorem length_headerBytes : (headerBytes order layout).length = layout.headerSize := by
  have hmagic : order.magic.length = 2 := by cases order <;> rfl
  cases layout <;>
    simp [headerBytes, widthBytes, hmagic, Layout.slotSize, Layout.headerSize]

theorem spelled_file (order : ByteOrder) (layout : Layout) (dirs : List (List Draft)) :
    Spelled (fileOf order layout dirs) 0 (headerBytes order layout) ∧
      Spelled (fileOf order layout dirs) layout.headerSize
        ((tablesOf order layout dirs).flatMap (Table.bytes order layout)) := by
  have hstart : Spelled (fileOf order layout dirs) 0 (fileBytes order layout dirs) :=
    spelled_start _
  obtain ⟨hheader, hrest⟩ := hstart.append
  rw [length_headerBytes, Nat.zero_add] at hrest
  exact ⟨hheader, hrest⟩

/-- A written file is read into its header and the directories of its tables. -/
theorem outcome_readFile (registry : Registry) (hwords : registry.defaultDictionary.KnowsCodings)
    (hdialects : registry.dialects.get? layout.dialect.version = some layout.dialect)
    {dirs : List (List Draft)} (hdirs : dirs ≠ []) (hlimit : dirs.length ≤ limits.directories)
    (hfits : ∀ table ∈ tablesOf order layout dirs,
      table.Fits registry.defaultDictionary limits order layout)
    (hsize : (fileOf order layout dirs).size < signedLimit) :
    ((Container.read registry limits).outcome
        { source := .ofBytes (fileOf order layout dirs) }).1 =
      .ok {
        header := headerOf order layout
        directories := (tablesOf order layout dirs).map
          (Table.directory registry.defaultDictionary order layout)
        registry
        limits } := by
  have hlimits := signedLimit_lt
  obtain ⟨hheader, hrest⟩ := spelled_file order layout dirs
  have hread := outcome_readHeader (by omega) hdialects hheader
  have hfirst : 0 < layout.headerSize := by cases layout <;> decide
  have hwalk : ((Container.walk registry.defaultDictionary limits layout limits.directories [] []
      layout.headerSize).outcome (standing (fileOf order layout dirs) order layout.headerSize)).1 =
      .ok ((tablesOf order layout dirs).map
        (Table.directory registry.defaultDictionary order layout)) :=
    walk_chained hwords hsize dirs hdirs hlimit hfirst nofun hfits hrest
  unfold Container.read
  rw [ReadM.outcome_bind_ok hread, ReadM.outcome_bind]
  rcases hw : (Container.walk registry.defaultDictionary limits layout limits.directories [] []
    layout.headerSize).outcome (standing (fileOf order layout dirs) order layout.headerSize)
    with ⟨answer, behind⟩
  rw [hw] at hwalk
  simp only at hwalk
  subst hwalk
  simp only [headerOf, hw]
  rfl

theorem get?_standard_dialect (layout : Layout) :
    Dialects.standard.get? layout.dialect.version = some layout.dialect := by
  cases layout <;> rfl

theorem value_field (hwords : words.KnowsCodings) {draft : Draft} {place : Nat}
    (h : draft.elements.WellFormed words) :
    (draft.field words order layout place).value = draft.elements.value words order :=
  Elements.decode_bytes hwords h order

/-- The offset of a field tells whether its bytes are in the slot, and where they are if not. -/
theorem offset_field {draft : Draft} {place : Nat}
    (hplace : draft.isInline order layout = false →
      0 < place ∧ Spelled content place (draft.bytes order)) :
    let field := draft.field words order layout place
    (field.offset = 0 ↔ field.bytes.length ≤ layout.slotSize) ∧
      (field.offset ≠ 0 → slice content field.offset field.bytes.length = field.bytes) := by
  have hshort := Draft.isInline_iff order layout draft
  simp only [Draft.field]
  cases hinline : draft.isInline order layout with
  | true =>
    simp only [hinline, true_iff] at hshort
    simp [hshort]
  | false =>
    obtain ⟨hpos, hspelled⟩ := hplace hinline
    simp only [hinline, Bool.false_eq_true, false_iff] at hshort
    simp only [Bool.false_eq_true, if_false, Nat.ne_of_gt hpos, hshort, true_and]
    exact fun _ => hspelled.slice_eq

/-- The drafts of the tables of a file are those that were given, in their order. -/
theorem map_drafts_chained (offset : Nat) (dirs : List (List Draft)) :
    (Table.chained order layout offset dirs).map (fun table => table.drafts.map Prod.fst) =
      dirs := by
  induction dirs generalizing offset with
  | nil => rfl
  | cons drafts rest ih =>
    rw [Table.chained, List.map_cons, ih, Table.made, Draft.map_fst_placed]

namespace Container

/-- Whatever directories are written, in either byte order and either layout, are read back if they
keep to the widths of the layout and to the limits: there is a container with the byte order, the
layout and the first offset of the file, and its directories and their fields are those that were
written, in their order. A field has the offset 0 if its bytes fit into the slot, and otherwise the
place where they were put, which is where the file has them. -/
theorem a_written_file_reads_back (sizes : OpenSizes) (limits : Limits) (order : ByteOrder)
    (layout : Layout) (dirs : List (List Draft)) (hdirs : dirs ≠ [])
    (hlimit : dirs.length ≤ limits.directories)
    (hfits : ∀ table ∈ tablesOf order layout dirs,
      table.Fits (Registry.standard sizes).defaultDictionary limits order layout)
    (hsize : (fileOf order layout dirs).size < signedLimit) :
    let registry := Registry.standard sizes
    let words := registry.defaultDictionary
    let content := fileOf order layout dirs
    ∃ directories,
      ((read registry limits).outcome { source := .ofBytes content }).1 = .ok {
        header := {
          order, layout
          version := layout.dialect.version
          offsetSize := layout.slotSize
          first := layout.headerSize }
        directories, registry, limits } ∧
      directories.map (fun directory => directory.fields.map fun field =>
          (field.tagId, field.entry.type, field.count, field.bytes, field.value)) =
        dirs.map (fun drafts => drafts.map fun draft =>
          (draft.tag, draft.elements.type, draft.elements.count, draft.elements.bytes order,
            draft.elements.value words order)) ∧
      directories.map (fun directory => directory.fields.map (·.offset)) =
        (tablesOf order layout dirs).map (fun table => table.drafts.map fun d =>
          if d.1.isInline order layout then 0 else d.2) ∧
      ∀ directory ∈ directories, ∀ field ∈ directory.fields,
        (field.offset = 0 ↔ field.bytes.length ≤ layout.slotSize) ∧
        (field.offset ≠ 0 → slice content field.offset field.bytes.length = field.bytes) := by
  intro registry words content
  have hwords : words.KnowsCodings := Registry.knowsCodings_standard sizes
  refine ⟨_, outcome_readFile registry hwords (get?_standard_dialect layout) hdirs hlimit hfits
    hsize, ?_, ?_, ?_⟩
  · have hdrafts : dirs = (tablesOf order layout dirs).map fun table =>
        table.drafts.map Prod.fst := (map_drafts_chained _ _).symm
    conv => rhs; rw [hdrafts]
    rw [List.map_map, List.map_map]
    refine List.map_congr_left fun table htable => ?_
    simp only [Function.comp_def, Table.fields_directory, List.map_map]
    refine List.map_congr_left fun d hd => ?_
    rw [value_field hwords ((hfits table htable).drafts d hd).wellFormed]
    rfl
  · rw [List.map_map]
    refine List.map_congr_left fun table _ => ?_
    simp only [Function.comp_def, Table.fields_directory, List.map_map]
    rfl
  · intro directory hdirectory field hfield
    obtain ⟨table, htable, rfl⟩ := List.mem_map.mp hdirectory
    rw [Table.fields_directory] at hfield
    obtain ⟨d, hd, rfl⟩ := List.mem_map.mp hfield
    obtain ⟨-, -, hplaces⟩ := Table.spelled_of_chained (spelled_file order layout dirs).2 htable
    refine offset_field fun hout => ?_
    obtain ⟨hlt, hspelled⟩ := hplaces d hd hout
    exact ⟨by omega, hspelled⟩

/-- Two directories with payloads in their slots and behind their tables. -/
def pairOfDirectories : List (List Draft) := [
  [⟨256, .shorts [640]⟩, ⟨282, .rationals [⟨72, 1⟩]⟩, ⟨305, .raw 2 5 [0x54, 0x69, 0x66, 0x66, 0]⟩],
  [⟨256, .longs [1, 2]⟩, ⟨1, .long8s []⟩, ⟨2, .raw 999 3 [7, 8, 9]⟩]]

/-- The pair of directories, written in the classic layout from the high end of numbers. -/
theorem a_written_file_reads_back_of_pairOfDirectories :
    (∀ table ∈ tablesOf .big .classic pairOfDirectories,
      table.Fits (Registry.standard {}).defaultDictionary {} .big .classic) ∧
    (fileOf .big .classic pairOfDirectories).size < signedLimit ∧
    ∃ container,
      ((read (.standard {}) {}).outcome
        { source := .ofBytes (fileOf .big .classic pairOfDirectories) }).1 = .ok container ∧
      container.directories.map (fun directory => directory.fields.map (·.offset)) =
        [[0, 50, 58], [106, 0, 0]] := by
  have hfits : ∀ table ∈ tablesOf .big .classic pairOfDirectories,
      table.Fits (Registry.standard {}).defaultDictionary {} .big .classic := by
    decide +kernel
  have hsize : (fileOf .big .classic pairOfDirectories).size < signedLimit := by
    decide
  obtain ⟨directories, hread, -, hoffsets, -⟩ := a_written_file_reads_back {} {} .big .classic
    pairOfDirectories (by decide) (by decide) hfits hsize
  exact ⟨hfits, hsize, _, hread, hoffsets⟩

end Container

end Tiff
