-- Footprints. A container uses the bytes of its header, of its directories, and
-- of the values that lie outside their entries. A file that keeps these bytes
-- where they are has the same container, whatever else is in it or behind it.

import Tiff.Proofs.Agreement

namespace Tiff

/-! ## Kept bytes -/

/-- The bytes that a content has in a range are at their places in another content too. -/
def Keeps (content content' : ByteArray) (offset length : Nat) : Prop :=
  ∀ i < length, offset + i < content.size →
    content'.data[offset + i]? = content.data[offset + i]?

instance (content content' : ByteArray) (offset length : Nat) :
    Decidable (Keeps content content' offset length) :=
  inferInstanceAs (Decidable (∀ i < length, _ → _))

/-- All of some ranges are kept, each given by its offset and its length. -/
def KeepsAll (content content' : ByteArray) (ranges : List (Nat × Nat)) : Prop :=
  ∀ range ∈ ranges, Keeps content content' range.1 range.2

instance (content content' : ByteArray) (ranges : List (Nat × Nat)) :
    Decidable (KeepsAll content content' ranges) :=
  inferInstanceAs (Decidable (∀ range ∈ ranges, _))

theorem KeepsAll.mono {content content' : ByteArray} {ranges ranges' : List (Nat × Nat)}
    (h : KeepsAll content content' ranges) (hsub : ranges' ⊆ ranges) :
    KeepsAll content content' ranges' := fun range hmem => h range (hsub hmem)

namespace Keeps

variable {content content' : ByteArray} {offset length : Nat}

/-- A range is kept with every part of it. -/
theorem within (h : Keeps content content' offset length) {offset' length' : Nat}
    (hfrom : offset ≤ offset') (hto : offset' + length' ≤ offset + length) :
    Keeps content content' offset' length' := by
  intro i hi hin
  obtain ⟨before, rfl⟩ := Nat.exists_eq_add_of_le hfrom
  rw [Nat.add_assoc] at hin ⊢
  exact h (before + i) (by omega) hin

/-- A content that keeps a range is long enough for it. -/
theorem le_size (h : Keeps content content' offset length)
    (hin : offset + length ≤ content.size) (hpos : 0 < length) :
    offset + length ≤ content'.size := by
  have hlast := h (length - 1) (by omega) (by omega)
  rw [← ByteArray.size_data] at hin ⊢
  have hbyte : content.data[offset + (length - 1)]? = some content.data[offset + (length - 1)] :=
    Array.getElem?_eq_getElem (by omega)
  obtain ⟨hlt, -⟩ := Array.getElem?_eq_some_iff.mp (hlast.trans hbyte)
  omega

/-- A range that is kept is the same piece of both contents. -/
theorem slice_eq (h : Keeps content content' offset length)
    (hin : offset + length ≤ content.size) :
    slice content' offset length = slice content offset length := by
  rw [Tiff.slice_eq, Tiff.slice_eq]
  apply List.ext_getElem?
  intro i
  rw [List.getElem?_take, List.getElem?_take]
  by_cases hi : i < length
  · rw [if_pos hi, if_pos hi, List.getElem?_drop, List.getElem?_drop, Array.getElem?_toList,
      Array.getElem?_toList]
    exact h i hi (by omega)
  · rw [if_neg hi, if_neg hi]

/-- A range that could be had can be had where it is kept. -/
theorem rangeOf_eq {bytes : List UInt8} (h : Keeps content content' offset length)
    (hrange : rangeOf content offset length = .ok bytes) :
    rangeOf content' offset length = .ok bytes := by
  rw [rangeOf_eq_ok_iff] at hrange ⊢
  obtain ⟨hin, rfl⟩ := hrange
  rcases Nat.eq_zero_or_pos length with rfl | hpos
  · exact ⟨.inl rfl, by rw [slice_zero, slice_zero]⟩
  · obtain ⟨haddress, hend⟩ := hin.resolve_left (Nat.ne_of_gt hpos)
    exact ⟨.inr ⟨haddress, h.le_size hend hpos⟩, h.slice_eq hend⟩

end Keeps

/-! ## Readers side by side -/

/-- Readers with one cursor over sources of known size, each with a content of its own. -/
structure Abreast (content content' : ByteArray) (r r' : Reader) : Prop where
  cursor_eq : r'.cursor = r.cursor
  backs : r.source.Backs content True
  backs' : r'.source.Backs content' True

theorem Abreast.seek {content content' : ByteArray} {r r' : Reader}
    (h : Abreast content content' r r') (position : Nat) :
    Abreast content content' { r with cursor := { r.cursor with position } }
      { r' with cursor := { r'.cursor with position } } :=
  ⟨by simp only [h.cursor_eq], h.backs, h.backs'⟩

/-- A reading that moves the cursor on by `n` bytes, and that cannot tell readers that stand
abreast from each other: if it succeeds with the first one, then also with the second one, to the
same answer, provided that these `n` bytes are kept and whatever the answer needs besides. -/
def Follows {α : Type} (content content' : ByteArray) (n : Nat) (needs : α → Prop)
    (m : ReadM α) : Prop :=
  ∀ r r' a s, Abreast content content' r r' → m.outcome r = (.ok a, s) →
    Keeps content content' r.cursor.position n → needs a →
      s.cursor.position = r.cursor.position + n ∧
      ∃ s', m.outcome r' = (.ok a, s') ∧ Abreast content content' s s'

namespace Follows

variable {α β : Type} {content content' : ByteArray} {n k : Nat} {needs : α → Prop}
  {needs' : β → Prop}

theorem pure (a : α) : Follows content content' 0 needs (pure a) := by
  intro r r' a' s h hread hkept hneeds
  cases hread
  exact ⟨rfl, r', rfl, h⟩

theorem throw (e : Error) : Follows content content' n needs (throw e : ReadM α) := by
  intro r r' a s h hread hkept hneeds
  cases hread

theorem bind {m : ReadM α} {f : α → ReadM β} (hm : Follows content content' n needs m)
    (hf : ∀ a, Follows content content' k needs' (f a))
    (hneeds : ∀ a b r s, (f a).outcome r = (.ok b, s) → needs' b → needs a) :
    Follows content content' (n + k) needs' (m >>= f) := by
  intro r r' b t h hread hkept hneeds'
  obtain ⟨a, s, hfirst, hsecond⟩ := ReadM.outcome_bind_eq_ok hread
  obtain ⟨hmoved, s', hfirst', habreast⟩ := hm r r' a s h hfirst
    (hkept.within (Nat.le_refl _) (by omega)) (hneeds a b s t hsecond hneeds')
  obtain ⟨hmoved', t', hsecond', habreast'⟩ := hf a s s' b t habreast hsecond
    (hkept.within (by omega) (by omega)) hneeds'
  refine ⟨by omega, t', ?_, habreast'⟩
  rw [ReadM.outcome_bind_ok hfirst', hsecond']

/-- A first part whose answer needs nothing. -/
theorem next {m : ReadM α} {f : α → ReadM β} (hm : Follows content content' n (fun _ => True) m)
    (hf : ∀ a, Follows content content' k needs' (f a)) :
    Follows content content' (n + k) needs' (m >>= f) :=
  hm.bind hf fun _ _ _ _ _ _ => trivial

theorem ite {p : Prop} [Decidable p] {m m' : ReadM α} (hm : Follows content content' n needs m)
    (hm' : Follows content content' n needs m') :
    Follows content content' n needs (if p then m else m') := by
  split
  · exact hm
  · exact hm'

theorem adaptExcept {m : ReadM α} (f : Error → Error) (h : Follows content content' n needs m) :
    Follows content content' n needs (EStateM.adaptExcept f m) := by
  intro r r' a s habreast hread hkept hneeds
  obtain ⟨hmoved, s', hread', habreast'⟩ :=
    h r r' a s habreast (ReadM.outcome_adaptExcept_eq_ok hread) hkept hneeds
  exact ⟨hmoved, s', ReadM.outcome_adaptExcept_ok f hread', habreast'⟩

/-! ### Readings -/

theorem setOrder (order : ByteOrder) :
    Follows content content' 0 (fun _ => True) (Reader.setOrder order) := by
  intro r r' a s h hread hkept hneeds
  cases hread
  exact ⟨rfl, _, rfl, by simp only [h.cursor_eq], h.backs, h.backs'⟩

theorem order : Follows content content' 0 (fun _ => True) Reader.order := by
  intro r r' order s h hread hkept hneeds
  cases hread
  refine ⟨rfl, r', ?_, h⟩
  rw [← h.cursor_eq]
  rfl

/-- Warnings may name the source; they are noted beside what is read. -/
theorem warn (tell : Reader → Warning) :
    Follows content content' 0 (fun _ => True) (do Reader.warn (tell (← get))) := by
  intro r r' a s h hread hkept hneeds
  cases hread
  exact ⟨rfl, _, rfl, h.cursor_eq, h.backs, h.backs'⟩

/-- A range elsewhere in the content does not move the cursor. The answer needs the range. -/
theorem readAt (offset length : Nat) :
    Follows content content' 0
      (fun bytes => bytes.length = length → Keeps content content' offset length)
      (Reader.readAt offset length) := by
  intro r r' bytes s h hread hkept hneeds
  obtain ⟨source, hbacks, hr⟩ := Reader.outcome_readAt h.backs offset length
  obtain ⟨source', hbacks', hr'⟩ := Reader.outcome_readAt h.backs' offset length
  rw [hr, Prod.mk.injEq] at hread
  obtain ⟨hrange, rfl⟩ := hread
  have hlength : bytes.length = length := by
    obtain ⟨hin, rfl⟩ := rangeOf_eq_ok_iff.mp hrange
    rw [length_slice]
    omega
  rw [(hneeds hlength).rangeOf_eq hrange] at hr'
  exact ⟨rfl, _, hr', h.cursor_eq, hbacks, hbacks'⟩

theorem readBytes (length : Nat) :
    Follows content content' length (fun _ => True) (Reader.readBytes length) := by
  intro r r' bytes t h hread hkept hneeds
  unfold Reader.readBytes at hread ⊢
  rw [ReadM.outcome_bind_ok (ReadM.outcome_get _)] at hread ⊢
  rw [h.cursor_eq]
  obtain ⟨bytes', s, hrange, hseek⟩ := ReadM.outcome_bind_eq_ok hread
  obtain ⟨hmoved, s', hrange', hs⟩ := readAt _ _ r r' bytes' s h hrange
    (hkept.within (Nat.le_refl _) (by omega)) fun _ => hkept
  cases hseek
  refine ⟨rfl, _, ReadM.outcome_bind_ok hrange', ?_, hs.backs, hs.backs'⟩
  simp only [hs.cursor_eq]

theorem readNat (width : Nat) :
    Follows content content' width (fun _ => True) (Reader.readNat width) :=
  (readBytes width).next fun _ => order.next fun _ => pure _

theorem readU16 : Follows content content' 2 (fun _ => True) Reader.readU16 :=
  (readBytes 2).next fun _ => order.next fun _ => pure _

/-! ### Headers and entries -/

theorem readFirst (layout : Layout) :
    Follows content content' layout.slotSize (fun _ => True) (Header.readFirst layout) :=
  (readNat _).next fun first => ite ((throw (n := 0) _).next fun _ => pure first) (pure first)

theorem readWidth : Follows content content' 4 (fun _ => True) Header.readWidth := by
  have hreserved : Follows content content' 2 (fun _ => True) (do
      let reserved ← Reader.readU16
      if reserved ≠ 0 then Reader.warn (.reservedWord (← get).source.name reserved)) :=
    readU16.next fun reserved => ite (warn fun r => .reservedWord r.source.name reserved) (pure ())
  exact readU16.next fun _ => ite ((throw (n := 0) _).next fun _ => hreserved) hreserved

theorem readEntry (layout : Layout) :
    Follows content content' layout.entrySize (fun _ => True) (Entry.read layout) := by
  have h : Follows content content' (2 + (2 + (layout.slotSize + (layout.slotSize + 0))))
      (fun _ => True) (Entry.read layout) :=
    readU16.next fun _ => readU16.next fun _ => (readNat _).next fun _ =>
      (readBytes _).next fun _ => pure _
  cases layout <;> exact h

/-- The layout of a header says how many bytes it has behind the version. -/
theorem readTail (dialect : Dialect) (layout : Layout) :
    Follows content content' (layout.headerSize - 4) (fun header => header.layout = layout)
      (Header.readTail dialect) := by
  intro r r' header s h hread hkept hlayout
  obtain ⟨-, hdialect, -⟩ := Header.of_readTail hread
  obtain rfl : dialect.layout = layout := hdialect.symm.trans hlayout
  have hrest : Follows content content' (dialect.layout.slotSize + 0) (fun _ => True)
      (Header.readRest dialect) :=
    (readFirst _).next fun _ => order.next fun _ => pure _
  have htail : Follows content content' (dialect.layout.headerSize - 4) (fun _ => True)
      (Header.readTail dialect) := by
    rw [Header.readTail_eq]
    split
    · rename_i hclassic
      rwa [hclassic] at hrest ⊢
    · rename_i hbig
      rw [hbig] at hrest ⊢
      exact readWidth.next fun _ => hrest
  exact htail r r' header s h hread hkept trivial

/-! ### Fields -/

theorem readSection (offset length : Nat) :
    Follows content content' 0
      (fun bytes => bytes.length = length → Keeps content content' offset length)
      (Reader.readSection offset length) :=
  ite (throw _) (readAt offset length)

theorem readValue (offset length : Nat) :
    Follows content content' 0
      (fun bytes => bytes.length = length → Keeps content content' offset length)
      (Field.readValue offset length) :=
  ite (readSection offset length) (throw _)

end Follows

/-! ## What is used -/

/-- The range of a value that is not in the slot of its entry. The length tells so, and not the
offset, since a value may lie at the null offset too. -/
def Field.footprint (field : Field) : List (Nat × Nat) :=
  if field.entry.layout.slotSize < field.bytes.length then [(field.offset, field.bytes.length)]
  else []

/-- The ranges of a directory and of the values outside of it. -/
def Directory.footprint (directory : Directory) : List (Nat × Nat) :=
  (directory.offset, directory.byteSpan) :: directory.fields.flatMap Field.footprint

/-- The ranges of a header, and of the directories behind it with their values. -/
def Container.footprint (container : Container) : List (Nat × Nat) :=
  (0, container.header.layout.headerSize) :: container.directories.flatMap Directory.footprint

namespace Follows

variable {content content' : ByteArray} (words : Dictionary) (limits : Limits)

theorem resolve (entry : Entry) :
    Follows content content' 0 (fun field => KeepsAll content content' field.footprint)
      (Field.resolve words limits entry) := by
  unfold Field.resolve
  refine order.next (k := 0) fun fileOrder => ite (throw _) ?_
  split
  · exact pure _
  · rename_i hlarge
    apply ((readValue _ _).adaptExcept _).bind (k := 0) fun bytes => pure _
    intro bytes field r s hpure hkept hlength
    cases hpure
    rw [← hlength]
    apply hkept (entry.offset fileOrder, bytes.length)
    unfold Field.footprint
    rw [if_pos (by simp only; omega)]
    exact List.mem_singleton_self _

theorem readField (layout : Layout) :
    Follows content content' layout.entrySize
      (fun field => KeepsAll content content' field.footprint) (Field.read words limits layout) :=
  (readEntry layout).next fun entry => resolve words limits entry

theorem readFields (layout : Layout) (count : Nat) (table : FieldTable) :
    Follows content content' (count * layout.entrySize)
      (fun table => ∀ field ∈ table.fields.toList, KeepsAll content content' field.footprint)
      (Directory.readFields words limits layout count table) := by
  induction count generalizing table with
  | zero =>
    rw [Nat.zero_mul]
    exact pure _
  | succ count ih =>
    rw [Nat.succ_mul, Nat.add_comm]
    apply (readField words limits layout).bind fun field => ih (table.push field)
    -- the field is one of the fields in the end, so its range is kept with theirs
    intro field table' r s hfields hkept
    obtain ⟨-, hfront⟩ := Directory.of_readFields hfields
    exact hkept field (hfront.subset (by simp [FieldTable.push]))

theorem readRest (layout : Layout) (offset count : Nat) :
    Follows content content' (count * layout.entrySize + layout.linkSize)
      (fun directory => ∀ field ∈ directory.fields, KeepsAll content content' field.footprint)
      (Directory.readRest words limits layout offset count) := by
  have hlink (table : FieldTable) : Follows content content' (layout.linkSize + 0)
      (fun directory => ∀ field ∈ directory.fields, KeepsAll content content' field.footprint) (do
        let next ← Reader.readNat layout.linkSize
        return ({ offset, layout, entryCount := count, table, next } : Directory)) :=
    (readNat _).next fun _ => pure _
  apply (readFields words limits layout count .empty).bind hlink
  intro table directory r s hdirectory hkept
  obtain ⟨next, last, -, hpure⟩ := ReadM.outcome_bind_eq_ok hdirectory
  cases hpure
  exact hkept

end Follows

/-! ## Directories and containers -/

section

variable {content content' : ByteArray} {r r' s : Reader}

/-- A reading that begins at a place of its own. -/
theorem Follows.from_seek {α : Type} {n position : Nat} {needs : α → Prop} {m : ReadM α} {a : α}
    (hm : Follows content content' n needs m) (h : Abreast content content' r r')
    (hread : (Reader.seek position >>= fun _ => m).outcome r = (.ok a, s))
    (hkept : Keeps content content' position n) (hneeds : needs a) :
    ∃ s', (Reader.seek position >>= fun _ => m).outcome r' = (.ok a, s') ∧
      Abreast content content' s s' := by
  rw [ReadM.outcome_bind_ok (Reader.outcome_seek position _)] at hread ⊢
  exact (hm _ _ a s (h.seek position) hread hkept hneeds).2

theorem Header.follows_read {dialects : Dialects} {header : Header}
    (h : Abreast content content' r r') (hread : (read dialects).outcome r = (.ok header, s))
    (hkept : Keeps content content' 0 header.layout.headerSize) :
    ∃ s', (read dialects).outcome r' = (.ok header, s') ∧ Abreast content content' s s' := by
  have hsize : header.layout.headerSize = 2 + (0 + (2 + (header.layout.headerSize - 4))) := by
    cases header.layout <;> rfl
  refine Follows.from_seek (?_ : Follows content content' header.layout.headerSize
    (fun h => h.layout = header.layout) _) h hread hkept rfl
  rw [hsize]
  refine (Follows.readBytes 2).next fun magic => ?_
  split
  · exact .throw _
  · rename_i fileOrder _
    refine (Follows.setOrder fileOrder).next fun _ => Follows.readU16.next fun version => ?_
    split
    · exact .throw _
    · exact .readTail _ _

/-- A directory is read where its range and those of its values are kept. -/
theorem Directory.follows_read {words : Dictionary} {limits : Limits} {layout : Layout}
    {offset : Nat} {directory : Directory} (h : Abreast content content' r r')
    (hread : (read words limits layout offset).outcome r = (.ok directory, s))
    (hkept : KeepsAll content content' directory.footprint) :
    ∃ s', (read words limits layout offset).outcome r' = (.ok directory, s') ∧
      Abreast content content' s s' := by
  obtain ⟨count, middle, hcount, hlimit, hfits, hrest⟩ := steps_of_read hread
  have htable : Keeps content content' offset
      (count * layout.entrySize + (layout.countSize + layout.linkSize)) := by
    rw [← offset_eq_of_read hread, ← byteSpan_of_readRest hfits hrest]
    exact hkept _ (List.mem_cons_self ..)
  have hvalues : ∀ field ∈ directory.fields, KeepsAll content content' field.footprint :=
    fun field hmem => hkept.mono fun range hrange =>
      .tail _ (List.mem_flatMap.mpr ⟨field, hmem, hrange⟩)
  have hfront : Keeps content content' offset layout.countSize :=
    htable.within (Nat.le_refl _) (by omega)
  obtain ⟨hmoved, middle', hcount', hmiddle⟩ :=
    Follows.readNat layout.countSize _ _ _ _ (h.seek offset) hcount hfront trivial
  have hbehind : Keeps content content' middle.cursor.position
      (count * layout.entrySize + layout.linkSize) := by
    rw [hmoved]
    exact htable.within (Nat.le_add_right _ _) (by simp only; omega)
  obtain ⟨-, s', hrest', hs⟩ :=
    Follows.readRest words limits layout offset count _ _ _ _ hmiddle hrest hbehind hvalues
  -- the other content may have another size, but not too small a one for the directory
  have hfits' : fits layout offset count middle'.source.size? = true := by
    rw [hmiddle.backs.size_eq trivial, fits_iff] at hfits
    rw [hmiddle.backs'.size_eq trivial, fits_iff]
    refine ⟨hfits.1, ?_⟩
    intro size hsize
    obtain rfl : content'.size = size := Option.some.inj hsize
    have hlink : 0 < layout.linkSize := by cases layout <;> decide
    exact htable.le_size (hfits.2 _ rfl) (by omega)
  refine ⟨s', ?_, hs⟩
  rw [outcome_read, hcount']
  simp only
  rw [if_neg (by simp [hfits', hlimit]), hrest']

/-- A walk goes along the same chain where the directories that it comes by are kept. -/
theorem Container.follows_walk {words : Dictionary} {limits : Limits} {layout : Layout}
    {left : Nat} {visited : List Nat} {done directories : List Directory} {offset : Nat}
    (h : Abreast content content' r r')
    (hread : (walk words limits layout left visited done offset).outcome r = (.ok directories, s))
    (hkept : ∀ directory ∈ directories, KeepsAll content content' directory.footprint) :
    ∃ s', (walk words limits layout left visited done offset).outcome r' = (.ok directories, s') ∧
      Abreast content content' s s' := by
  induction left generalizing visited done offset r r' with
  | zero =>
    rcases cases_of_walk hread with ⟨rfl, rfl, rfl⟩ | ⟨-, -, _, _, _, hleft, -⟩
    · exact ⟨r', outcome_walk_null, h⟩
    · cases hleft
  | succ left ih =>
    rcases cases_of_walk hread with
      ⟨rfl, rfl, rfl⟩ | ⟨hzero, hfresh, _, directory, middle, hleft, hdirectory, hrest⟩
    · exact ⟨r', outcome_walk_null, h⟩
    · cases hleft
      have hmem : directory ∈ directories := subset_of_walk hrest (List.mem_cons_self ..)
      obtain ⟨middle', hdirectory', hmiddle⟩ :=
        Directory.follows_read h hdirectory (hkept directory hmem)
      rw [outcome_walk_step hzero hfresh hdirectory']
      exact ih hmiddle hrest

theorem Container.follows_read {registry : Registry} {limits : Limits} {container : Container}
    (h : Abreast content content' r r')
    (hread : (read registry limits).outcome r = (.ok container, s))
    (hkept : KeepsAll content content' container.footprint) :
    ∃ s', (read registry limits).outcome r' = (.ok container, s') ∧
      Abreast content content' s s' := by
  obtain ⟨header, directories, middle, hheader, hwalk, rfl⟩ := steps_of_read hread
  obtain ⟨middle', hheader', hmiddle⟩ := Header.follows_read h hheader
    (hkept _ (List.mem_cons_self ..))
  obtain ⟨s', hwalk', hs⟩ := follows_walk hmiddle hwalk fun directory hmem =>
    hkept.mono fun range hrange => .tail _ (List.mem_flatMap.mpr ⟨directory, hmem, hrange⟩)
  refine ⟨s', ?_, hs⟩
  unfold read
  rw [ReadM.outcome_bind_ok hheader', ReadM.outcome_bind_ok hwalk']
  rfl

end

/-- Only used bytes matter. Where a container could be read from a content, the same container is
read from every content, longer or shorter, that has the bytes of its header, of its directories and
of the values outside of them at their places. -/
theorem Container.only_used_bytes_matter (registry : Registry) (limits : Limits)
    (content content' : ByteArray) (name name' : String) (cursor : Cursor) (container : Container)
    (hread : ofSource registry limits (.ofBytes content name) cursor = .ok container)
    (hkept : KeepsAll content content' container.footprint) :
    ofSource registry limits (.ofBytes content' name') cursor = .ok container := by
  have h : Abreast content content' { source := .ofBytes content name, cursor }
      { source := .ofBytes content' name', cursor } :=
    ⟨rfl, Source.backs_ofBytes content name True, Source.backs_ofBytes content' name' True⟩
  obtain ⟨s', hread', -⟩ := follows_read h (Prod.ext hread rfl) hkept
  rw [ofSource, hread']

/-- One directory with a value of five bytes, after a gap of four bytes and before a rest. -/
def gapped (gap rest : Array UInt8) : ByteArray := ⟨#[
  0x49, 0x49, 42, 0, 8, 0, 0, 0,
  1, 0,
  0, 1, 1, 0, 5, 0, 0, 0, 30, 0, 0, 0,
  0, 0, 0, 0] ++ gap ++ #[1, 2, 3, 4, 5] ++ rest⟩

/-- Neither the bytes in a gap matter, nor those behind the last value. -/
theorem Container.only_used_bytes_matter_of_gapped :
    let content := gapped #[0, 0, 0, 0] #[]
    let content' := gapped #[9, 8, 7, 6] #[11, 12, 13]
    ∃ container, ofSource .standard {} (.ofBytes content) = .ok container ∧
      container.footprint = [(0, 8), (8, 18), (30, 5)] ∧
      KeepsAll content content' container.footprint ∧
      ofSource .standard {} (.ofBytes content') = .ok container := by
  intro content content'
  have hfootprint : (ofSource .standard {} (.ofBytes content)).toOption.map footprint =
      some [(0, 8), (8, 18), (30, 5)] := by decide +kernel
  rcases hread : ofSource .standard {} (.ofBytes content) with e | container
  · rw [hread] at hfootprint
    cases hfootprint
  · rw [hread] at hfootprint
    have hranges : container.footprint = [(0, 8), (8, 18), (30, 5)] := Option.some.inj hfootprint
    have hkept : KeepsAll content content' container.footprint := by
      rw [hranges]
      decide +kernel
    exact ⟨container, rfl, hranges, hkept,
      only_used_bytes_matter .standard {} content content' "memory" "memory" {} container hread
        hkept⟩

end Tiff
