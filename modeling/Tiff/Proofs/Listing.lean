-- Directories in memory. The entries stand one behind the other, so the place of
-- each follows from its number, and its value is looked up without leaving the
-- row. A directory is the list of what its entries come to, up to the first one
-- that comes to nothing.

import Tiff.Proofs.Directory
import Tiff.Proofs.Values

namespace Tiff

/-! ## Numbers and entries -/

namespace Reader

/-- A reader with its cursor elsewhere. -/
def movedTo (reader : Reader) (position : Nat) : Reader :=
  { reader with cursor := ⟨reader.cursor.order, position⟩ }

variable {reader : Reader} {content : ByteArray} {position length : Nat}

theorem outcome_readBytes_movedTo (h : reader.source.backing = .memory content)
    (haddress : position + length < addressLimit) (hin : position + length ≤ content.size) :
    (readBytes length).outcome (reader.movedTo position) =
      (.ok (slice content position length), reader.movedTo (position + length)) := by
  have hmoved : (reader.movedTo position).source.backing = .memory content := h
  have hrange : rangeOf content (reader.movedTo position).cursor.position length = _ :=
    rangeOf_eq_ok_iff.mpr ⟨.inr ⟨haddress, hin⟩, rfl⟩
  rw [outcome_readBytes_of_memory hmoved, hrange]
  rfl

theorem outcome_readNat_movedTo (h : reader.source.backing = .memory content)
    (haddress : position + length < addressLimit) (hin : position + length ≤ content.size) :
    (readNat length).outcome (reader.movedTo position) =
      (.ok (reader.cursor.order.read length (slice content position length)),
        reader.movedTo (position + length)) :=
  ReadM.outcome_bind_ok (outcome_readBytes_movedTo h haddress hin)

theorem outcome_readBytes_movedTo_of_out (h : reader.source.backing = .memory content)
    (hpos : 0 < length)
    (hout : ¬ (position + length < addressLimit ∧ position + length ≤ content.size)) :
    (readBytes length).outcome (reader.movedTo position) =
      (.error (.truncated position length), reader.movedTo position) := by
  have hmoved : (reader.movedTo position).source.backing = .memory content := h
  have hrange : rangeOf content (reader.movedTo position).cursor.position length =
      .error (.truncated position length) := by
    rw [rangeOf, if_neg (Nat.ne_of_gt hpos)]
    exact if_neg hout
  rw [outcome_readBytes_of_memory hmoved, hrange]

theorem outcome_readNat_movedTo_of_out (h : reader.source.backing = .memory content)
    (hpos : 0 < length)
    (hout : ¬ (position + length < addressLimit ∧ position + length ≤ content.size)) :
    (readNat length).outcome (reader.movedTo position) =
      (.error (.truncated position length), reader.movedTo position) :=
  ReadM.outcome_bind_error (outcome_readBytes_movedTo_of_out h hpos hout)

theorem outcome_readU16_movedTo (h : reader.source.backing = .memory content)
    (haddress : position + 2 < addressLimit) (hin : position + 2 ≤ content.size) :
    readU16.outcome (reader.movedTo position) =
      (.ok (reader.cursor.order.readU16 (slice content position 2)),
        reader.movedTo (position + 2)) :=
  ReadM.outcome_bind_ok (outcome_readBytes_movedTo h haddress hin)

end Reader

/-- The entry that stands at a position of a content. -/
def Entry.inContent (content : ByteArray) (order : ByteOrder) (layout : Layout) (position : Nat) :
    Entry where
  layout := layout
  tag := order.readU16 (slice content position 2)
  type := order.readU16 (slice content (position + 2) 2)
  count := order.read layout.slotSize (slice content (position + 4) layout.slotSize)
  slot := slice content (position + 4 + layout.slotSize) layout.slotSize

section

variable {reader : Reader} {content : ByteArray} {layout : Layout} {position : Nat}

theorem Entry.outcome_read (h : reader.source.backing = .memory content)
    (haddress : position + layout.entrySize < addressLimit)
    (hin : position + layout.entrySize ≤ content.size) :
    (read layout).outcome (reader.movedTo position) =
      (.ok (inContent content reader.cursor.order layout position),
        reader.movedTo (position + layout.entrySize)) := by
  have hsize : layout.entrySize = 4 + layout.slotSize + layout.slotSize := by cases layout <;> rfl
  unfold read
  rw [ReadM.outcome_bind_ok (Reader.outcome_readU16_movedTo h (by omega) (by omega)),
    ReadM.outcome_bind_ok (Reader.outcome_readU16_movedTo h (by omega) (by omega)),
    ReadM.outcome_bind_ok (Reader.outcome_readNat_movedTo h (by omega) (by omega)),
    ReadM.outcome_bind_ok (Reader.outcome_readBytes_movedTo h (by omega) (by omega))]
  cases layout <;> rfl

theorem Field.entry_of_resolved {words : Dictionary} {limits : Limits} {order : ByteOrder}
    {entry : Entry} {field : Field} (h : resolved words limits content order entry = .ok field) :
    field.entry = entry := by
  unfold resolved at h
  simp only at h
  split at h
  · cases h
  · split at h
    · cases h
      rfl
    · split at h <;> cases h
      rfl

/-- Behind an entry the cursor stands at the next one, wherever the value is and even if it is
not there. -/
theorem Field.outcome_read (h : reader.source.backing = .memory content) (words : Dictionary)
    (limits : Limits) (haddress : position + layout.entrySize < addressLimit)
    (hin : position + layout.entrySize ≤ content.size) :
    (read words limits layout).outcome (reader.movedTo position) =
      (resolved words limits content reader.cursor.order
          (.inContent content reader.cursor.order layout position),
        reader.movedTo (position + layout.entrySize)) := by
  have hbehind : (reader.movedTo (position + layout.entrySize)).source.backing =
      .memory content := h
  unfold read
  rw [ReadM.outcome_bind_ok (Entry.outcome_read h haddress hin)]
  exact outcome_resolve hbehind words limits _

end

/-! ## Answers in a row -/

/-- The fields are what numbered requests were answered, one by one. -/
def Answered (answer : Nat → Except Error Field) (fields : List Field) : Prop :=
  ∀ i field, fields[i]? = some field → answer i = .ok field

/-- The first of the requests up to a number that fails does so with this error. -/
def FailsFirst (answer : Nat → Except Error Field) (count : Nat) (e : Error) : Prop :=
  ∃ i < count, (∀ j < i, ∃ field, answer j = .ok field) ∧ answer i = .error e

section

variable {answer : Nat → Except Error Field} {fields : List Field} {field : Field} {count : Nat}
  {e : Error}

theorem Answered.nil : Answered answer [] := fun i _ hfield => by
  rw [List.getElem?_nil] at hfield
  cases hfield

theorem Answered.cons (hfirst : answer 0 = .ok field)
    (hrest : Answered (fun i => answer (i + 1)) fields) : Answered answer (field :: fields) := by
  intro i other hother
  cases i with
  | zero =>
    rw [List.getElem?_cons_zero, Option.some.injEq] at hother
    exact hother ▸ hfirst
  | succ i => exact hrest i other hother

theorem Answered.exists_eq_ok (h : Answered answer fields) {i : Nat} (hi : i < fields.length) :
    ∃ field, answer i = .ok field :=
  ⟨fields[i], h i fields[i] (List.getElem?_eq_getElem hi)⟩

theorem FailsFirst.cons (hfirst : answer 0 = .ok field)
    (hrest : FailsFirst (fun i => answer (i + 1)) count e) : FailsFirst answer (count + 1) e := by
  obtain ⟨i, hi, hbefore, herror⟩ := hrest
  refine ⟨i + 1, Nat.succ_lt_succ hi, fun j hj => ?_, herror⟩
  cases j with
  | zero => exact ⟨field, hfirst⟩
  | succ j => exact hbefore j (Nat.lt_of_succ_lt_succ hj)

/-- There is one first failure. -/
theorem FailsFirst.unique {e' : Error} (h : FailsFirst answer count e)
    (h' : FailsFirst answer count e') : e = e' := by
  obtain ⟨i, -, hbefore, herror⟩ := h
  obtain ⟨i', -, hbefore', herror'⟩ := h'
  rcases Nat.lt_trichotomy i i' with hlt | rfl | hlt
  · obtain ⟨field, hok⟩ := hbefore' i hlt
    rw [hok] at herror
    cases herror
  · rw [herror] at herror'
    cases herror'
    rfl
  · obtain ⟨field, hok⟩ := hbefore i' hlt
    rw [hok] at herror'
    cases herror'

theorem FailsFirst.not_all (h : FailsFirst answer count e) :
    ¬ ∀ i < count, ∃ field, answer i = .ok field := by
  obtain ⟨i, hi, -, herror⟩ := h
  intro hall
  obtain ⟨field, hok⟩ := hall i hi
  rw [hok] at herror
  cases herror

end

namespace Directory

/-! ## The row of entries -/

section

variable (words : Dictionary) (limits : Limits) (content : ByteArray) (order : ByteOrder)
  (layout : Layout)

/-- What the entry with a number comes to, if the first one stands at a position. -/
def listed (position i : Nat) : Except Error Field :=
  Field.resolved words limits content order
    (.inContent content order layout (position + i * layout.entrySize))

theorem listed_zero (position : Nat) :
    listed words limits content order layout position 0 =
      Field.resolved words limits content order (.inContent content order layout position) := by
  rw [listed, Nat.zero_mul, Nat.add_zero]

/-- Behind the first entry the row begins anew. -/
theorem listed_succ (position : Nat) :
    (fun i => listed words limits content order layout position (i + 1)) =
      listed words limits content order layout (position + layout.entrySize) := by
  funext i
  unfold listed
  rw [Nat.succ_mul, Nat.add_right_comm, Nat.add_assoc]

variable {words limits content layout} {reader : Reader}

/-- A row of entries is read to its end, or to the first one that comes to nothing. -/
theorem outcome_readFields (h : reader.source.backing = .memory content) (count : Nat)
    (table : FieldTable) (position : Nat)
    (haddress : position + count * layout.entrySize < addressLimit)
    (hin : position + count * layout.entrySize ≤ content.size) :
    let answer := listed words limits content reader.cursor.order layout position
    let reading := (readFields words limits layout count table).outcome (reader.movedTo position)
    (∃ fields, fields.length = count ∧ Answered answer fields ∧
      reading = (.ok (table.append fields),
        reader.movedTo (position + count * layout.entrySize))) ∨
    ∃ e, FailsFirst answer count e ∧ reading.1 = .error e := by
  induction count generalizing table position with
  | zero =>
    exact .inl ⟨[], rfl, .nil, by simp [readFields, Reader.movedTo, FieldTable.append]⟩
  | succ count ih =>
    intro answer reading
    rw [Nat.succ_mul] at haddress hin
    have hread : (Field.read words limits layout).outcome (reader.movedTo position) =
        (answer 0, reader.movedTo (position + layout.entrySize)) := by
      rw [Field.outcome_read h words limits (by omega) (by omega), ← listed_zero]
    rcases hfirst : answer 0 with e | field <;> rw [hfirst] at hread
    · exact .inr ⟨e, ⟨0, Nat.succ_pos count, fun j hj => absurd hj (Nat.not_lt_zero j), hfirst⟩,
        congrArg Prod.fst (ReadM.outcome_bind_error hread)⟩
    · have hreading : reading = _ := ReadM.outcome_bind_ok hread
      rw [hreading]
      rcases ih (table.push field) (position + layout.entrySize) (by omega) (by omega) with
        ⟨fields, hlength, hanswered, hrest⟩ | ⟨e, hfails, hrest⟩
      · rw [← listed_succ] at hanswered
        have hend : position + layout.entrySize + count * layout.entrySize =
            position + (count * layout.entrySize + layout.entrySize) := by omega
        refine .inl ⟨field :: fields, congrArg Nat.succ hlength, hanswered.cons hfirst, ?_⟩
        rw [hrest, hend, Nat.succ_mul]
        rfl
      · rw [← listed_succ] at hfails
        exact .inr ⟨e, hfails.cons hfirst, hrest⟩

/-! ## Around the row -/

variable {offset : Nat}

theorem outcome_read_of_not_counted (h : reader.source.backing = .memory content)
    (hout : ¬ (offset + layout.countSize < addressLimit ∧
      offset + layout.countSize ≤ content.size)) :
    ((read words limits layout offset).outcome reader).1 =
      .error (.truncated offset layout.countSize) := by
  have hpos : 0 < layout.countSize := by cases layout <;> decide
  have hcount := Reader.outcome_readNat_movedTo_of_out h hpos hout
  unfold read
  rw [ReadM.outcome_bind_ok (Reader.outcome_seek offset reader)]
  exact congrArg Prod.fst (ReadM.outcome_bind_error hcount)

/-- Behind the number of entries it is decided whether they fit. -/
theorem outcome_read_of_counted (h : reader.source.backing = .memory content)
    (hcounted : offset + layout.countSize < addressLimit ∧
      offset + layout.countSize ≤ content.size) :
    let count := reader.cursor.order.read layout.countSize (slice content offset layout.countSize)
    let span := count * layout.entrySize + (layout.countSize + layout.linkSize)
    (read words limits layout offset).outcome reader =
      if count ≤ limits.entries ∧ offset + span < addressLimit ∧ offset + span ≤ content.size then
        (readRest words limits layout offset count).outcome
          (reader.movedTo (offset + layout.countSize))
      else
        (.error (.directoryTooLarge offset count),
          reader.movedTo (offset + layout.countSize)) := by
  intro count span
  have hcount := Reader.outcome_readNat_movedTo h hcounted.1 hcounted.2
  have hsize : (reader.movedTo (offset + layout.countSize)).source.size? = some content.size := by
    simp only [Reader.movedTo, Source.size?, h]
  have hfits : fits layout offset count (some content.size) = true ↔
      offset + span < addressLimit ∧ offset + span ≤ content.size := by
    rw [fits_iff]
    simp [span]
  have hrefused :
      (limits.entries < count ∨ (!fits layout offset count (some content.size)) = true) ↔
      ¬ (count ≤ limits.entries ∧ offset + span < addressLimit ∧ offset + span ≤ content.size) := by
    rw [Bool.not_eq_true', ← Bool.not_eq_true, hfits]
    omega
  unfold read
  rw [ReadM.outcome_bind_ok (Reader.outcome_seek offset reader)]
  refine (ReadM.outcome_bind_ok hcount).trans ?_
  rw [ReadM.outcome_bind_ok (ReadM.outcome_get _), hsize]
  by_cases hfitting : count ≤ limits.entries ∧ offset + span < addressLimit ∧
      offset + span ≤ content.size
  · rw [if_pos hfitting, if_neg (fun hrefuse => hrefused.mp hrefuse hfitting)]
    rfl
  · rw [if_neg hfitting, if_pos (hrefused.mpr hfitting)]
    rfl

/-- A row that fits is read to the link behind it, or to the first entry that comes to nothing. -/
theorem outcome_readRest (h : reader.source.backing = .memory content) {count : Nat}
    (haddress : offset + (count * layout.entrySize + (layout.countSize + layout.linkSize)) <
      addressLimit)
    (hin : offset + (count * layout.entrySize + (layout.countSize + layout.linkSize)) ≤
      content.size) :
    let answer := listed words limits content reader.cursor.order layout (offset + layout.countSize)
    let reading := (readRest words limits layout offset count).outcome
      (reader.movedTo (offset + layout.countSize))
    (∃ fields, fields.length = count ∧ Answered answer fields ∧
      reading = (.ok {
          offset, layout
          entryCount := count
          table := .ofList fields
          next := reader.cursor.order.read layout.linkSize (slice content
            (offset + layout.countSize + count * layout.entrySize) layout.linkSize) },
        reader.movedTo
          (offset + (count * layout.entrySize + (layout.countSize + layout.linkSize))))) ∨
    ∃ e, FailsFirst answer count e ∧ reading.1 = .error e := by
  intro answer reading
  let link := offset + layout.countSize + count * layout.entrySize
  have hend : link + layout.linkSize =
      offset + (count * layout.entrySize + (layout.countSize + layout.linkSize)) := by omega
  have hnext := Reader.outcome_readNat_movedTo h (hend ▸ haddress) (hend ▸ hin)
  rcases outcome_readFields h count .empty (offset + layout.countSize)
      (Nat.lt_of_le_of_lt (Nat.le_add_right link layout.linkSize) (hend ▸ haddress))
      (Nat.le_trans (Nat.le_add_right link layout.linkSize) (hend ▸ hin)) with
    ⟨fields, hlength, hanswered, hrow⟩ | ⟨e, hfails, hrow⟩
  · refine .inl ⟨fields, hlength, hanswered, ?_⟩
    calc reading
        = _ := ReadM.outcome_bind_ok hrow
      _ = _ := ReadM.outcome_bind_ok hnext
      _ = _ := by rw [hend]; rfl
  · refine .inr ⟨e, hfails, ?_⟩
    exact congrArg Prod.fst (ReadM.outcome_bind_error (Prod.ext hrow rfl))

end

/-! ## Looking up a tag -/

section

variable (directory : Directory) (tag : UInt16)

/-- The field of a tag is the last one that has it, because that is where the index leads. -/
theorem field?_eq_some_iff (field : Field) :
    directory.field? tag = some field ↔ field.tagId = tag ∧
      ∃ front back, directory.fields = front ++ field :: back ∧
        ∀ later ∈ back, later.tagId ≠ tag := by
  rw [field?_eq_findRev?, List.findRev?_eq_find?_reverse, List.find?_eq_some_iff_append,
    beq_iff_eq]
  refine and_congr_right fun _ => ⟨?_, ?_⟩
  · rintro ⟨back, front, hsplit, hback⟩
    refine ⟨front.reverse, back.reverse, ?_, fun later hlater => ?_⟩
    · rw [← List.reverse_reverse directory.fields, hsplit]
      simp
    · simpa using hback later (List.mem_reverse.mp hlater)
  · rintro ⟨front, back, hsplit, hback⟩
    refine ⟨back.reverse, front.reverse, by simp [hsplit], fun later hlater => ?_⟩
    simpa using hback later (List.mem_reverse.mp hlater)

theorem has_iff : directory.has tag = true ↔ ∃ field ∈ directory.fields, field.tagId = tag := by
  rw [has_eq_isSome_field?, field?_eq_findRev?, List.findRev?_eq_find?_reverse, List.find?_isSome]
  simp

end

theorem pairwise_tagIds (directory : Directory) : directory.tagIds.Pairwise (· < ·) := by
  exact (Std.TreeMap.ordered_keys (t := directory.table.index)).imp Std.compare_eq_lt.mp

theorem mem_tagIds {directory : Directory} {tag : UInt16} :
    tag ∈ directory.tagIds ↔ directory.has tag = true := by
  rw [tagIds, Std.TreeMap.mem_keys, has, Std.TreeMap.contains_iff_mem]

/-! ## Directories -/

/-- A directory in memory can be read just if the number of its entries is there, if so many of
them fit, and if every entry comes to a field on its own; otherwise the first of these that does
not hold is reported. The directory has the fields of its entries in their order, the link behind
them, and the cursor stands behind that. The last field with a tag is the one that is found. -/
theorem a_directory_is_read_entry_by_entry (words : Dictionary) (limits : Limits)
    (layout : Layout) (offset : Nat) (content : ByteArray) (name : String) (cursor : Cursor)
    (warnings : List Warning) :
    let reader : Reader := { source := .ofBytes content name, cursor, warnings }
    let reading := (read words limits layout offset).outcome reader
    let number (position width : Nat) := cursor.order.read width (slice content position width)
    let count := number offset layout.countSize
    let span := count * layout.entrySize + (layout.countSize + layout.linkSize)
    let entry (i : Nat) := Entry.inContent content cursor.order layout
      (offset + layout.countSize + i * layout.entrySize)
    let answer (i : Nat) := ((Field.resolve words limits (entry i)).outcome reader).1
    let counted := offset + layout.countSize < addressLimit ∧
      offset + layout.countSize ≤ content.size
    let fitting := count ≤ limits.entries ∧ offset + span < addressLimit ∧
      offset + span ≤ content.size
    ((∃ directory, reading.1 = .ok directory) ↔
      counted ∧ fitting ∧ ∀ i < count, ∃ field, answer i = .ok field) ∧
    (¬ counted → reading.1 = .error (.truncated offset layout.countSize)) ∧
    (counted → ¬ fitting → reading.1 = .error (.directoryTooLarge offset count)) ∧
    (counted → fitting → ∀ e, FailsFirst answer count e → reading.1 = .error e) ∧
    ∀ directory, reading.1 = .ok directory →
      directory.offset = offset ∧ directory.layout = layout ∧ directory.entryCount = count ∧
      directory.fields.length = count ∧
      (∀ i field, directory.fields[i]? = some field →
        answer i = .ok field ∧ field.entry = entry i) ∧
      directory.next =
        number (offset + layout.countSize + count * layout.entrySize) layout.linkSize ∧
      layout.span? count = some span ∧ directory.byteSpan = span ∧
      reading.2 = { reader with cursor := ⟨cursor.order, offset + directory.byteSpan⟩ } ∧
      (∀ tag field, directory.field? tag = some field ↔ field.tagId = tag ∧
        ∃ front back, directory.fields = front ++ field :: back ∧
          ∀ later ∈ back, later.tagId ≠ tag) ∧
      (∀ tag, directory.has tag = true ↔ ∃ field ∈ directory.fields, field.tagId = tag) ∧
      directory.tagIds.Pairwise (· < ·) ∧
      ∀ tag, tag ∈ directory.tagIds ↔ directory.has tag = true := by
  intro reader reading number count span entry answer counted fitting
  have hmemory : reader.source.backing = .memory content := rfl
  have hanswer : answer = listed words limits content cursor.order layout
      (offset + layout.countSize) := by
    funext i
    exact congrArg Prod.fst (Field.outcome_resolve hmemory words limits (entry i))
  let next := number (offset + layout.countSize + count * layout.entrySize) layout.linkSize
  have huncounted : ¬ counted → reading.1 = .error (.truncated offset layout.countSize) :=
    outcome_read_of_not_counted hmemory
  have hunfit : counted → ¬ fitting → reading.1 = .error (.directoryTooLarge offset count) := by
    intro hcounted hnot
    have hreading : reading = _ := outcome_read_of_counted hmemory hcounted
    rw [hreading, if_neg hnot]
  have hrow : counted → fitting →
      (∃ fields, fields.length = count ∧ Answered answer fields ∧
        reading = (.ok { offset, layout, entryCount := count, table := .ofList fields, next },
          reader.movedTo (offset + span))) ∨
      ∃ e, FailsFirst answer count e ∧ reading.1 = .error e := by
    intro hcounted hfitting
    have hreading : reading = _ := outcome_read_of_counted hmemory hcounted
    rw [if_pos hfitting] at hreading
    rw [hreading, hanswer]
    exact outcome_readRest hmemory hfitting.2.1 hfitting.2.2
  -- a directory comes from the one branch that does not fail
  have hread : ∀ directory, reading.1 = .ok directory → counted ∧ fitting ∧
      ∃ fields, fields.length = count ∧ Answered answer fields ∧
        reading = (.ok { offset, layout, entryCount := count, table := .ofList fields, next },
          reader.movedTo (offset + span)) := by
    intro directory hok
    by_cases hcounted : counted
    · by_cases hfitting : fitting
      · rcases hrow hcounted hfitting with hfields | ⟨e, -, herror⟩
        · exact ⟨hcounted, hfitting, hfields⟩
        · rw [herror] at hok
          cases hok
      · rw [hunfit hcounted hfitting] at hok
        cases hok
    · rw [huncounted hcounted] at hok
      cases hok
  refine ⟨⟨?_, ?_⟩, huncounted, hunfit, ?_, ?_⟩
  · rintro ⟨directory, hok⟩
    obtain ⟨hcounted, hfitting, fields, hlength, hanswered, -⟩ := hread directory hok
    exact ⟨hcounted, hfitting, fun i hi => hanswered.exists_eq_ok (hlength ▸ hi)⟩
  · rintro ⟨hcounted, hfitting, hall⟩
    rcases hrow hcounted hfitting with ⟨fields, -, -, hok⟩ | ⟨e, hfails, -⟩
    · exact ⟨_, congrArg Prod.fst hok⟩
    · exact absurd hall hfails.not_all
  · intro hcounted hfitting e hfails
    rcases hrow hcounted hfitting with ⟨fields, hlength, hanswered, -⟩ | ⟨e', hfails', herror⟩
    · exact absurd (fun i hi => hanswered.exists_eq_ok (hlength ▸ hi)) hfails.not_all
    · rw [herror, hfails.unique hfails']
  · intro directory hok
    obtain ⟨-, ⟨-, haddress, -⟩, fields, hlength, hanswered, hreading⟩ := hread directory hok
    rw [hreading, Except.ok.injEq] at hok
    subst hok
    let directory : Directory :=
      { offset, layout, entryCount := count, table := .ofList fields, next }
    have hfields : directory.fields = fields := FieldTable.toList_fields_ofList fields
    have hlt : directory.entryCount * directory.layout.entrySize +
        (directory.layout.countSize + directory.layout.linkSize) < addressLimit :=
      Nat.lt_of_le_of_lt (Nat.le_add_left span offset) haddress
    obtain ⟨hspan, hbyteSpan⟩ := byteSpan_of_lt hlt
    rw [hbyteSpan] at hspan
    refine ⟨rfl, rfl, rfl, (congrArg List.length hfields).trans hlength,
      fun i field hfield => ?_, rfl, hspan, hbyteSpan, ?_, field?_eq_some_iff _, has_iff _,
      pairwise_tagIds _, fun _ => mem_tagIds⟩
    · rw [show _ = fields from hfields] at hfield
      have hfound := hanswered i field hfield
      have hlisted : listed words limits content cursor.order layout
          (offset + layout.countSize) i = .ok field := hanswer ▸ hfound
      exact ⟨hfound, Field.entry_of_resolved hlisted⟩
    · rw [hreading, hbyteSpan]
      rfl

/-- A directory whose two entries have one tag, the value of the second one behind the link. -/
def twice : ByteArray := ⟨#[
  2, 0,
  0, 1, 1, 0, 1, 0, 0, 0, 10, 0, 0, 0,
  0, 1, 1, 0, 5, 0, 0, 0, 30, 0, 0, 0,
  0, 0, 0, 0,
  1, 2, 3, 4, 5]⟩

/-- The cursor comes to stand behind the link, not behind the value that was read last, and the
second field is the one that is found. -/
theorem a_directory_is_read_entry_by_entry_of_twice :
    let words : Dictionary := { tag := .unknown, type := .unknown }
    let reading := (read words {} .classic 0).outcome { source := .ofBytes twice }
    ∃ directory, reading.1 = .ok directory ∧ directory.entryCount = 2 ∧ directory.next = 0 ∧
      directory.byteSpan = 30 ∧ reading.2.cursor.position = 30 ∧
      (directory.field? 256).map (fun field => field.count) = some 5 := by
  intro words reading
  obtain ⟨hok, -, -, -, hread⟩ :=
    a_directory_is_read_entry_by_entry words {} .classic 0 twice "memory" {} []
  let answer (i : Nat) := ((Field.resolve words {} (.inContent twice .little .classic
    (2 + i * 12))).outcome { source := .ofBytes twice }).1
  have hsome : ∀ i < 2, (answer i).toOption.isSome = true := by decide +kernel
  have hall : ∀ i < 2, ∃ field, answer i = .ok field := by
    intro i hi
    have hi := hsome i hi
    cases hanswer : answer i with
    | ok field => exact ⟨field, rfl⟩
    | error e =>
      rw [hanswer] at hi
      cases hi
  obtain ⟨directory, hdirectory⟩ := hok.mpr ⟨by decide +kernel, by decide +kernel, hall⟩
  obtain ⟨-, -, hcount, hlength, hfields, hnext, -, hspan, hafter, hfound, -⟩ :=
    hread directory hdirectory
  have hcount : directory.entryCount = 2 := hcount.trans (by decide +kernel)
  have hlength : directory.fields.length = 2 := hlength.trans (by decide +kernel)
  have hspan : directory.byteSpan = 30 := hspan.trans (by decide +kernel)
  refine ⟨directory, hdirectory, hcount, hnext.trans (by decide +kernel), hspan, ?_, ?_⟩
  · rw [show reading.2 = _ from hafter, hspan]
  · obtain ⟨first, second, hpair⟩ : ∃ first second, directory.fields = [first, second] := by
      match hfields : directory.fields, hlength with
      | [first, second], _ => exact ⟨first, second, rfl⟩
    obtain ⟨-, hentry⟩ := hfields 1 second (by rw [hpair]; rfl)
    have hlast : directory.field? 256 = some second :=
      (hfound 256 second).mpr ⟨(congrArg Entry.tag hentry).trans (by decide +kernel),
        [first], [], hpair, nofun⟩
    rw [hlast, Option.map_some]
    exact congrArg some ((congrArg Entry.count hentry).trans (by decide +kernel))

end Directory

end Tiff
