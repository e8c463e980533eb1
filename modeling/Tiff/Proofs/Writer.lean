-- Writing files. A file is a header and one table after another, each linked to
-- the next. A payload that fits stands in the slot of its entry; the others of a
-- directory follow its table, padded to an even length.

import Tiff.Container
import Tiff.Proofs.Spelling
import Tiff.Proofs.StandardTypes

namespace Tiff

/-! ## Payloads -/

/-- The payload of an entry to be written. -/
inductive Elements where
  | shorts (elements : List UInt16)
  | longs (elements : List UInt32)
  | long8s (elements : List UInt64)
  | rationals (elements : List Rational)
  /-- Bytes as they are, with a type and a number of elements. -/
  | raw (type : UInt16) (count : Nat) (bytes : List UInt8)
  deriving DecidableEq, Repr

namespace Elements

def type : Elements → UInt16
  | shorts _ => Coding.short.id
  | longs _ => Coding.long.id
  | long8s _ => Coding.long8.id
  | rationals _ => Coding.rational.id
  | raw type _ _ => type

def count : Elements → Nat
  | shorts xs => xs.length
  | longs xs => xs.length
  | long8s xs => xs.length
  | rationals xs => xs.length
  | raw _ count _ => count

/-- A fraction in bytes: the numerator, then the denominator. -/
def spellRational (order : ByteOrder) (x : Rational) : List UInt8 :=
  order.toBytes 4 x.numerator.toNat ++ order.toBytes 4 x.denominator.toNat

def bytes (order : ByteOrder) : Elements → List UInt8
  | shorts xs => xs.flatMap fun x => order.toBytes 2 x.toNat
  | longs xs => xs.flatMap fun x => order.toBytes 4 x.toNat
  | long8s xs => xs.flatMap fun x => order.toBytes 8 x.toNat
  | rationals xs => xs.flatMap (spellRational order)
  | raw _ _ bytes => bytes

/-- The value that the elements are. What raw bytes are is up to their type. -/
def value (words : Dictionary) (order : ByteOrder) : Elements → Value
  | shorts xs => .short xs
  | longs xs => .long xs
  | long8s xs => .long8 xs
  | rationals xs => .rational xs
  | raw type _ bytes => (words.type type).decode order bytes

/-- Fractions have a denominator, and raw bytes are as many as their elements take. -/
def WellFormed (words : Dictionary) : Elements → Prop
  | rationals xs => ∀ x ∈ xs, x.denominator ≠ 0
  | raw type count bytes => count * (words.type type).size = bytes.length
  | _ => True

instance (words : Dictionary) (elements : Elements) : Decidable (elements.WellFormed words) :=
  match elements with
  | shorts _ | longs _ | long8s _ => .isTrue trivial
  | rationals xs => inferInstanceAs (Decidable (∀ x ∈ xs, x.denominator ≠ 0))
  | raw type count bytes =>
    inferInstanceAs (Decidable (count * (words.type type).size = bytes.length))

end Elements

/-- Pieces of one width fall apart again into these pieces. -/
theorem groups_flatMap {α : Type} {width : Nat} (hwidth : 0 < width) {spell : α → List UInt8}
    (hspell : ∀ x, (spell x).length = width) (xs : List α) :
    groups width (xs.flatMap spell) = xs.map spell := by
  induction xs with
  | nil => exact groups_of_lt hwidth
  | cons x xs ih =>
    have hlong : width ≤ ((x :: xs).flatMap spell).length := by
      rw [List.flatMap_cons, List.length_append, hspell]
      omega
    rw [groups_cons hwidth hlong, List.flatMap_cons, List.take_left' (hspell x),
      List.drop_left' (hspell x), ih, List.map_cons]

theorem length_flatMap_const {α : Type} {width : Nat} {spell : α → List UInt8}
    (hspell : ∀ x, (spell x).length = width) (xs : List α) :
    (xs.flatMap spell).length = xs.length * width := by
  induction xs with
  | nil => simp
  | cons x xs ih =>
    rw [List.flatMap_cons, List.length_append, hspell, ih, List.length_cons, Nat.succ_mul]
    omega

namespace Elements

variable {words : Dictionary} {elements : Elements}

theorem length_spellRational (order : ByteOrder) (x : Rational) :
    (spellRational order x).length = 8 := by
  simp [spellRational]

/-- The bytes are as many as the elements of the type take. -/
theorem count_mul_size (hwords : words.KnowsCodings) (h : elements.WellFormed words)
    (order : ByteOrder) :
    elements.count * (words.type elements.type).size = (elements.bytes order).length := by
  cases elements with
  | shorts xs =>
    rw [type, hwords .short]
    exact (length_flatMap_const (fun x => order.length_toBytes 2 x.toNat) xs).symm
  | longs xs =>
    rw [type, hwords .long]
    exact (length_flatMap_const (fun x => order.length_toBytes 4 x.toNat) xs).symm
  | long8s xs =>
    rw [type, hwords .long8]
    exact (length_flatMap_const (fun x => order.length_toBytes 8 x.toNat) xs).symm
  | rationals xs =>
    rw [type, hwords .rational]
    exact (length_flatMap_const (length_spellRational order) xs).symm
  | raw id count bytes => exact h

/-- The bytes are decoded into the elements that were written. -/
theorem decode_bytes (hwords : words.KnowsCodings) (h : elements.WellFormed words)
    (order : ByteOrder) :
    (words.type elements.type).decode order (elements.bytes order) =
      elements.value words order := by
  cases elements with
  | shorts xs =>
    rw [type, hwords .short]
    simp [Coding.fieldType, Coding.decode, bytes, value, groups_flatMap, Function.comp_def,
      ByteOrder.readU16_toBytes]
  | longs xs =>
    rw [type, hwords .long]
    simp [Coding.fieldType, Coding.decode, bytes, value, groups_flatMap, Function.comp_def,
      ByteOrder.readU32_toBytes]
  | long8s xs =>
    rw [type, hwords .long8]
    simp [Coding.fieldType, Coding.decode, bytes, value, groups_flatMap, Function.comp_def,
      ByteOrder.readU64_toBytes]
  | rationals xs =>
    rw [type, hwords .rational]
    have hmake : ∀ x ∈ xs, Rational.make (order.readU32 (spellRational order x))
        (order.readU32 ((spellRational order x).drop 4)) = x := by
      intro x hx
      rw [spellRational, List.drop_left' (order.length_toBytes 4 _), order.readU32_toBytes_append,
        order.readU32_toBytes, Rational.make, if_neg (h x hx)]
    have hgroups := groups_flatMap (by decide) (length_spellRational order) xs
    simp only [Coding.fieldType, Coding.decode, bytes, value, hgroups, List.map_map,
      Function.comp_def]
    rw [List.map_congr_left hmake, List.map_id']
  | raw id count bytes => rfl

end Elements

/-! ## Entries -/

structure Draft where
  tag : UInt16
  elements : Elements
  deriving DecidableEq, Repr

namespace Draft

variable (order : ByteOrder) (layout : Layout) (draft : Draft)

def bytes : List UInt8 := draft.elements.bytes order

def isInline : Bool := decide ((draft.bytes order).length ≤ layout.slotSize)

/-- The slot: the payload, from the left, or else the place where it stands. -/
def slot (place : Nat) : List UInt8 :=
  if draft.isInline order layout then (draft.bytes order).rightpad layout.slotSize 0
  else order.toBytes layout.slotSize place

def entryBytes (place : Nat) : List UInt8 :=
  order.toBytes 2 draft.tag.toNat ++ (order.toBytes 2 draft.elements.type.toNat ++
    (order.toBytes layout.slotSize draft.elements.count ++ draft.slot order layout place))

/-- What stands behind the table for the entry. -/
def deferred : List UInt8 :=
  if draft.isInline order layout then []
  else draft.bytes order ++ List.replicate ((draft.bytes order).length % 2) 0

/-- The entries of a directory, each with the place for its payload; the first place is given. -/
def placed : Nat → List Draft → List (Draft × Nat)
  | _, [] => []
  | place, draft :: drafts =>
    (draft, place) :: placed (place + (draft.deferred order layout).length) drafts

theorem isInline_iff : draft.isInline order layout = true ↔
    (draft.bytes order).length ≤ layout.slotSize := decide_eq_true_iff

theorem length_slot (place : Nat) : (draft.slot order layout place).length = layout.slotSize := by
  unfold slot
  split
  · rename_i hinline
    rw [isInline_iff] at hinline
    simp [List.rightpad]
    omega
  · simp

theorem length_entryBytes (place : Nat) :
    (draft.entryBytes order layout place).length = layout.entrySize := by
  unfold entryBytes
  simp only [List.length_append, ByteOrder.length_toBytes, length_slot]
  cases layout <;> rfl

variable {order layout draft}

theorem map_fst_placed (place : Nat) (drafts : List Draft) :
    (placed order layout place drafts).map Prod.fst = drafts := by
  induction drafts generalizing place with
  | nil => rfl
  | cons draft drafts ih => rw [placed, List.map_cons, ih]

/-- A payload that does not fit stands at its place, where what is deferred stands from the first
place on. -/
theorem spelled_of_placed {content : ByteArray} {start : Nat} {drafts : List Draft} {place : Nat}
    (h : Spelled content start (drafts.flatMap (deferred order layout)))
    (hplaced : (draft, place) ∈ placed order layout start drafts)
    (hout : draft.isInline order layout = false) :
    start ≤ place ∧ Spelled content place (draft.bytes order) := by
  induction drafts generalizing start with
  | nil => cases hplaced
  | cons first drafts ih =>
    rw [List.flatMap_cons] at h
    obtain ⟨hfirst, hrest⟩ := h.append
    rcases List.mem_cons.mp hplaced with hhead | htail
    · cases hhead
      rw [deferred, hout] at hfirst
      exact ⟨Nat.le_refl _, hfirst.append.1⟩
    · obtain ⟨hle, hspelled⟩ := ih hrest htail
      exact ⟨by omega, hspelled⟩

end Draft

/-! ## Directories -/

/-- A directory to be written: where it stands, its entries with the places of their payloads, and
its link. -/
structure Table where
  offset : Nat
  drafts : List (Draft × Nat)
  next : Nat

namespace Table

variable (order : ByteOrder) (layout : Layout)

/-- Bytes of a table with so many entries. -/
def span (count : Nat) : Nat := layout.countSize + count * layout.entrySize + layout.linkSize

/-- Bytes of a directory with what stands behind its table. -/
def size (drafts : List Draft) : Nat :=
  span layout drafts.length + (drafts.flatMap (Draft.deferred order layout)).length

/-- The directory at an offset. Its payloads follow its table, and the next directory, if there is
one, follows them. -/
def made (offset : Nat) (drafts : List Draft) (isLast : Bool) : Table where
  offset := offset
  drafts := Draft.placed order layout (offset + span layout drafts.length) drafts
  next := if isLast then 0 else offset + size order layout drafts

/-- The directories of a file, one behind the other; the offset of the first one is given. -/
def chained : Nat → List (List Draft) → List Table
  | _, [] => []
  | offset, drafts :: rest =>
    made order layout offset drafts rest.isEmpty ::
      chained (offset + size order layout drafts) rest

def entries (table : Table) : List UInt8 :=
  table.drafts.flatMap fun d => d.1.entryBytes order layout d.2

def deferred (table : Table) : List UInt8 :=
  table.drafts.flatMap fun d => d.1.deferred order layout

/-- The table in bytes, and what stands behind it. -/
def bytes (table : Table) : List UInt8 :=
  order.toBytes layout.countSize table.drafts.length ++ (table.entries order layout ++
    order.toBytes layout.linkSize table.next) ++ table.deferred order layout

variable {order layout} {offset : Nat} {drafts : List Draft} {isLast : Bool}

theorem length_drafts_made : (made order layout offset drafts isLast).drafts.length =
    drafts.length := by
  rw [made, ← List.length_map (f := Prod.fst), Draft.map_fst_placed]

theorem deferred_made : (made order layout offset drafts isLast).deferred order layout =
    drafts.flatMap (Draft.deferred order layout) := by
  unfold deferred made
  simp only
  rw [← List.flatMap_map, Draft.map_fst_placed]

theorem length_table (table : Table) :
    (order.toBytes layout.countSize table.drafts.length ++ (table.entries order layout ++
      order.toBytes layout.linkSize table.next)).length = span layout table.drafts.length := by
  have hentries : (table.entries order layout).length =
      table.drafts.length * layout.entrySize :=
    length_flatMap_const (fun d : Draft × Nat => Draft.length_entryBytes order layout d.1 d.2)
      table.drafts
  simp only [List.length_append, ByteOrder.length_toBytes, hentries, span]
  omega

theorem span_pos (layout : Layout) (count : Nat) : 0 < span layout count := by
  have hcount : 0 < layout.countSize := by cases layout <;> decide
  unfold span
  omega

theorem length_bytes_made : ((made order layout offset drafts isLast).bytes order layout).length =
    size order layout drafts := by
  rw [bytes, List.length_append, length_table, length_drafts_made, deferred_made, size]

/-- Every payload that does not fit into its slot stands at its place. -/
theorem spelled_of_made {content : ByteArray} {draft : Draft} {place : Nat}
    (h : Spelled content offset ((made order layout offset drafts isLast).bytes order layout))
    (hplaced : (draft, place) ∈ (made order layout offset drafts isLast).drafts)
    (hout : draft.isInline order layout = false) :
    offset < place ∧ Spelled content place (draft.bytes order) := by
  obtain ⟨-, hdeferred⟩ := h.append
  rw [length_table, length_drafts_made, deferred_made] at hdeferred
  obtain ⟨hle, hspelled⟩ := Draft.spelled_of_placed hdeferred hplaced hout
  have hspan := span_pos layout drafts.length
  exact ⟨by omega, hspelled⟩

end Table

/-! ## Files -/

/-- The dialect that is written in a layout. -/
def Layout.dialect : Layout → Dialect
  | classic => .tiff
  | big => .bigTiff

/-- What a big header has in front of the first offset: the width of offsets, and a reserved
word. -/
def widthBytes (order : ByteOrder) : Layout → List UInt8
  | .classic => []
  | .big => order.toBytes 2 8 ++ order.toBytes 2 0

/-- The bytes of a header whose first directory stands right behind it. -/
def headerBytes (order : ByteOrder) (layout : Layout) : List UInt8 :=
  order.magic ++ (order.toBytes 2 layout.dialect.version.toNat ++ (widthBytes order layout ++
    order.toBytes layout.slotSize layout.headerSize))

def tablesOf (order : ByteOrder) (layout : Layout) (dirs : List (List Draft)) : List Table :=
  Table.chained order layout layout.headerSize dirs

/-- The bytes of a file with some directories. -/
def fileBytes (order : ByteOrder) (layout : Layout) (dirs : List (List Draft)) : List UInt8 :=
  headerBytes order layout ++ (tablesOf order layout dirs).flatMap (Table.bytes order layout)

def fileOf (order : ByteOrder) (layout : Layout) (dirs : List (List Draft)) : ByteArray :=
  ⟨(fileBytes order layout dirs).toArray⟩

end Tiff
