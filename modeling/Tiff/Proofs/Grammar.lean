-- The grammar of headers. What a header comes to is the first thing that is wrong
-- with it, from its magic bytes to the way to the first directory, or else the
-- header itself. Every content begins in just one of these ways.

import Mathlib.Data.List.Induction
import Tiff.Proofs.Codings
import Tiff.Proofs.Listing
import Tiff.Proofs.Sniffing

namespace Tiff

variable {content : ByteArray} {position : Nat}

/-! ## What a content spells -/

theorem spelled_slice {length : Nat} (h : position + length ≤ content.size) :
    Spelled content position (slice content position length) := by
  rw [← ByteArray.size_data, ← Array.length_toList] at h
  refine ⟨content.data.toList.take position, content.data.toList.drop (position + length), ?_, ?_⟩
  · rw [slice_eq, ← List.drop_drop, List.take_append_drop, List.take_append_drop]
  · rw [List.length_take]
    omega

/-- Where there are enough bytes for a number, they spell one. -/
theorem exists_number (order : ByteOrder) {width : Nat} (h : position + width ≤ content.size) :
    ∃ n < 256 ^ width, Spelled content position (order.toBytes width n) := by
  have hslice := spelled_slice h
  rw [← order.toBytes_read (length_slice_of_le h)] at hslice
  exact ⟨_, order.read_lt width _, hslice⟩

theorem exists_word (order : ByteOrder) (h : position + 2 ≤ content.size) :
    ∃ word : UInt16, Spelled content position (order.toBytes 2 word.toNat) := by
  obtain ⟨n, hlt, hspelled⟩ := exists_number order h
  rw [← UInt16.toNat_ofNat_of_lt' hlt] at hspelled
  exact ⟨.ofNat n, hspelled⟩

theorem ByteOrder.eq_magic_of_ofMagic? {bytes : List UInt8} {order : ByteOrder}
    (h : ofMagic? bytes = some order) : bytes = order.magic := by
  unfold ofMagic? at h
  split at h <;> cases h <;> rfl

namespace Reader

variable {reader : Reader}

theorem outcome_readBytes_of_spelled (h : reader.source.backing = .memory content)
    {bytes : List UInt8} {length : Nat} (hlength : bytes.length = length)
    (haddress : position + length < addressLimit) (hspelled : Spelled content position bytes) :
    (readBytes length).outcome (reader.movedTo position) =
      (.ok bytes, reader.movedTo (position + length)) := by
  subst hlength
  rw [outcome_readBytes_movedTo h haddress hspelled.le_size, hspelled.slice_eq]

theorem outcome_readNat_of_spelled (h : reader.source.backing = .memory content) {width n : Nat}
    (haddress : position + width < addressLimit) (hn : n < 256 ^ width)
    (hspelled : Spelled content position (reader.cursor.order.toBytes width n)) :
    (readNat width).outcome (reader.movedTo position) =
      (.ok n, reader.movedTo (position + width)) := by
  have hbytes := outcome_readBytes_of_spelled h (ByteOrder.length_toBytes ..) haddress hspelled
  have hnumber : reader.cursor.order.read width (reader.cursor.order.toBytes width n) = n :=
    ByteOrder.read_toBytes _ hn
  rw [readNat, ReadM.outcome_bind_ok hbytes]
  exact Prod.ext (congrArg Except.ok hnumber) rfl

theorem outcome_readU16_of_spelled (h : reader.source.backing = .memory content) {word : UInt16}
    (haddress : position + 2 < addressLimit)
    (hspelled : Spelled content position (reader.cursor.order.toBytes 2 word.toNat)) :
    readU16.outcome (reader.movedTo position) = (.ok word, reader.movedTo (position + 2)) := by
  have hbytes := outcome_readBytes_of_spelled h (ByteOrder.length_toBytes ..) haddress hspelled
  have hword : reader.cursor.order.readU16 (reader.cursor.order.toBytes 2 word.toNat) = word :=
    ByteOrder.readU16_toBytes ..
  rw [readU16, ReadM.outcome_bind_ok hbytes]
  exact Prod.ext (congrArg Except.ok hword) rfl

theorem outcome_readU16_of_lt (h : reader.source.backing = .memory content)
    (hout : content.size < position + 2) :
    readU16.outcome (reader.movedTo position) =
      (.error (.truncated position 2), reader.movedTo position) :=
  ReadM.outcome_bind_error
    (outcome_readBytes_movedTo_of_out h (by decide) fun hin => by omega)

end Reader

/-! ## Registered dialects -/

namespace Dialects

/-- A dialect that was registered, and after it no other one of its version. -/
def Latest (registered : List Dialect) (dialect : Dialect) : Prop :=
  ∃ before after, registered = before ++ dialect :: after ∧
    ∀ other ∈ after, other.version ≠ dialect.version

theorem get?_holding_append (registered : List Dialect) (new : Dialect) (version : UInt16) :
    (holding (registered ++ [new])).get? version =
      if new.version = version then some new else (holding registered).get? version := by
  rw [holding, List.foldl_append, List.foldl_cons, List.foldl_nil, get?_register]
  rfl

theorem get?_holding_of_append (before after : List Dialect) {version : UInt16}
    (h : ∀ other ∈ after, other.version ≠ version) :
    (holding (before ++ after)).get? version = (holding before).get? version := by
  induction after using List.reverseRecOn with
  | nil => rw [List.append_nil]
  | append_singleton after new ih =>
    rw [← List.append_assoc, get?_holding_append, if_neg (h new (by simp))]
    exact ih fun other hother => h other (List.mem_append_left _ hother)

theorem get?_holding_of_latest {registered : List Dialect} {dialect : Dialect}
    (h : Latest registered dialect) :
    (holding registered).get? dialect.version = some dialect := by
  obtain ⟨before, after, rfl, hafter⟩ := h
  have hsplit : before ++ dialect :: after = (before ++ [dialect]) ++ after := by simp
  rw [hsplit, get?_holding_of_append _ _ hafter, get?_holding_append, if_pos rfl]

theorem get?_holding_of_unknown {registered : List Dialect} {version : UInt16}
    (h : ∀ dialect ∈ registered, dialect.version ≠ version) :
    (holding registered).get? version = none := by
  have hnone := get?_holding_of_append [] registered h
  rw [List.nil_append] at hnone
  rw [hnone]
  simp [holding, get?]

/-- A version is unknown, or it is that of a latest dialect. -/
theorem unknown_or_latest (registered : List Dialect) (version : UInt16) :
    (∀ dialect ∈ registered, dialect.version ≠ version) ∨
      ∃ dialect, Latest registered dialect ∧ dialect.version = version := by
  induction registered with
  | nil => exact .inl nofun
  | cons first registered ih =>
    rcases ih with hunknown | ⟨dialect, ⟨before, after, rfl, hafter⟩, hversion⟩
    · by_cases hfirst : first.version = version
      · exact .inr ⟨first, ⟨[], registered, rfl, hfirst ▸ hunknown⟩, hfirst⟩
      · exact .inl (List.forall_mem_cons.mpr ⟨hfirst, hunknown⟩)
    · exact .inr ⟨dialect, ⟨first :: before, after, rfl, hafter⟩, hversion⟩

end Dialects

namespace Header

/-! ## The grammar -/

/-- The first four bytes: those of a byte order, and the version of a dialect. -/
structure Opens (registered : List Dialect) (content : ByteArray) (order : ByteOrder)
    (dialect : Dialect) : Prop where
  magic : Spelled content 0 order.magic
  version : Spelled content 2 (order.toBytes 2 dialect.version.toNat)
  latest : Dialects.Latest registered dialect

/-- What the number at a place comes to as the offset of the first directory. -/
inductive Leads (content : ByteArray) (order : ByteOrder) (dialect : Dialect) (place : Nat) :
    Except Error Header → Prop
  | truncated (hsize : content.size < place + dialect.layout.slotSize) :
    Leads content order dialect place (.error (.truncated place dialect.layout.slotSize))
  | inside {first : Nat}
      (hfirst : Spelled content place (order.toBytes dialect.layout.slotSize first))
      (hinside : first < dialect.layout.headerSize) :
    Leads content order dialect place (.error (.header (.firstDirectoryInside first)))
  | behind {first : Nat}
      (hfirst : Spelled content place (order.toBytes dialect.layout.slotSize first))
      (hfits : first < 256 ^ dialect.layout.slotSize)
      (hbehind : dialect.layout.headerSize ≤ first) :
    Leads content order dialect place (.ok {
      order
      version := dialect.version
      layout := dialect.layout
      offsetSize := dialect.layout.slotSize
      first })

/-- The reserved words that are noted. -/
def noted (reserved : UInt16) : List UInt16 := if reserved = 0 then [] else [reserved]

/-- What the beginning of a content comes to as a header, and the reserved words that are noted. In
the big layout the width of offsets and the reserved word stand before the offset. -/
inductive Begins (registered : List Dialect) (content : ByteArray) :
    Except Error Header → List UInt16 → Prop
  | noMagic (hsize : content.size < 2) :
    Begins registered content (.error (.truncated 0 2)) []
  | noOrder {magic : List UInt8} (hmagic : Spelled content 0 magic) (hlength : magic.length = 2)
      (hother : ∀ order : ByteOrder, magic ≠ order.magic) :
    Begins registered content (.error (.byteOrder magic)) []
  | noVersion {order : ByteOrder} (hmagic : Spelled content 0 order.magic)
      (hsize : content.size < 4) :
    Begins registered content (.error (.truncated 2 2)) []
  | unknown {order : ByteOrder} {version : UInt16} (hmagic : Spelled content 0 order.magic)
      (hversion : Spelled content 2 (order.toBytes 2 version.toNat))
      (hunknown : ∀ dialect ∈ registered, dialect.version ≠ version) :
    Begins registered content (.error (.version version)) []
  | classic {order : ByteOrder} {dialect : Dialect} {answer : Except Error Header}
      (hopens : Opens registered content order dialect) (hlayout : dialect.layout = .classic)
      (hleads : Leads content order dialect 4 answer) :
    Begins registered content answer []
  | noWidth {order : ByteOrder} {dialect : Dialect}
      (hopens : Opens registered content order dialect) (hlayout : dialect.layout = .big)
      (hsize : content.size < 6) :
    Begins registered content (.error (.truncated 4 2)) []
  | width {order : ByteOrder} {dialect : Dialect} {width : UInt16}
      (hopens : Opens registered content order dialect) (hlayout : dialect.layout = .big)
      (hwidth : Spelled content 4 (order.toBytes 2 width.toNat)) (hother : width ≠ 8) :
    Begins registered content (.error (.header (.offsetSize width.toNat))) []
  | noReserved {order : ByteOrder} {dialect : Dialect}
      (hopens : Opens registered content order dialect) (hlayout : dialect.layout = .big)
      (hwidth : Spelled content 4 (order.toBytes 2 8)) (hsize : content.size < 8) :
    Begins registered content (.error (.truncated 6 2)) []
  | big {order : ByteOrder} {dialect : Dialect} {reserved : UInt16} {answer : Except Error Header}
      (hopens : Opens registered content order dialect) (hlayout : dialect.layout = .big)
      (hwidth : Spelled content 4 (order.toBytes 2 8))
      (hreserved : Spelled content 6 (order.toBytes 2 reserved.toNat))
      (hleads : Leads content order dialect 8 answer) :
    Begins registered content answer (noted reserved)

/-! ### Every content begins somehow -/

section

variable (content : ByteArray)

theorem exists_leads (order : ByteOrder) (dialect : Dialect) (place : Nat) :
    ∃ answer, Leads content order dialect place answer := by
  by_cases hsize : content.size < place + dialect.layout.slotSize
  · exact ⟨_, .truncated hsize⟩
  · obtain ⟨first, hfits, hfirst⟩ := exists_number order (Nat.le_of_not_lt hsize)
    by_cases hinside : first < dialect.layout.headerSize
    · exact ⟨_, .inside hfirst hinside⟩
    · exact ⟨_, .behind hfirst hfits (Nat.le_of_not_lt hinside)⟩

variable {content} {registered : List Dialect} {order : ByteOrder} {dialect : Dialect}

theorem exists_begins_of_opens (hopens : Opens registered content order dialect) :
    ∃ answer noted, Begins registered content answer noted := by
  cases hlayout : dialect.layout with
  | classic =>
    obtain ⟨answer, hleads⟩ := exists_leads content order dialect 4
    exact ⟨answer, _, .classic hopens hlayout hleads⟩
  | big =>
    by_cases hsize : content.size < 6
    · exact ⟨_, _, .noWidth hopens hlayout hsize⟩
    obtain ⟨width, hwidth⟩ := exists_word order (Nat.le_of_not_lt hsize)
    by_cases hother : width ≠ 8
    · exact ⟨_, _, .width hopens hlayout hwidth hother⟩
    obtain rfl : width = 8 := by simpa using hother
    by_cases hsize : content.size < 8
    · exact ⟨_, _, .noReserved hopens hlayout hwidth hsize⟩
    obtain ⟨reserved, hreserved⟩ := exists_word order (Nat.le_of_not_lt hsize)
    obtain ⟨answer, hleads⟩ := exists_leads content order dialect 8
    exact ⟨answer, _, .big hopens hlayout hwidth hreserved hleads⟩

theorem exists_begins (registered : List Dialect) (content : ByteArray) :
    ∃ answer noted, Begins registered content answer noted := by
  by_cases hsize : content.size < 2
  · exact ⟨_, _, .noMagic hsize⟩
  have hmagic : Spelled content 0 (slice content 0 2) := spelled_slice (Nat.le_of_not_lt hsize)
  have hlength : (slice content 0 2).length = 2 := length_slice_of_le (Nat.le_of_not_lt hsize)
  by_cases hother : ∀ order : ByteOrder, slice content 0 2 ≠ order.magic
  · exact ⟨_, _, .noOrder hmagic hlength hother⟩
  obtain ⟨order, horder⟩ : ∃ order : ByteOrder, slice content 0 2 = order.magic := by
    simpa using hother
  rw [horder] at hmagic
  by_cases hsize : content.size < 4
  · exact ⟨_, _, .noVersion hmagic hsize⟩
  obtain ⟨version, hversion⟩ := exists_word order (Nat.le_of_not_lt hsize)
  rcases Dialects.unknown_or_latest registered version with hunknown | ⟨dialect, hlatest, rfl⟩
  · exact ⟨_, _, .unknown hmagic hversion hunknown⟩
  · exact exists_begins_of_opens ⟨hmagic, hversion, hlatest⟩

end

/-! ### What a reading finds -/

/-- How the reading of a header ends: with an answer, with warnings of the words that are noted, and
right behind the header if it gives one. The source is left as it was. -/
structure Ends (reader : Reader) (answer : Except Error Header) (noted : List UInt16)
    (ending : Except Error Header × Reader) : Prop where
  answer_eq : ending.1 = answer
  source_eq : ending.2.source = reader.source
  warnings_eq : ending.2.warnings =
    reader.warnings ++ noted.map (.reservedWord reader.source.name)
  cursor_eq : ∀ header, answer = .ok header →
    ending.2.cursor = ⟨header.order, header.layout.headerSize⟩

variable {reader : Reader} {dialect : Dialect} {place : Nat} {answer : Except Error Header}

theorem Ends.error (e : Error) (cursor : Cursor) :
    Ends reader (.error e) [] (.error e, { reader with cursor }) :=
  ⟨rfl, rfl, (List.append_nil _).symm, nofun⟩

theorem outcome_readFirst (h : reader.source.backing = .memory content) {layout : Layout}
    {first : Nat} (haddress : place + layout.slotSize < addressLimit)
    (hfits : first < 256 ^ layout.slotSize)
    (hfirst : Spelled content place (reader.cursor.order.toBytes layout.slotSize first)) :
    (readFirst layout).outcome (reader.movedTo place) =
      (if first < layout.headerSize then .error (.header (.firstDirectoryInside first))
        else .ok first, reader.movedTo (place + layout.slotSize)) := by
  have hnumber := Reader.outcome_readNat_of_spelled h haddress hfits hfirst
  unfold readFirst
  rw [ReadM.outcome_bind_ok hnumber]
  split <;> rfl

theorem outcome_readFirst_of_lt (h : reader.source.backing = .memory content) {layout : Layout}
    (hsize : content.size < place + layout.slotSize) :
    (readFirst layout).outcome (reader.movedTo place) =
      (.error (.truncated place layout.slotSize), reader.movedTo place) := by
  have hpos : 0 < layout.slotSize := by cases layout <;> decide
  have hout : ¬ (place + layout.slotSize < addressLimit ∧
      place + layout.slotSize ≤ content.size) := by omega
  exact ReadM.outcome_bind_error (Reader.outcome_readNat_movedTo_of_out h hpos hout)

theorem Leads.ends (h : reader.source.backing = .memory content)
    (hplace : place + dialect.layout.slotSize = dialect.layout.headerSize)
    (hleads : Leads content reader.cursor.order dialect place answer) :
    Ends reader answer [] ((readRest dialect).outcome (reader.movedTo place)) := by
  have haddress : place + dialect.layout.slotSize < addressLimit := by
    rw [hplace]
    cases dialect.layout <;> decide
  unfold readRest
  cases hleads with
  | truncated hsize =>
    rw [ReadM.outcome_bind_error (outcome_readFirst_of_lt h hsize)]
    exact .error _ _
  | @inside first hfirst hinside =>
    have hfits : first < 256 ^ dialect.layout.slotSize := by
      have hle : dialect.layout.headerSize ≤ 256 ^ dialect.layout.slotSize := by
        cases dialect.layout <;> decide
      omega
    have hread := outcome_readFirst h haddress hfits hfirst
    rw [if_pos hinside] at hread
    rw [ReadM.outcome_bind_error hread]
    exact .error _ _
  | behind hfirst hfits hbehind =>
    have hread := outcome_readFirst h haddress hfits hfirst
    rw [if_neg (Nat.not_lt.mpr hbehind)] at hread
    rw [ReadM.outcome_bind_ok hread, hplace]
    refine ⟨rfl, rfl, (List.append_nil _).symm, ?_⟩
    intro header hheader
    cases hheader
    rfl

/-- A reader of the same source with a byte order. -/
def ordered (reader : Reader) (order : ByteOrder) : Reader := { reader with cursor := ⟨order, 0⟩ }

/-- A reader that noted a reserved word, if that is not zero. -/
def noting (reader : Reader) (reserved : UInt16) : Reader :=
  { reader with
    warnings := reader.warnings ++ (noted reserved).map (.reservedWord reader.source.name) }

theorem Ends.of_ordered {order : ByteOrder} {noted : List UInt16}
    {ending : Except Error Header × Reader} (h : Ends (ordered reader order) answer noted ending) :
    Ends reader answer noted ending :=
  ⟨h.answer_eq, h.source_eq, h.warnings_eq, h.cursor_eq⟩

theorem Ends.of_noting {reserved : UInt16} {ending : Except Error Header × Reader}
    (h : Ends (noting reader reserved) answer [] ending) :
    Ends reader answer (noted reserved) ending :=
  ⟨h.answer_eq, h.source_eq, h.warnings_eq.trans (List.append_nil _), h.cursor_eq⟩

section

variable (h : reader.source.backing = .memory content)

include h

theorem outcome_readWidth_of_lt (hsize : content.size < 6) :
    readWidth.outcome (reader.movedTo 4) = (.error (.truncated 4 2), reader.movedTo 4) :=
  ReadM.outcome_bind_error (Reader.outcome_readU16_of_lt h hsize)

theorem outcome_readWidth_of_other {width : UInt16}
    (hwidth : Spelled content 4 (reader.cursor.order.toBytes 2 width.toNat)) (hother : width ≠ 8) :
    readWidth.outcome (reader.movedTo 4) =
      (.error (.header (.offsetSize width.toNat)), reader.movedTo 6) := by
  have hwidth := Reader.outcome_readU16_of_spelled h (by decide) hwidth
  unfold readWidth
  rw [ReadM.outcome_bind_ok hwidth, if_pos hother]
  rfl

/-- Behind a width of eight bytes, all is up to the reserved word. -/
theorem outcome_readWidth_of_eight (hwidth : Spelled content 4 (reader.cursor.order.toBytes 2 8)) :
    readWidth.outcome (reader.movedTo 4) = ReadM.outcome (do
      let reserved ← Reader.readU16
      if reserved ≠ 0 then Reader.warn (.reservedWord (← get).source.name reserved))
      (reader.movedTo 6) := by
  have hwidth : Reader.readU16.outcome (reader.movedTo 4) = (.ok 8, reader.movedTo 6) :=
    Reader.outcome_readU16_of_spelled h (by decide) hwidth
  unfold readWidth
  rw [ReadM.outcome_bind_ok hwidth, if_neg (not_not_intro rfl)]

theorem outcome_readWidth {reserved : UInt16}
    (hwidth : Spelled content 4 (reader.cursor.order.toBytes 2 8))
    (hreserved : Spelled content 6 (reader.cursor.order.toBytes 2 reserved.toNat)) :
    readWidth.outcome (reader.movedTo 4) = (.ok (), (noting reader reserved).movedTo 8) := by
  have hreserved := Reader.outcome_readU16_of_spelled h (by decide) hreserved
  rw [outcome_readWidth_of_eight h hwidth, ReadM.outcome_bind_ok hreserved]
  unfold noting noted
  by_cases hzero : reserved = 0
  · rw [if_neg (not_not_intro hzero), if_pos hzero, List.map_nil, List.append_nil]
    rfl
  · rw [if_pos hzero, if_neg hzero]
    rfl

end

/-- What the version leads to. -/
def readVersion (dialects : Dialects) : ReadM Header := do
  let version ← Reader.readU16
  match dialects.get? version with
  | none => throw (.version version)
  | some dialect => readTail dialect

theorem outcome_read_of_lt (h : reader.source.backing = .memory content) (dialects : Dialects)
    (hsize : content.size < 2) :
    (read dialects).outcome reader = (.error (.truncated 0 2), reader.movedTo 0) := by
  have hout : ¬ (0 + 2 < addressLimit ∧ 0 + 2 ≤ content.size) := by omega
  have hbytes := Reader.outcome_readBytes_movedTo_of_out h (by decide) hout
  unfold read
  rw [ReadM.outcome_bind_ok (Reader.outcome_seek 0 reader)]
  exact ReadM.outcome_bind_error hbytes

theorem outcome_read_of_other (h : reader.source.backing = .memory content) (dialects : Dialects)
    {magic : List UInt8} (hmagic : Spelled content 0 magic) (hlength : magic.length = 2)
    (hother : ByteOrder.ofMagic? magic = none) :
    (read dialects).outcome reader = (.error (.byteOrder magic), reader.movedTo 2) := by
  have hbytes := Reader.outcome_readBytes_of_spelled h hlength (by decide) hmagic
  unfold read
  rw [ReadM.outcome_bind_ok (Reader.outcome_seek 0 reader)]
  refine (ReadM.outcome_bind_ok hbytes).trans ?_
  rw [hother]
  rfl

theorem outcome_read_of_magic (h : reader.source.backing = .memory content) (dialects : Dialects)
    {order : ByteOrder} (hmagic : Spelled content 0 order.magic) :
    (read dialects).outcome reader =
      (readVersion dialects).outcome ((ordered reader order).movedTo 2) := by
  have hlength : order.magic.length = 2 := by cases order <;> rfl
  have hbytes := Reader.outcome_readBytes_of_spelled h hlength (by decide) hmagic
  unfold read
  rw [ReadM.outcome_bind_ok (Reader.outcome_seek 0 reader)]
  refine (ReadM.outcome_bind_ok hbytes).trans ?_
  rw [ByteOrder.ofMagic?_magic]
  rfl

variable {registered : List Dialect} {order : ByteOrder}

theorem outcome_read_of_opens (h : reader.source.backing = .memory content)
    (hopens : Opens registered content order dialect) :
    (read (.holding registered)).outcome reader =
      (readTail dialect).outcome ((ordered reader order).movedTo 4) := by
  have hordered : (ordered reader order).source.backing = .memory content := h
  have hversion := Reader.outcome_readU16_of_spelled hordered (by decide) hopens.version
  rw [outcome_read_of_magic h _ hopens.magic, readVersion, ReadM.outcome_bind_ok hversion,
    Dialects.get?_holding_of_latest hopens.latest]

/-- In the big layout, the width of offsets is read behind the version. -/
theorem outcome_read_of_big (h : reader.source.backing = .memory content)
    (hopens : Opens registered content order dialect) (hlayout : dialect.layout = .big) :
    (read (.holding registered)).outcome reader =
      (readWidth >>= fun _ => readRest dialect).outcome ((ordered reader order).movedTo 4) := by
  rw [outcome_read_of_opens h hopens, readTail_eq, hlayout]

theorem ends_of_readWidth (h : reader.source.backing = .memory content)
    (hopens : Opens registered content order dialect) (hlayout : dialect.layout = .big) {e : Error}
    (hread : readWidth.outcome ((ordered reader order).movedTo 4) =
      (.error e, (ordered reader order).movedTo place)) :
    Ends reader (.error e) [] ((read (.holding registered)).outcome reader) := by
  rw [outcome_read_of_big h hopens hlayout, ReadM.outcome_bind_error hread]
  exact .error _ _

theorem Begins.ends (h : reader.source.backing = .memory content) {noted : List UInt16}
    (hbegins : Begins registered content answer noted) :
    Ends reader answer noted ((read (.holding registered)).outcome reader) := by
  have hordered : ∀ order, (ordered reader order).source.backing = .memory content := fun _ => h
  -- From the magic bytes on, the reading is that of a reader with the byte order of the file.
  cases hbegins with
  | noMagic hsize =>
    rw [outcome_read_of_lt h _ hsize]
    exact .error _ _
  | @noOrder magic hmagic hlength hother =>
    have hnone : ByteOrder.ofMagic? magic = none := by
      rw [Option.eq_none_iff_forall_ne_some]
      exact fun order horder => hother order (ByteOrder.eq_magic_of_ofMagic? horder)
    rw [outcome_read_of_other h _ hmagic hlength hnone]
    exact .error _ _
  | @noVersion order hmagic hsize =>
    have hversion := Reader.outcome_readU16_of_lt (hordered order) hsize
    rw [outcome_read_of_magic h _ hmagic, readVersion, ReadM.outcome_bind_error hversion]
    exact .error _ _
  | @unknown order version hmagic hversion hunknown =>
    have hversion := Reader.outcome_readU16_of_spelled (hordered order) (by decide) hversion
    rw [outcome_read_of_magic h _ hmagic, readVersion, ReadM.outcome_bind_ok hversion,
      Dialects.get?_holding_of_unknown hunknown]
    exact .error _ _
  | @classic order dialect _ hopens hlayout hleads =>
    have hplace : 4 + dialect.layout.slotSize = dialect.layout.headerSize := by rw [hlayout]; rfl
    rw [outcome_read_of_opens h hopens, readTail_eq, hlayout]
    exact (hleads.ends (hordered order) hplace).of_ordered
  | @noWidth order _ hopens hlayout hsize =>
    exact ends_of_readWidth h hopens hlayout (outcome_readWidth_of_lt (hordered order) hsize)
  | @width order _ _ hopens hlayout hwidth hother =>
    exact ends_of_readWidth h hopens hlayout
      (outcome_readWidth_of_other (hordered order) hwidth hother)
  | @noReserved order _ hopens hlayout hwidth hsize =>
    have hread := outcome_readWidth_of_eight (hordered order) hwidth
    rw [ReadM.outcome_bind_error (Reader.outcome_readU16_of_lt (hordered order) hsize)] at hread
    exact ends_of_readWidth h hopens hlayout hread
  | @big order dialect reserved _ hopens hlayout hwidth hreserved hleads =>
    have hplace : 8 + dialect.layout.slotSize = dialect.layout.headerSize := by rw [hlayout]; rfl
    have hread := outcome_readWidth (hordered order) hwidth hreserved
    have hnoting : (noting (ordered reader order) reserved).source.backing = .memory content := h
    rw [outcome_read_of_big h hopens hlayout, ReadM.outcome_bind_ok hread]
    exact (hleads.ends hnoting hplace).of_noting.of_ordered

theorem Ends.unique {answer' : Except Error Header} {noted noted' : List UInt16}
    {ending : Except Error Header × Reader} (h : Ends reader answer noted ending)
    (h' : Ends reader answer' noted' ending) : answer = answer' ∧ noted = noted' := by
  refine ⟨h.answer_eq.symm.trans h'.answer_eq, ?_⟩
  have hwarnings := h.warnings_eq.symm.trans h'.warnings_eq
  -- A warning tells the word that it is about.
  refine (List.map_inj_right fun word word' hword => ?_).mp (List.append_cancel_left hwarnings)
  cases hword
  rfl

/-- The beginning of a content in memory comes to something, and the reading of its header ends in
just that way: with the first thing that is wrong, or with the header. The reserved word is noted
where it is not zero, and makes no other difference. -/
theorem a_header_ends_as_its_content_begins (registered : List Dialect) (content : ByteArray)
    (name : String) (cursor : Cursor) (warnings : List Warning) :
    let reader : Reader := { source := .ofBytes content name, cursor, warnings }
    let ending := (read (.holding registered)).outcome reader
    (∃ answer noted, Begins registered content answer noted) ∧
    ∀ answer noted,
      Begins registered content answer noted ↔ Ends reader answer noted ending := by
  intro reader ending
  have hbegins := exists_begins registered content
  refine ⟨hbegins, fun answer noted => ⟨fun h => h.ends rfl, fun hends => ?_⟩⟩
  -- Whatever the content comes to is what the reading ends with, and that is only one thing.
  obtain ⟨answer', noted', hbegins⟩ := hbegins
  obtain ⟨rfl, rfl⟩ := hends.unique (hbegins.ends rfl)
  exact hbegins

/-- A big header whose reserved word is seven, with the first directory right behind it. -/
def reservedContent : ByteArray :=
  ⟨#[0x4D, 0x4D, 0, 43, 0, 8, 0, 7, 0, 0, 0, 0, 0, 0, 0, 16]⟩

/-- The reserved word is noted, and the header is read all the same. -/
theorem a_header_ends_as_its_content_begins_of_reservedContent :
    let reader : Reader := { source := .ofBytes reservedContent, cursor := {}, warnings := [] }
    let header : Header :=
      { order := .big, version := 43, layout := .big, offsetSize := 8, first := 16 }
    Ends reader (.ok header) [7] ((read (.holding [.tiff, .bigTiff])).outcome reader) := by
  intro reader header
  obtain ⟨-, hends⟩ :=
    a_header_ends_as_its_content_begins [.tiff, .bigTiff] reservedContent "memory" {} []
  have hopens : Opens [.tiff, .bigTiff] reservedContent .big .bigTiff :=
    ⟨⟨[], _, rfl, rfl⟩, ⟨[_, _], _, rfl, rfl⟩, [.tiff], [], rfl, nofun⟩
  have hleads : Leads reservedContent .big .bigTiff 8 (.ok header) :=
    .behind ⟨[_, _, _, _, _, _, _, _], [], rfl, rfl⟩ (by decide) (by decide)
  have hwidth : Spelled reservedContent 4 (ByteOrder.big.toBytes 2 8) :=
    ⟨[_, _, _, _], _, rfl, rfl⟩
  have hreserved : Spelled reservedContent 6 (ByteOrder.big.toBytes 2 (7 : UInt16).toNat) :=
    ⟨[_, _, _, _, _, _], _, rfl, rfl⟩
  exact (hends (.ok header) (noted 7)).mp (.big hopens rfl hwidth hreserved hleads)

end Header

end Tiff
