-- Elements in bytes. A coding spells each element with the same number of bytes,
-- so the bytes of a value fall apart into those of its elements, and writing the
-- elements again gives these bytes back. Only a fraction over zero is mended.

import Tiff.Proofs.Writer

namespace Tiff

/-! ## Numerals -/

theorem ofBytesLE_lt (bytes : List UInt8) : ofBytesLE bytes < 256 ^ bytes.length := by
  induction bytes with
  | nil => decide
  | cons b bytes ih =>
    have hb : b.toNat < 256 := b.toNat_lt
    rw [ofBytesLE, List.length_cons, Nat.pow_succ]
    omega

theorem length_fitBytes (width : Nat) (bytes : List UInt8) :
    (fitBytes width bytes).length = width := by
  rw [fitBytes, List.length_rightpad, List.length_take]
  omega

theorem toBytesLE_ofBytesLE (bytes : List UInt8) :
    toBytesLE bytes.length (ofBytesLE bytes) = bytes := by
  induction bytes with
  | nil => rfl
  | cons b bytes ih =>
    have hb : b.toNat < 256 := b.toNat_lt
    have hfirst : UInt8.ofNat (b.toNat + 256 * ofBytesLE bytes) = b := by
      apply UInt8.toNat_inj.mp
      rw [UInt8.toNat_ofNat']
      omega
    have hrest : (b.toNat + 256 * ofBytesLE bytes) / 256 = ofBytesLE bytes := by omega
    rw [List.length_cons, ofBytesLE, toBytesLE, hfirst, hrest, ih]

namespace ByteOrder

variable {order : ByteOrder} {width : Nat} {bytes : List UInt8}

/-- The order in which numbers stand the other way round. -/
def other : ByteOrder → ByteOrder
  | .little => .big
  | .big => .little

theorem ofBytes_lt (order : ByteOrder) (bytes : List UInt8) :
    order.ofBytes bytes < 256 ^ bytes.length := by
  cases order with
  | little => exact ofBytesLE_lt bytes
  | big =>
    have hlt := ofBytesLE_lt bytes.reverse
    rwa [List.length_reverse] at hlt

theorem read_lt (order : ByteOrder) (width : Nat) (bytes : List UInt8) :
    order.read width bytes < 256 ^ width := by
  have hlt := order.ofBytes_lt (fitBytes width bytes)
  rwa [length_fitBytes] at hlt

/-- A number that is read is spelled by the bytes that it was read from. -/
theorem toBytes_read (h : bytes.length = width) :
    order.toBytes width (order.read width bytes) = bytes := by
  subst h
  rw [read, fitBytes_of_length rfl]
  cases order with
  | little => exact toBytesLE_ofBytesLE bytes
  | big =>
    have hreverse := toBytesLE_ofBytesLE bytes.reverse
    rw [List.length_reverse] at hreverse
    simp only [toBytes, ofBytes, hreverse, List.reverse_reverse]

theorem read_reverse (h : bytes.length = width) :
    order.other.read width bytes.reverse = order.read width bytes := by
  rw [read, read, fitBytes_of_length h, fitBytes_of_length (by rwa [List.length_reverse])]
  cases order with
  | little => simp only [other, ofBytes, List.reverse_reverse]
  | big => rfl

/-- What stands behind a number does not matter. -/
theorem read_append (h : bytes.length = width) (behind : List UInt8) :
    order.read width (bytes ++ behind) = order.read width bytes := by
  rw [read, read, fitBytes, fitBytes, List.take_left' h, List.take_of_length_le (Nat.le_of_eq h)]

theorem toBytes_zero (order : ByteOrder) : order.toBytes 4 0 = [0, 0, 0, 0] := by
  cases order <;> rfl

end ByteOrder

/-! ## Groups -/

section

variable {width : Nat} {front bytes : List UInt8}

/-- Bytes are too few for a group, or they are a group and other bytes behind it. -/
theorem induction_on_groups (hpos : 0 < width) {P : List UInt8 → Prop}
    (few : ∀ bytes, bytes.length < width → P bytes)
    (more : ∀ front bytes, front.length = width → P bytes → P (front ++ bytes))
    (bytes : List UInt8) : P bytes := by
  by_cases hfew : bytes.length < width
  · exact few bytes hfew
  · have hfront : (bytes.take width).length = width := by
      rw [List.length_take]
      omega
    have hrest := induction_on_groups hpos few more (bytes.drop width)
    rw [← List.take_append_drop width bytes]
    exact more _ _ hfront hrest
termination_by bytes.length
decreasing_by
  rw [List.length_drop]
  omega

theorem groups_append (hpos : 0 < width) (h : front.length = width) :
    groups width (front ++ bytes) = front :: groups width bytes := by
  have hlong : width ≤ (front ++ bytes).length := by
    rw [List.length_append]
    omega
  rw [groups_cons hpos hlong, List.take_left' h, List.drop_left' h]

theorem length_of_mem_groups (hpos : 0 < width) (h : front ∈ groups width bytes) :
    front.length = width := by
  induction bytes using induction_on_groups hpos with
  | few bytes hfew =>
    rw [groups_of_lt hfew] at h
    cases h
  | more first bytes hfirst ih =>
    rw [groups_append hpos hfirst] at h
    rcases List.mem_cons.mp h with rfl | hmem
    · exact hfirst
    · exact ih hmem

theorem grouped_length_append (hpos : 0 < width) (h : front.length = width) :
    (front ++ bytes).length / width * width = front.length + bytes.length / width * width := by
  rw [List.length_append, h, Nat.add_div_left _ hpos, Nat.succ_mul, Nat.add_comm]

/-- The groups are all of the bytes but those that are left over. -/
theorem flatten_groups (hpos : 0 < width) (bytes : List UInt8) :
    (groups width bytes).flatten = bytes.take (bytes.length / width * width) := by
  induction bytes using induction_on_groups hpos with
  | few bytes hfew =>
    rw [groups_of_lt hfew, Nat.div_eq_of_lt hfew, Nat.zero_mul, List.take_zero, List.flatten_nil]
  | more front bytes hfront ih =>
    rw [groups_append hpos hfront, List.flatten_cons, ih, grouped_length_append hpos hfront,
      List.take_length_add_append]

/-- Every group turned round. What is left over stays as it is. -/
def flipped (width : Nat) (bytes : List UInt8) : List UInt8 :=
  (groups width bytes).flatMap List.reverse ++ bytes.drop (bytes.length / width * width)

theorem flipped_of_lt (hfew : bytes.length < width) : flipped width bytes = bytes := by
  rw [flipped, groups_of_lt hfew, Nat.div_eq_of_lt hfew, Nat.zero_mul, List.drop_zero,
    List.flatMap_nil, List.nil_append]

theorem flipped_nil (hpos : 0 < width) : flipped width [] = [] := flipped_of_lt hpos

theorem flipped_append (hpos : 0 < width) (h : front.length = width) :
    flipped width (front ++ bytes) = front.reverse ++ flipped width bytes := by
  rw [flipped, flipped, groups_append hpos h, grouped_length_append hpos h,
    List.drop_length_add_append, List.flatMap_cons, List.append_assoc]

theorem flipped_of_length (hpos : 0 < width) (h : bytes.length = width) :
    flipped width bytes = bytes.reverse := by
  have hflipped : flipped width (bytes ++ []) = bytes.reverse ++ flipped width [] :=
    flipped_append hpos h
  rwa [List.append_nil, flipped_nil hpos, List.append_nil] at hflipped

theorem length_flipped (hpos : 0 < width) (bytes : List UInt8) :
    (flipped width bytes).length = bytes.length := by
  induction bytes using induction_on_groups hpos with
  | few bytes hfew => rw [flipped_of_lt hfew]
  | more front bytes hfront ih =>
    rw [flipped_append hpos hfront, List.length_append, List.length_append, List.length_reverse, ih]

/-- Groups are turned round on their own, and so are runs of them. -/
theorem flipped_append_of_dvd (hpos : 0 < width) (h : width ∣ front.length) :
    flipped width (front ++ bytes) = flipped width front ++ flipped width bytes := by
  induction front using induction_on_groups hpos with
  | few front hfew =>
    have hnil : front = [] := by
      rw [← List.length_eq_zero_iff]
      exact Nat.eq_zero_of_dvd_of_lt h hfew
    subst hnil
    rw [List.nil_append, flipped_nil hpos, List.nil_append]
  | more first front hfirst ih =>
    rw [List.length_append, hfirst, Nat.dvd_add_right (Nat.dvd_refl width)] at h
    rw [List.append_assoc, flipped_append hpos hfirst, flipped_append hpos hfirst, ih h,
      List.append_assoc]

/-- Groups that are made of narrower ones can be taken before or after these are turned round. -/
theorem groups_flipped {narrow : Nat} (hpos : 0 < width) (hnarrow : 0 < narrow)
    (hdvd : narrow ∣ width) (bytes : List UInt8) :
    groups width (flipped narrow bytes) = (groups width bytes).map (flipped narrow) := by
  induction bytes using induction_on_groups hpos with
  | few bytes hfew =>
    rw [groups_of_lt hfew, groups_of_lt (by rwa [length_flipped hnarrow]), List.map_nil]
  | more front bytes hfront ih =>
    have hflipped : (flipped narrow front).length = width := by
      rw [length_flipped hnarrow, hfront]
    rw [flipped_append_of_dvd hnarrow (hfront ▸ hdvd), groups_append hpos hflipped, ih,
      groups_append hpos hfront, List.map_cons]

theorem groups_one (bytes : List UInt8) : groups 1 bytes = bytes.map fun b => [b] := by
  induction bytes with
  | nil => rfl
  | cons b bytes ih =>
    have hgroup : groups 1 ([b] ++ bytes) = [b] :: groups 1 bytes :=
      groups_append Nat.one_pos rfl
    rwa [ih] at hgroup

end

/-! ## Elements -/

/-- How the elements of a type stand in bytes. An element has one or two scalars, and each of them
is written in a byte order. -/
structure Spelling (α : Type) where
  /-- Bytes of an element. -/
  width : Nat
  /-- Bytes of a scalar. -/
  scalar : Nat
  read : ByteOrder → List UInt8 → α
  spell : ByteOrder → α → List UInt8
  /-- The elements that reading can give. -/
  Proper : α → Prop
  /-- The bytes by which the element is spelled that some bytes are read as. -/
  settled : ByteOrder → List UInt8 → List UInt8
  scalar_pos : 0 < scalar
  width_pos : 0 < width
  scalar_dvd : scalar ∣ width
  length_spell : ∀ order a, (spell order a).length = width
  proper_read : ∀ order bytes, Proper (read order bytes)
  read_spell : ∀ order a, Proper a → read order (spell order a) = a
  spell_read : ∀ order bytes, bytes.length = width →
    spell order (read order bytes) = settled order bytes
  read_flipped : ∀ (order : ByteOrder) bytes, bytes.length = width →
    read order.other (flipped scalar bytes) = read order bytes

namespace Spelling

variable {α β : Type}

/-- All elements of some bytes. -/
def readAll (spelling : Spelling α) (order : ByteOrder) (bytes : List UInt8) : List α :=
  (groups spelling.width bytes).map (spelling.read order)

section

variable (spelling : Spelling α) (order : ByteOrder)

theorem length_readAll (bytes : List UInt8) :
    (spelling.readAll order bytes).length = bytes.length / spelling.width := by
  rw [readAll, List.length_map, length_groups]

theorem readAll_spelled {xs : List α} (hproper : ∀ x ∈ xs, spelling.Proper x) :
    spelling.readAll order (xs.flatMap (spelling.spell order)) = xs := by
  have hread : ∀ x ∈ xs, spelling.read order (spelling.spell order x) = x :=
    fun x hx => spelling.read_spell order x (hproper x hx)
  rw [readAll, groups_flatMap spelling.width_pos (spelling.length_spell order), List.map_map,
    Function.comp_def, List.map_congr_left hread, List.map_id']

theorem spelled_readAll (bytes : List UInt8) :
    (spelling.readAll order bytes).flatMap (spelling.spell order) =
      ((groups spelling.width bytes).map (spelling.settled order)).flatten := by
  have hspell : ∀ group ∈ groups spelling.width bytes,
      spelling.spell order (spelling.read order group) = spelling.settled order group :=
    fun group hgroup =>
      spelling.spell_read order group (length_of_mem_groups spelling.width_pos hgroup)
  rw [readAll, List.flatMap_def, List.map_map, Function.comp_def, List.map_congr_left hspell]

theorem proper_readAll (bytes : List UInt8) :
    ∀ x ∈ spelling.readAll order bytes, spelling.Proper x := by
  intro x hx
  obtain ⟨group, -, rfl⟩ := List.mem_map.mp hx
  exact spelling.proper_read order group

theorem readAll_flipped (bytes : List UInt8) :
    spelling.readAll order.other (flipped spelling.scalar bytes) =
      spelling.readAll order bytes := by
  rw [readAll, readAll, groups_flipped spelling.width_pos spelling.scalar_pos spelling.scalar_dvd,
    List.map_map]
  apply List.map_congr_left
  intro group hgroup
  exact spelling.read_flipped order group (length_of_mem_groups spelling.width_pos hgroup)

end

/-! ### Words -/

/-- Numbers of one width, as they stand. -/
def word (width : Nat) (ofNat : Nat → α) (toNat : α → Nat) (hwidth : 0 < width)
    (hlt : ∀ a, toNat a < 256 ^ width) (hofNat : ∀ a, ofNat (toNat a) = a)
    (htoNat : ∀ n < 256 ^ width, toNat (ofNat n) = n) : Spelling α where
  width := width
  scalar := width
  read order bytes := ofNat (order.read width bytes)
  spell order a := order.toBytes width (toNat a)
  Proper _ := True
  settled _ bytes := bytes
  scalar_pos := hwidth
  width_pos := hwidth
  scalar_dvd := Nat.dvd_refl width
  length_spell order a := order.length_toBytes width (toNat a)
  proper_read _ _ := trivial
  read_spell order a _ := by rw [order.read_toBytes (hlt a), hofNat]
  spell_read order bytes h := by
    rw [htoNat _ (order.read_lt width bytes), ByteOrder.toBytes_read h]
  read_flipped order bytes h := by
    rw [flipped_of_length hwidth h, ByteOrder.read_reverse h]

def word8 : Spelling UInt8 :=
  word 1 .ofNat UInt8.toNat (by decide) UInt8.toNat_lt (fun _ => UInt8.ofNat_toNat)
    fun _ => UInt8.toNat_ofNat_of_lt'

def word16 : Spelling UInt16 :=
  word 2 .ofNat UInt16.toNat (by decide) UInt16.toNat_lt (fun _ => UInt16.ofNat_toNat)
    fun _ => UInt16.toNat_ofNat_of_lt'

def word32 : Spelling UInt32 :=
  word 4 .ofNat UInt32.toNat (by decide) UInt32.toNat_lt (fun _ => UInt32.ofNat_toNat)
    fun _ => UInt32.toNat_ofNat_of_lt'

def word64 : Spelling UInt64 :=
  word 8 .ofNat UInt64.toNat (by decide) UInt64.toNat_lt (fun _ => UInt64.ofNat_toNat)
    fun _ => UInt64.toNat_ofNat_of_lt'

/-- The same bytes for elements of another type, one for each element. -/
def renamed (spelling : Spelling α) (forth : α → β) (back : β → α)
    (hforth : ∀ b, forth (back b) = b) (hback : ∀ a, back (forth a) = a) : Spelling β where
  width := spelling.width
  scalar := spelling.scalar
  read order bytes := forth (spelling.read order bytes)
  spell order b := spelling.spell order (back b)
  Proper b := spelling.Proper (back b)
  settled := spelling.settled
  scalar_pos := spelling.scalar_pos
  width_pos := spelling.width_pos
  scalar_dvd := spelling.scalar_dvd
  length_spell order b := spelling.length_spell order (back b)
  proper_read order bytes := by
    rw [hback]
    exact spelling.proper_read order bytes
  read_spell order b h := by rw [spelling.read_spell order _ h, hforth]
  spell_read order bytes h := by rw [hback, spelling.spell_read order bytes h]
  read_flipped order bytes h := by rw [spelling.read_flipped order bytes h]

def signed8 : Spelling Int8 :=
  word8.renamed UInt8.toInt8 Int8.toUInt8 Int8.toInt8_toUInt8 UInt8.toUInt8_toInt8

def signed16 : Spelling Int16 :=
  word16.renamed UInt16.toInt16 Int16.toUInt16 Int16.toInt16_toUInt16 UInt16.toUInt16_toInt16

def signed32 : Spelling Int32 :=
  word32.renamed UInt32.toInt32 Int32.toUInt32 Int32.toInt32_toUInt32 UInt32.toUInt32_toInt32

def signed64 : Spelling Int64 :=
  word64.renamed UInt64.toInt64 Int64.toUInt64 Int64.toInt64_toUInt64 UInt64.toUInt64_toInt64

theorem readAll_renamed (spelling : Spelling α) {forth : α → β} {back : β → α}
    {hforth : ∀ b, forth (back b) = b} {hback : ∀ a, back (forth a) = a} (order : ByteOrder)
    (bytes : List UInt8) :
    (spelling.renamed forth back hforth hback).readAll order bytes =
      (spelling.readAll order bytes).map forth := by
  rw [readAll, readAll, List.map_map]
  rfl

/-- A byte is its own spelling. -/
theorem spell_word8 (order : ByteOrder) (b : UInt8) : word8.spell order b = [b] := by
  have hbyte : toBytesLE 1 b.toNat = [b] := by
    rw [toBytesLE, UInt8.ofNat_toNat, toBytesLE]
  cases order with
  | little => exact hbyte
  | big => exact congrArg List.reverse hbyte

theorem readAll_word8 (order : ByteOrder) (bytes : List UInt8) :
    word8.readAll order bytes = bytes := by
  have hread : ∀ b, word8.read order [b] = b := by
    intro b
    rw [← spell_word8 order b]
    exact word8.read_spell order b trivial
  have hgroups : groups word8.width bytes = bytes.map fun b => [b] := groups_one bytes
  rw [readAll, hgroups, List.map_map, Function.comp_def]
  simp only [hread, List.map_id']

theorem flatMap_spell_word8 (order : ByteOrder) (bytes : List UInt8) :
    bytes.flatMap (word8.spell order) = bytes := by
  simp only [funext (spell_word8 order), List.flatMap_singleton']

/-- Signed bytes are bytes that are told in another way. -/
theorem readAll_signed8 (order : ByteOrder) (bytes : List UInt8) :
    signed8.readAll order bytes = bytes.map UInt8.toInt8 := by
  rw [signed8, readAll_renamed, readAll_word8]

theorem flatMap_spell_signed8 (order : ByteOrder) (xs : List Int8) :
    xs.flatMap (signed8.spell order) = xs.map Int8.toUInt8 := by
  have hbytes := flatMap_spell_word8 order (xs.map Int8.toUInt8)
  rw [List.flatMap_map] at hbytes
  exact hbytes

/-! ### Fractions -/

/-- A spelling that has every element and every run of bytes of its width. -/
structure Plain (term : Spelling α) : Prop where
  proper : ∀ a, term.Proper a
  settled_eq : ∀ order bytes, term.settled order bytes = bytes
  read_append : ∀ order bytes behind, bytes.length = term.width →
    term.read order (bytes ++ behind) = term.read order bytes

theorem plain_word32 : word32.Plain where
  proper _ := trivial
  settled_eq _ _ := rfl
  read_append order _ behind h := congrArg UInt32.ofNat (order.read_append h behind)

theorem plain_signed32 : signed32.Plain where
  proper _ := trivial
  settled_eq _ _ := rfl
  read_append order _ behind h :=
    congrArg UInt32.toInt32 (plain_word32.read_append order _ behind h)

namespace Plain

variable {term : Spelling α} (h : term.Plain)

include h

theorem read_spell_append (order : ByteOrder) (a : α) (behind : List UInt8) :
    term.read order (term.spell order a ++ behind) = a := by
  rw [h.read_append order _ behind (term.length_spell order a),
    term.read_spell order a (h.proper a)]

theorem spell_read {bytes : List UInt8} (order : ByteOrder) (hbytes : bytes.length = term.width) :
    term.spell order (term.read order bytes) = bytes := by
  rw [term.spell_read order bytes hbytes, h.settled_eq]

theorem read_eq_iff {bytes : List UInt8} (order : ByteOrder) (hbytes : bytes.length = term.width)
    (a : α) : term.read order bytes = a ↔ bytes = term.spell order a := by
  constructor
  · rintro rfl
    rw [h.spell_read order hbytes]
  · rintro rfl
    rw [term.read_spell order a (h.proper a)]

end Plain

theorem exists_halves {width : Nat} {bytes : List UInt8} (h : bytes.length = width + width) :
    ∃ front back, bytes = front ++ back ∧ front.length = width ∧ back.length = width := by
  refine ⟨bytes.take width, bytes.drop width, (List.take_append_drop width bytes).symm, ?_, ?_⟩
  · rw [List.length_take]
    omega
  · rw [List.length_drop]
    omega

/-- Two numbers, of which the second one is not zero. Where it would be, they are zero and one. -/
def fraction [DecidableEq α] (term : Spelling α) (hterm : term.Plain) (zero one : α)
    (hone : one ≠ zero) : Spelling (α × α) where
  width := term.width + term.width
  scalar := term.scalar
  read order bytes :=
    let denominator := term.read order (bytes.drop term.width)
    if denominator = zero then (zero, one) else (term.read order bytes, denominator)
  spell order a := term.spell order a.1 ++ term.spell order a.2
  Proper a := a.2 ≠ zero
  settled order bytes :=
    if bytes.drop term.width = term.spell order zero then
      term.spell order zero ++ term.spell order one
    else bytes
  scalar_pos := term.scalar_pos
  width_pos := Nat.add_pos_left term.width_pos _
  scalar_dvd := Nat.dvd_add term.scalar_dvd term.scalar_dvd
  length_spell order a := by rw [List.length_append, term.length_spell, term.length_spell]
  proper_read order bytes := by
    simp only
    split
    · exact hone
    · assumption
  read_spell order a h := by
    simp only [List.drop_left' (term.length_spell order a.1), hterm.read_spell_append]
    rw [term.read_spell order a.2 (hterm.proper a.2), if_neg h]
  spell_read order bytes h := by
    obtain ⟨front, back, rfl, hfront, hback⟩ := exists_halves h
    simp only [List.drop_left' hfront, hterm.read_append order front back hfront,
      hterm.read_eq_iff order hback]
    split
    · rfl
    · rw [hterm.spell_read order hfront, hterm.spell_read order hback]
  read_flipped order bytes h := by
    obtain ⟨front, back, rfl, hfront, hback⟩ := exists_halves h
    -- The halves are runs of whole scalars, so each is turned round on its own.
    have hflipped : flipped term.scalar (front ++ back) =
        flipped term.scalar front ++ flipped term.scalar back :=
      flipped_append_of_dvd term.scalar_pos (hfront ▸ term.scalar_dvd)
    have hlength : (flipped term.scalar front).length = term.width := by
      rw [length_flipped term.scalar_pos, hfront]
    simp only [hflipped, List.drop_left' hlength, List.drop_left' hfront,
      hterm.read_append _ _ _ hlength, hterm.read_append _ _ _ hfront,
      term.read_flipped order front hfront, term.read_flipped order back hback]

def rationals : Spelling Rational :=
  (fraction word32 plain_word32 0 1 (by decide)).renamed (fun terms => ⟨terms.1, terms.2⟩)
    (fun r => (r.numerator, r.denominator)) (fun _ => rfl) fun _ => rfl

def srationals : Spelling SRational :=
  (fraction signed32 plain_signed32 0 1 (by decide)).renamed (fun terms => ⟨terms.1, terms.2⟩)
    (fun r => (r.numerator, r.denominator)) (fun _ => rfl) fun _ => rfl

theorem read_rationals (order : ByteOrder) (bytes : List UInt8) :
    rationals.read order bytes =
      Rational.make (order.readU32 bytes) (order.readU32 (bytes.drop 4)) :=
  apply_ite (fun terms : UInt32 × UInt32 => (⟨terms.1, terms.2⟩ : Rational))
    (order.readU32 (bytes.drop 4) = 0) (0, 1) (order.readU32 bytes, order.readU32 (bytes.drop 4))

theorem read_srationals (order : ByteOrder) (bytes : List UInt8) :
    srationals.read order bytes =
      SRational.make (order.readU32 bytes).toInt32 (order.readU32 (bytes.drop 4)).toInt32 :=
  apply_ite (fun terms : Int32 × Int32 => (⟨terms.1, terms.2⟩ : SRational))
    ((order.readU32 (bytes.drop 4)).toInt32 = 0) (0, 1)
    ((order.readU32 bytes).toInt32, (order.readU32 (bytes.drop 4)).toInt32)

end Spelling

/-! ## Values -/

namespace Value

/-- The coding that gives values of this kind. -/
def coding? : Value → Option Coding
  | byte _ => some .byte
  | ascii _ => some .ascii
  | short _ => some .short
  | long _ => some .long
  | rational _ => some .rational
  | sbyte _ => some .sbyte
  | undefined _ => some .undefined
  | sshort _ => some .sshort
  | slong _ => some .slong
  | srational _ => some .srational
  | float _ => some .float
  | double _ => some .double
  | ifd _ => some .ifd
  | long8 _ => some .long8
  | slong8 _ => some .slong8
  | ifd8 _ => some .ifd8
  | raw _ => none

/-- The elements written one behind the other: numbers in the byte order, negative ones as the word
that they are told by, and of a fraction the numerator before the denominator. -/
def spelled (order : ByteOrder) : Value → List UInt8
  | byte xs | undefined xs | raw xs => xs
  | ascii text => text.toUTF8.data.toList
  | short xs => xs.flatMap fun x => order.toBytes 2 x.toNat
  | long xs | float xs | ifd xs => xs.flatMap fun x => order.toBytes 4 x.toNat
  | rational xs => xs.flatMap fun x =>
      order.toBytes 4 x.numerator.toNat ++ order.toBytes 4 x.denominator.toNat
  | sbyte xs => xs.map Int8.toUInt8
  | sshort xs => xs.flatMap fun x => order.toBytes 2 x.toUInt16.toNat
  | slong xs => xs.flatMap fun x => order.toBytes 4 x.toUInt32.toNat
  | srational xs => xs.flatMap fun x =>
      order.toBytes 4 x.numerator.toUInt32.toNat ++ order.toBytes 4 x.denominator.toUInt32.toNat
  | double xs | long8 xs | ifd8 xs => xs.flatMap fun x => order.toBytes 8 x.toNat
  | slong8 xs => xs.flatMap fun x => order.toBytes 8 x.toUInt64.toNat

/-- No fraction is over zero. -/
def Proper : Value → Prop
  | rational xs => ∀ x ∈ xs, x.denominator ≠ 0
  | srational xs => ∀ x ∈ xs, x.denominator ≠ 0
  | _ => True

end Value

namespace Coding

/-- Bytes of a number. Fractions have two numbers. -/
def scalar : Coding → Nat
  | rational | srational => 4
  | coding => coding.size

/-- The bytes by which an element is written again: those that it was read from, unless it was a
fraction over zero, which is read as 0/1. -/
def settled (coding : Coding) (order : ByteOrder) (element : List UInt8) : List UInt8 :=
  match coding with
  | rational | srational =>
    if element.drop 4 = [0, 0, 0, 0] then order.toBytes 4 0 ++ order.toBytes 4 1 else element
  | _ => element

/-- The values of a coding are lists of elements, which are spelled one by one. -/
structure Lists (coding : Coding) where
  {Element : Type}
  spelling : Spelling Element
  value : List Element → Value
  size_eq : coding.size = spelling.width := by rfl
  scalar_eq : coding.scalar = spelling.scalar := by rfl
  settled_eq : ∀ order bytes, coding.settled order bytes = spelling.settled order bytes := by
    exact fun _ _ => rfl
  decode_eq : ∀ order bytes, coding.decode order bytes = value (spelling.readAll order bytes) := by
    exact fun _ _ => rfl
  spelled_eq : ∀ order xs, (value xs).spelled order = xs.flatMap (spelling.spell order) := by
    exact fun _ _ => rfl
  length_eq : ∀ xs, (value xs).length = xs.length := by exact fun _ => rfl
  proper_iff : ∀ xs, (value xs).Proper ↔ ∀ x ∈ xs, spelling.Proper x := by
    exact fun _ => ⟨fun _ _ _ => trivial, fun _ => trivial⟩
  exists_eq : ∀ written : Value, written.coding? = some coding → ∃ xs, written = value xs := by
    intro written h
    cases written <;> cases h
    exact ⟨_, rfl⟩

def lists (coding : Coding) (hcoding : coding ≠ .ascii) : coding.Lists :=
  match coding with
  | byte => {
      spelling := .word8, value := .byte
      decode_eq := fun order bytes => by rw [Spelling.readAll_word8]; rfl
      spelled_eq := fun order xs => by rw [Spelling.flatMap_spell_word8]; rfl }
  | ascii => absurd rfl hcoding
  | short => { spelling := .word16, value := .short }
  | long => { spelling := .word32, value := .long }
  | rational => {
      spelling := .rationals, value := .rational
      settled_eq := fun order bytes => by simp only [settled, ← order.toBytes_zero]; rfl
      decode_eq := fun order bytes => congrArg Value.rational
        (List.map_congr_left fun group _ => (Spelling.read_rationals order group).symm)
      proper_iff := fun _ => Iff.rfl }
  | sbyte => {
      spelling := .signed8, value := .sbyte
      decode_eq := fun order bytes => by rw [Spelling.readAll_signed8]; rfl
      spelled_eq := fun order xs => by rw [Spelling.flatMap_spell_signed8]; rfl }
  | undefined => {
      spelling := .word8, value := .undefined
      decode_eq := fun order bytes => by rw [Spelling.readAll_word8]; rfl
      spelled_eq := fun order xs => by rw [Spelling.flatMap_spell_word8]; rfl }
  | sshort => { spelling := .signed16, value := .sshort }
  | slong => { spelling := .signed32, value := .slong }
  | srational => {
      spelling := .srationals, value := .srational
      settled_eq := fun order bytes => by rw [settled, ← order.toBytes_zero]; rfl
      decode_eq := fun order bytes => congrArg Value.srational
        (List.map_congr_left fun group _ => (Spelling.read_srationals order group).symm)
      proper_iff := fun _ => Iff.rfl }
  | float => { spelling := .word32, value := .float }
  | double => { spelling := .word64, value := .double }
  | ifd => { spelling := .word32, value := .ifd }
  | long8 => { spelling := .word64, value := .long8 }
  | slong8 => { spelling := .signed64, value := .slong8 }
  | ifd8 => { spelling := .word64, value := .ifd8 }

namespace Lists

variable {coding : Coding} (lists : coding.Lists) (order : ByteOrder) (bytes : List UInt8)

include lists

theorem length_decode :
    (coding.decode order bytes).length = bytes.length / coding.size := by
  rw [lists.decode_eq, lists.length_eq, lists.spelling.length_readAll, lists.size_eq]

theorem spelled_decode : (coding.decode order bytes).spelled order =
    ((groups coding.size bytes).map (coding.settled order)).flatten := by
  have hsettled : coding.settled order = lists.spelling.settled order :=
    funext (lists.settled_eq order)
  rw [lists.decode_eq, lists.spelled_eq, lists.spelling.spelled_readAll, lists.size_eq, hsettled]

theorem proper_decode : (coding.decode order bytes).Proper := by
  rw [lists.decode_eq, lists.proper_iff]
  exact lists.spelling.proper_readAll order bytes

theorem decode_spelled {written : Value} (hcoding : written.coding? = some coding)
    (hproper : written.Proper) : coding.decode order (written.spelled order) = written := by
  obtain ⟨xs, rfl⟩ := lists.exists_eq written hcoding
  rw [lists.proper_iff] at hproper
  rw [lists.spelled_eq, lists.decode_eq, lists.spelling.readAll_spelled order hproper]

theorem decode_flipped :
    coding.decode order.other (flipped coding.scalar bytes) = coding.decode order bytes := by
  rw [lists.decode_eq, lists.decode_eq, lists.scalar_eq, lists.spelling.readAll_flipped]

end Lists

theorem size_pos (coding : Coding) : 0 < coding.size := by
  cases coding <;> decide

theorem coding?_decode (coding : Coding) (order : ByteOrder) (bytes : List UInt8) :
    (coding.decode order bytes).coding? = some coding := by
  cases coding <;> rfl

/-- Bytes are decoded into as many elements as they are enough for. Written again, these give the
bytes back as far as they fill elements; only a fraction over zero, which is read as 0/1, is written
as that, and so no fraction that is read is over zero. Elements of the coding that are written are
read as they were. The byte order is that of the numbers: where every number is turned round, the
other order gives the same elements. -/
theorem elements_are_read_as_they_are_written (sizes : OpenSizes) (coding : Coding)
    (hcoding : coding ≠ .ascii) (order : ByteOrder) (bytes : List UInt8) :
    let type := (Registry.standard sizes).defaultDictionary.type coding.id
    let value := type.decode order bytes
    let elements := groups type.size bytes
    value.coding? = some coding ∧
    value.length = bytes.length / type.size ∧
    elements.flatten = bytes.take (bytes.length / type.size * type.size) ∧
    value.spelled order = (elements.map (coding.settled order)).flatten ∧
    value.Proper ∧
    (∀ written : Value, written.coding? = some coding → written.Proper →
      type.decode order (written.spelled order) = written) ∧
    type.decode order.other (flipped coding.scalar bytes) = value := by
  intro type value elements
  have htype : type = coding.fieldType := Registry.knowsCodings_standard sizes coding
  have hlists : coding.Lists := coding.lists hcoding
  simp only [value, elements, htype, fieldType]
  exact ⟨coding.coding?_decode order bytes, hlists.length_decode order bytes,
    flatten_groups coding.size_pos bytes, hlists.spelled_decode order bytes,
    hlists.proper_decode order bytes, fun _ => hlists.decode_spelled order,
    hlists.decode_flipped order bytes⟩

/-- Two signed fractions, the first one over zero, and three bytes that fill no other one. -/
def overZero : List UInt8 :=
  [0, 0, 0, 5, 0, 0, 0, 0, 0xFF, 0xFF, 0xFF, 0xFE, 0, 0, 0, 3, 7, 8, 9]

/-- The first fraction is written as 0/1, the second one as it stood, and the three bytes not at
all. With every term turned round, the fractions are the same. -/
theorem elements_are_read_as_they_are_written_of_overZero :
    srational ≠ .ascii ∧
    srational.fieldType.decode .big overZero = .srational [⟨0, 1⟩, ⟨-2, 3⟩] ∧
    (Value.srational [⟨0, 1⟩, ⟨-2, 3⟩]).spelled .big =
      [0, 0, 0, 0, 0, 0, 0, 1, 0xFF, 0xFF, 0xFF, 0xFE, 0, 0, 0, 3] ∧
    srational.fieldType.decode .little
      [5, 0, 0, 0, 0, 0, 0, 0, 0xFE, 0xFF, 0xFF, 0xFF, 3, 0, 0, 0, 7, 8, 9] =
        .srational [⟨0, 1⟩, ⟨-2, 3⟩] := by
  obtain ⟨-, -, -, hspelled, -, -, hflipped⟩ :=
    elements_are_read_as_they_are_written {} srational (by decide) .big overZero
  rw [Registry.knowsCodings_standard] at hspelled hflipped
  have hvalue : srational.fieldType.decode .big overZero = .srational [⟨0, 1⟩, ⟨-2, 3⟩] := by
    decide
  have hturned : flipped srational.scalar overZero =
      [5, 0, 0, 0, 0, 0, 0, 0, 0xFE, 0xFF, 0xFF, 0xFF, 3, 0, 0, 0, 7, 8, 9] := by decide
  have hwritten : ((groups srational.fieldType.size overZero).map
      (srational.settled .big)).flatten =
        [0, 0, 0, 0, 0, 0, 0, 1, 0xFF, 0xFF, 0xFF, 0xFE, 0, 0, 0, 3] := by decide
  rw [hvalue, hwritten] at hspelled
  rw [hvalue, hturned] at hflipped
  exact ⟨by decide, hvalue, hspelled, hflipped⟩

end Coding

end Tiff
