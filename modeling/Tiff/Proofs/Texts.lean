-- Texts of elements. A value is decoded as a whole, and its texts are told of one
-- element after the other. Both say the same, but for a fraction over zero: the
-- text of it has the terms that are stored, and the element is 0/1.

import Tiff.Proofs.Codings
import Tiff.Proofs.Conversions
import Tiff.Proofs.Values

namespace Tiff

/-! ## Elements in their places -/

theorem getElem?_groups {width i : Nat} {bytes : List UInt8} (h : i < bytes.length / width) :
    (groups width bytes)[i]? = some ((bytes.drop (i * width)).take width) := by
  simp [groups, h, List.extract_eq_take_drop]

theorem map_groups_one {α : Type} {f : List UInt8 → α} {g : UInt8 → α} (h : ∀ b, f [b] = g b)
    (bytes : List UInt8) : (groups 1 bytes).map f = bytes.map g := by
  rw [groups_one, List.map_map]
  exact List.map_congr_left fun b _ => h b

namespace ByteOrder

variable (order : ByteOrder)

theorem read_take {width n : Nat} (h : width ≤ n) (bytes : List UInt8) :
    order.read width (bytes.take n) = order.read width bytes := by
  rw [read, read, fitBytes, fitBytes, List.take_take, Nat.min_eq_left h]

/-- The number of four bytes. Where numbers are signed, those of the upper half are below zero. -/
def term (signed : Bool) (bytes : List UInt8) : Int :=
  let word : Int := order.read 4 bytes
  if signed then word.bmod (2 ^ 32) else word

theorem term_take (signed : Bool) {n : Nat} (h : 4 ≤ n) (bytes : List UInt8) :
    order.term signed (bytes.take n) = order.term signed bytes := by
  rw [term, term, order.read_take h]

theorem toNat_readU32 (bytes : List UInt8) :
    ((order.readU32 bytes).toNat : Int) = order.term false bytes := by
  rw [readU32, UInt32.toNat_ofNat_of_lt' (order.read_lt 4 bytes), term, if_neg Bool.false_ne_true]

theorem toInt_readU32 (bytes : List UInt8) :
    (order.readU32 bytes).toInt32.toInt = order.term true bytes := by
  have hword : (order.readU32 bytes).toInt32.toInt =
      Int.bmod (order.readU32 bytes).toNat (2 ^ 32) := BitVec.toInt_eq_toNat_bmod _
  rw [hword, toNat_readU32, term, term, if_neg Bool.false_ne_true, if_pos rfl]

theorem term_unsigned_eq_zero_iff (bytes : List UInt8) :
    order.term false bytes = 0 ↔ order.readU32 bytes = 0 := by
  rw [← toNat_readU32, Int.natCast_eq_zero, ← UInt32.toNat_inj, UInt32.toNat_zero]

theorem term_signed_eq_zero_iff (bytes : List UInt8) :
    order.term true bytes = 0 ↔ (order.readU32 bytes).toInt32 = 0 := by
  rw [← toInt_readU32, ← Int32.toInt_inj, Int32.toInt_zero]

end ByteOrder

theorem Rational.describe_make (numerator denominator : UInt32) :
    (make numerator denominator).describe =
      if denominator = 0 then "0/1" else s!"{numerator}/{denominator}" := by
  unfold make
  split <;> rfl

theorem SRational.describe_make (numerator denominator : Int32) :
    (make numerator denominator).describe =
      if denominator = 0 then "0/1" else s!"{numerator}/{denominator}" := by
  unfold make
  split <;> rfl

/-- The texts of the elements that are fractions, in their order. -/
def Value.fractionTexts : Value → List String
  | rational xs => xs.map Rational.describe
  | srational xs => xs.map SRational.describe
  | _ => []

namespace Coding

/-- The codings whose elements are fractions. -/
def fractions : List Coding := [.rational, .srational]

variable {coding : Coding} (order : ByteOrder) (bytes : List UInt8)

/-! ## Whole numbers -/

/-- Every whole number is told in decimals. -/
theorem map_render_of_wholes (h : coding ∈ wholes) :
    (groups coding.size bytes).map (coding.render order) =
      (coding.decode order bytes).wholes.map fun n => toString n := by
  cases coding with
  | byte | undefined =>
    rw [decode, Value.wholes, List.map_map]
    exact map_groups_one (fun _ => rfl) bytes
  | sbyte =>
    rw [decode, Value.wholes, List.map_map, List.map_map]
    exact map_groups_one (fun _ => rfl) bytes
  | short | long | ifd | long8 | ifd8 | sshort | slong | slong8 =>
    rw [decode, Value.wholes, List.map_map, List.map_map]
    rfl
  | ascii | rational | srational | float | double => exact absurd h (by decide)

/-! ## Fractions -/

/-- The text of a fraction has both terms as they are stored. -/
theorem render_of_fractions (h : coding ∈ fractions) (element : List UInt8) :
    coding.render order element =
      s!"{order.term coding.signed element}/{order.term coding.signed (element.drop 4)}" := by
  cases coding with
  | rational =>
    have hsigned : rational.signed = false := rfl
    rw [hsigned, ← order.toNat_readU32, ← order.toNat_readU32]
    rfl
  | srational =>
    have hsigned : srational.signed = true := rfl
    rw [hsigned, ← order.toInt_readU32, ← order.toInt_readU32]
    rfl
  | _ => exact absurd h (by decide)

/-- A fraction that is read has the same text, unless it is over zero. -/
theorem fractionTexts_decode (h : coding ∈ fractions) :
    (coding.decode order bytes).fractionTexts =
      (groups coding.size bytes).map fun element =>
        if order.term coding.signed (element.drop 4) = 0 then "0/1"
        else coding.render order element := by
  cases coding with
  | rational =>
    rw [decode, Value.fractionTexts, List.map_map]
    refine List.map_congr_left fun element _ => (Rational.describe_make _ _).trans ?_
    exact ite_congr (propext (order.term_unsigned_eq_zero_iff _).symm) (fun _ => rfl) fun _ => rfl
  | srational =>
    rw [decode, Value.fractionTexts, List.map_map]
    refine List.map_congr_left fun element _ => (SRational.describe_make _ _).trans ?_
    exact ite_congr (propext (order.term_signed_eq_zero_iff _).symm) (fun _ => rfl) fun _ => rfl
  | _ => exact absurd h (by decide)

/-- A fraction is eight bytes: those of the numerator and then those of the denominator. -/
theorem getElem?_of_fractions (h : coding ∈ fractions) {i : Nat}
    (hi : i < bytes.length / coding.size) :
    let numerator := order.term coding.signed (bytes.drop (8 * i))
    let denominator := order.term coding.signed (bytes.drop (8 * i + 4))
    let text := s!"{numerator}/{denominator}"
    ((groups coding.size bytes).map (coding.render order))[i]? = some text ∧
    (coding.decode order bytes).fractionTexts[i]? =
      some (if denominator = 0 then "0/1" else text) := by
  intro numerator denominator text
  have hsize : coding.size = 8 := by
    cases coding with
    | rational | srational => rfl
    | _ => exact absurd h (by decide)
  have helement := getElem?_groups hi
  rw [hsize, Nat.mul_comm i 8] at helement
  have hnumerator : order.term coding.signed ((bytes.drop (8 * i)).take 8) = numerator :=
    order.term_take coding.signed (by decide) _
  have hdenominator :
      order.term coding.signed (((bytes.drop (8 * i)).take 8).drop 4) = denominator := by
    rw [List.drop_take, List.drop_drop, order.term_take coding.signed (by decide)]
  have hrender : coding.render order ((bytes.drop (8 * i)).take 8) = text := by
    rw [render_of_fractions order h, hnumerator, hdenominator]
  constructor
  · rw [List.getElem?_map, hsize, helement, Option.map_some, hrender]
  · rw [fractionTexts_decode order bytes h, List.getElem?_map, hsize, helement, Option.map_some,
      hdenominator, hrender]

end Coding

/-! ## Fields -/

namespace Field

/-- What the texts of a field have to do with its elements. -/
structure TellsElements (field : Field) : Prop where
  length_texts : 0 < field.type.size → field.texts.length = field.count
  texts_eq_nil : field.type.size = 0 → field.texts = []
  /-- Whole numbers are told in decimals. -/
  wholes : ∀ coding ∈ Coding.wholes, field.type = coding.fieldType →
    field.value.coding? = some coding ∧ field.value.wholes.length = field.count ∧
    field.texts = field.value.wholes.map fun n => toString n
  /-- Fractions are told by the two terms that are stored, and these are the terms of the element
  too where it is not over zero. -/
  fractions : ∀ coding ∈ Coding.fractions, field.type = coding.fieldType →
    field.value.coding? = some coding ∧ field.value.fractionTexts.length = field.count ∧
    ∀ i < field.count,
      let numerator := field.order.term coding.signed (field.bytes.drop (8 * i))
      let denominator := field.order.term coding.signed (field.bytes.drop (8 * i + 4))
      field.texts[i]? = some s!"{numerator}/{denominator}" ∧
      field.value.fractionTexts[i]? = if denominator = 0 then some "0/1" else field.texts[i]?

variable {limits : Limits} {field : Field}

theorem Whole.count_eq (h : field.Whole limits) (hsize : 0 < field.type.size) :
    field.bytes.length / field.type.size = field.count := by
  rw [h.length_eq, Nat.mul_div_cancel _ hsize]

theorem length_texts (field : Field) :
    field.texts.length = field.bytes.length / field.type.size := by
  simp only [Payload.texts, FieldType.renderAll, List.length_map, length_groups]

theorem decoded {coding : Coding} (htype : field.type = coding.fieldType) :
    field.value = coding.decode field.order field.bytes ∧
    field.texts = (groups coding.size field.bytes).map (coding.render field.order) := by
  simp only [Payload.value, Payload.texts, FieldType.renderAll, htype, Coding.fieldType, and_self]

theorem Whole.tellsElements (h : field.Whole limits) : field.TellsElements where
  length_texts hsize := by rw [length_texts, h.count_eq hsize]
  texts_eq_nil hsize := by
    rw [← List.length_eq_zero_iff, length_texts, hsize, Nat.div_zero]
  wholes coding hcoding htype := by
    obtain ⟨hvalue, htexts⟩ := decoded htype
    have hcount := h.count_eq (htype ▸ coding.size_pos)
    rw [Coding.map_render_of_wholes _ _ hcoding, ← hvalue] at htexts
    refine ⟨hvalue ▸ coding.coding?_decode _ _, ?_, htexts⟩
    rw [← hcount, ← length_texts, htexts, List.length_map]
  fractions coding hcoding htype := by
    obtain ⟨hvalue, htexts⟩ := decoded htype
    have hcount : field.bytes.length / coding.size = field.count := by
      have hcount := h.count_eq (htype ▸ coding.size_pos)
      rwa [htype] at hcount
    refine ⟨hvalue ▸ coding.coding?_decode _ _, ?_, fun i hi => ?_⟩
    · rw [hvalue, Coding.fractionTexts_decode _ _ hcoding, List.length_map, length_groups, hcount]
    · rw [← hcount] at hi
      obtain ⟨htext, hshown⟩ := Coding.getElem?_of_fractions field.order field.bytes hcoding hi
      rw [← htexts] at htext
      rw [← hvalue] at hshown
      refine ⟨htext, ?_⟩
      rw [hshown, htext]
      split <;> rfl

/-- A field tells its elements one by one, as the decoded value has them, whether it is resolved
from an entry or comes from a directory of a file. -/
theorem texts_tell_the_elements (words : Dictionary) (limits : Limits) (entry : Entry)
    (hslot : entry.Whole) :
    (∀ reader after field, (resolve words limits entry).outcome reader = (.ok field, after) →
      field.TellsElements) ∧
    ∀ limits directory, Directory.Returned limits directory →
      ∀ field ∈ directory.fields, field.TellsElements := by
  constructor
  · intro reader after field hread
    exact (yields_resolve words limits hslot reader after field hread).tellsElements
  · intro limits directory hdirectory field hfield
    exact (hdirectory.whole field hfield).tellsElements

/-- Two signed fractions behind eight other bytes, the second one over zero. -/
def fractionContent : ByteArray :=
  ⟨#[0, 0, 0, 0, 0, 0, 0, 0, 0xFF, 0xFF, 0xFF, 0xFE, 0, 0, 0, 3, 0, 0, 0, 5, 0, 0, 0, 0]⟩

/-- The text of a fraction over zero has the terms that are stored, and the element has not. -/
theorem texts_tell_the_elements_of_twoFractions :
    let words := (Registry.standard {}).defaultDictionary
    let slot : List UInt8 := [0, 0, 0, 8]
    let entry : Entry := { layout := .classic, tag := 700, type := 10, count := 2, slot }
    let reader : Reader := { source := .ofBytes fractionContent, cursor := { order := .big } }
    entry.Whole ∧ ∃ field, (resolve words {} entry).outcome reader = (.ok field, reader) ∧
      field.type = Coding.srational.fieldType ∧ field.count = 2 ∧
      field.texts[0]? = some "-2/3" ∧ field.value.fractionTexts[0]? = some "-2/3" ∧
      field.texts[1]? = some "5/0" ∧ field.value.fractionTexts[1]? = some "0/1" := by
  intro words slot entry reader
  have htype : words.type entry.type = Coding.srational.fieldType :=
    Registry.knowsCodings_standard {} .srational
  have hread : (resolve words {} entry).outcome reader =
      (.ok { entry, tag := words.tag entry.tag, type := Coding.srational.fieldType, order := .big,
             bytes := slice fractionContent 8 16, offset := 8 }, reader) := by
    have hsection : sectionOf fractionContent (entry.offset reader.cursor.order)
        (entry.count * Coding.srational.fieldType.size) = .ok (slice fractionContent 8 16) :=
      sectionOf_of_le (by decide) (by decide)
    rw [outcome_resolve rfl, resolved, htype, if_neg (by decide), if_neg (by decide), hsection]
    rfl
  obtain ⟨htells, -⟩ := texts_tell_the_elements words {} entry rfl
  obtain ⟨-, -, -, hfractions⟩ := htells _ _ _ hread
  obtain ⟨-, -, hterms⟩ := hfractions .srational (by decide) rfl
  refine ⟨rfl, _, hread, rfl, rfl, ?_⟩
  obtain ⟨htext, hshown⟩ := hterms 0 (by decide)
  obtain ⟨htext', hshown'⟩ := hterms 1 (by decide)
  rw [if_neg (by decide), htext] at hshown
  rw [if_pos (by decide)] at hshown'
  exact ⟨htext.trans (by decide), hshown.trans (by decide), htext'.trans (by decide), hshown'⟩

end Field

end Tiff
