-- Exposure times. A field of fractions tells its first one in lowest terms, in
-- whichever byte order it is stored and however far its terms were extended. So
-- exposure times that are equal read the same.

import Tiff.Proofs.LowestTerms
import Tiff.Proofs.StandardTags
import Tiff.Proofs.Texts

namespace Tiff

/-! ## Fractions that are read -/

namespace Rational

theorem denominator_make_ne_zero (numerator denominator : UInt32) :
    (make numerator denominator).denominator ≠ 0 := by
  unfold make
  split
  · exact (by decide : (1 : UInt32) ≠ 0)
  · assumption

theorem number_make (numerator denominator : UInt32) :
    (make numerator denominator).number =
      if denominator = 0 then 0 else (numerator.toNat : ℚ) / denominator.toNat := by
  unfold make
  split
  · rw [number, UInt32.toNat_zero, Nat.cast_zero, zero_div]
  · rfl

end Rational

theorem ByteOrder.cast_readU32 (order : ByteOrder) (bytes : List UInt8) :
    ((order.readU32 bytes).toNat : ℚ) = order.term false bytes := by
  rw [← order.toNat_readU32, Int.cast_natCast]

namespace Payload

variable {payload other : Payload}

/-- The number of the first fraction, by its terms as they are stored. Over zero it counts as
zero. -/
def firstNumber (payload : Payload) : ℚ :=
  let numerator := payload.order.term false payload.bytes
  let denominator := payload.order.term false (payload.bytes.drop 4)
  if denominator = 0 then 0 else numerator / denominator

/-- A payload of unsigned fractions, at least one of them. -/
structure HasFraction (payload : Payload) : Prop where
  type_eq : payload.type = Coding.rational.fieldType
  length_pos : 0 < payload.value.length

/-- The first element is the fraction that the first eight bytes have. -/
theorem HasFraction.exists_value_eq (h : payload.HasFraction) :
    ∃ r rest, payload.value = .rational (r :: rest) ∧ r.denominator ≠ 0 ∧
      r.number = payload.firstNumber := by
  obtain ⟨htype, hpos⟩ := h
  have hvalue : payload.value = Coding.rational.decode payload.order payload.bytes := by
    rw [value, htype]
    rfl
  have hlists : Coding.rational.Lists := Coding.rational.lists (by decide)
  have hfirst : 8 ≤ payload.bytes.length := by
    rw [hvalue, hlists.length_decode] at hpos
    exact Nat.le_of_not_lt fun hless => by simp [Coding.size, Nat.div_eq_of_lt hless] at hpos
  rw [Coding.decode, groups_cons (by decide) hfirst, List.map_cons] at hvalue
  refine ⟨_, _, hvalue, Rational.denominator_make_ne_zero _ _, ?_⟩
  have hnumerator := payload.order.term_take false (by decide : 4 ≤ 8) payload.bytes
  have hdenominator : payload.order.term false ((payload.bytes.take 8).drop 4) =
      payload.order.term false (payload.bytes.drop 4) := by
    rw [List.drop_take, payload.order.term_take false (by decide)]
  rw [Rational.number_make, firstNumber, ← hnumerator, ← hdenominator,
    ByteOrder.cast_readU32, ByteOrder.cast_readU32]
  exact ite_congr (propext (payload.order.term_unsigned_eq_zero_iff _).symm) (fun _ => rfl)
    fun _ => rfl

/-! ## Texts of exposure times -/

theorem HasFraction.exposureTime_eq (h : payload.HasFraction) :
    ∃ r : Rational, r.denominator ≠ 0 ∧ r.number = payload.firstNumber ∧
      Catalog.exposureTime payload = r.reduced.describe := by
  obtain ⟨r, rest, hvalue, hne, hnumber⟩ := h.exists_value_eq
  refine ⟨r, hne, hnumber, ?_⟩
  unfold Catalog.exposureTime
  rw [hvalue]

theorem HasFraction.exposureTime_eq_lowest (h : payload.HasFraction) :
    ∃ p q : Nat, Catalog.exposureTime payload = s!"{p}/{q}" ∧ p.Coprime q ∧ 0 < q ∧
      (p : ℚ) / q = payload.firstNumber := by
  obtain ⟨r, hne, hnumber, htext⟩ := h.exposureTime_eq
  obtain ⟨hcoprime, hne'⟩ := Rational.inLowestTerms_reduced hne
  have hpos := Nat.pos_of_ne_zero (Rational.toNat_denominator_ne_zero hne')
  exact ⟨_, _, htext, hcoprime, hpos, (Rational.number_reduced hne).trans hnumber⟩

/-- Equal numbers have one text, whatever terms they are stored with. -/
theorem HasFraction.exposureTime_congr (h : payload.HasFraction) (hother : other.HasFraction)
    (hsame : payload.firstNumber = other.firstNumber) :
    Catalog.exposureTime payload = Catalog.exposureTime other := by
  obtain ⟨r, hr, hnumber, htext⟩ := h.exposureTime_eq
  obtain ⟨s, hs, hnumber', htext'⟩ := hother.exposureTime_eq
  have hboth : r.number = s.number := by rw [hnumber, hnumber', hsame]
  rw [htext, htext', (Rational.reduced_eq_reduced_iff hr hs).mpr hboth]

theorem HasFraction.exposureTime_of_zero (h : payload.HasFraction)
    (hzero : payload.order.term false (payload.bytes.drop 4) = 0) :
    Catalog.exposureTime payload = "0/1" := by
  obtain ⟨p, q, htext, hcoprime, hpos, hnumber⟩ := h.exposureTime_eq_lowest
  rw [firstNumber, if_pos hzero, div_eq_zero_iff] at hnumber
  obtain rfl : p = 0 := by
    rcases hnumber with hp | hq
    · exact_mod_cast hp
    · exact absurd hpos (by exact_mod_cast hq.not_gt)
  obtain rfl : q = 1 := (Nat.coprime_zero_left q).mp hcoprime
  exact htext

end Payload

/-! ## Fields -/

namespace Field

/-- The count of an entry is the number of its fractions. -/
theorem Whole.hasFraction {limits : Limits} {field : Field} (h : field.Whole limits)
    (htype : field.type = Coding.rational.fieldType) (hcount : 0 < field.count) :
    field.toPayload.HasFraction := by
  have hlists : Coding.rational.Lists := Coding.rational.lists (by decide)
  have hlength := h.count_eq (htype ▸ Coding.rational.size_pos)
  rw [htype] at hlength
  refine ⟨htype, ?_⟩
  rw [(decoded htype).1, hlists.length_decode]
  exact Nat.lt_of_lt_of_eq hcount hlength.symm

/-- What tag and type mean is up to the words that a field is resolved with. -/
theorem yields_words (words : Dictionary) (limits : Limits) (entry : Entry) :
    Yields (fun field : Field => field.tag = words.tag entry.tag ∧
      field.type = words.type entry.type ∧ field.count = entry.count)
      (resolve words limits entry) :=
  .next fun _ => .dite (fun _ => .throw _) fun _ =>
    .dite (fun _ => .pure ⟨rfl, rfl, rfl⟩) fun _ => .next fun _ => .pure ⟨rfl, rfl, rfl⟩

end Field

namespace Catalog

/-- Reducing leads to lowest terms of the same number, to 0/1 for zero, and no further; numbers are
the same just where their reduced fractions are. So every payload of fractions tells its first
number as an exposure time in lowest terms, and one text for one number. In the chain of a file and
in Exif directories the tag of exposure times does so for every entry of fractions that is not
empty. -/
theorem an_exposure_time_is_told_in_lowest_terms :
    (∀ r : Rational, r.denominator ≠ 0 →
      r.reduced.InLowestTerms ∧ r.reduced.number = r.number ∧
      (r.numerator = 0 → r.reduced = ⟨0, 1⟩) ∧ r.reduced.reduced = r.reduced ∧
      ∀ s : Rational, s.denominator ≠ 0 → (r.number = s.number ↔ r.reduced = s.reduced)) ∧
    (∀ payload : Payload, payload.HasFraction →
      (∃ p q : Nat, exposureTime payload = s!"{p}/{q}" ∧ p.Coprime q ∧ 0 < q ∧
        (p : ℚ) / q = payload.firstNumber) ∧
      (payload.order.term false (payload.bytes.drop 4) = 0 → exposureTime payload = "0/1") ∧
      ∀ other : Payload, other.HasFraction → payload.firstNumber = other.firstNumber →
        exposureTime payload = exposureTime other) ∧
    ∀ (sizes : OpenSizes) (space : Nat) (limits : Limits) (entry : Entry) (reader after : Reader)
      (field : Field), (Registry.standard sizes).tagSpace? Registry.defaultName = some space ∨
        (Registry.standard sizes).tagSpace? "Exif" = some space →
      entry.Whole → entry.tag = 33434 → entry.type = Coding.rational.id → 0 < entry.count →
      (Field.resolve ((Registry.standard sizes).dictionary space) limits entry).outcome reader =
        (.ok field, after) →
      field.toPayload.HasFraction ∧ field.interpret? = some (exposureTime field.toPayload) := by
  refine ⟨fun r hr => ⟨?_, ?_, ?_, ?_, ?_⟩, fun payload h => ⟨?_, ?_, ?_⟩, ?_⟩
  · exact Rational.inLowestTerms_reduced hr
  · exact Rational.number_reduced hr
  · exact Rational.reduced_of_zero hr
  · exact Rational.reduced_reduced hr
  · exact fun s hs => (Rational.reduced_eq_reduced_iff hr hs).symm
  · exact h.exposureTime_eq_lowest
  · exact h.exposureTime_of_zero
  · exact fun other hother hsame => h.exposureTime_congr hother hsame
  · intro sizes space limits entry reader after field hspace hslot htag htype hcount hread
    obtain ⟨hfieldTag, hfieldType, hfieldCount⟩ :=
      Field.yields_words _ limits entry reader after field hread
    have hwhole := Field.yields_resolve _ limits hslot reader after field hread
    rw [htag] at hfieldTag
    rw [htype] at hfieldType
    have hknown := Registry.knowsCodings_standard sizes .rational
    refine ⟨hwhole.hasFraction (hfieldType.trans hknown) (hfieldCount ▸ hcount), ?_⟩
    have hmeaning : field.tag = Registry.exposureTag := by
      rcases hspace with hspace | hspace
      · exact hfieldTag.trans (Registry.tag_exposure sizes (.inl rfl) hspace)
      · exact hfieldTag.trans (Registry.tag_exposure sizes (.inr rfl) hspace)
    rw [Field.interpret?, hmeaning]
    rfl

/-- Ten over forty, behind eight other bytes. -/
def fortieths : ByteArray := ⟨#[0, 0, 0, 0, 0, 0, 0, 0, 0, 0, 0, 10, 0, 0, 0, 40]⟩

/-- Ten over forty in an Exif directory reads as one over four in the other byte order does. -/
theorem an_exposure_time_is_told_in_lowest_terms_of_fortieths :
    let registry := Registry.standard {}
    let entry : Entry := {
      layout := .classic, tag := 33434, type := 5, count := 1, slot := [0, 0, 0, 8] }
    let reader : Reader := { source := .ofBytes fortieths, cursor := { order := .big } }
    let quarter : Payload := {
      entry, type := Coding.rational.fieldType, order := .little, bytes := [1, 0, 0, 0, 4, 0, 0, 0]
      offset := 0 }
    registry.tagSpace? "Exif" = some 1 ∧ entry.Whole ∧ quarter.HasFraction ∧
    ∃ field, (Field.resolve (registry.dictionary 1) {} entry).outcome reader =
        (.ok field, reader) ∧
      field.toPayload.HasFraction ∧ field.toPayload.firstNumber = quarter.firstNumber ∧
      exposureTime quarter = "1/4" ∧ field.interpret? = some "1/4" := by
  intro registry entry reader quarter
  have hspace : registry.tagSpace? "Exif" = some 1 := (Registry.tagSpace?_standard {}).2
  have hquarter : quarter.HasFraction := ⟨rfl, by decide⟩
  have htype : (registry.dictionary 1).type entry.type = Coding.rational.fieldType :=
    Registry.knowsCodings_standard {} .rational
  have hread : (Field.resolve (registry.dictionary 1) {} entry).outcome reader =
      (.ok { entry, tag := (registry.dictionary 1).tag entry.tag,
             type := Coding.rational.fieldType, order := .big, bytes := slice fortieths 8 8,
             offset := 8 }, reader) := by
    have hsection : Field.sectionOf fortieths (entry.offset reader.cursor.order)
        (entry.count * Coding.rational.fieldType.size) = .ok (slice fortieths 8 8) :=
      Field.sectionOf_of_le (by decide) (by decide)
    rw [Field.outcome_resolve rfl, Field.resolved, htype, if_neg (by decide), if_neg (by decide),
      hsection]
    rfl
  obtain ⟨-, htells, hfields⟩ := an_exposure_time_is_told_in_lowest_terms
  obtain ⟨hfraction, hinterpret⟩ := hfields {} 1 {} entry reader reader _ (.inr hspace) rfl rfl rfl
    (by decide) hread
  obtain ⟨-, -, hequal⟩ := htells _ hfraction
  have hshown : exposureTime quarter = "1/4" := by decide +kernel
  have hsame := hequal quarter hquarter (by decide +kernel)
  exact ⟨hspace, rfl, hquarter, _, hread, hfraction, by decide +kernel, hshown,
    hinterpret.trans (congrArg some (hsame.trans hshown))⟩

end Catalog

end Tiff
