-- Lengths of values. A value has as many elements as its entry tells of. Only the
-- length of a text is one of bytes, as its characters are written again: it is that
-- of the bytes before the first NUL, unless some of them spell no character.

import Tiff.Proofs.Texts
import Tiff.Proofs.Utf8

namespace Tiff

namespace Text

/-! ## Bytes of a character -/

theorem utf8Size_ofNat {n : Nat} (h : n.isValidChar) :
    (Char.ofNat n).utf8Size =
      if n < 0x80 then 1 else if n < 0x800 then 2 else if n < 0x10000 then 3 else 4 := by
  have hpoint : (Char.ofNat n).val.toNat = n := by
    have hchar : Char.ofNat n = Char.ofNatAux n h := dif_pos h
    rw [hchar]
    rfl
  unfold Char.utf8Size
  simp only [UInt32.le_iff_toNat_le, hpoint, UInt32.toNat_ofNatLT]
  split_ifs <;> omega

theorem utf8Size_of_one {n : Nat} (h : n < 0x80) : (Char.ofNat n).utf8Size = 1 := by
  rw [utf8Size_ofNat (.inl (by omega)), if_pos h]

theorem utf8Size_of_two {n : Nat} (hlow : 0x80 ≤ n) (hhigh : n < 0x800) :
    (Char.ofNat n).utf8Size = 2 := by
  rw [utf8Size_ofNat (.inl (by omega)), if_neg (Nat.not_lt.mpr hlow), if_pos hhigh]

theorem utf8Size_of_three {n : Nat} (hlow : 0x800 ≤ n)
    (hhigh : n < 0xD800 ∨ 0xDFFF < n ∧ n < 0x10000) : (Char.ofNat n).utf8Size = 3 := by
  have hvalid : n.isValidChar := hhigh.imp_right fun h => ⟨h.1, by omega⟩
  rw [utf8Size_ofNat hvalid, if_neg (by omega), if_neg (Nat.not_lt.mpr hlow), if_pos (by omega)]

theorem utf8Size_of_four {n : Nat} (hlow : 0x10000 ≤ n) (hhigh : n < 0x110000) :
    (Char.ofNat n).utf8Size = 4 := by
  rw [utf8Size_ofNat (.inr ⟨by omega, hhigh⟩), if_neg (by omega), if_neg (by omega),
    if_neg (Nat.not_lt.mpr hlow)]

variable {lead : UInt8} {tests : List (UInt8 → Bool)} {bytes tail : List UInt8}

/-- A character takes as many bytes as it was read from. -/
theorem utf8Size_charOf (htests : tailTests lead = some tests)
    (htail : List.Forall₂ (fun test b => test b = true) tests tail) :
    (charOf lead tail).utf8Size = tail.length + 1 := by
  rw [charOf_eq]
  unfold tailTests isTail at htests
  split_ifs at htests with hone htwo hfirst3 hlast3 hthree hfirst4 hlast4 hfour <;>
    cases htests <;>
    simp only [List.forall₂_cons_left_iff, List.forall₂_nil_left_iff, isBetween_eq_true_iff,
      UInt8.reduceToNat] at htail
  · subst htail
    have hlead : lead.toNat < 0x80 := UInt8.lt_iff_toNat_lt.mp hone
    have hpoint : codePoint lead [] = lead.toNat := rfl
    exact utf8Size_of_one (by omega)
  · obtain ⟨b, _, hb, rfl, rfl⟩ := htail
    simp only [isBetween_eq_true_iff, UInt8.reduceToNat] at htwo
    have hpoint := codePoint_two lead b
    exact utf8Size_of_two (by omega) (by omega)
  · obtain ⟨b, _, hb, ⟨c, _, hc, rfl, rfl⟩, rfl⟩ := htail
    have hpoint := codePoint_three lead b c
    simp only [hfirst3, UInt8.reduceToNat] at hpoint ⊢
    exact utf8Size_of_three (by omega) (by omega)
  · obtain ⟨b, _, hb, ⟨c, _, hc, rfl, rfl⟩, rfl⟩ := htail
    have hpoint := codePoint_three lead b c
    simp only [hlast3, UInt8.reduceToNat] at hpoint ⊢
    exact utf8Size_of_three (by omega) (by omega)
  · obtain ⟨b, _, hb, ⟨c, _, hc, rfl, rfl⟩, rfl⟩ := htail
    simp only [isBetween_eq_true_iff, UInt8.reduceToNat] at hthree
    -- a lead of surrogates has a test of its own
    have hother : lead.toNat ≠ 0xED := fun h => hlast3 (UInt8.toNat_inj.mp h)
    have hpoint := codePoint_three lead b c
    exact utf8Size_of_three (by omega) (by omega)
  · obtain ⟨b, _, hb, ⟨c, _, hc, ⟨d, _, hd, rfl, rfl⟩, rfl⟩, rfl⟩ := htail
    have hpoint := codePoint_four lead b c d
    simp only [hfirst4, UInt8.reduceToNat] at hpoint ⊢
    exact utf8Size_of_four (by omega) (by omega)
  · obtain ⟨b, _, hb, ⟨c, _, hc, ⟨d, _, hd, rfl, rfl⟩, rfl⟩, rfl⟩ := htail
    have hpoint := codePoint_four lead b c d
    simp only [hlast4, UInt8.reduceToNat] at hpoint ⊢
    exact utf8Size_of_four (by omega) (by omega)
  · obtain ⟨b, _, hb, ⟨c, _, hc, ⟨d, _, hd, rfl, rfl⟩, rfl⟩, rfl⟩ := htail
    simp only [isBetween_eq_true_iff, UInt8.reduceToNat] at hfour
    have hpoint := codePoint_four lead b c d
    exact utf8Size_of_four (by omega) (by omega)

/-! ## Bytes of a text -/

/-- The bytes that some characters take in UTF-8. -/
def utf8Length : List Char → Nat
  | [] => 0
  | c :: chars => c.utf8Size + utf8Length chars

theorem utf8ByteSize_ofList (chars : List Char) :
    (String.ofList chars).utf8ByteSize = utf8Length chars := by
  induction chars with
  | nil => rfl
  | cons c chars ih =>
    have hcons : String.ofList (c :: chars) = String.singleton c ++ String.ofList chars := by
      simp
    rw [hcons, String.utf8ByteSize_append, String.utf8ByteSize_singleton, ih]
    rfl

@[simp] theorem utf8Length_cons (c : Char) (chars : List Char) :
    utf8Length (c :: chars) = c.utf8Size + utf8Length chars := rfl

theorem length_le_utf8Length (chars : List Char) : chars.length ≤ utf8Length chars := by
  induction chars with
  | nil => exact Nat.le_refl 0
  | cons c chars ih =>
    have hpos := c.utf8Size_pos
    rw [utf8Length_cons, List.length_cons]
    omega

theorem eq_nil_iff_of_tailTests (h : tailTests lead = some tests) : tests = [] ↔ lead < 0x80 := by
  unfold tailTests at h
  split_ifs at h with hone <;> cases h <;> simp [hone]

theorem length_le_of_tailTests (h : tailTests lead = some tests) : tests.length ≤ 3 := by
  unfold tailTests at h
  split_ifs at h <;> cases h <;> decide

theorem countPassed_le_tests (tests : List (UInt8 → Bool)) (bytes : List UInt8) :
    countPassed tests bytes ≤ tests.length := by
  fun_induction countPassed tests bytes <;> simp_all

/-- How large the character is that stands for a lead byte and the bytes behind it that passed. It
takes as many bytes in UTF-8, or it is the replacement character, which takes three. -/
structure Measures (lead : UInt8) (passed : Nat) (c : Char) : Prop where
  le_utf8Size : passed + 1 ≤ c.utf8Size
  utf8Size_le : c.utf8Size ≤ 3 * (passed + 1)
  utf8Size_eq : c ≠ replacement → c.utf8Size = passed + 1
  utf8Size_eq_one_iff : c.utf8Size = 1 ↔ lead < 0x80

theorem utf8Size_replacement : replacement.utf8Size = 3 := by decide

theorem Measures.replacement {passed : Nat} (h : passed < 3) (hlead : ¬ lead < 0x80) :
    Measures lead passed replacement where
  le_utf8Size := by rw [utf8Size_replacement]; omega
  utf8Size_le := by rw [utf8Size_replacement]; omega
  utf8Size_eq hne := absurd rfl hne
  utf8Size_eq_one_iff := by rw [utf8Size_replacement]; exact iff_of_false (by decide) hlead

theorem Measures.charOf (htests : tailTests lead = some tests)
    (hpassed : countPassed tests bytes = tests.length) :
    Measures lead tests.length (charOf lead (bytes.take tests.length)) := by
  have hlength : (bytes.take tests.length).length = tests.length := by
    rw [List.length_take, ← hpassed]
    exact Nat.min_eq_left (countPassed_le_length tests bytes)
  have hsize := utf8Size_charOf htests (forall₂_of_countPassed hpassed)
  rw [hlength] at hsize
  refine ⟨by omega, by omega, fun _ => hsize, ?_⟩
  rw [hsize, ← eq_nil_iff_of_tailTests htests, ← List.length_eq_zero_iff]
  omega

/-- A text is read one character after the other. -/
@[elab_as_elim]
theorem induction_on_chars {P : List UInt8 → List Char → Prop} (nil : P [] [])
    (cons : ∀ (lead : UInt8) (rest : List UInt8) (passed : Nat) (c : Char),
      passed ≤ rest.length → Measures lead passed c →
      P (rest.drop passed) (decodeUtf8 (rest.drop passed)) →
      P (lead :: rest) (c :: decodeUtf8 (rest.drop passed)))
    (bytes : List UInt8) : P bytes (decodeUtf8 bytes) := by
  fun_induction decodeUtf8 bytes with
  | case1 => exact nil
  | case2 lead rest htests ih =>
    have hlead : ¬ lead < 0x80 := fun hlead => by simp [tailTests, hlead] at htests
    exact cons lead rest 0 replacement (Nat.zero_le _) (.replacement (by decide) hlead) ih
  | case3 lead rest tests htests n ih =>
    refine cons lead rest n _ (countPassed_le_length tests rest) ?_ ih
    by_cases hpassed : n = tests.length
    · rw [if_pos hpassed, hpassed]
      exact .charOf htests hpassed
    · rw [if_neg hpassed]
      have hle : n ≤ tests.length := countPassed_le_tests tests rest
      have hlength := length_le_of_tailTests htests
      refine .replacement (by omega) fun hlead => hpassed ?_
      rw [(eq_nil_iff_of_tailTests htests).mpr hlead] at hle ⊢
      exact Nat.le_zero.mp hle

theorem length_decodeUtf8_le (bytes : List UInt8) : (decodeUtf8 bytes).length ≤ bytes.length := by
  refine induction_on_chars (Nat.le_refl 0) (fun lead rest passed c _ _ ih => ?_) bytes
  rw [List.length_drop] at ih
  rw [List.length_cons, List.length_cons]
  omega

theorem length_le_utf8Length_decodeUtf8 (bytes : List UInt8) :
    bytes.length ≤ utf8Length (decodeUtf8 bytes) := by
  refine induction_on_chars (Nat.le_refl 0) (fun lead rest passed c hpassed hc ih => ?_) bytes
  have hsize := hc.le_utf8Size
  rw [List.length_drop] at ih
  rw [List.length_cons, utf8Length_cons]
  omega

theorem utf8Length_decodeUtf8_le (bytes : List UInt8) :
    utf8Length (decodeUtf8 bytes) ≤ 3 * bytes.length := by
  refine induction_on_chars (Nat.le_refl 0) (fun lead rest passed c hpassed hc ih => ?_) bytes
  have hsize := hc.utf8Size_le
  rw [List.length_drop] at ih
  rw [List.length_cons, utf8Length_cons]
  omega

/-- Characters that are all read from bytes of their own take just these bytes. -/
theorem utf8Length_decodeUtf8_of_not_mem (bytes : List UInt8) :
    replacement ∉ decodeUtf8 bytes → utf8Length (decodeUtf8 bytes) = bytes.length := by
  refine induction_on_chars (fun _ => rfl) (fun lead rest passed c hpassed hc ih h => ?_) bytes
  rw [List.mem_cons, not_or] at h
  obtain ⟨hne, hrest⟩ := h
  have hsize := hc.utf8Size_eq (Ne.symm hne)
  have hih := ih hrest
  rw [List.length_drop] at hih
  rw [List.length_cons, utf8Length_cons]
  omega

/-- There are as many bytes as characters just where each byte is one. -/
theorem utf8Length_decodeUtf8_eq_length_iff (bytes : List UInt8) :
    utf8Length (decodeUtf8 bytes) = (decodeUtf8 bytes).length ↔ ∀ b ∈ bytes, b < 0x80 := by
  refine induction_on_chars (by simp [utf8Length]) (fun lead rest passed c hpassed hc ih => ?_)
    bytes
  have hpos := c.utf8Size_pos
  have hle := length_le_utf8Length (decodeUtf8 (rest.drop passed))
  rw [utf8Length_cons, List.length_cons, List.forall_mem_cons, ← hc.utf8Size_eq_one_iff]
  by_cases hone : c.utf8Size = 1
  · have hnone : passed = 0 := by
      have hsize := hc.le_utf8Size
      omega
    subst hnone
    rw [List.drop_zero] at ih ⊢
    rw [← ih]
    omega
  · refine iff_of_false (by omega) fun h => hone h.1

end Text

/-! ## Fields -/

namespace Field

/-- What the length of a value is. -/
structure CountsElements (field : Field) : Prop where
  elements : ∀ coding : Coding, coding ≠ .ascii → field.type = coding.fieldType →
    field.value.length = field.count
  /-- Of a text it is the number of bytes that its characters take in UTF-8. -/
  text : field.type = Coding.ascii.fieldType → ∃ text, field.value = .ascii text ∧
    let before := field.bytes.takeWhile (· != 0)
    text = Text.ofUtf8 before ∧
    text.length ≤ before.length ∧ before.length ≤ field.value.length ∧
    field.value.length ≤ 3 * before.length ∧ before.length ≤ field.count ∧
    (field.value.length = text.length ↔ ∀ b ∈ before, b < 0x80) ∧
    (Text.replacement ∉ text.toList → field.value.length = before.length)

theorem Whole.countsElements {limits : Limits} {field : Field} (h : field.Whole limits) :
    field.CountsElements where
  elements coding hcoding htype := by
    have hcount := h.count_eq (htype ▸ coding.size_pos)
    rw [(decoded htype).1, (coding.lists hcoding).length_decode, ← hcount, htype]
    rfl
  text htype := by
    let before := field.bytes.takeWhile (· != 0)
    have hvalue : field.value = .ascii (Text.ofUtf8 before) := (decoded htype).1
    have hlength : field.value.length = Text.utf8Length (Text.decodeUtf8 before) := by
      rw [hvalue]
      exact Text.utf8ByteSize_ofList _
    have hbefore : before.length ≤ field.count := by
      have hcount := h.length_eq
      rw [htype] at hcount
      exact (List.takeWhile_sublist _).length_le.trans (hcount.trans (Nat.mul_one _)).le
    refine ⟨_, hvalue, rfl, ?_, ?_, ?_, hbefore, ?_, ?_⟩ <;>
      simp only [hlength, Text.ofUtf8, String.length_ofList, String.toList_ofList]
    · exact Text.length_decodeUtf8_le before
    · exact Text.length_le_utf8Length_decodeUtf8 before
    · exact Text.utf8Length_decodeUtf8_le before
    · exact Text.utf8Length_decodeUtf8_eq_length_iff before
    · exact Text.utf8Length_decodeUtf8_of_not_mem before

/-- A value has as many elements as its entry tells of, whether its field is resolved from an entry
or comes from a directory of a file. The length of a text is one of bytes. It is the number of the
bytes before the first NUL, if all of these spell characters, and otherwise it may be up to three
times as large. The number of characters is less than that unless each of the bytes is a character
of its own. -/
theorem values_have_the_elements_of_their_entries (words : Dictionary) (limits : Limits)
    (entry : Entry) (hslot : entry.Whole) :
    (∀ reader after field, (resolve words limits entry).outcome reader = (.ok field, after) →
      field.CountsElements) ∧
    ∀ limits directory, Directory.Returned limits directory →
      ∀ field ∈ directory.fields, field.CountsElements := by
  constructor
  · intro reader after field hread
    exact (yields_resolve words limits hslot reader after field hread).countsElements
  · intro limits directory hdirectory field hfield
    exact (hdirectory.whole field hfield).countsElements

/-- An entry for a text that is in the slot. -/
def shortText (count : Nat) (slot : List UInt8) : Entry :=
  { layout := .classic, tag := 700, type := 2, count, slot }

/-- What comes of the entry of a short text. -/
def ofShortText (count : Nat) (slot : List UInt8) : Field where
  entry := shortText count slot
  type := Coding.ascii.fieldType
  order := .little
  bytes := slot.take count
  offset := 0
  tag := (Registry.standard {}).defaultDictionary.tag 700

theorem outcome_resolve_shortText {count : Nat} (h : count ≤ 4) (slot : List UInt8) :
    (resolve (Registry.standard {}).defaultDictionary {} (shortText count slot)).outcome
      { source := .ofBytes ⟨#[]⟩ } =
      (.ok (ofShortText count slot), { source := .ofBytes ⟨#[]⟩ }) := by
  have htype : (Registry.standard {}).defaultDictionary.type (shortText count slot).type =
      Coding.ascii.fieldType := Registry.knowsCodings_standard {} .ascii
  have hsize : (shortText count slot).count * Coding.ascii.fieldType.size = count :=
    Nat.mul_one count
  have hsmall : ¬ (addressLimit ≤ count ∨ ({} : Limits).valueSize < count) := by
    have haddress : addressLimit = 0x10000000000000000 := rfl
    have hlimit : ({} : Limits).valueSize = 0x10000000 := rfl
    omega
  have hslot : count ≤ (shortText count slot).layout.slotSize := h
  rw [outcome_resolve rfl, resolved, htype, hsize, if_neg hsmall, if_pos hslot]
  rfl

/-- A text of two characters, the second one of two bytes, with a NUL behind them. -/
theorem values_have_the_elements_of_their_entries_of_accent :
    (shortText 4 [0x61, 0xC3, 0xA9, 0]).Whole ∧
    ∃ text, (ofShortText 4 [0x61, 0xC3, 0xA9, 0]).value = .ascii text ∧ text.length = 2 ∧
      (ofShortText 4 [0x61, 0xC3, 0xA9, 0]).value.length = 3 := by
  obtain ⟨hcounts, -⟩ := values_have_the_elements_of_their_entries
    (Registry.standard {}).defaultDictionary {} (shortText 4 [0x61, 0xC3, 0xA9, 0]) rfl
  obtain ⟨_, hvalue, rfl, -, -, -, -, -, hspelled⟩ :=
    (hcounts _ _ _ (outcome_resolve_shortText (by decide) _)).text rfl
  exact ⟨rfl, _, hvalue, by decide +kernel, hspelled (by decide +kernel)⟩

/-- One byte that spells no character makes a text of one character and a length of three. -/
theorem a_byte_may_count_for_three :
    let field := ofShortText 1 [0xFF, 0, 0, 0]
    (resolve (Registry.standard {}).defaultDictionary {} field.entry).outcome
      { source := .ofBytes ⟨#[]⟩ } = (.ok field, { source := .ofBytes ⟨#[]⟩ }) ∧
    field.count = 1 ∧
    ∃ text, field.value = .ascii text ∧ text.length = 1 ∧ field.value.length = 3 := by
  exact ⟨outcome_resolve_shortText (by decide) _, rfl, _, rfl, by decide +kernel,
    by decide +kernel⟩

end Field

end Tiff
