-- Where text can be cut. A byte below 0x80 is a character of its own and goes on
-- no other, so the text before it and the text behind it are read apart. And a
-- blank at the end of a text comes from a blank at the end of the bytes.

import Mathlib.Data.List.DropRight
import Mathlib.Data.List.Forall2
import Tiff.Text.Utf8

namespace Tiff.Text

variable {lead b : UInt8} {tests : List (UInt8 → Bool)} {bytes tail : List UInt8}

/-! ## Tails -/

theorem isBetween_eq_true_iff {low high : UInt8} :
    isBetween low high b = true ↔ low.toNat ≤ b.toNat ∧ b.toNat ≤ high.toNat := by
  simp [isBetween, UInt8.le_iff_toNat_le]

/-- No byte below 0x80 goes on a character. -/
theorem test_eq_false (h : tailTests lead = some tests) (hb : b < 0x80) :
    ∀ test ∈ tests, test b = false := by
  have hlow (low high : UInt8) (h : 0x80 ≤ low) : isBetween low high b = false := by
    rw [isBetween, Bool.and_eq_false_iff, decide_eq_false_iff_not, UInt8.not_le]
    exact .inl (UInt8.lt_of_lt_of_le hb h)
  unfold tailTests at h
  split_ifs at h <;> cases h <;> simp +decide [isTail, hlow]

theorem countPassed_le_length (tests : List (UInt8 → Bool)) (bytes : List UInt8) :
    countPassed tests bytes ≤ bytes.length := by
  fun_induction countPassed tests bytes <;> simp_all

/-- A byte that fails every test ends the count, wherever it stands. -/
theorem countPassed_append_cons (h : ∀ test ∈ tests, test b = false) (front back : List UInt8) :
    countPassed tests (front ++ b :: back) = countPassed tests front := by
  induction front generalizing tests with
  | nil =>
    cases tests with
    | nil => rfl
    | cons test tests => simp [countPassed, h test]
  | cons next front ih =>
    cases tests with
    | nil => rfl
    | cons test tests =>
      have hrest := ih fun test hmem => h test (List.mem_cons_of_mem _ hmem)
      rw [List.cons_append, countPassed, countPassed, hrest]

/-- Where all tests are passed, each byte passes its own. -/
theorem forall₂_of_countPassed (h : countPassed tests bytes = tests.length) :
    List.Forall₂ (fun test b => test b = true) tests (bytes.take tests.length) := by
  induction tests generalizing bytes with
  | nil => exact .nil
  | cons test tests ih =>
    cases bytes with
    | nil => cases h
    | cons b bytes =>
      unfold countPassed at h
      split at h
      · exact .cons ‹_› (ih (Nat.succ.inj h))
      · cases h

/-! ## Characters of their own -/

theorem decodeUtf8_cons (hb : b < 0x80) (back : List UInt8) :
    decodeUtf8 (b :: back) = charOf b [] :: decodeUtf8 back := by
  rw [decodeUtf8, tailTests, if_pos hb]
  rfl

/-- A byte below 0x80 parts a text. -/
theorem decodeUtf8_append_cons (hb : b < 0x80) (front back : List UInt8) :
    decodeUtf8 (front ++ b :: back) = decodeUtf8 front ++ charOf b [] :: decodeUtf8 back := by
  fun_induction decodeUtf8 front with
  | case1 => exact decodeUtf8_cons hb back
  | case2 lead rest htests ih =>
    rw [List.cons_append, decodeUtf8, htests]
    simp only [ih, List.cons_append]
  | case3 lead rest tests htests n ih =>
    have hcount : countPassed tests (rest ++ b :: back) = n :=
      countPassed_append_cons (test_eq_false htests hb) rest back
    have hlength : n ≤ rest.length := countPassed_le_length tests rest
    rw [List.cons_append, decodeUtf8, htests]
    simp only [hcount, List.take_append_of_le_length hlength, List.drop_append_of_le_length hlength,
      ih, List.cons_append]

/-! ## Blanks -/

/-- The code point of a lead byte and its tail. -/
def codePoint (lead : UInt8) (tail : List UInt8) : Nat :=
  tail.foldl (fun n b => n * 64 + b.toNat % 64)
    (if tail.isEmpty then lead.toNat else lead.toNat % (1 <<< (6 - tail.length)))

theorem charOf_eq (lead : UInt8) (tail : List UInt8) :
    charOf lead tail = Char.ofNat (codePoint lead tail) := rfl

theorem codePoint_two (lead b : UInt8) :
    codePoint lead [b] = lead.toNat % 32 * 64 + b.toNat % 64 := rfl

theorem codePoint_three (lead b c : UInt8) :
    codePoint lead [b, c] = (lead.toNat % 16 * 64 + b.toNat % 64) * 64 + c.toNat % 64 := rfl

theorem codePoint_four (lead b c d : UInt8) :
    codePoint lead [b, c, d] =
      ((lead.toNat % 8 * 64 + b.toNat % 64) * 64 + c.toNat % 64) * 64 + d.toNat % 64 := rfl

/-- No character of several bytes would have fitted into one. -/
theorem le_codePoint (htests : tailTests lead = some tests)
    (htail : List.Forall₂ (fun test b => test b = true) tests tail) (hne : tail ≠ []) :
    0x80 ≤ codePoint lead tail := by
  -- Where the lead has no bits of its own to give, the first byte behind it has to be high.
  unfold tailTests isTail at htests
  split_ifs at htests with _ htwo _ hlast3 hthree _ hlast4 hfour <;> cases htests <;>
    simp only [List.forall₂_cons_left_iff, List.forall₂_nil_left_iff, isBetween_eq_true_iff,
      UInt8.reduceToNat] at htail
  · exact absurd htail hne
  · obtain ⟨b, _, hb, rfl, rfl⟩ := htail
    simp only [isBetween_eq_true_iff, UInt8.reduceToNat] at htwo
    rw [codePoint_two]
    omega
  · obtain ⟨b, _, hb, ⟨c, _, hc, rfl, rfl⟩, rfl⟩ := htail
    rw [codePoint_three]
    omega
  · obtain ⟨b, _, hb, ⟨c, _, hc, rfl, rfl⟩, rfl⟩ := htail
    simp only [codePoint_three, hlast3, UInt8.reduceToNat]
    omega
  · obtain ⟨b, _, hb, ⟨c, _, hc, rfl, rfl⟩, rfl⟩ := htail
    simp only [isBetween_eq_true_iff, UInt8.reduceToNat] at hthree
    rw [codePoint_three]
    omega
  · obtain ⟨b, _, hb, ⟨c, _, hc, ⟨d, _, hd, rfl, rfl⟩, rfl⟩, rfl⟩ := htail
    rw [codePoint_four]
    omega
  · obtain ⟨b, _, hb, ⟨c, _, hc, ⟨d, _, hd, rfl, rfl⟩, rfl⟩, rfl⟩ := htail
    simp only [codePoint_four, hlast4, UInt8.reduceToNat]
    omega
  · obtain ⟨b, _, hb, ⟨c, _, hc, ⟨d, _, hd, rfl, rfl⟩, rfl⟩, rfl⟩ := htail
    simp only [isBetween_eq_true_iff, UInt8.reduceToNat] at hfour
    rw [codePoint_four]
    omega

theorem eq_blank_of_ofNat {n : Nat} (h : Char.ofNat n = ' ') : n = 0x20 := by
  by_cases hvalid : n.isValidChar
  · have hchar : Char.ofNat n = Char.ofNatAux n hvalid := dif_pos hvalid
    exact congrArg Char.toNat (hchar.symm.trans h)
  · have hchar : Char.ofNat n = '\x00' := dif_neg hvalid
    exact absurd (hchar.symm.trans h) (by decide)

/-- Only the byte of the blank spells a blank. -/
theorem eq_blank_of_charOf (htests : tailTests lead = some tests)
    (htail : List.Forall₂ (fun test b => test b = true) tests tail)
    (h : charOf lead tail = ' ') : lead = 0x20 ∧ tail = [] := by
  rw [charOf_eq] at h
  have hpoint := eq_blank_of_ofNat h
  by_cases hempty : tail = []
  · subst hempty
    exact ⟨UInt8.toNat_inj.mp hpoint, rfl⟩
  · have hlow := le_codePoint htests htail hempty
    omega

theorem decodeUtf8_eq_nil (h : decodeUtf8 bytes = []) : bytes = [] := by
  cases bytes with
  | nil => rfl
  | cons lead rest =>
    rw [decodeUtf8] at h
    split at h <;> cases h

/-- The last character of a text is in its end, or it is the only one. -/
theorem getLast?_cons_eq_some_iff {α : Type} {a b : α} {rest : List α} :
    (a :: rest).getLast? = some b ↔ rest = [] ∧ a = b ∨ rest.getLast? = some b := by
  cases rest with
  | nil => simp
  | cons c rest => simp [List.getLast?_cons_cons]

theorem getLast?_of_decodeUtf8 (h : (decodeUtf8 bytes).getLast? = some ' ') :
    bytes.getLast? = some 0x20 := by
  fun_induction decodeUtf8 bytes with
  | case1 => cases h
  | case2 lead rest htests ih =>
    rcases getLast?_cons_eq_some_iff.mp h with ⟨-, hreplaced⟩ | hrest
    · exact absurd hreplaced (by decide)
    · exact getLast?_cons_eq_some_iff.mpr (.inr (ih hrest))
  | case3 lead rest tests htests n ih =>
    rcases getLast?_cons_eq_some_iff.mp h with ⟨hnil, hblank⟩ | hrest
    · split at hblank
      · have hpassed : n = tests.length := ‹_›
        have htail : List.Forall₂ (fun test b => test b = true) tests (rest.take tests.length) :=
          forall₂_of_countPassed hpassed
        rw [← hpassed] at htail
        obtain ⟨rfl, htake⟩ := eq_blank_of_charOf htests htail hblank
        have hrest : rest = [] := by
          rw [← List.take_append_drop n rest, htake, decodeUtf8_eq_nil hnil, List.append_nil]
        rw [hrest]
        rfl
      · exact absurd hblank (by decide)
    · have hlast := ih hrest
      rw [List.getLast?_drop] at hlast
      split at hlast
      · cases hlast
      · exact getLast?_cons_eq_some_iff.mpr (.inr hlast)

/-- Blanks at the end of a text can be taken away before or after it is read. -/
theorem rdropWhile_decodeUtf8 (bytes : List UInt8) :
    (decodeUtf8 bytes).rdropWhile (· == ' ') = decodeUtf8 (bytes.rdropWhile (· == 0x20)) := by
  induction bytes using List.reverseRecOn with
  | nil => rw [List.rdropWhile_nil, decodeUtf8, List.rdropWhile_nil]
  | append_singleton front b ih =>
    by_cases hb : b = 0x20
    · subst hb
      have hplain : (0x20 : UInt8) < 0x80 := by decide
      have hcut : decodeUtf8 (front ++ [0x20]) = decodeUtf8 front ++ [' '] := by
        rw [decodeUtf8_append_cons hplain, decodeUtf8]
        rfl
      rw [hcut, List.rdropWhile_concat_pos _ _ _ rfl, List.rdropWhile_concat_pos _ _ _ rfl, ih]
    · rw [List.rdropWhile_concat_neg _ _ _ (by simpa using hb), List.rdropWhile_eq_self_iff]
      intro hne hlast
      have hblank : (front ++ [b]).getLast? = some 0x20 :=
        getLast?_of_decodeUtf8 (by rw [List.getLast?_eq_some_getLast hne, beq_iff_eq.mp hlast])
      rw [List.getLast?_concat] at hblank
      exact hb (Option.some.inj hblank)

end Tiff.Text
