-- Previews. The short line of a field shows the start of its value, as much as
-- there is room for, and tells by three dots whether something is left out. What
-- is shown stands there as in the full line.

import Mathlib.Order.Bounds.Basic
import Tiff.Field.Summary

namespace Tiff.Field

/-! ## Texts in a row -/

/-- The bytes that some texts take, with a blank behind each. -/
def width : List String → Nat
  | [] => 0
  | text :: texts => text.utf8ByteSize + 1 + width texts

theorem width_take_succ (text : String) (texts : List String) (k : Nat) :
    width ((text :: texts).take (k + 1)) = text.utf8ByteSize + 1 + width (texts.take k) := rfl

/-- So many of some texts fit into a room, and no more. -/
theorem isGreatest_countFitting (room : Nat) (texts : List String) :
    IsGreatest {k | k ≤ texts.length ∧ width (texts.take k) ≤ room} (countFitting room texts) := by
  induction texts generalizing room with
  | nil => exact ⟨⟨Nat.le_refl 0, Nat.zero_le room⟩, fun k hk => hk.1⟩
  | cons text texts ih =>
    unfold countFitting
    by_cases hfits : text.utf8ByteSize + 1 ≤ room
    · obtain ⟨⟨hlength, hwidth⟩, hmost⟩ := ih (room - (text.utf8ByteSize + 1))
      simp only [hfits, if_true]
      refine ⟨⟨Nat.succ_le_succ hlength, ?_⟩, ?_⟩
      · rw [width_take_succ]
        omega
      · rintro (_ | k) ⟨hk, hroom⟩
        · exact Nat.zero_le _
        · rw [width_take_succ] at hroom
          exact Nat.succ_le_succ (hmost ⟨Nat.le_of_succ_le_succ hk, by omega⟩)
    · simp only [hfits, if_false]
      refine ⟨⟨Nat.zero_le _, Nat.zero_le room⟩, ?_⟩
      rintro (_ | k) ⟨hk, hroom⟩
      · exact Nat.le_refl 0
      · rw [width_take_succ] at hroom
        omega

/-- The first texts that a preview has room for: at most ten, in at most 40 bytes. -/
def FitsPreview (texts : List String) (k : Nat) : Prop :=
  k ≤ 10 ∧ k ≤ texts.length ∧ width (texts.take k) ≤ 40

instance (texts : List String) (k : Nat) : Decidable (FitsPreview texts k) :=
  inferInstanceAs (Decidable (_ ∧ _ ∧ _))

/-- How many texts a preview has room for. -/
def roomFor (texts : List String) : Nat := countFitting previewWidth (texts.take previewItems)

theorem isGreatest_roomFor (texts : List String) :
    IsGreatest {k | FitsPreview texts k} (roomFor texts) := by
  have hfits : ∀ k, FitsPreview texts k ↔ k ≤ (texts.take previewItems).length ∧
      width ((texts.take previewItems).take k) ≤ previewWidth := by
    intro k
    simp only [FitsPreview, List.length_take, previewItems, previewWidth, List.take_take,
      Nat.le_min, and_assoc]
    refine and_congr_right fun hitems => ?_
    rw [Nat.min_eq_left hitems]
  obtain ⟨hroom, hmost⟩ := isGreatest_countFitting previewWidth (texts.take previewItems)
  exact ⟨(hfits _).mpr hroom, fun k hk => hmost ((hfits k).mp hk)⟩

/-- How many of some texts a preview shows: those that it has room for, but at least the first one
of several. -/
def shownCount (texts : List String) (most : Nat) : Nat :=
  if 1 < texts.length then max 1 most else most

theorem preview_eq_take (texts : List String) (h : texts.length ≠ 1) :
    preview texts = texts.take (shownCount texts (roomFor texts)) := by
  unfold shownCount
  split
  · rfl
  · have hnone : texts = [] := List.length_eq_zero_iff.mp (by omega)
    simp [hnone, preview]

theorem length_preview_lt_iff (texts : List String) (h : texts.length ≠ 1) :
    (preview texts).length < texts.length ↔
      shownCount texts (roomFor texts) < texts.length := by
  rw [preview_eq_take texts h, List.length_take]
  omega

/-! ## Where a text ends -/

theorem getLast?_quote (text : String) : (Text.quote text).toList.getLast? = some '"' := by
  rw [Text.quote, String.toList_ofList]
  exact List.getLast?_concat

theorem getLast?_bracket (texts : List String) : (bracket texts).toList.getLast? = some ']' := by
  rw [bracket, String.toList_append]
  exact List.getLast?_concat

/-- Dots make another text of a text that does not end with a dot. -/
theorem append_dots_ne {text shown : String} {c : Char} (h : text.toList.getLast? = some c)
    (hc : c ≠ '.') : shown ++ "..." ≠ text := by
  rintro rfl
  have hdot : (shown ++ "...").toList.getLast? = some '.' := by
    rw [String.toList_append, List.getLast?_append]
    rfl
  rw [hdot, Option.some.injEq] at h
  exact hc h.symm

/-- Dots, if something is left out. -/
def dots (cut : Bool) : String := if cut then "..." else ""

/-- What is whole without dots is another text with dots. -/
theorem append_dots_eq_iff {whole shown : String} {cut : Bool} {c : Char}
    (h : whole.toList.getLast? = some c) (hc : c ≠ '.') (hwhole : cut = false → shown = whole) :
    shown ++ dots cut = whole ↔ cut = false := by
  cases cut with
  | true => exact iff_of_false (append_dots_ne h hc) nofun
  | false => simp [dots, hwhole rfl]

/-! ## Values -/

variable {field : Field}

theorem summarize_of_text {text : String} (h : field.value = .ascii text) (full : Bool) :
    field.summarize full = summarizeText full text := by
  unfold summarize
  rw [h]

theorem summarize_of_list (h : ∀ text, field.value ≠ .ascii text) (full : Bool) :
    field.summarize full = summarizeList full field.texts := by
  unfold summarize
  split
  · rename_i text htext
    exact absurd htext (h text)
  · rfl

theorem ofList_take_of_le {text : String} {n : Nat} (h : text.length ≤ n) :
    String.ofList (text.toList.take n) = text := by
  rw [List.take_of_length_le (by rwa [String.length_toList]), String.ofList_toList]

theorem summarizeText_false (text : String) :
    summarizeText false text =
      Text.quote (String.ofList (text.toList.take 40)) ++ dots (decide (40 < text.length)) := by
  unfold summarizeText previewWidth dots
  by_cases hlong : 40 < text.length
  · simp [hlong]
  · simp [hlong, ofList_take_of_le (Nat.not_lt.mp hlong)]

theorem summarizeList_of_ne_one (texts : List String) (h : texts.length ≠ 1) (full : Bool) :
    summarizeList full texts =
      if full then bracket texts
      else bracket (texts.take (shownCount texts (roomFor texts))) ++
        dots (decide (shownCount texts (roomFor texts) < texts.length)) := by
  unfold summarizeList
  split
  · exact absurd rfl h
  · simp only [← preview_eq_take texts h, length_preview_lt_iff texts h, dots, decide_eq_true_iff]

/-- What the full form of a value says, what the short form shows of it, and whether that leaves
something out. -/
inductive Previewed (field : Field) : String → String → Bool → Prop
  | text {text : String} (h : field.value = .ascii text) :
      Previewed field (Text.quote text) (Text.quote (String.ofList (text.toList.take 40)))
        (decide (40 < text.length))
  | single {text : String} (h : ∀ text, field.value ≠ .ascii text) (htexts : field.texts = [text]) :
      Previewed field text text false
  | list {most : Nat} (h : ∀ text, field.value ≠ .ascii text) (htexts : field.texts.length ≠ 1)
      (hmost : IsGreatest {k | FitsPreview field.texts k} most) :
      Previewed field (bracket field.texts)
        (bracket (field.texts.take (shownCount field.texts most)))
        (decide (shownCount field.texts most < field.texts.length))

namespace Previewed

variable {full shown : String} {cut : Bool}

theorem exists_of (field : Field) : ∃ full shown cut, Previewed field full shown cut := by
  by_cases htext : ∃ text, field.value = .ascii text
  · obtain ⟨text, htext⟩ := htext
    exact ⟨_, _, _, .text htext⟩
  have hlist : ∀ text, field.value ≠ .ascii text := fun text h => htext ⟨text, h⟩
  by_cases hsingle : field.texts.length = 1
  · obtain ⟨text, htexts⟩ := List.length_eq_one_iff.mp hsingle
    exact ⟨_, _, _, .single hlist htexts⟩
  · exact ⟨_, _, _, .list hlist hsingle (isGreatest_roomFor field.texts)⟩

theorem summarize_true (h : Previewed field full shown cut) : field.summarize true = full := by
  cases h with
  | text h => exact summarize_of_text h true
  | single h htexts =>
    rw [summarize_of_list h, htexts]
    rfl
  | list h htexts hmost =>
    rw [summarize_of_list h, summarizeList_of_ne_one _ htexts, if_pos rfl]

theorem summarize_false (h : Previewed field full shown cut) :
    field.summarize false = shown ++ dots cut := by
  cases h with
  | text h => rw [summarize_of_text h, summarizeText_false]
  | single h htexts =>
    rw [summarize_of_list h, htexts]
    exact String.append_empty.symm
  | list h htexts hmost =>
    rw [summarize_of_list h, summarizeList_of_ne_one _ htexts, if_neg Bool.false_ne_true,
      hmost.unique (isGreatest_roomFor _)]

/-- Where nothing is left out all of it is shown, and where something is, the full form ends with no
dot. -/
theorem eq_full_iff (h : Previewed field full shown cut) :
    shown ++ dots cut = full ↔ cut = false := by
  cases h with
  | @text text h =>
    refine append_dots_eq_iff (getLast?_quote text) (by decide) fun hcut => ?_
    rw [ofList_take_of_le (Nat.not_lt.mp (of_decide_eq_false hcut))]
  | single h htexts => exact iff_of_true String.append_empty rfl
  | list h htexts hmost =>
    refine append_dots_eq_iff (getLast?_bracket _) (by decide) fun hcut => ?_
    rw [List.take_of_length_le (Nat.not_lt.mp (of_decide_eq_false hcut))]

end Previewed

/-- The short form of a value is the full one if it has no dots behind it, and otherwise it is
another text. Of a text it shows the first 40 characters. Of several elements it shows as many of
the first ten as take at most 40 bytes, each with a blank behind it, but always one of them; a
single element stands alone, however long it is. The rest of the line is the same in both forms. -/
theorem a_preview_is_the_start_of_a_value (field : Field) :
    (∃ full shown cut, Previewed field full shown cut ∧
      field.summarize true = full ∧
      field.summarize false = shown ++ (if cut then "..." else "") ∧
      (field.summarize false = field.summarize true ↔ cut = false)) ∧
    ∃ head, ∀ full, field.line full = head ++ field.summarize full ++ ">" := by
  obtain ⟨full, shown, cut, h⟩ := Previewed.exists_of field
  refine ⟨⟨full, shown, cut, h, h.summarize_true, h.summarize_false, ?_⟩, _, fun full => rfl⟩
  rw [h.summarize_true, h.summarize_false]
  exact h.eq_full_iff

/-- Of twelve short elements ten are shown. -/
example : summarizeList false ((List.range' 1 12).map toString) =
    "[1 2 3 4 5 6 7 8 9 10]..." := by decide +kernel

end Tiff.Field
