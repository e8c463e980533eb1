-- Makers, by name. The text of the maker's field stops at the first NUL, and the
-- name that handlers are looked up by is cut from the end. Both come to the same
-- where only blanks and NULs fill the field up. Other bytes behind the first NUL
-- stay in the name and make another one of it.

import Tiff.Catalog.Exif
import Tiff.Proofs.Selection
import Tiff.Proofs.Utf8

namespace Tiff

/-! ## Lists that are cut from the end -/

section

variable {α : Type} {p q : α → Bool}

theorem rdropWhile_append (front back : List α) :
    (front ++ back).rdropWhile p =
      if back.rdropWhile p = [] then front.rdropWhile p else front ++ back.rdropWhile p := by
  simp only [List.rdropWhile, List.reverse_append, List.dropWhile_append, List.isEmpty_iff,
    List.reverse_eq_nil_iff]
  split <;> simp

theorem rdropWhile_congr {xs : List α} (h : ∀ x ∈ xs, p x = q x) :
    xs.rdropWhile p = xs.rdropWhile q := by
  induction xs using List.reverseRecOn with
  | nil => rfl
  | append_singleton xs x ih =>
    have hfront := ih fun y hy => h y (List.mem_append_left _ hy)
    rw [List.rdropWhile_concat, List.rdropWhile_concat, hfront, h x (by simp)]

end

namespace Handlers

variable {bytes : List UInt8}

/-! ## The bytes of a name -/

/-- The bytes behind the first NUL. -/
def leftovers (bytes : List UInt8) : List UInt8 := (bytes.dropWhile (· != 0)).drop 1

/-- A byte that fills a name up. -/
def isFill (b : UInt8) : Bool := b == 0x20 || b == 0

/-- Behind the first NUL are only blanks and NULs. -/
def FilledUp (bytes : List UInt8) : Prop := ∀ b ∈ leftovers bytes, isFill b = true

instance (bytes : List UInt8) : Decidable (FilledUp bytes) :=
  inferInstanceAs (Decidable (∀ b ∈ leftovers bytes, isFill b = true))

/-- The text of a name without the blanks at its end. -/
def plainName (bytes : List UInt8) : String := Catalog.trimEnd ' ' (Coding.textOf bytes)

theorem makeText_eq (bytes : List UInt8) :
    makeText bytes = Text.ofUtf8 (bytes.rdropWhile isFill) := rfl

theorem trimEnd_eq (c : Char) (text : String) :
    Catalog.trimEnd c text = String.ofList (text.toList.rdropWhile (· == c)) := rfl

theorem rdropWhile_isFill_of_no_nul (h : ∀ b ∈ bytes, b ≠ 0) :
    bytes.rdropWhile isFill = bytes.rdropWhile (· == 0x20) := by
  refine rdropWhile_congr fun b hb => ?_
  rw [isFill, beq_false_of_ne (h b hb), Bool.or_false]

/-- Without a NUL all bytes are text. Otherwise the text, the NUL and the leftovers are all. -/
theorem split_at_nul (bytes : List UInt8) :
    bytes.takeWhile (· != 0) = bytes ∧ leftovers bytes = [] ∨
      bytes.takeWhile (· != 0) ++ 0 :: leftovers bytes = bytes := by
  have hsplit := List.takeWhile_append_dropWhile (p := (· != 0)) (l := bytes)
  have hhead := List.head?_dropWhile_not (· != 0) bytes
  unfold leftovers
  cases hbehind : bytes.dropWhile (· != 0) with
  | nil =>
    rw [hbehind, List.append_nil] at hsplit
    exact .inl ⟨hsplit, rfl⟩
  | cons b behind =>
    rw [hbehind] at hsplit hhead
    have hnul : b = 0 := by simpa using hhead
    rw [hnul] at hsplit
    exact .inr hsplit

/-- What fills a name up goes with the blanks at the end of its text. -/
theorem makeText_of_filledUp (h : FilledUp bytes) : makeText bytes = plainName bytes := by
  have hcut : bytes.rdropWhile isFill = (bytes.takeWhile (· != 0)).rdropWhile isFill := by
    rcases split_at_nul bytes with ⟨hall, -⟩ | hsplit
    · rw [hall]
    · have hbehind : (0 :: leftovers bytes).rdropWhile isFill = [] :=
        List.rdropWhile_eq_nil_iff.mpr (List.forall_mem_cons.mpr ⟨rfl, h⟩)
      conv_lhs => rw [← hsplit]
      rw [rdropWhile_append, if_pos hbehind]
  have hplain : ∀ b ∈ bytes.takeWhile (· != 0), b ≠ 0 := by
    intro b hb
    simpa using List.all_eq_true.mp List.all_takeWhile b hb
  -- The name loses its blanks as bytes, and the text loses them as characters.
  rw [makeText_eq, hcut, rdropWhile_isFill_of_no_nul hplain, Text.ofUtf8,
    ← Text.rdropWhile_decodeUtf8, plainName, trimEnd_eq, Coding.textOf, Text.ofUtf8,
    String.toList_ofList]

/-- A byte that is left over keeps the NUL before it, and the NUL parts the name. -/
theorem makeText_of_not_filledUp (h : ¬ FilledUp bytes) :
    makeText bytes = Coding.textOf bytes ++ "\x00" ++ makeText (leftovers bytes) := by
  rcases split_at_nul bytes with ⟨-, hnone⟩ | hsplit
  · refine absurd (fun b hb => ?_) h
    rw [hnone] at hb
    cases hb
  · have hkept : (0 :: leftovers bytes).rdropWhile isFill =
        0 :: (leftovers bytes).rdropWhile isFill := by
      rw [← List.singleton_append, rdropWhile_append, if_neg]
      · rfl
      · exact fun hnil => h (List.rdropWhile_eq_nil_iff.mp hnil)
    have hcut : bytes.rdropWhile isFill =
        bytes.takeWhile (· != 0) ++ 0 :: (leftovers bytes).rdropWhile isFill := by
      conv_lhs => rw [← hsplit]
      rw [rdropWhile_append, hkept, if_neg (List.cons_ne_nil _ _)]
    have hnul : String.ofList [Text.charOf 0 []] = "\x00" := rfl
    rw [makeText_eq, hcut, Text.ofUtf8, Text.decodeUtf8_append_cons (by decide),
      String.ofList_append, ← List.singleton_append, String.ofList_append, hnul,
      ← String.append_assoc]
    rfl

/-- A name with leftovers is longer than it should be. -/
theorem makeText_eq_plainName_iff : makeText bytes = plainName bytes ↔ FilledUp bytes := by
  refine ⟨fun hsame => ?_, makeText_of_filledUp⟩
  by_contra h
  have hlength : (plainName bytes).length ≤ (Coding.textOf bytes).length := by
    rw [plainName, trimEnd_eq, String.length_ofList]
    exact (List.rdropWhile_prefix _ _).length_le
  rw [← hsame, makeText_of_not_filledUp h, String.length_append, String.length_append] at hlength
  have hnul : "\x00".length = 1 := rfl
  omega

/-! ## The handler of a maker -/

section

variable {history : List (HandlerKey × Handler)} {container : Container} {ifd : Directory}
  {field : Field}

/-- Without a tag to go by, the name of the maker decides. -/
theorem find_ofHistory_eq_some_iff (hifd : container.directories.head? = some ifd)
    (hfield : ifd.field? ImageTag.make.id = some field)
    (hnone : ∀ tag handler, ¬ TagCandidate (LastUnder history) container ifd tag handler)
    (handler : Handler) :
    (ofHistory history).find container = some handler ↔
      LastUnder history (.make (makeText field.bytes)) handler ∧
        handler.accepts container = true := by
  have htag : (ofHistory history).findByTag container ifd = none :=
    findByTag_eq_none_iff.mpr fun tag handler h =>
      hnone tag handler ⟨get?_ofHistory_iff.mp h.stands, h.has, h.accepts⟩
  rw [← get?_ofHistory_iff, find, hifd, Option.bind_some, htag, Option.none_or, findByMake, hfield,
    Option.bind_some, Option.filter_eq_some_iff]
  rfl

/-- A file without a handler for its tags gets the one that was registered last under the text of
its maker, less the blanks at the end, if that one accepts the file and the field is filled up with
blanks and NULs alone. Any other byte behind the first NUL makes another name of it, which goes on
with the NUL and with what is left over. -/
theorem leftovers_make_another_name_of_a_maker (hifd : container.directories.head? = some ifd)
    (hfield : ifd.field? ImageTag.make.id = some field)
    (htype : field.type = Coding.ascii.fieldType)
    (hnone : ∀ tag handler, ¬ TagCandidate (LastUnder history) container ifd tag handler) :
    ∃ text, field.value.text? = some text ∧
      let maker := Catalog.trimEnd ' ' text
      let another := text ++ "\x00" ++ makeText (leftovers field.bytes)
      (FilledUp field.bytes → ∀ handler, (ofHistory history).find container = some handler ↔
        LastUnder history (.make maker) handler ∧ handler.accepts container = true) ∧
      (¬ FilledUp field.bytes → another ≠ maker ∧
        ∀ handler, (ofHistory history).find container = some handler ↔
          LastUnder history (.make another) handler ∧ handler.accepts container = true) := by
  have htext : field.value.text? = some (Coding.textOf field.bytes) := by
    rw [Payload.value, htype]
    rfl
  refine ⟨_, htext, fun hfilled handler => ?_, fun hleft => ⟨?_, fun handler => ?_⟩⟩
  · rw [find_ofHistory_eq_some_iff hifd hfield hnone, makeText_of_filledUp hfilled, plainName]
  · rw [← makeText_of_not_filledUp hleft]
    exact fun hsame => hleft (makeText_eq_plainName_iff.mp hsame)
  · rw [find_ofHistory_eq_some_iff hifd hfield hnone, makeText_of_not_filledUp hleft]

end

/-- One handler, which is registered under a maker. -/
def underMaker : List (HandlerKey × Handler) := [(.make "Me", fixed true 2)]

theorem not_tagCandidate_underMaker (container : Container) (ifd : Directory) (tag : UInt16)
    (handler : Handler) : ¬ TagCandidate (LastUnder underMaker) container ifd tag handler := by
  rintro ⟨⟨before, later, hsplit, -⟩, -, -⟩
  have hmem : (HandlerKey.tag tag, handler) ∈ underMaker := by
    rw [hsplit]
    exact List.mem_append_right _ (List.mem_cons_self ..)
  simp [underMaker] at hmem

/-- A blank before the NUL and none behind it: the name is that of the text without the blank. -/
theorem leftovers_make_another_name_of_a_maker_of_filledUp :
    ∃ ifd field, filledUp.directories.head? = some ifd ∧
      ifd.field? ImageTag.make.id = some field ∧ field.type = Coding.ascii.fieldType ∧
      (∀ tag handler, ¬ TagCandidate (LastUnder underMaker) filledUp ifd tag handler) ∧
      FilledUp field.bytes ∧ field.value.text? = some "Me " ∧
      (ofHistory underMaker).find filledUp = some (fixed true 2) := by
  have hfill : FilledUp [0x4D, 0x65, 0x20, 0] := by decide +kernel
  refine ⟨_, _, rfl, rfl, rfl, not_tagCandidate_underMaker _ _, hfill, by decide +kernel, ?_⟩
  obtain ⟨text, htext, hfilled, -⟩ := leftovers_make_another_name_of_a_maker rfl rfl rfl
    (not_tagCandidate_underMaker filledUp _)
  have hmaker : (some text).map (Catalog.trimEnd ' ') = some "Me" := by
    rw [← htext]
    decide +kernel
  refine (hfilled hfill _).mpr ⟨?_, rfl⟩
  rw [Option.some.inj hmaker]
  exact ⟨[], [], rfl, nofun⟩

/-- A file that names its maker: two letters, a NUL and one more byte. -/
def leftOver : ByteArray := ⟨#[
  0x49, 0x49, 42, 0, 8, 0, 0, 0,
  1, 0, 0x0F, 0x01, 2, 0, 4, 0, 0, 0, 0x4D, 0x65, 0, 0x58, 0, 0, 0, 0]⟩

/-- The text of the field is the name that the handler is registered under, but the handler is not
found. -/
theorem a_byte_behind_the_nul_hides_a_handler :
    ∃ container after ifd field,
      (Container.read (.standard {}) {}).outcome { source := .ofBytes leftOver } =
        (.ok container, after) ∧
      container.directories.head? = some ifd ∧ ifd.field? ImageTag.make.id = some field ∧
      field.value.text? = some "Me" ∧
      (∀ tag handler, ¬ TagCandidate (LastUnder underMaker) container ifd tag handler) ∧
      LastUnder underMaker (.make (Catalog.trimEnd ' ' "Me")) (fixed true 2) ∧
      (fixed true 2).accepts container = true ∧
      (ofHistory underMaker).find container = none := by
  have hfound : ((Container.read (.standard {}) {}).outcome
      { source := .ofBytes leftOver }).1.map (fun container =>
        ((container.directories.head?.bind (·.field? ImageTag.make.id)).bind (·.value.text?),
          ((ofHistory underMaker).find container).isNone)) = .ok (some "Me", true) := by
    decide +kernel
  obtain ⟨container, after, hread, hall⟩ := ReadM.exists_of_map_outcome hfound
  simp only [Prod.mk.injEq, Option.isNone_iff_eq_none, Option.bind_eq_some_iff] at hall
  obtain ⟨⟨field, ⟨ifd, hifd, hfield⟩, htext⟩, hnone⟩ := hall
  have hname : Catalog.trimEnd ' ' "Me" = "Me" := by decide +kernel
  refine ⟨container, after, ifd, field, hread, hifd, hfield, htext,
    not_tagCandidate_underMaker container ifd, ?_, rfl, hnone⟩
  rw [hname]
  exact ⟨[], [], rfl, nofun⟩

end Handlers

end Tiff
