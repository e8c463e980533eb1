-- Which handler gets a file. Of the tags that the first directory has, the least
-- one counts whose handler accepts the file. Without such a tag it is the maker.
-- Only the last registration under a key is there, and a handler that declines
-- stands in nobody's way.

import Mathlib.Data.List.Induction
import Tiff.Image.Handler
import Tiff.Proofs.Directory

namespace Tiff

/-! ## Registrations -/

/-- What a handler is registered under. -/
inductive HandlerKey where
  | make (make : String)
  | tag (tag : UInt16)
  deriving DecidableEq

/-- The last registration under a key is that of a handler. -/
def LastUnder (history : List (HandlerKey × Handler)) (key : HandlerKey) (handler : Handler) :
    Prop :=
  ∃ before later, history = before ++ (key, handler) :: later ∧ ∀ other, (key, other) ∉ later

theorem lastUnder_append_singleton {history : List (HandlerKey × Handler)} {key last : HandlerKey}
    {handler registered : Handler} :
    LastUnder (history ++ [(last, registered)]) key handler ↔
      if last = key then registered = handler else LastUnder history key handler := by
  constructor
  · rintro ⟨before, later, hsplit, hlater⟩
    -- Either the new registration is the one that counts, or it is among the later ones.
    rcases List.eq_nil_or_concat later with rfl | ⟨later, newest, rfl⟩
    · obtain ⟨-, hsame⟩ := List.append_inj' hsplit rfl
      cases hsame
      exact (if_pos rfl).mpr rfl
    · rw [List.concat_eq_append, ← List.cons_append, ← List.append_assoc] at hsplit
      obtain ⟨hhistory, hnewest⟩ := List.append_inj' hsplit rfl
      cases hnewest
      simp only [List.concat_eq_append, List.mem_append, List.mem_singleton, not_or] at hlater
      have hne : last ≠ key := by
        rintro rfl
        exact (hlater registered).2 rfl
      rw [if_neg hne]
      exact ⟨before, later, hhistory, fun other => (hlater other).1⟩
  · by_cases hsame : last = key
    · rw [if_pos hsame]
      rintro rfl
      exact ⟨history, [], by rw [hsame], nofun⟩
    · rw [if_neg hsame]
      rintro ⟨before, later, rfl, hlater⟩
      refine ⟨before, later ++ [(last, registered)], by simp, fun other hmem => ?_⟩
      rcases List.mem_append.mp hmem with hmem | hmem
      · exact hlater other hmem
      · cases List.mem_singleton.mp hmem
        exact hsame rfl

namespace Handlers

/-- Registers a handler under a key. -/
def register (handlers : Handlers) : HandlerKey × Handler → Handlers
  | (.make make, handler) => handlers.registerMake make handler
  | (.tag tag, handler) => handlers.registerTag tag handler

/-- The handlers after a history of registrations. -/
def ofHistory (history : List (HandlerKey × Handler)) : Handlers := history.foldl register {}

/-- The handler that is registered under a key. -/
def get? (handlers : Handlers) : HandlerKey → Option Handler
  | .make make => handlers.byMake[make]?
  | .tag tag => handlers.byTag[tag]?

theorem get?_register (handlers : Handlers) (registered : HandlerKey × Handler)
    (key : HandlerKey) :
    (handlers.register registered).get? key =
      if registered.1 = key then some registered.2 else handlers.get? key := by
  obtain ⟨last, handler⟩ := registered
  cases last <;> cases key <;>
    simp [register, registerMake, registerTag, get?, Std.TreeMap.getElem?_insert]

/-- Under each key stands the handler that was registered there last. -/
theorem get?_ofHistory_iff {history : List (HandlerKey × Handler)} {key : HandlerKey}
    {handler : Handler} :
    (ofHistory history).get? key = some handler ↔ LastUnder history key handler := by
  induction history using List.reverseRecOn with
  | nil =>
    have hnone : (ofHistory []).get? key = none := by
      cases key <;> simp [ofHistory, get?]
    simp [hnone, LastUnder]
  | append_singleton history registered ih =>
    obtain ⟨last, other⟩ := registered
    rw [lastUnder_append_singleton, ← ih]
    unfold ofHistory
    rw [List.foldl_append, List.foldl_cons, List.foldl_nil, get?_register]
    split <;> simp

end Handlers

/-! ## Makers -/

/-- What is left of the bytes without the blanks and NULs at their end. -/
structure Trims (bytes kept : List UInt8) : Prop where
  exists_fill : ∃ fill, bytes = kept ++ fill ∧ ∀ b ∈ fill, b = 0x20 ∨ b = 0
  getLast?_ne : ∀ b, kept.getLast? = some b → b ≠ 0x20 ∧ b ≠ 0

theorem trims_iff {bytes kept : List UInt8} :
    Trims bytes kept ↔ (bytes.reverse.dropWhile fun b => b == 0x20 || b == 0).reverse = kept := by
  constructor
  · rintro ⟨⟨fill, rfl, hfill⟩, hlast⟩
    have hdropped : ∀ b ∈ fill.reverse, (b == 0x20 || b == 0) = true := by
      simpa using hfill
    rw [List.reverse_append, List.dropWhile_append_of_pos hdropped, List.reverse_eq_iff]
    cases hkept : kept.reverse with
    | nil => rfl
    | cons b rest =>
      have hb := hlast b (by rw [← List.head?_reverse, hkept, List.head?_cons])
      exact List.dropWhile_cons_of_neg (by simpa using hb)
  · rintro rfl
    refine ⟨⟨(bytes.reverse.takeWhile fun b => b == 0x20 || b == 0).reverse, ?_, ?_⟩, ?_⟩
    · rw [← List.reverse_append, List.takeWhile_append_dropWhile, List.reverse_reverse]
    · intro b hb
      simpa using List.all_eq_true.mp List.all_takeWhile b (List.mem_reverse.mp hb)
    · intro b hb
      have hhead := List.head?_dropWhile_not (fun b => b == 0x20 || b == 0) bytes.reverse
      rw [List.getLast?_reverse] at hb
      rw [hb] at hhead
      simpa using hhead

/-! ## The choice of a handler -/

section

variable (stands : HandlerKey → Handler → Prop) (container : Container)

/-- A handler stands under a tag that a directory has, and accepts a file. -/
structure TagCandidate (ifd : Directory) (tag : UInt16) (handler : Handler) : Prop where
  stands : stands (.tag tag) handler
  has : ifd.has tag = true
  accepts : handler.accepts container = true

/-- The handler of a file, by what stands under the keys: the candidate of the least tag, or else
that of the maker, if it accepts the file. -/
inductive Chosen : Handler → Prop
  | tag {ifd : Directory} {tag : UInt16} {handler : Handler}
      (hifd : container.directories.head? = some ifd)
      (h : TagCandidate stands container ifd tag handler)
      (hleast : ∀ other handler', TagCandidate stands container ifd other handler' → tag ≤ other) :
      Chosen handler
  | make {ifd : Directory} {field : Field} {kept : List UInt8} {handler : Handler}
      (hifd : container.directories.head? = some ifd)
      (hnone : ∀ tag handler', ¬ TagCandidate stands container ifd tag handler')
      (hfield : ifd.field? ImageTag.make.id = some field) (hkept : Trims field.bytes kept)
      (hstands : stands (.make (Text.ofUtf8 kept)) handler)
      (haccepts : handler.accepts container = true) : Chosen handler

end

/-- Only handlers that accept the file count. -/
theorem Chosen.congr {stands stands' : HandlerKey → Handler → Prop} {container : Container}
    {handler : Handler}
    (hsame : ∀ key handler, handler.accepts container = true →
      (stands key handler ↔ stands' key handler))
    (h : Chosen stands container handler) : Chosen stands' container handler := by
  have hcandidate : ∀ ifd tag handler, TagCandidate stands container ifd tag handler ↔
      TagCandidate stands' container ifd tag handler := by
    intro ifd tag handler
    constructor
    · exact fun h => ⟨(hsame _ _ h.accepts).mp h.stands, h.has, h.accepts⟩
    · exact fun h => ⟨(hsame _ _ h.accepts).mpr h.stands, h.has, h.accepts⟩
  rcases h with ⟨hifd, h, hleast⟩ | ⟨hifd, hnone, hfield, hkept, hstands, haccepts⟩
  · simp only [hcandidate] at h hleast
    exact .tag hifd h hleast
  · simp only [hcandidate] at hnone
    exact .make hifd hnone hfield hkept ((hsame _ _ haccepts).mp hstands) haccepts

namespace Handlers

variable {handlers : Handlers} {container : Container} {ifd : Directory} {handler : Handler}

/-- What stands in a registry under a key. -/
def Stands (handlers : Handlers) (key : HandlerKey) (handler : Handler) : Prop :=
  handlers.get? key = some handler

theorem mem_toList_iff {tag : UInt16} :
    (tag, handler) ∈ handlers.byTag.toList ↔ handlers.Stands (.tag tag) handler :=
  Std.TreeMap.mem_toList_iff_getElem?_eq_some

/-- Looking for a handler by tag, every candidate would do. -/
theorem tagCandidate_iff {tag : UInt16} {found : Handler} :
    TagCandidate handlers.Stands container ifd tag handler ∧ handler = found ↔
      (tag, handler) ∈ handlers.byTag.toList ∧
        (if ifd.has tag && handler.accepts container then some handler else none) =
          some found := by
  rw [mem_toList_iff]
  by_cases hfits : (ifd.has tag && handler.accepts container) = true
  · rw [if_pos hfits, Option.some.injEq]
    rw [Bool.and_eq_true] at hfits
    exact and_congr_left fun _ => ⟨fun h => h.stands, fun h => ⟨h, hfits.1, hfits.2⟩⟩
  · rw [if_neg hfits]
    refine iff_of_false (fun h => hfits ?_) (fun h => nomatch h.2)
    rw [h.1.has, h.1.accepts]
    rfl

theorem exists_tagCandidate_of_findByTag
    (h : handlers.findByTag container ifd = some handler) :
    ∃ tag, TagCandidate handlers.Stands container ifd tag handler ∧
      ∀ other handler', TagCandidate handlers.Stands container ifd other handler' →
        tag ≤ other := by
  unfold findByTag at h
  obtain ⟨before, ⟨tag, found⟩, later, hlist, hfits, hbefore⟩ := List.findSome?_eq_some_iff.mp h
  have hmem : (tag, found) ∈ handlers.byTag.toList := by
    rw [hlist]
    exact List.mem_append_right _ (List.mem_cons_self ..)
  obtain ⟨hcandidate, rfl⟩ := tagCandidate_iff.mpr ⟨hmem, hfits⟩
  refine ⟨tag, hcandidate, fun other handler' hother => ?_⟩
  obtain ⟨hmem', hfits'⟩ := tagCandidate_iff.mp ⟨hother, rfl⟩
  have hordered := handlers.byTag.ordered_keys_toList
  rw [hlist] at hmem' hordered
  rcases List.mem_append.mp hmem' with hmem' | hmem'
  · exact absurd (hfits'.symm.trans (hbefore _ hmem')) nofun
  · rcases List.mem_cons.mp hmem' with hsame | hmem'
    · cases hsame
      exact UInt16.le_refl tag
    · obtain ⟨-, hlater, -⟩ := List.pairwise_append.mp hordered
      obtain ⟨hless, -⟩ := List.pairwise_cons.mp hlater
      exact UInt16.le_of_lt (Std.compare_eq_lt.mp (hless _ hmem'))

theorem findByTag_eq_none_iff :
    handlers.findByTag container ifd = none ↔
      ∀ tag handler', ¬ TagCandidate handlers.Stands container ifd tag handler' := by
  unfold findByTag
  rw [List.findSome?_eq_none_iff]
  constructor
  · intro hnone tag handler' h
    obtain ⟨hmem, hfits⟩ := tagCandidate_iff.mp ⟨h, rfl⟩
    exact absurd (hfits.symm.trans (hnone _ hmem)) nofun
  · rintro hnone ⟨tag, handler'⟩ hmem
    rw [Option.eq_none_iff_forall_ne_some]
    intro found hfits
    exact hnone tag handler' (tagCandidate_iff.mpr ⟨hmem, hfits⟩).1

/-- Under one key stands one handler, so the least tag leaves no choice. -/
theorem findByTag_eq_some_iff :
    handlers.findByTag container ifd = some handler ↔
      ∃ tag, TagCandidate handlers.Stands container ifd tag handler ∧
        ∀ other handler', TagCandidate handlers.Stands container ifd other handler' →
          tag ≤ other := by
  refine ⟨exists_tagCandidate_of_findByTag, ?_⟩
  rintro ⟨tag, h, hleast⟩
  cases hfound : handlers.findByTag container ifd with
  | none => exact absurd h (findByTag_eq_none_iff.mp hfound tag handler)
  | some found =>
    obtain ⟨tag', h', hleast'⟩ := exists_tagCandidate_of_findByTag hfound
    have hsame : tag = tag' := UInt16.le_antisymm (hleast tag' found h') (hleast' tag handler h)
    have hstands := h'.stands
    rw [← hsame] at hstands
    exact hstands.symm.trans h.stands

theorem findByMake_eq_some_iff :
    handlers.findByMake container ifd = some handler ↔
      ∃ field kept, ifd.field? ImageTag.make.id = some field ∧ Trims field.bytes kept ∧
        handlers.Stands (.make (Text.ofUtf8 kept)) handler ∧
        handler.accepts container = true := by
  unfold findByMake makeText
  simp only [Option.bind_eq_some_iff, Option.filter_eq_some_iff, trims_iff]
  constructor
  · rintro ⟨field, hfield, hstands, haccepts⟩
    exact ⟨field, _, hfield, rfl, hstands, haccepts⟩
  · rintro ⟨field, _, hfield, rfl, hstands, haccepts⟩
    exact ⟨field, hfield, hstands, haccepts⟩

theorem find_eq_some_iff :
    handlers.find container = some handler ↔ Chosen handlers.Stands container handler := by
  unfold find
  rw [Option.bind_eq_some_iff]
  constructor
  · rintro ⟨ifd, hifd, hfound⟩
    rcases Option.or_eq_some_iff.mp hfound with htag | ⟨hnone, hmake⟩
    · obtain ⟨tag, h, hleast⟩ := findByTag_eq_some_iff.mp htag
      exact .tag hifd h hleast
    · obtain ⟨field, kept, hfield, hkept, hstands, haccepts⟩ := findByMake_eq_some_iff.mp hmake
      exact .make hifd (findByTag_eq_none_iff.mp hnone) hfield hkept hstands haccepts
  · rintro (⟨hifd, h, hleast⟩ | ⟨hifd, hnone, hfield, hkept, hstands, haccepts⟩)
    · refine ⟨_, hifd, Option.or_eq_some_iff.mpr (.inl ?_)⟩
      exact findByTag_eq_some_iff.mpr ⟨_, h, hleast⟩
    · refine ⟨_, hifd, Option.or_eq_some_iff.mpr (.inr ⟨?_, ?_⟩)⟩
      · exact findByTag_eq_none_iff.mpr hnone
      · exact findByMake_eq_some_iff.mpr ⟨_, _, hfield, hkept, hstands, haccepts⟩

/-! ## Handlers that decline -/

/-- The registry without the handlers that decline a file. -/
def accepting (handlers : Handlers) (container : Container) : Handlers where
  byMake := handlers.byMake.filter fun _ handler => handler.accepts container
  byTag := handlers.byTag.filter fun _ handler => handler.accepts container

theorem stands_accepting_iff {key : HandlerKey} :
    (handlers.accepting container).Stands key handler ↔
      handlers.Stands key handler ∧ handler.accepts container = true := by
  unfold Stands get? accepting
  cases key <;> simp [Std.TreeMap.getElem?_filter, Option.filter_eq_some_iff]

theorem find_accepting :
    (handlers.accepting container).find container = handlers.find container := by
  have hsame : ∀ key handler, handler.accepts container = true →
      ((handlers.accepting container).Stands key handler ↔ handlers.Stands key handler) :=
    fun key handler haccepts => stands_accepting_iff.trans (and_iff_left haccepts)
  ext handler
  rw [find_eq_some_iff, find_eq_some_iff]
  exact ⟨.congr hsame, .congr fun key handler h => (hsame key handler h).symm⟩

end Handlers

/-! ## Decoders -/

/-- A container that was read has a first directory, whatever the dialects: the header leads behind
itself. -/
theorem Container.exists_head?_of_read {registry : Registry} {limits : Limits}
    {reader after : Reader} {container : Container}
    (h : (read registry limits).outcome reader = (.ok container, after)) :
    ∃ ifd, container.directories.head? = some ifd := by
  obtain ⟨header, directories, middle, hheader, hwalk, rfl⟩ := steps_of_read h
  obtain ⟨-, hbehind⟩ := Header.of_read hheader
  have hsize : 0 < header.layout.headerSize := by cases header.layout <;> decide
  rcases cases_of_walk hwalk with ⟨hzero, -, -⟩ | ⟨-, -, _, directory, _, -, -, hrest⟩
  · omega
  · have hmem : directory ∈ directories := subset_of_walk hrest (List.mem_singleton.mpr rfl)
    cases directories with
    | nil => cases hmem
    | cons ifd _ => exact ⟨ifd, rfl⟩

namespace Handlers

/-- After any registrations a file gets the handler of the least tag that the first directory has
and whose handler accepts the file, or else the one of the maker, if it accepts the file, or else
none. Its decoder is that of this handler, and that of the baseline handler only if there is none;
the latter is always made for a container that was read. Handlers that decline the file might as
well not be registered. -/
theorem a_file_gets_the_first_handler_that_accepts_it (history : List (HandlerKey × Handler))
    (container : Container) :
    let handlers := ofHistory history
    (∀ handler, handlers.find container = some handler ↔
      Chosen (LastUnder history) container handler) ∧
    (∀ handler, handlers.find container = some handler →
      handlers.decoder container = handler.decoder container) ∧
    (handlers.find container = none →
      handlers.decoder container = Baseline.handler.decoder container ∧
      ∀ registry limits reader after,
        (Container.read registry limits).outcome reader = (.ok container, after) →
        ∃ decoder, handlers.decoder container = .ok decoder) ∧
    (handlers.accepting container).find container = handlers.find container := by
  intro handlers
  have hstands : ∀ key handler, handler.accepts container = true →
      (handlers.Stands key handler ↔ LastUnder history key handler) :=
    fun _ _ _ => get?_ofHistory_iff
  refine ⟨fun handler => ?_, fun handler hfound => ?_, fun hnone => ?_, find_accepting⟩
  · rw [find_eq_some_iff]
    exact ⟨.congr hstands, .congr fun key handler h => (hstands key handler h).symm⟩
  · unfold decoder
    rw [hfound, Option.getD_some]
  · have hbaseline : handlers.decoder container = Baseline.handler.decoder container := by
      unfold decoder
      rw [hnone, Option.getD_none]
    refine ⟨hbaseline, fun registry limits reader after hread => ?_⟩
    obtain ⟨ifd, hifd⟩ := Container.exists_head?_of_read hread
    refine ⟨{ config := ImageConfig.ofDirectory ifd, image := Baseline.readImage ifd }, ?_⟩
    rw [hbaseline]
    unfold Baseline.handler
    simp only [hifd]

/-- A handler that accepts or declines all files, and whose decoder fails with a tag. -/
def fixed (accepts : Bool) (tag : UInt16) : Handler where
  accepts _ := accepts
  decoder _ := .error (.missingTag tag)

/-- A file of a maker, whose name is filled up. -/
def filledUp : Container where
  header := ⟨.little, 42, .classic, 4, 8⟩
  directories := [{
    offset := 8, layout := .classic, entryCount := 1, next := 0
    table := .ofList [{
      entry := {
        layout := .classic, tag := 271, type := 2, count := 4, slot := [0x4D, 0x65, 0x20, 0] }
      type := Coding.ascii.fieldType
      order := .little
      bytes := [0x4D, 0x65, 0x20, 0]
      offset := 0
      tag := .unknown 271 }] }]
  registry := .standard {}
  limits := {}

/-- The tag has a handler that accepts the file, but another one that declines was registered
later, so the maker is asked for. -/
theorem a_file_gets_the_first_handler_that_accepts_it_of_filledUp :
    let history := [(.tag 271, fixed true 1), (.make "Me", fixed true 2), (.tag 271, fixed false 3)]
    Chosen (LastUnder history) filledUp (fixed true 2) ∧
      (ofHistory history).decoder filledUp = .error (.missingTag 2) := by
  intro history
  obtain ⟨hchosen, hdecoder, -⟩ := a_file_gets_the_first_handler_that_accepts_it history filledUp
  have hmake : makeText [0x4D, 0x65, 0x20, 0] = "Me" := by decide +kernel
  have hfound : (ofHistory history).find filledUp = some (fixed true 2) := by
    change ((ofHistory history).byMake[makeText [0x4D, 0x65, 0x20, 0]]?.filter
      fun handler => handler.accepts filledUp) = some (fixed true 2)
    rw [hmake]
    rfl
  exact ⟨(hchosen _).mp hfound, hdecoder _ hfound⟩

end Handlers

end Tiff
