-- Strips. An image is its strips, one behind the other, and there is an image if
-- the content has every strip that both lists tell of. What is wrong is told in a
-- fixed order: the configuration comes first, then the compression, then the two
-- lists, and then the first strip that the content does not have.

import Tiff.Proofs.Requests
import Tiff.Proofs.Selection

namespace Tiff.Baseline

/-! ## Strips of a content -/

/-- A strip with no bytes, or one whose end has an address and lies in the content. -/
def HasStrip (content : ByteArray) (strip : Nat × Nat) : Prop :=
  strip.2 = 0 ∨ strip.1 + strip.2 < addressLimit ∧ strip.1 + strip.2 ≤ content.size

instance (content : ByteArray) (strip : Nat × Nat) : Decidable (HasStrip content strip) :=
  inferInstanceAs (Decidable (_ ∨ _))

/-- A content has every strip that both lists tell of. -/
def HasStrips (content : ByteArray) (offsets counts : List Nat) : Prop :=
  ∀ (i offset count : Nat), offsets[i]? = some offset → counts[i]? = some count →
    HasStrip content (offset, count)

/-- The bytes of some strips, one strip behind the other. -/
def joined (content : ByteArray) (strips : List (Nat × Nat)) : List UInt8 :=
  strips.flatMap fun strip => slice content strip.1 strip.2

variable {content : ByteArray} {sized : Prop} {strip : Nat × Nat} {reader : Reader}

theorem hasStrips_iff {offsets counts : List Nat} :
    HasStrips content offsets counts ↔
      ∀ strip ∈ offsets.zip counts, HasStrip content strip := by
  constructor
  · rintro h ⟨offset, count⟩ hmem
    obtain ⟨i, hi⟩ := List.mem_iff_getElem?.mp hmem
    obtain ⟨hoffset, hcount⟩ := List.getElem?_zip_eq_some.mp hi
    exact h i offset count hoffset hcount
  · intro h i offset count hoffset hcount
    refine h _ (List.mem_of_getElem? (i := i) ?_)
    rw [List.getElem?_zip_eq_some]
    exact ⟨hoffset, hcount⟩

theorem rangeOf_of_hasStrip (h : HasStrip content strip) :
    rangeOf content strip.1 strip.2 = .ok (slice content strip.1 strip.2) :=
  rangeOf_eq_ok_iff.mpr ⟨h, rfl⟩

theorem rangeOf_of_not_hasStrip (h : ¬ HasStrip content strip) :
    rangeOf content strip.1 strip.2 = .error (.truncated strip.1 strip.2) := by
  cases hrange : rangeOf content strip.1 strip.2 with
  | ok bytes => exact absurd (rangeOf_eq_ok_iff.mp hrange).1 h
  | error e => rw [rangeOf_eq_error hrange]

/-! ## Reading strips -/

theorem outcome_readStrips_cons (hbacks : reader.source.Backs content sized)
    (h : HasStrip content strip) (strips : List (Nat × Nat)) (done : List (List UInt8)) :
    ∃ source : Source, source.Backs content sized ∧
      (readStrips .none (strip :: strips) done).outcome reader =
        (readStrips .none strips (slice content strip.1 strip.2 :: done)).outcome
          { reader with source } := by
  obtain ⟨source, hsource, hread⟩ := Reader.outcome_readAt hbacks strip.1 strip.2
  rw [rangeOf_of_hasStrip h] at hread
  refine ⟨source, hsource, ?_⟩
  rw [readStrips, ReadM.outcome_bind_ok hread]
  exact ReadM.outcome_bind_ofExcept_ok rfl

/-- Strips that are all there are read to the last one, and their bytes come behind those of the
strips before. -/
theorem outcome_readStrips (hbacks : reader.source.Backs content sized)
    {strips : List (Nat × Nat)} (h : ∀ strip ∈ strips, HasStrip content strip)
    (done : List (List UInt8)) :
    ∃ source : Source, source.Backs content sized ∧
      (readStrips .none strips done).outcome reader =
        (.ok (done.reverse.flatten ++ joined content strips), { reader with source }) := by
  induction strips generalizing done reader with
  | nil => exact ⟨reader.source, hbacks, by simp [readStrips, joined]⟩
  | cons strip strips ih =>
    obtain ⟨hstrip, hrest⟩ := List.forall_mem_cons.mp h
    obtain ⟨source, hsource, hstep⟩ := outcome_readStrips_cons hbacks hstrip strips done
    let middle : Reader := { reader with source }
    have hmiddle : middle.source.Backs content sized := hsource
    obtain ⟨source', hsource', hread⟩ := ih hmiddle hrest (slice content strip.1 strip.2 :: done)
    refine ⟨source', hsource', ?_⟩
    rw [hstep, hread]
    simp [joined, middle]

/-- Reading stops at the first strip that is not there. -/
theorem outcome_readStrips_of_not_hasStrip (hbacks : reader.source.Backs content sized)
    {before : List (Nat × Nat)} (h : ∀ strip ∈ before, HasStrip content strip)
    (hstrip : ¬ HasStrip content strip) (later : List (Nat × Nat)) (done : List (List UInt8)) :
    ∃ source : Source, source.Backs content sized ∧
      (readStrips .none (before ++ strip :: later) done).outcome reader =
        (.error (.truncated strip.1 strip.2), { reader with source }) := by
  induction before generalizing done reader with
  | nil =>
    obtain ⟨source, hsource, hread⟩ := Reader.outcome_readAt hbacks strip.1 strip.2
    rw [rangeOf_of_not_hasStrip hstrip] at hread
    exact ⟨source, hsource, ReadM.outcome_bind_error hread⟩
  | cons first before ih =>
    obtain ⟨hfirst, hrest⟩ := List.forall_mem_cons.mp h
    obtain ⟨source, hsource, hstep⟩ :=
      outcome_readStrips_cons hbacks hfirst (before ++ strip :: later) done
    let middle : Reader := { reader with source }
    have hmiddle : middle.source.Backs content sized := hsource
    obtain ⟨source', hsource', hread⟩ := ih hmiddle hrest (slice content first.1 first.2 :: done)
    exact ⟨source', hsource', hstep.trans hread⟩

/-! ## Schemes -/

theorem eq_of_ofId? {n : UInt16} {scheme : Compression} (h : Compression.ofId? n = some scheme) :
    scheme.id = n := by
  simpa using List.find?_some h

/-- Only the scheme that leaves data as it is can be decoded. -/
theorem supportedScheme_eq (config : ImageConfig) :
    supportedScheme config =
      if config.compression = 1 then .ok .none else .error (.compression config.compression) := by
  have hnone : Compression.ofId? 1 = some .none := Compression.ofId?_id .none
  unfold supportedScheme
  by_cases hplain : config.compression = 1
  · rw [if_pos hplain, hplain, hnone]
    rfl
  · rw [if_neg hplain]
    cases hscheme : Compression.ofId? config.compression with
    | none => rfl
    | some scheme =>
      have hother : scheme.isSupported = false := by
        rw [Compression.isSupported, beq_eq_false_iff_ne]
        rintro rfl
        exact hplain (eq_of_ofId? hscheme).symm
      simp [hother]

/-! ## How an image ends -/

/-- What is noted of two lists: their lengths, if they differ. -/
def lengthsNoted (offsets counts : List Nat) : List Warning :=
  if offsets.length = counts.length then [] else [.stripLengths offsets.length counts.length]

/-- A directory tells of an image that is not compressed, and where its strips are. -/
structure TellsStrips (ifd : Directory) (config : ImageConfig) (offsets counts : List Nat) :
    Prop where
  config_eq : ImageConfig.ofDirectory ifd = .ok config
  compression_eq : config.compression = 1
  offsets_eq : ifd.require ImageTag.stripOffsets.id Payload.naturals = .ok offsets
  counts_eq : ifd.require ImageTag.stripByteCounts.id Payload.naturals = .ok counts

/-- How reading the image of a directory ends, and what is noted on the way. -/
inductive ImageEnds (content : ByteArray) (ifd : Directory) :
    Except Error RawImage → List Warning → Prop
  | config {e : Error} (h : ImageConfig.ofDirectory ifd = .error e) :
      ImageEnds content ifd (.error e) []
  | compression {config : ImageConfig} (hconfig : ImageConfig.ofDirectory ifd = .ok config)
      (h : config.compression ≠ 1) :
      ImageEnds content ifd (.error (.compression config.compression)) []
  | offsets {config : ImageConfig} {e : Error} (hconfig : ImageConfig.ofDirectory ifd = .ok config)
      (hplain : config.compression = 1)
      (h : ifd.require ImageTag.stripOffsets.id Payload.naturals = .error e) :
      ImageEnds content ifd (.error e) []
  | counts {config : ImageConfig} {offsets : List Nat} {e : Error}
      (hconfig : ImageConfig.ofDirectory ifd = .ok config) (hplain : config.compression = 1)
      (hoffsets : ifd.require ImageTag.stripOffsets.id Payload.naturals = .ok offsets)
      (h : ifd.require ImageTag.stripByteCounts.id Payload.naturals = .error e) :
      ImageEnds content ifd (.error e) []
  | truncated {config : ImageConfig} {offsets counts : List Nat} {before later : List (Nat × Nat)}
      {strip : Nat × Nat} (htells : TellsStrips ifd config offsets counts)
      (hsplit : offsets.zip counts = before ++ strip :: later)
      (hbefore : ∀ earlier ∈ before, HasStrip content earlier) (h : ¬ HasStrip content strip) :
      ImageEnds content ifd (.error (.truncated strip.1 strip.2)) (lengthsNoted offsets counts)
  | image {config : ImageConfig} {offsets counts : List Nat}
      (htells : TellsStrips ifd config offsets counts) (h : HasStrips content offsets counts) :
      ImageEnds content ifd (.ok ⟨config, joined content (offsets.zip counts)⟩)
        (lengthsNoted offsets counts)

variable {ifd : Directory} {answer : Except Error RawImage} {noted : List Warning}

theorem exists_imageEnds (content : ByteArray) (ifd : Directory) :
    ∃ answer noted, ImageEnds content ifd answer noted := by
  cases hconfig : ImageConfig.ofDirectory ifd with
  | error e => exact ⟨_, _, .config hconfig⟩
  | ok config =>
  by_cases hplain : config.compression ≠ 1
  · exact ⟨_, _, .compression hconfig hplain⟩
  rw [Decidable.not_not] at hplain
  cases hoffsets : ifd.require ImageTag.stripOffsets.id Payload.naturals with
  | error e => exact ⟨_, _, .offsets hconfig hplain hoffsets⟩
  | ok offsets =>
  cases hcounts : ifd.require ImageTag.stripByteCounts.id Payload.naturals with
  | error e => exact ⟨_, _, .counts hconfig hplain hoffsets hcounts⟩
  | ok counts =>
  have htells : TellsStrips ifd config offsets counts := ⟨hconfig, hplain, hoffsets, hcounts⟩
  cases hmissing : (offsets.zip counts).find? fun strip => !HasStrip content strip with
  | none =>
    refine ⟨_, _, .image htells (hasStrips_iff.mpr fun strip hmem => ?_)⟩
    simpa using List.find?_eq_none.mp hmissing strip hmem
  | some strip =>
    obtain ⟨hstrip, before, later, hsplit, hbefore⟩ := List.find?_eq_some_iff_append.mp hmissing
    refine ⟨_, _, .truncated htells hsplit (fun earlier hmem => ?_) (by simpa using hstrip)⟩
    simpa using hbefore earlier hmem

theorem outcome_strips {offsets counts : List Nat}
    (hoffsets : ifd.require ImageTag.stripOffsets.id Payload.naturals = .ok offsets)
    (hcounts : ifd.require ImageTag.stripByteCounts.id Payload.naturals = .ok counts) :
    (strips ifd).outcome reader =
      (.ok (offsets, counts), { reader with
        warnings := reader.warnings ++ lengthsNoted offsets counts }) := by
  unfold strips
  rw [ReadM.outcome_bind_ofExcept_ok hoffsets, ReadM.outcome_bind_ofExcept_ok hcounts, lengthsNoted]
  by_cases hsame : offsets.length = counts.length
  · rw [if_neg (Decidable.not_not.mpr hsame), if_pos hsame, List.append_nil]
    rfl
  · rw [if_pos hsame, if_neg hsame]
    rfl

/-- Where data is not compressed it is up to the strips. -/
theorem outcome_readImage_of_plain {config : ImageConfig}
    (hconfig : ImageConfig.ofDirectory ifd = .ok config) (hplain : config.compression = 1) :
    (readImage ifd).outcome reader =
      (strips ifd >>= fun lists => readStrips .none (lists.1.zip lists.2) [] >>= fun data =>
        pure ⟨config, data⟩).outcome reader := by
  have hscheme : supportedScheme config = .ok .none := by
    rw [supportedScheme_eq, if_pos hplain]
  unfold readImage
  rw [ReadM.outcome_bind_ofExcept_ok hconfig, ReadM.outcome_bind_ofExcept_ok hscheme]

theorem outcome_readImage_of_tells {config : ImageConfig} {offsets counts : List Nat}
    (h : TellsStrips ifd config offsets counts) :
    (readImage ifd).outcome reader =
      (readStrips .none (offsets.zip counts) [] >>= fun data => pure ⟨config, data⟩).outcome
        { reader with warnings := reader.warnings ++ lengthsNoted offsets counts } := by
  rw [outcome_readImage_of_plain h.config_eq h.compression_eq]
  exact ReadM.outcome_bind_ok (outcome_strips h.offsets_eq h.counts_eq)

/-- Reading an image ends as it should, over whatever source the content has. -/
theorem outcome_readImage (h : ImageEnds content ifd answer noted)
    (hbacks : reader.source.Backs content sized) :
    ∃ source : Source, source.Backs content sized ∧
      (readImage ifd).outcome reader =
        (answer, { reader with source, warnings := reader.warnings ++ noted }) := by
  have hrefused : ∀ {e : Error}, (readImage ifd).outcome reader = (.error e, reader) →
      ∃ source : Source, source.Backs content sized ∧
        (readImage ifd).outcome reader =
          (.error e, { reader with source, warnings := reader.warnings ++ [] }) :=
    fun hread => ⟨reader.source, hbacks, by rw [hread, List.append_nil]⟩
  cases h with
  | config h => exact hrefused (ReadM.outcome_bind_ofExcept_error h)
  | compression hconfig h =>
    refine hrefused ?_
    unfold readImage
    rw [ReadM.outcome_bind_ofExcept_ok hconfig]
    exact ReadM.outcome_bind_ofExcept_error (by rw [supportedScheme_eq, if_neg h])
  | offsets hconfig hplain h =>
    refine hrefused ((outcome_readImage_of_plain hconfig hplain).trans ?_)
    exact ReadM.outcome_bind_error (ReadM.outcome_bind_ofExcept_error h)
  | counts hconfig hplain hoffsets h =>
    refine hrefused ((outcome_readImage_of_plain hconfig hplain).trans ?_)
    refine ReadM.outcome_bind_error ?_
    unfold strips
    rw [ReadM.outcome_bind_ofExcept_ok hoffsets]
    exact ReadM.outcome_bind_ofExcept_error h
  | @truncated config offsets counts before later strip htells hsplit hbefore h =>
    let start : Reader := { reader with
      warnings := reader.warnings ++ lengthsNoted offsets counts }
    have hstart : start.source.Backs content sized := hbacks
    obtain ⟨source, hsource, hread⟩ :=
      outcome_readStrips_of_not_hasStrip hstart hbefore h later []
    refine ⟨source, hsource, ?_⟩
    rw [outcome_readImage_of_tells htells, hsplit]
    exact ReadM.outcome_bind_error hread
  | @image config offsets counts htells h =>
    let start : Reader := { reader with
      warnings := reader.warnings ++ lengthsNoted offsets counts }
    have hstart : start.source.Backs content sized := hbacks
    obtain ⟨source, hsource, hread⟩ := outcome_readStrips hstart (hasStrips_iff.mp h) []
    refine ⟨source, hsource, ?_⟩
    rw [outcome_readImage_of_tells htells]
    exact ReadM.outcome_bind_ok hread

/-! ## The image of a file -/

theorem exists_of_bind_eq_ok {α β : Type} {a : Except Error α} {f : α → Except Error β} {b : β}
    (h : (a >>= f) = .ok b) : ∃ x, a = .ok x ∧ f x = .ok b := by
  cases a with
  | error e => cases h
  | ok x => exact ⟨x, rfl, h⟩

/-- A directory that does not tell its compression has none. -/
theorem compression_of_ofDirectory {config : ImageConfig}
    (h : ImageConfig.ofDirectory ifd = .ok config) :
    ∃ compression?, ifd.get ImageTag.compression.id Payload.word16 = .ok compression? ∧
      config.compression = compression?.getD 1 := by
  unfold ImageConfig.ofDirectory at h
  obtain ⟨width, -, h⟩ := exists_of_bind_eq_ok h
  obtain ⟨height, -, h⟩ := exists_of_bind_eq_ok h
  obtain ⟨samples?, -, h⟩ := exists_of_bind_eq_ok h
  obtain ⟨bits?, -, h⟩ := exists_of_bind_eq_ok h
  obtain ⟨compression?, hcompression, h⟩ := exists_of_bind_eq_ok h
  obtain ⟨photometric?, -, h⟩ := exists_of_bind_eq_ok h
  cases h
  exact ⟨compression?, hcompression, rfl⟩

theorem imageEnds_ok_iff {image : RawImage} :
    (∃ noted, ImageEnds content ifd (.ok image) noted) ↔
      ∃ offsets counts, TellsStrips ifd image.config offsets counts ∧
        HasStrips content offsets counts ∧
        image.data = joined content (offsets.zip counts) := by
  constructor
  · rintro ⟨_, ⟨⟩⟩
    exact ⟨_, _, ‹_›, ‹_›, rfl⟩
  · rintro ⟨offsets, counts, htells, h, hdata⟩
    obtain ⟨config, data⟩ := image
    subst hdata
    exact ⟨_, .image htells h⟩

theorem outcome_readImage_iff (hbacks : reader.source.Backs content sized) :
    ((readImage ifd).outcome reader).1 = answer ∧
        ((readImage ifd).outcome reader).2.warnings = reader.warnings ++ noted ↔
      ImageEnds content ifd answer noted := by
  constructor
  · rintro ⟨rfl, hnoted⟩
    obtain ⟨answer, noted', hends⟩ := exists_imageEnds content ifd
    obtain ⟨source, -, hread⟩ := outcome_readImage hends hbacks
    rw [hread] at hnoted ⊢
    rwa [← List.append_cancel_left hnoted]
  · intro hends
    obtain ⟨source, -, hread⟩ := outcome_readImage hends hbacks
    rw [hread]
    exact ⟨rfl, rfl⟩

theorem outcome_readImage_eq_ok_iff (hbacks : reader.source.Backs content sized)
    {image : RawImage} :
    ((readImage ifd).outcome reader).1 = .ok image ↔
      ∃ offsets counts, TellsStrips ifd image.config offsets counts ∧
        HasStrips content offsets counts ∧
        image.data = joined content (offsets.zip counts) := by
  rw [← imageEnds_ok_iff]
  constructor
  · intro himage
    obtain ⟨answer, noted, hends⟩ := exists_imageEnds content ifd
    obtain ⟨source, -, hread⟩ := outcome_readImage hends hbacks
    rw [hread] at himage
    exact ⟨noted, himage ▸ hends⟩
  · rintro ⟨noted, hends⟩
    exact ((outcome_readImage_iff hbacks).mpr hends).1

/-- Of a container that was read, the image of the first directory is made of the strips that both
of its lists tell of, one behind the other, if the configuration can be read, the data is not
compressed, both lists convert, and the content has all of these strips. A surplus of one list is
left out and noted. In all other cases there is an error and no data, and what comes first in
`ImageEnds` is what is told. Requests that were made before change nothing about it. -/
theorem an_image_is_its_strips (registry : Registry) (limits : Limits) (content : ByteArray)
    (reader after : Reader) (container : Container) (hholds : reader.source.Holds content)
    (hread : (Container.read registry limits).outcome reader = (.ok container, after))
    (requests : List Request) :
    let opened := (Opened.mk container after).askAll requests
    ∃ ifd decoder, container.directories.head? = some ifd ∧
      handler.decoder container = .ok decoder ∧
      decoder.config = ImageConfig.ofDirectory ifd ∧
      (∀ config, decoder.config = .ok config →
        ∃ compression?, ifd.get ImageTag.compression.id Payload.word16 = .ok compression? ∧
          config.compression = compression?.getD 1) ∧
      let ending := decoder.image.outcome opened.reader
      (∀ image, ending.1 = .ok image ↔
        ∃ offsets counts, TellsStrips ifd image.config offsets counts ∧
          HasStrips content offsets counts ∧
          image.data = joined content (offsets.zip counts)) ∧
      ∀ answer noted,
        ending.1 = answer ∧ ending.2.warnings = opened.reader.warnings ++ noted ↔
          ImageEnds content ifd answer noted := by
  intro opened
  obtain ⟨ifd, hifd⟩ := Container.exists_head?_of_read hread
  have hafter : after.source.Backs content False :=
    (Container.inContent_of_read ⟨hholds, False.elim⟩ hread).1
  obtain ⟨hbacks, -, -⟩ := Opened.askAll_keeps ⟨container, after⟩ hafter requests
  have hdecoder : handler.decoder container =
      .ok { config := ImageConfig.ofDirectory ifd, image := readImage ifd } := by
    unfold handler
    simp only [hifd]
  exact ⟨ifd, _, hifd, hdecoder, rfl, fun config => compression_of_ofDirectory,
    fun image => outcome_readImage_eq_ok_iff hbacks,
    fun answer noted => outcome_readImage_iff hbacks⟩

/-- A file with an image of three bytes in one strip. Its offsets tell of a second one, which is not
there. -/
def surplus : ByteArray := ⟨#[
  0x49, 0x49, 42, 0, 8, 0, 0, 0,
  4, 0,
  0x00, 0x01, 3, 0, 1, 0, 0, 0, 3, 0, 0, 0,
  0x01, 0x01, 3, 0, 1, 0, 0, 0, 1, 0, 0, 0,
  0x11, 0x01, 3, 0, 2, 0, 0, 0, 62, 0, 200, 0,
  0x17, 0x01, 3, 0, 1, 0, 0, 0, 3, 0, 0, 0,
  0, 0, 0, 0,
  7, 8, 9]⟩

theorem an_image_is_its_strips_of_surplus :
    let reader : Reader := { source := .ofBytes surplus }
    reader.source.Holds surplus ∧ ∃ container after,
      (Container.read (.standard {}) {}).outcome reader = (.ok container, after) ∧
      ∃ decoder, handler.decoder container = .ok decoder ∧
        let opened := (Opened.mk container after).askAll failingRequests
        let ending := decoder.image.outcome opened.reader
        ending.1.map (·.data) = .ok [7, 8, 9] ∧
        ending.2.warnings = opened.reader.warnings ++ [.stripLengths 2 1] := by
  intro reader
  have hholds : reader.source.Holds surplus := rfl
  have hfound : ((Container.read (.standard {}) {}).outcome reader).1.map (fun container =>
      container.directories.head?.map fun ifd =>
        ((ImageConfig.ofDirectory ifd).map (·.compression),
          ifd.require ImageTag.stripOffsets.id Payload.naturals,
          ifd.require ImageTag.stripByteCounts.id Payload.naturals)) =
      .ok (some (.ok 1, .ok [62, 200], .ok [3])) := by decide +kernel
  obtain ⟨container, after, hread, hall⟩ := ReadM.exists_of_map_outcome hfound
  obtain ⟨ifd, decoder, hifd, hdecoder, -, -, -, hends⟩ :=
    an_image_is_its_strips (.standard {}) {} surplus reader after container hholds hread
      failingRequests
  simp only [hifd, Option.map_some, Option.some.injEq, Prod.mk.injEq] at hall
  obtain ⟨hcompression, hoffsets, hcounts⟩ := hall
  cases hconfig : ImageConfig.ofDirectory ifd with
  | error e => simp [hconfig, Except.map] at hcompression
  | ok config =>
    rw [hconfig] at hcompression
    have htells : TellsStrips ifd config [62, 200] [3] :=
      ⟨hconfig, Except.ok.inj hcompression, hoffsets, hcounts⟩
    have hstrips : ∀ strip ∈ [62, 200].zip [3], HasStrip surplus strip := by decide
    have hdata : joined surplus ([62, 200].zip [3]) = [7, 8, 9] := by decide +kernel
    obtain ⟨hanswer, hnoted⟩ := (hends _ _).mpr (.image htells (hasStrips_iff.mpr hstrips))
    refine ⟨hholds, container, after, hread, decoder, hdecoder, ?_, hnoted⟩
    rw [hanswer, Except.map, hdata]

end Tiff.Baseline
