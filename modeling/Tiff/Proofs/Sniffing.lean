-- Sniffing. The first four bytes of a content choose a byte order and a dialect,
-- or they say why not. A look at the start of a source and the reading of a header
-- go by the same choice, and what else can be wrong with a header lies behind it.

import Tiff.Detection
import Tiff.Proofs.Twins

namespace Tiff

/-! ## The choice -/

namespace ByteOrder

/-- A word is read from two bytes, whatever follows them. -/
theorem readU16_take (order : ByteOrder) (bytes : List UInt8) :
    order.readU16 (bytes.take 2) = order.readU16 bytes := by
  simp only [readU16, read, fitBytes, List.take_take, Nat.min_self]

end ByteOrder

namespace Dialects

/-- The dialects that were registered, one after the other. -/
def holding (registered : List Dialect) : Dialects := registered.foldl register {}

theorem holding_standard : holding [.tiff, .bigTiff] = standard := rfl

/-- A dialect is found under its own version, and hides the one that was there. -/
theorem get?_register (dialects : Dialects) (new : Dialect) (version : UInt16) :
    (dialects.register new).get? version =
      if new.version = version then some new else dialects.get? version := by
  unfold get? register
  rw [Std.TreeMap.getElem?_insert]
  simp only [Std.LawfulEqCmp.compare_eq_iff_eq]

/-- Every dialect is found under its own version. -/
def Keyed (dialects : Dialects) : Prop :=
  ∀ version dialect, dialects.get? version = some dialect → dialect.version = version

theorem Keyed.register {dialects : Dialects} (h : dialects.Keyed) (new : Dialect) :
    (dialects.register new).Keyed := by
  intro version dialect hfound
  rw [get?_register] at hfound
  split at hfound
  · cases hfound
    assumption
  · exact h version dialect hfound

theorem keyed_holding (registered : List Dialect) : (holding registered).Keyed := by
  have hfold : ∀ dialects : Dialects, dialects.Keyed →
      (registered.foldl Dialects.register dialects).Keyed := by
    induction registered with
    | nil => exact fun _ h => h
    | cons new registered ih => exact fun dialects h => ih _ (h.register new)
  exact hfold {} fun version dialect hfound => by simp [get?] at hfound

/-- The standard dialects are those of the versions 42 and 43. -/
theorem get?_standard_iff (version : UInt16) :
    (version == Dialect.tiff.version || version == Dialect.bigTiff.version) = true ↔
      ∃ dialect, standard.get? version = some dialect := by
  unfold standard
  simp only [get?_register, Bool.or_eq_true, beq_iff_eq]
  by_cases htiff : version = Dialect.tiff.version
  · simp [htiff, Dialect.tiff, Dialect.bigTiff]
  · by_cases hbig : version = Dialect.bigTiff.version
    · simp [hbig]
    · simp [htiff, hbig, Ne.symm htiff, Ne.symm hbig, get?]

/-- What the first four bytes of a content choose. -/
def choose (dialects : Dialects) (content : ByteArray) : Except Error (ByteOrder × Dialect) :=
  match ByteOrder.ofMagic? (slice content 0 2) with
  | none => .error (.byteOrder (slice content 0 2))
  | some order =>
    match dialects.get? (order.readU16 (slice content 2 2)) with
    | none => .error (.version (order.readU16 (slice content 2 2)))
    | some dialect => .ok (order, dialect)

/-- Where no dialect is chosen, it is for the byte order or for the version. -/
theorem of_choose_eq_error {dialects : Dialects} {content : ByteArray} {e : Error}
    (h : dialects.choose content = .error e) :
    (∃ magic, e = .byteOrder magic) ∨ ∃ version, e = .version version := by
  unfold choose at h
  split at h
  · cases h
    exact .inl ⟨_, rfl⟩
  · split at h
    · cases h
      exact .inr ⟨_, rfl⟩
    · cases h

end Dialects

variable {content : ByteArray} {sized : Prop} {reader : Reader}

/-! ## A look at the start -/

namespace Detection

/-- What a look at the start tells of a choice. -/
def ofChoice (choice : ByteOrder × Dialect) : Detection where
  order := choice.1
  version := choice.2.version
  dialect := choice.2.name
  layout := choice.2.layout

/-- The four bytes together are the magic bytes and the version. -/
theorem slice_sniffed (content : ByteArray) :
    (slice content 0 sniffed).take 2 = slice content 0 2 ∧
      (slice content 0 sniffed).drop 2 = slice content 2 2 := by
  constructor
  · rw [slice_eq, slice_eq, List.take_take]
    rfl
  · rw [slice_eq, slice_eq, List.drop_take, List.drop_drop]
    rfl

theorem outcome_read {dialects : Dialects} (hkeyed : dialects.Keyed)
    (hbacks : reader.source.Backs content sized) (hsize : sniffed ≤ content.size) :
    ((read dialects).outcome reader).1 = (dialects.choose content).map ofChoice := by
  obtain ⟨source, -, hread⟩ := Reader.outcome_readAt hbacks 0 sniffed
  obtain ⟨hmagic, hversion⟩ := slice_sniffed content
  have hrange : rangeOf content 0 sniffed = .ok (slice content 0 sniffed) :=
    rangeOf_eq_ok_iff.mpr ⟨.inr ⟨by decide, by omega⟩, rfl⟩
  rw [hrange] at hread
  unfold read Dialects.choose
  rw [ReadM.outcome_bind_ok hread]
  simp only [hmagic, hversion]
  cases ByteOrder.ofMagic? (slice content 0 2) with
  | none => rfl
  | some order =>
    simp only
    cases hfound : dialects.get? (order.readU16 (slice content 2 2)) with
    | none => rfl
    | some dialect =>
      simp only [Except.map, ofChoice, hkeyed _ _ hfound]
      rfl

/-- Where four bytes are not there, nothing is told. -/
theorem fails_of_short {dialects : Dialects} (hbacks : reader.source.Backs content sized)
    (hshort : content.size < sniffed) :
    ((read dialects).outcome reader).1 = .error (.truncated 0 sniffed) := by
  obtain ⟨source, -, hread⟩ := Reader.outcome_readAt hbacks 0 sniffed
  have hrange : rangeOf content 0 sniffed = .error (.truncated 0 sniffed) := by
    unfold rangeOf
    rw [if_neg (by decide), if_neg (by omega)]
  rw [hrange] at hread
  unfold read
  rw [ReadM.outcome_bind_error hread]

/-- A look that tells something tells of a choice. -/
theorem read_eq_ok_iff {dialects : Dialects} (hkeyed : dialects.Keyed)
    (hbacks : reader.source.Backs content sized) {seen : Detection} :
    ((read dialects).outcome reader).1 = .ok seen ↔ sniffed ≤ content.size ∧
      ∃ choice, dialects.choose content = .ok choice ∧ ofChoice choice = seen := by
  rcases Nat.lt_or_ge content.size sniffed with hshort | hsize
  · rw [fails_of_short hbacks hshort]
    simp [Nat.not_le_of_lt hshort]
  · rw [outcome_read hkeyed hbacks hsize]
    cases dialects.choose content <;> simp [Except.map, hsize]

/-- The quick check of some bytes asks whether the standard dialects have a choice. -/
theorem looksLikeTiff_iff (content : ByteArray) :
    looksLikeTiff content.data.toList = true ↔
      sniffed ≤ content.size ∧ ∃ choice, Dialects.standard.choose content = .ok choice := by
  have hlength : content.data.toList.length = content.size := by
    rw [Array.length_toList, ByteArray.size_data]
  have hmagic : content.data.toList.take 2 = slice content 0 2 := by
    rw [slice_eq, List.drop_zero]
  unfold looksLikeTiff Dialects.choose
  by_cases hshort : content.data.toList.length < sniffed
  · rw [if_pos hshort]
    simp only [Bool.false_eq_true, false_iff, not_and]
    omega
  · rw [if_neg hshort, hmagic]
    cases ByteOrder.ofMagic? (slice content 0 2) with
    | none => simp
    | some order =>
      have hversion : order.readU16 (content.data.toList.drop 2) =
          order.readU16 (slice content 2 2) := by
        rw [slice_eq, order.readU16_take]
      have hlong : sniffed ≤ content.size := by omega
      simp only [hversion, Dialects.get?_standard_iff, hlong, true_and]
      cases Dialects.standard.get? (order.readU16 (slice content 2 2)) <;> simp

end Detection

/-! ## A header -/

/-- The next bytes are those of the content, if it has so many. -/
theorem Reader.outcome_readBytes_of_le (reader : Reader) (position length : Nat)
    (hbacks : reader.source.Backs content sized) (hposition : reader.cursor.position = position)
    (haddress : position + length < addressLimit) (hin : position + length ≤ content.size) :
    ∃ source : Source, source.Backs content sized ∧ (readBytes length).outcome reader =
      (.ok (slice content position length),
        { reader with source, cursor := ⟨reader.cursor.order, position + length⟩ }) := by
  subst hposition
  obtain ⟨source, hsource, hread⟩ := outcome_readBytes hbacks length
  rw [rangeOf_eq_ok_iff.mpr ⟨.inr ⟨haddress, hin⟩, rfl⟩] at hread
  exact ⟨source, hsource, hread⟩

namespace Header

/-- Where the first four bytes are there, the reading of a header ends with their choice, if they
have none. Otherwise it goes on behind them as the chosen dialect does. -/
theorem outcome_read (dialects : Dialects) (hbacks : reader.source.Backs content sized)
    (hsize : 4 ≤ content.size) :
    ∃ behind : Reader, behind.source.Backs content sized ∧
      (∀ e, dialects.choose content = .error e →
        (read dialects).outcome reader = (.error e, behind)) ∧
      ∀ choice, dialects.choose content = .ok choice → behind.cursor = ⟨choice.1, 4⟩ ∧
        (read dialects).outcome reader = (readTail choice.2).outcome behind := by
  obtain ⟨source, hsource, hmagic⟩ := Reader.outcome_readBytes_of_le
    { reader with cursor := ⟨reader.cursor.order, 0⟩ } 0 2 hbacks rfl (by decide) (by omega)
  unfold read Dialects.choose
  rw [ReadM.outcome_bind_ok (Reader.outcome_seek 0 reader), ReadM.outcome_bind_ok hmagic]
  simp only
  cases ByteOrder.ofMagic? (slice content 0 2) with
  | none =>
    refine ⟨{ reader with source, cursor := ⟨reader.cursor.order, 2⟩ }, hsource, ?_, ?_⟩
    · intro e he
      cases he
      rfl
    · intro choice he
      cases he
  | some order =>
    obtain ⟨source', hsource', hversion⟩ := Reader.outcome_readBytes_of_le
      { reader with source, cursor := ⟨order, 2⟩ } 2 2 hsource rfl (by decide) (by omega)
    have hword : Reader.readU16.outcome { reader with source, cursor := ⟨order, 2⟩ } =
        (.ok (order.readU16 (slice content 2 2)),
          { reader with source := source', cursor := ⟨order, 4⟩ }) := by
      unfold Reader.readU16
      rw [ReadM.outcome_bind_ok hversion]
      rfl
    simp only [ReadM.outcome_bind_ok (Reader.outcome_setOrder _ _), ReadM.outcome_bind_ok hword]
    refine ⟨{ reader with source := source', cursor := ⟨order, 4⟩ }, hsource', ?_⟩
    cases dialects.get? (order.readU16 (slice content 2 2)) with
    | none =>
      constructor
      · intro e he
        cases he
        rfl
      · intro choice he
        cases he
    | some dialect =>
      constructor
      · intro e he
        cases he
      · intro choice he
        cases he
        exact ⟨rfl, rfl⟩

end Header

/-! ## What is wrong behind the choice -/

namespace Advances

theorem readFirst (layout : Layout) : Advances layout.slotSize (Header.readFirst layout) :=
  bind (readNat _) fun first => ite (bind (n := 0) (throw _) fun _ => pure first) (pure first)

theorem readWidth : Advances 4 Header.readWidth := by
  have hreserved : Advances 2 (do
      let reserved ← Reader.readU16
      if reserved ≠ 0 then Reader.warn (.reservedWord (← get).source.name reserved)) :=
    bind readU16 fun reserved => ite (warn fun r => .reservedWord r.source.name reserved) (pure ())
  exact bind readU16 fun _ => ite (bind (n := 0) (throw _) fun _ => hreserved) hreserved

theorem readTail (dialect : Dialect) :
    Advances (dialect.layout.headerSize - 4) (Header.readTail dialect) := by
  have hrest : Advances dialect.layout.slotSize (Header.readRest dialect) :=
    bind (readFirst _) fun _ => bind order fun _ => pure _
  rw [Header.readTail_eq]
  split
  · rename_i hclassic
    rw [hclassic] at hrest ⊢
    exact hrest
  · rename_i hbig
    rw [hbig] at hrest ⊢
    exact bind readWidth fun _ => hrest

end Advances

/-- A reading that fails only for a malformed header, or for bytes that are not there at the cursor
or behind it. -/
def FailsAhead {α : Type} (m : ReadM α) : Prop :=
  ∀ content sized reader after e, Source.Backs reader.source content sized →
    m.outcome reader = (.error e, after) →
      (∃ fault, e = .header fault) ∨
        ∃ offset needed, e = .truncated offset needed ∧ reader.cursor.position ≤ offset

namespace FailsAhead

variable {α β : Type}

theorem pure (a : α) : FailsAhead (pure a) := by
  intro content sized reader after e hbacks h
  cases h

theorem fault (fault : HeaderFault) : FailsAhead (throw (.header fault) : ReadM α) := by
  intro content sized reader after e hbacks h
  cases h
  exact .inl ⟨fault, rfl⟩

theorem order : FailsAhead Reader.order := by
  intro content sized reader after e hbacks h
  cases h

theorem warn (tell : Reader → Warning) : FailsAhead (do Reader.warn (tell (← get))) := by
  intro content sized reader after e hbacks h
  cases h

/-- The second part begins where the first one came to, and that is not behind its cursor. -/
theorem bind {n : Nat} {m : ReadM α} {f : α → ReadM β} (hm : FailsAhead m) (hmoves : Advances n m)
    (hf : ∀ a, FailsAhead (f a)) : FailsAhead (m >>= f) := by
  intro content sized reader after e hbacks h
  rcases hfirst : m.outcome reader with ⟨e' | a, middle⟩
  · rw [ReadM.outcome_bind_error hfirst] at h
    cases h
    exact hm _ _ _ _ _ hbacks hfirst
  · rw [ReadM.outcome_bind_ok hfirst] at h
    obtain ⟨hmiddle, hcursor, -⟩ := hmoves _ _ _ _ _ hbacks hfirst
    refine (hf a _ _ _ _ _ hmiddle h).imp_right ?_
    rintro ⟨offset, needed, he, hle⟩
    rw [hcursor] at hle
    exact ⟨offset, needed, he, Nat.le_of_add_right_le hle⟩

theorem ite {p : Prop} [Decidable p] {m m' : ReadM α} (hm : FailsAhead m) (hm' : FailsAhead m') :
    FailsAhead (if p then m else m') := by
  split
  · exact hm
  · exact hm'

theorem readBytes (length : Nat) : FailsAhead (Reader.readBytes length) := by
  intro content sized reader after e hbacks h
  obtain ⟨source, -, hread⟩ := Reader.outcome_readAt hbacks reader.cursor.position length
  unfold Reader.readBytes at h
  rw [ReadM.outcome_bind_ok (ReadM.outcome_get reader)] at h
  rcases hrange : rangeOf content reader.cursor.position length with e' | bytes
  · rw [hrange] at hread
    rw [ReadM.outcome_bind_error hread] at h
    cases h
    exact .inr ⟨_, length, rangeOf_eq_error hrange, Nat.le_refl _⟩
  · rw [hrange] at hread
    rw [ReadM.outcome_bind_ok hread] at h
    cases h

theorem readNat (width : Nat) : FailsAhead (Reader.readNat width) :=
  bind (readBytes width) (.readBytes width) fun _ => bind order .order fun _ => pure _

theorem readU16 : FailsAhead Reader.readU16 :=
  bind (readBytes 2) (.readBytes 2) fun _ => bind order .order fun _ => pure _

theorem readFirst (layout : Layout) : FailsAhead (Header.readFirst layout) :=
  bind (readNat _) (.readNat _) fun first =>
    ite (bind (n := 0) (fault _) (.throw _) fun _ => pure first) (pure first)

theorem readWidth : FailsAhead Header.readWidth := by
  have hreserved : FailsAhead (do
      let reserved ← Reader.readU16
      if reserved ≠ 0 then Reader.warn (.reservedWord (← get).source.name reserved)) :=
    bind readU16 .readU16 fun reserved =>
      ite (warn fun r => .reservedWord r.source.name reserved) (pure ())
  exact bind readU16 .readU16 fun _ =>
    ite (bind (n := 0) (fault _) (.throw _) fun _ => hreserved) hreserved

theorem readTail (dialect : Dialect) : FailsAhead (Header.readTail dialect) := by
  have hrest : FailsAhead (Header.readRest dialect) :=
    bind (readFirst _) (.readFirst _) fun _ => bind order .order fun _ => pure _
  rw [Header.readTail_eq]
  split
  · exact hrest
  · exact bind readWidth .readWidth fun _ => hrest

end FailsAhead

namespace Header

/-- A header has the version of the dialect that its tail was read by. -/
theorem version_of_readTail {dialect : Dialect} {header : Header} {after : Reader}
    (h : (readTail dialect).outcome reader = (.ok header, after)) :
    header.version = dialect.version := by
  have hrest : ∀ middle, (readRest dialect).outcome middle = (.ok header, after) →
      header.version = dialect.version := by
    intro middle h
    obtain ⟨first, _, -, h⟩ := ReadM.outcome_bind_eq_ok h
    obtain ⟨order, _, -, h⟩ := ReadM.outcome_bind_eq_ok h
    cases h
    rfl
  rw [readTail_eq] at h
  split at h
  · exact hrest _ h
  · obtain ⟨_, middle, -, h⟩ := ReadM.outcome_bind_eq_ok h
    exact hrest middle h

end Header

/-! ## The three ways -/

/-- What a look at the start says about the header: it has what was seen, or what is wrong with it
lies behind the four bytes. -/
def Detection.Foretells (seen : Detection) (header : Except Error Header) : Prop :=
  (∃ found, header = .ok found ∧ found.order = seen.order ∧ found.version = seen.version ∧
    found.layout = seen.layout) ∨
  (∃ fault, header = .error (.header fault)) ∨
  ∃ offset needed, header = .error (.truncated offset needed) ∧ sniffed ≤ offset

namespace Header

theorem foretold_readTail {choice : ByteOrder × Dialect}
    (hbacks : reader.source.Backs content sized) (hcursor : reader.cursor = ⟨choice.1, 4⟩) :
    (Detection.ofChoice choice).Foretells ((readTail choice.2).outcome reader).1 := by
  rcases htail : (readTail choice.2).outcome reader with ⟨e | header, after⟩
  · rcases FailsAhead.readTail choice.2 _ _ _ _ _ hbacks htail with
      ⟨fault, rfl⟩ | ⟨offset, needed, rfl, hle⟩
    · exact .inr (.inl ⟨fault, rfl⟩)
    · rw [hcursor] at hle
      exact .inr (.inr ⟨offset, needed, rfl, hle⟩)
  · obtain ⟨-, hkept, -⟩ := Advances.readTail choice.2 _ _ _ _ _ hbacks htail
    obtain ⟨horder, hlayout, -⟩ := of_readTail htail
    rw [hkept, hcursor] at horder
    exact .inl ⟨header, rfl, horder, version_of_readTail htail, hlayout⟩

/-- The reading of a header goes by the choice that a look at the start goes by. -/
theorem read_of_choose (dialects : Dialects) (hbacks : reader.source.Backs content sized)
    (hsize : 4 ≤ content.size) :
    let header := ((read dialects).outcome reader).1
    (∀ e, dialects.choose content = .error e → header = .error e) ∧
    ∀ choice, dialects.choose content = .ok choice →
      (Detection.ofChoice choice).Foretells header := by
  intro header
  obtain ⟨behind, hbehind, herror, hok⟩ := outcome_read dialects hbacks hsize
  constructor
  · intro e he
    simp only [header, herror e he]
  · intro choice hchoice
    obtain ⟨hcursor, htail⟩ := hok choice hchoice
    simp only [header, htail]
    exact foretold_readTail hbehind hcursor

end Header

/-- Neither way of going wrong behind the first four bytes is a way of going wrong there. -/
theorem Detection.Foretells.ne_error {seen : Detection} {header : Except Error Header}
    (h : seen.Foretells header) {e : Error}
    (he : (∃ magic, e = .byteOrder magic) ∨ ∃ version, e = .version version) :
    header ≠ .error e := by
  intro heq
  subst heq
  rcases h with ⟨found, hfound, -⟩ | ⟨fault, hfault⟩ | ⟨offset, needed, hcut, -⟩
  · cases hfound
  · cases hfault
    simp at he
  · cases hcut
    simp at he

/-- A look at the start of a content and the reading of a header go by one choice. With four bytes
there, both fail in the same way where the byte order or the version is not known, and the header
is as the look foretells it otherwise. With fewer bytes both fail. The quick check of some bytes is
a look with the standard dialects. -/
theorem all_ways_of_sniffing_agree (registered : List Dialect) (content : ByteArray)
    (looker reader : Reader) (hlooker : looker.source.Holds content)
    (hreader : reader.source.Holds content) :
    let dialects := Dialects.holding registered
    let sniffed := ((Detection.read dialects).outcome looker).1
    let header := ((Header.read dialects).outcome reader).1
    (4 ≤ content.size → ∀ e, sniffed = .error e ↔
      header = .error e ∧ ((∃ magic, e = .byteOrder magic) ∨ ∃ version, e = .version version)) ∧
    (∀ seen, sniffed = .ok seen → seen.Foretells header) ∧
    (content.size < 4 → (∃ e, sniffed = .error e) ∧ ∃ e, header = .error e) ∧
    (Detection.looksLikeTiff content.data.toList = true ↔
      ∃ seen, ((Detection.read .standard).outcome looker).1 = .ok seen) := by
  intro dialects sniffed header
  have hlook : looker.source.Backs content False := ⟨hlooker, False.elim⟩
  have hread : reader.source.Backs content False := ⟨hreader, False.elim⟩
  have hkeyed : dialects.Keyed := Dialects.keyed_holding registered
  refine ⟨?_, ?_, ?_, ?_⟩
  · intro hsize e
    obtain ⟨herror, hok⟩ := Header.read_of_choose dialects hread hsize
    have hsniffed : sniffed = (dialects.choose content).map Detection.ofChoice :=
      Detection.outcome_read hkeyed hlook hsize
    rw [hsniffed]
    cases hchoice : dialects.choose content with
    | error cause =>
      have hheader : header = .error cause := herror cause hchoice
      simp only [Except.map, hheader, Except.error.injEq]
      constructor
      · rintro rfl
        exact ⟨rfl, Dialects.of_choose_eq_error hchoice⟩
      · exact And.left
    | ok choice =>
      have hforetold : (Detection.ofChoice choice).Foretells header := hok choice hchoice
      simp only [Except.map, reduceCtorEq, false_iff, not_and]
      exact fun hheader he => hforetold.ne_error he hheader
  · intro seen hseen
    obtain ⟨hsize, choice, hchoice, rfl⟩ := (Detection.read_eq_ok_iff hkeyed hlook).mp hseen
    exact (Header.read_of_choose dialects hread hsize).2 choice hchoice
  · intro hsize
    refine ⟨⟨_, Detection.fails_of_short hlook hsize⟩, ?_⟩
    rcases hheader : (Header.read dialects).outcome reader with ⟨e | found, after⟩
    · exact ⟨e, congrArg Prod.fst hheader⟩
    · have hlong : 4 ≤ content.size := Header.size_of_read hread hheader
      omega
  · have hstandard : Dialects.standard.Keyed := by
      rw [← Dialects.holding_standard]
      exact Dialects.keyed_holding _
    simp only [Detection.looksLikeTiff_iff, Detection.read_eq_ok_iff hstandard hlook]
    constructor
    · rintro ⟨hsize, choice, hchoice⟩
      exact ⟨_, hsize, choice, hchoice, rfl⟩
    · rintro ⟨_, hsize, choice, hchoice, -⟩
      exact ⟨hsize, choice, hchoice⟩

/-- The first bytes of a big file, cut off where the offset of its first directory should be. -/
def cutShort : ByteArray := ⟨#[0x4D, 0x4D, 0, 43, 0, 8, 0, 0]⟩

/-- Without its dialect a big file fails in the look and in the header alike, though it starts like
one that is known. With its dialect the look succeeds, and the header is cut off at offset 8. -/
theorem all_ways_of_sniffing_agree_of_cutShort :
    let memory : Reader := { source := .ofBytes cutShort }
    let stream : Reader := { source := .ofStream { content := cutShort, grant := fun _ => 1 } }
    memory.source.Holds cutShort ∧ stream.source.Holds cutShort ∧
    ((Header.read (.holding [.tiff, .tiff85])).outcome stream).1 = .error (.version 43) ∧
    Detection.looksLikeTiff cutShort.data.toList = true ∧
    (Detection.ofChoice (.big, .bigTiff)).Foretells (.error (.truncated 8 8)) := by
  intro memory stream
  have hmemory : memory.source.Holds cutShort := rfl
  have hgives : Device.Gives { content := cutShort, grant := fun _ => 1 } cutShort :=
    ⟨rfl, rfl, fun _ => Nat.one_pos⟩
  have hstream : stream.source.Holds cutShort := (Source.backs_ofStream hgives "stream").holds
  have hunknown : ((Detection.read (.holding [.tiff, .tiff85])).outcome memory).1 =
      .error (.version 43) := by decide +kernel
  have hknown : ((Detection.read .standard).outcome memory).1 =
      .ok (.ofChoice (.big, .bigTiff)) := rfl
  have hcut : ((Header.read .standard).outcome stream).1 = .error (.truncated 8 8) := by
    decide +kernel
  obtain ⟨hfails, -, -, hquick⟩ :=
    all_ways_of_sniffing_agree [.tiff, .tiff85] cutShort memory stream hmemory hstream
  obtain ⟨-, hforetold, -, -⟩ :=
    all_ways_of_sniffing_agree [.tiff, .bigTiff] cutShort memory stream hmemory hstream
  obtain ⟨hheader, -⟩ := (hfails (by decide) _).mp hunknown
  refine ⟨hmemory, hstream, hheader, hquick.mpr ⟨_, hknown⟩, ?_⟩
  rw [← hcut]
  exact hforetold _ hknown

end Tiff
