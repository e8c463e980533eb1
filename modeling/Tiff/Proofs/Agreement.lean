-- Sources agree. A file is the same file whether its bytes lie in memory, are
-- sought in a device, or come from a stream a few at a time. A stream cannot see
-- at once that a directory ends beyond it, but then it runs out of bytes there.

import Tiff.Proofs.Twins

namespace Tiff

/-! ## One directory -/

namespace Directory

theorem ofContent_readRest (words : Dictionary) (limits : Limits) (layout : Layout)
    (offset count : Nat) : OfContent (readRest words limits layout offset count) :=
  .bind (.readFields words limits layout count .empty) fun _ =>
    .bind (.readNat layout.linkSize) fun _ => .pure _

/-- Twins read the same directory. Only where a directory ends beyond the content may they fail
for different causes, if the size of the second source is not known. -/
theorem outcome_read_of_backs {content : ByteArray} {sized : Prop} {r r' : Reader}
    (words : Dictionary) (limits : Limits) (layout : Layout) (offset : Nat)
    (horder : r'.cursor.order = r.cursor.order) (hbacks : r.source.Backs content True)
    (hbacks' : r'.source.Backs content sized) :
    let left := (read words limits layout offset).outcome r
    let right := (read words limits layout offset).outcome r'
    left.1 = right.1 ∧ Twins content sized left.2 right.2 ∨
      ¬ sized ∧ ∃ count cause, left.1 = .error (.directoryTooLarge offset count) ∧
        right.1 = .error cause := by
  have hstart : Twins content sized
      { r with cursor := { r.cursor with position := offset } }
      { r' with cursor := { r'.cursor with position := offset } } :=
    ⟨by simp only [horder], hbacks, hbacks'⟩
  obtain ⟨hcount, htwins⟩ := OfContent.readNat layout.countSize content sized _ _ hstart
  have hmoved := Advances.readNat layout.countSize content sized
    { r' with cursor := { r'.cursor with position := offset } }
  simp only [outcome_read]
  rcases hleft : (Reader.readNat layout.countSize).outcome
    { r with cursor := { r.cursor with position := offset } } with ⟨e | count, after⟩ <;>
  rcases hright : (Reader.readNat layout.countSize).outcome
    { r' with cursor := { r'.cursor with position := offset } } with ⟨e' | count', after'⟩ <;>
    rw [hleft, hright] at hcount htwins <;> cases hcount
  · exact .inl ⟨rfl, htwins⟩
  rename_i hsame
  subst hsame
  simp only
  obtain ⟨hafter, hcursor, -⟩ := hmoved after' count hbacks' hright
  have hsize := htwins.backs.size_eq trivial
  by_cases hlimit : limits.entries < count
  · simp only [hlimit, true_or, if_true]
    exact .inl ⟨trivial, htwins⟩
  simp only [hlimit, false_or, hsize]
  -- the two tests differ only if the second source has not come to its end
  by_cases hfits : fits layout offset count (some content.size) = true
  · have hfits' : fits layout offset count after'.source.size? = true := by
      rw [fits_iff] at hfits ⊢
      rcases hafter.holds.size?_eq with hnone | hsome
      · exact ⟨hfits.1, by simp [hnone]⟩
      · rwa [hsome]
    simp only [hfits, hfits', Bool.not_true, Bool.false_eq_true, if_false]
    obtain ⟨hend, hleft'⟩ := ofContent_readRest words limits layout offset count _ _ _ _ htwins
    exact .inl ⟨sameEnd_eq_iff.mp hend, hleft'⟩
  · simp only [hfits, Bool.not_false, if_true]
    by_cases hfits' : fits layout offset count after'.source.size? = true
    · right
      simp only [hfits', Bool.not_true, Bool.false_eq_true, if_false]
      have hunsized : ¬ sized := fun h => hfits (by rwa [hafter.size_eq h] at hfits')
      obtain ⟨cause, hcause⟩ := readRest_fails words limits layout offset count hafter
        (by
          rw [fits_iff] at hfits hfits'
          rw [hcursor]
          simp only [Option.mem_def, Option.some.injEq, forall_eq'] at hfits
          simp only
          omega)
      exact ⟨hunsized, count, cause, rfl, hcause⟩
    · simp only [hfits', Bool.not_false, if_true]
      exact .inl ⟨trivial, htwins⟩

/-- The directory at an offset of a content, or why there is none. -/
def inContent (words : Dictionary) (limits : Limits) (layout : Layout) (order : ByteOrder)
    (content : ByteArray) (offset : Nat) : Except Error Directory :=
  ((read words limits layout offset).outcome
    { source := .ofBytes content, cursor := { order } }).1

section

variable {content : ByteArray} {sized : Prop} {reader : Reader}

/-- A reader over a content finds the directory that the content has, or it fails where the content
has none. -/
theorem read_resembles_inContent (words : Dictionary) (limits : Limits) (layout : Layout)
    (offset : Nat) (hbacks : reader.source.Backs content sized) :
    let answer := ((read words limits layout offset).outcome reader).1
    let expected := inContent words limits layout reader.cursor.order content offset
    answer = expected ∨ ¬ sized ∧ (∃ e, answer = .error e) ∧ ∃ e, expected = .error e := by
  intro answer expected
  let fresh : Reader := { source := .ofBytes content, cursor := { order := reader.cursor.order } }
  have hfresh : fresh.source.Backs content True := Source.backs_ofBytes content _ True
  have horder : reader.cursor.order = fresh.cursor.order := rfl
  rcases outcome_read_of_backs words limits layout offset horder hfresh hbacks with
    ⟨hsame, -⟩ | ⟨hsized, count, cause, hexpected, hanswer⟩
  · exact .inl hsame.symm
  · exact .inr ⟨hsized, ⟨_, hanswer⟩, ⟨_, hexpected⟩⟩

theorem read_eq_inContent (words : Dictionary) (limits : Limits) (layout : Layout) (offset : Nat)
    (hbacks : reader.source.Backs content True) :
    ((read words limits layout offset).outcome reader).1 =
      inContent words limits layout reader.cursor.order content offset := by
  rcases read_resembles_inContent words limits layout offset hbacks with hsame | ⟨hsized, -⟩
  · exact hsame
  · exact absurd trivial hsized

theorem read_eq_ok_iff (words : Dictionary) (limits : Limits) (layout : Layout) (offset : Nat)
    (hbacks : reader.source.Backs content sized) (directory : Directory) :
    ((read words limits layout offset).outcome reader).1 = .ok directory ↔
      inContent words limits layout reader.cursor.order content offset = .ok directory := by
  rcases read_resembles_inContent words limits layout offset hbacks with
    hsame | ⟨-, ⟨e, hanswer⟩, e', hexpected⟩
  · rw [hsame]
  · rw [hanswer, hexpected]
    simp

end

end Directory

/-! ## The whole chain -/

namespace Container

variable {α : Type} {content : ByteArray} {sized : Prop}

/-- Two ends of a walk that are the same, or that fail at the same directory because it ends
beyond the content. The latter needs a second source whose size is not known. -/
def Resembles (sized : Prop) (a b : Except Error α) : Prop :=
  a = b ∨ ¬ sized ∧ ∃ index offset count cause,
    a = .error (.directory index offset (.directoryTooLarge offset count)) ∧
      b = .error (.directory index offset cause)

theorem resembles_walk (words : Dictionary) (limits : Limits) (layout : Layout) (left : Nat)
    (visited : List Nat) (done : List Directory) (offset : Nat) {r r' : Reader}
    (h : Twins content sized r r') :
    Resembles sized ((walk words limits layout left visited done offset).outcome r).1
      ((walk words limits layout left visited done offset).outcome r').1 := by
  induction left generalizing visited done offset r r' with
  | zero =>
    unfold walk
    split
    · exact .inl rfl
    · split <;> exact .inl rfl
  | succ left ih =>
    unfold walk
    split
    · exact .inl rfl
    split
    · exact .inl rfl
    simp only [ReadM.outcome_bind, ReadM.outcome_adaptExcept]
    have hread := Directory.outcome_read_of_backs words limits layout offset
      (by rw [h.cursor_eq]) h.backs h.backs'
    rcases hleft : (Directory.read words limits layout offset).outcome r with ⟨a, s⟩
    rcases hright : (Directory.read words limits layout offset).outcome r' with ⟨b, s'⟩
    rw [hleft, hright] at hread
    rcases hread with ⟨hsame, htwins⟩ | ⟨hsized, count, cause, hcount, hcause⟩
    · simp only at hsame htwins
      subst hsame
      cases a with
      | error e => exact .inl rfl
      | ok directory => exact ih _ _ _ htwins
    · simp only at hcount hcause
      subst hcount hcause
      exact .inr ⟨hsized, done.length, offset, count, cause, rfl, rfl⟩

theorem resembles_read (registry : Registry) (limits : Limits) {r r' : Reader}
    (h : Twins content sized r r') :
    Resembles sized ((read registry limits).outcome r).1 ((read registry limits).outcome r').1 := by
  unfold read
  simp only [ReadM.outcome_bind]
  obtain ⟨hend, htwins⟩ := OfContent.readHeader registry.dialects content sized r r' h
  rcases hleft : (Header.read registry.dialects).outcome r with ⟨a, s⟩
  rcases hright : (Header.read registry.dialects).outcome r' with ⟨b, s'⟩
  rw [hleft, hright] at hend htwins
  obtain rfl : a = b := sameEnd_eq_iff.mp hend
  cases a with
  | error e => exact .inl rfl
  | ok header =>
    have hwalk := resembles_walk registry.defaultDictionary limits header.layout
      limits.directories [] [] header.first htwins
    simp only
    rcases hleft : (walk registry.defaultDictionary limits header.layout limits.directories [] []
      header.first).outcome s with ⟨a, t⟩
    rcases hright : (walk registry.defaultDictionary limits header.layout limits.directories [] []
      header.first).outcome s' with ⟨b, t'⟩
    rw [hleft, hright] at hwalk
    rcases hwalk with hsame | ⟨hsized, index, offset, count, cause, hcount, hcause⟩
    · simp only at hsame
      subst hsame
      cases a <;> exact .inl rfl
    · simp only at hcount hcause
      subst hcount hcause
      exact .inr ⟨hsized, index, offset, count, cause, rfl, rfl⟩

/-- How reading ends over a source of which nothing was read yet. -/
def ofSource (registry : Registry) (limits : Limits) (source : Source) (cursor : Cursor := {}) :
    Except Error Container :=
  ((read registry limits).outcome { source, cursor }).1

theorem resembles_ofSource (registry : Registry) (limits : Limits) {source source' : Source}
    (cursor : Cursor) (h : source.Backs content True) (h' : source'.Backs content sized) :
    Resembles sized (ofSource registry limits source cursor)
      (ofSource registry limits source' cursor) :=
  resembles_read registry limits ⟨rfl, h, h'⟩

/-- One content gives one container. A device that is sought reads like memory, to the same error.
A stream gives the same container as memory or none, and the same error; only a directory that
ends beyond the content may fail there for another cause. -/
theorem one_content_gives_one_container (registry : Registry) (limits : Limits)
    (content : ByteArray) (cursor : Cursor) (file stream : Device) (hfile : file.Gives content)
    (hstream : stream.Gives content) (memoryName fileName streamName : String) :
    let memory := ofSource registry limits (.ofBytes content memoryName) cursor
    let streamed := ofSource registry limits (.ofStream stream streamName) cursor
    (∃ sought, Source.openSeekable file (.ok content.size) fileName = .ok sought ∧
      ofSource registry limits sought cursor = memory) ∧
    (∀ container, streamed = .ok container ↔ memory = .ok container) ∧
    ∀ e, memory = .error e → streamed = .error e ∨
      ∃ index offset count cause,
        e = .directory index offset (.directoryTooLarge offset count) ∧
          streamed = .error (.directory index offset cause) := by
  intro memory streamed
  have hbytes : (Source.ofBytes content memoryName).Backs content True :=
    Source.backs_ofBytes content memoryName True
  obtain ⟨sought, hopen, hsought⟩ := Source.backs_openSeekable hfile fileName
  have hstreamed : Resembles False memory streamed :=
    resembles_ofSource registry limits cursor hbytes (Source.backs_ofStream hstream streamName)
  refine ⟨⟨sought, hopen, ?_⟩, ?_, ?_⟩
  · rcases resembles_ofSource registry limits cursor hbytes hsought with hsame | ⟨hsized, -⟩
    · exact hsame.symm
    · exact absurd trivial hsized
  · intro container
    rcases hstreamed with hsame | ⟨-, index, offset, count, cause, hmemory, hcause⟩
    · rw [hsame]
    · simp [hmemory, hcause]
  · intro e he
    rcases hstreamed with hsame | ⟨-, index, offset, count, cause, hmemory, hcause⟩
    · exact .inl (by rw [← hsame, he])
    · rw [hmemory, Except.error.injEq] at he
      exact .inr ⟨index, offset, count, cause, he.symm, hcause⟩

/-- A classic header, and the number of entries of a directory that is cut off behind it. -/
def cutOff : ByteArray := ⟨#[0x49, 0x49, 42, 0, 8, 0, 0, 0, 2, 0]⟩

/-- A directory that is cut off, sought all at once and streamed by one or two bytes: memory and
file see how much is missing, and the stream fails at the same directory. -/
theorem one_content_gives_one_container_of_cutOff :
    let file : Device := { content := cutOff }
    let stream : Device := { content := cutOff, grant := fun calls => calls % 2 + 1 }
    file.Gives cutOff ∧ stream.Gives cutOff ∧
      (∃ sought, Source.openSeekable file (.ok cutOff.size) = .ok sought ∧
        ofSource .standard {} sought = .error (.directory 0 8 (.directoryTooLarge 8 2))) ∧
      ∃ cause, ofSource .standard {} (.ofStream stream) = .error (.directory 0 8 cause) := by
  intro file stream
  have hfile : file.Gives cutOff := ⟨rfl, rfl, fun _ => (by decide : 0 < cutOff.size)⟩
  have hstream : stream.Gives cutOff := ⟨rfl, rfl, fun _ => Nat.succ_pos _⟩
  have hmemory : ofSource .standard {} (.ofBytes cutOff) =
      .error (.directory 0 8 (.directoryTooLarge 8 2)) := rfl
  obtain ⟨⟨sought, hopen, hsought⟩, -, hstreamed⟩ := one_content_gives_one_container .standard {}
    cutOff {} file stream hfile hstream "memory" "seekable" "stream"
  refine ⟨hfile, hstream, ⟨sought, hopen, hsought.trans hmemory⟩, ?_⟩
  rcases hstreamed _ hmemory with hsame | ⟨index, offset, count, cause, he, hcause⟩
  · exact ⟨_, hsame⟩
  · obtain ⟨rfl, rfl, -⟩ := Error.directory.inj he
    exact ⟨cause, hcause⟩

end Container

end Tiff
