-- What comes of readings: answers with a property, and errors and warnings that
-- name only directories at certain offsets. What reads a directory is quiet: it
-- raises no warning, and it fails only for that directory. What leads from one
-- directory to others keeps any property of theirs, and passes over null offsets;
-- an Exif pointer alone is followed wherever it leads.

import Tiff.Exif
import Tiff.Proofs.Directory

namespace Tiff

/-! ## Answers -/

/-- A reading whose answers have a property, whatever it reads from. -/
def Yields {α : Type} (P : α → Prop) (m : ReadM α) : Prop :=
  ∀ reader after a, m.outcome reader = (.ok a, after) → P a

namespace Yields

variable {α β : Type} {P : α → Prop} {Q : β → Prop}

theorem pure {a : α} (h : P a) : Yields P (pure a) := by
  intro reader after a' hread
  cases hread
  exact h

theorem throw (e : Error) : Yields P (throw e) := by
  intro reader after a hread
  cases hread

theorem bind {m : ReadM α} {f : α → ReadM β} (hm : Yields P m) (hf : ∀ a, P a → Yields Q (f a)) :
    Yields Q (m >>= f) := by
  intro reader after b hread
  obtain ⟨a, middle, hfirst, hsecond⟩ := ReadM.outcome_bind_eq_ok hread
  exact hf a (hm reader middle a hfirst) middle after b hsecond

theorem imp {P' : α → Prop} {m : ReadM α} (h : Yields P m) (himp : ∀ a, P a → P' a) :
    Yields P' m :=
  fun reader after a hread => himp a (h reader after a hread)

/-- Where what was read first does not matter. -/
theorem next {m : ReadM α} {f : α → ReadM β} (hf : ∀ a, Yields Q (f a)) : Yields Q (m >>= f) :=
  bind (P := fun _ => True) (fun _ _ _ _ => trivial) fun a _ => hf a

theorem dite {p : Prop} [Decidable p] {m n : ReadM α} (hm : p → Yields P m) (hn : ¬ p → Yields P n) :
    Yields P (if p then m else n) := by
  split
  · exact hm ‹p›
  · exact hn ‹¬ p›

theorem adaptExcept {m : ReadM α} (f : Error → Error) (h : Yields P m) :
    Yields P (EStateM.adaptExcept f m) :=
  fun reader after a hread => h reader after a (ReadM.outcome_adaptExcept_eq_ok hread)

theorem detached {m : ReadM α} (h : Yields P m) : Yields P (Reader.detached m) := by
  intro reader after a hread
  rw [Reader.outcome_detached, Prod.mk.injEq] at hread
  exact h reader _ a (Prod.ext hread.1 rfl)

end Yields

/-! ## Readings that only read bytes -/

/-- What can be wrong with a directory at an offset, or with its bytes. -/
inductive Error.OfDirectory (offset : Nat) : Error → Prop
  | source (cause : SourceError) : OfDirectory offset (.source cause)
  | truncated (position needed : Nat) : OfDirectory offset (.truncated position needed)
  | sectionBounds (position length : Int) : OfDirectory offset (.sectionBounds position length)
  | directoryTooLarge (count : Nat) : OfDirectory offset (.directoryTooLarge offset count)
  | valueTooLarge (tag : UInt16) (count size : Nat) :
      OfDirectory offset (.valueTooLarge tag count size)
  | value (tag : UInt16) (position : Nat) {cause : Error} (h : OfDirectory offset cause) :
      OfDirectory offset (.value tag position cause)

/-- A reading that raises no warning, and that fails only for a directory at an offset. -/
def Quiet {α : Type} (offset : Nat) (m : ReadM α) : Prop :=
  ∀ reader, (m.outcome reader).2.warnings = reader.warnings ∧
    ∀ e, (m.outcome reader).1 = .error e → e.OfDirectory offset

namespace Quiet

variable {α β : Type} {offset : Nat}

theorem pure (a : α) : Quiet offset (pure a) := fun _ => ⟨rfl, nofun⟩

theorem throw {e : Error} (h : e.OfDirectory offset) : Quiet offset (throw e : ReadM α) := by
  refine fun _ => ⟨rfl, fun e' herror => ?_⟩
  cases herror
  exact h

theorem bind {m : ReadM α} {f : α → ReadM β} (hm : Quiet offset m)
    (hf : ∀ a, Quiet offset (f a)) : Quiet offset (m >>= f) := by
  intro reader
  obtain ⟨hkept, hfails⟩ := hm reader
  rw [ReadM.outcome_bind]
  rcases h : m.outcome reader with ⟨e | a, middle⟩ <;> rw [h] at hkept hfails
  · exact ⟨hkept, fun e' herror => hfails e' (congrArg _ (Except.error.inj herror))⟩
  · obtain ⟨hafter, hfails'⟩ := hf a middle
    exact ⟨hafter.trans hkept, hfails'⟩

theorem ite {p : Prop} [Decidable p] {m n : ReadM α} (hm : Quiet offset m)
    (hn : Quiet offset n) : Quiet offset (if p then m else n) := by
  split
  · exact hm
  · exact hn

theorem adaptExcept {m : ReadM α} {f : Error → Error}
    (hf : ∀ e, e.OfDirectory offset → (f e).OfDirectory offset) (h : Quiet offset m) :
    Quiet offset (EStateM.adaptExcept f m) := by
  intro reader
  obtain ⟨hkept, hfails⟩ := h reader
  rw [ReadM.outcome_adaptExcept]
  refine ⟨hkept, fun e' herror => ?_⟩
  cases hread : (m.outcome reader).1 with
  | ok a =>
    rw [hread] at herror
    cases herror
  | error e =>
    rw [hread] at herror
    cases herror
    exact hf e (hfails e hread)

theorem detached {m : ReadM α} (h : Quiet offset m) : Quiet offset (Reader.detached m) := by
  intro reader
  rw [Reader.outcome_detached]
  exact h reader

/-! ## Quiet readings -/

theorem get : Quiet offset (get : ReadM Reader) := fun _ => ⟨rfl, nofun⟩

theorem seek (position : Nat) : Quiet offset (Reader.seek position) := fun _ => ⟨rfl, nofun⟩

theorem order : Quiet offset Reader.order := fun _ => ⟨rfl, nofun⟩

theorem readAt (position length : Nat) : Quiet offset (Reader.readAt position length) := by
  intro reader
  unfold ReadM.outcome Reader.readAt
  simp only [EStateM.run]
  by_cases hzero : length = 0
  · rw [if_pos hzero]
    exact ⟨rfl, nofun⟩
  · rw [if_neg hzero]
    rcases reader.source.read position length with ⟨cause | bytes, source⟩
    · refine ⟨rfl, fun e herror => ?_⟩
      cases cause <;> cases herror
      · exact .truncated position length
      · exact .source _
    · exact ⟨rfl, nofun⟩

theorem readBytes (length : Nat) : Quiet offset (Reader.readBytes length) :=
  bind get fun _ => bind (readAt _ _) fun bytes => bind (seek _) fun _ => pure bytes

theorem readNat (width : Nat) : Quiet offset (Reader.readNat width) :=
  bind (readBytes width) fun _ => bind order fun _ => pure _

theorem readU16 : Quiet offset Reader.readU16 :=
  bind (readBytes 2) fun _ => bind order fun _ => pure _

theorem readEntry (layout : Layout) : Quiet offset (Entry.read layout) :=
  bind readU16 fun _ => bind readU16 fun _ => bind (readNat _) fun _ =>
    bind (readBytes _) fun _ => pure _

theorem readValue (position length : Nat) : Quiet offset (Field.readValue position length) := by
  unfold Field.readValue Reader.readSection
  exact ite (ite (throw (.sectionBounds ..)) (readAt _ _)) (throw (.sectionBounds ..))

theorem resolve (words : Dictionary) (limits : Limits) (entry : Entry) :
    Quiet offset (Field.resolve words limits entry) :=
  bind order fun _ => ite (throw (.valueTooLarge ..)) <| ite (pure _) <|
    bind (adaptExcept (fun _ => .value _ _) (readValue _ _)) fun _ => pure _

theorem readFields (words : Dictionary) (limits : Limits) (layout : Layout) (count : Nat)
    (table : FieldTable) :
    Quiet offset (Directory.readFields words limits layout count table) := by
  induction count generalizing table with
  | zero => exact pure _
  | succ count ih =>
    exact bind (bind (readEntry layout) fun entry => resolve words limits entry) fun field =>
      ih (table.push field)

theorem readDirectory (words : Dictionary) (limits : Limits) (layout : Layout) (offset : Nat) :
    Quiet offset (Directory.read words limits layout offset) :=
  bind (seek offset) fun _ => bind (readNat _) fun _ => bind get fun _ =>
    ite (throw (.directoryTooLarge _)) <|
      bind (readFields words limits layout _ .empty) fun _ => bind (readNat _) fun _ => pure _

theorem subDirectory (container : Container) (offset space : Nat) :
    Quiet offset (container.subDirectory offset space) :=
  detached (readDirectory _ _ _ offset)

end Quiet

/-! ## Names of directories -/

/-- The offsets of directories that an error names. -/
def Error.places : Error → List Nat
  | .circular offset _ => [offset]
  | .directoryTooLarge offset _ => [offset]
  | .value _ _ cause => cause.places
  | .directory _ offset cause => offset :: cause.places
  | _ => []

def Warning.places : Warning → List Nat
  | .unreadable _ _ offset cause => offset :: cause.places
  | _ => []

theorem Error.OfDirectory.places_eq {offset : Nat} {e : Error} (h : e.OfDirectory offset) :
    e.places = [] ∨ e.places = [offset] := by
  induction h with
  | directoryTooLarge => exact .inr rfl
  | value _ _ _ ih => exact ih
  | _ => exact .inl rfl

/-- An answer with a property, or an error that names only offsets with one. -/
def Names {α : Type} (P : Nat → Prop) (A : α → Prop) : Except Error α → Prop
  | .ok a => A a
  | .error e => ∀ offset ∈ e.places, P offset

/-- A reading that names only offsets with a property, by its error or by its warnings. -/
def Touches {α : Type} (P : Nat → Prop) (A : α → Prop) (m : ReadM α) : Prop :=
  ∀ reader, Names P A (m.outcome reader).1 ∧
    ∃ told, (m.outcome reader).2.warnings = reader.warnings ++ told ∧
      ∀ warning ∈ told, ∀ offset ∈ warning.places, P offset

namespace Touches

variable {α β : Type} {P : Nat → Prop} {A : α → Prop} {B : β → Prop}

theorem pure {a : α} (h : A a) : Touches P A (pure a) :=
  fun _ => ⟨h, [], (List.append_nil _).symm, nofun⟩

theorem throw {e : Error} (h : ∀ offset ∈ e.places, P offset) :
    Touches P A (throw e : ReadM α) :=
  fun _ => ⟨h, [], (List.append_nil _).symm, nofun⟩

theorem bind {m : ReadM α} {f : α → ReadM β} (hm : Touches P A m)
    (hf : ∀ a, A a → Touches P B (f a)) : Touches P B (m >>= f) := by
  intro reader
  obtain ⟨hend, told, hwarnings, htold⟩ := hm reader
  rw [ReadM.outcome_bind]
  rcases h : m.outcome reader with ⟨e | a, middle⟩ <;> rw [h] at hend hwarnings
  · exact ⟨hend, told, hwarnings, htold⟩
  · obtain ⟨hend', later, hwarnings', hlater⟩ := hf a hend middle
    refine ⟨hend', told ++ later, ?_, List.forall_mem_append.mpr ⟨htold, hlater⟩⟩
    rw [hwarnings', hwarnings, List.append_assoc]

theorem ite {p : Prop} [Decidable p] {m n : ReadM α} (hm : p → Touches P A m)
    (hn : ¬ p → Touches P A n) : Touches P A (if p then m else n) := by
  split
  · exact hm ‹p›
  · exact hn ‹¬ p›

/-- A test that may end a reading before its rest. -/
theorem refuse {p : Prop} [Decidable p] {e : Error} {f : Unit → ReadM α}
    (he : ∀ offset ∈ e.places, P offset) (hf : Touches P A (f ())) :
    Touches P A (if p then MonadExcept.throw e >>= f else f ()) :=
  ite (fun _ _ => ⟨he, [], (List.append_nil _).symm, nofun⟩) fun _ => hf

theorem adaptExcept {m : ReadM α} {f : Error → Error}
    (hf : ∀ e, (∀ offset ∈ e.places, P offset) → ∀ offset ∈ (f e).places, P offset)
    (h : Touches P A m) : Touches P A (EStateM.adaptExcept f m) := by
  intro reader
  obtain ⟨hend, told, hwarnings, htold⟩ := h reader
  rw [ReadM.outcome_adaptExcept]
  refine ⟨?_, told, hwarnings, htold⟩
  cases hread : (m.outcome reader).1 <;> rw [hread] at hend
  · exact hf _ hend
  · exact hend

theorem attempt {m : ReadM α} (h : Touches P A m) : Touches P (Names P A) (Reader.attempt m) := by
  intro reader
  rw [Reader.outcome_attempt]
  exact h reader

theorem warn {warning : Warning} (h : ∀ offset ∈ warning.places, P offset) :
    Touches P (fun _ => True) (Reader.warn warning) :=
  fun _ => ⟨trivial, [warning], rfl, List.forall_mem_singleton.mpr h⟩

theorem ofExcept {a : Except Error α} (h : Names P A a) :
    Touches P A (MonadExcept.ofExcept a) := by
  cases a with
  | ok a => exact pure h
  | error e => exact throw h

theorem yields {m : ReadM α} (h : Touches P A m) : Yields A m := by
  intro reader after a hread
  have hend := (h reader).1
  rw [hread] at hend
  exact hend

/-- A quiet reading names no more than the directory that it is about. -/
theorem of_quiet {offset : Nat} {m : ReadM α} (h : Quiet offset m) (hP : P offset)
    (hA : Yields A m) : Touches P A m := by
  intro reader
  obtain ⟨hkept, hfails⟩ := h reader
  refine ⟨?_, [], hkept.trans (List.append_nil _).symm, nofun⟩
  rcases hread : m.outcome reader with ⟨e | a, after⟩
  · intro place hplace
    rcases (hfails e (congrArg Prod.fst hread)).places_eq with hnone | hone
    · simp [hnone] at hplace
    · rw [hone, List.mem_singleton] at hplace
      exact hplace ▸ hP
  · exact hA reader after a hread

/-- A reading that is quiet whatever it is about names no directory. -/
theorem of_bytes {m : ReadM α} (h : ∀ offset, Quiet offset m) : Touches P (fun _ => True) m := by
  intro reader
  refine ⟨?_, [], (h 0 reader).1.trans (List.append_nil _).symm, nofun⟩
  cases hread : (m.outcome reader).1 with
  | ok a => trivial
  | error e =>
    -- An error about two offsets at once can name neither of them.
    have hzero := ((h 0 reader).2 e hread).places_eq
    have hone := ((h 1 reader).2 e hread).places_eq
    have hnone : e.places = [] := by
      rcases hzero with hnone | hzero
      · exact hnone
      · simp [hzero] at hone
    intro offset hoffset
    simp [hnone] at hoffset

end Touches

/-! ## Readings of files -/

theorem Names.map {α β : Type} {P : Nat → Prop} {A : α → Prop} {a : Except Error α}
    (h : Names P A a) (f : α → β) : Names P (fun _ => True) (a.map f) := by
  cases a with
  | ok a => trivial
  | error e => exact h

theorem Names.self {α : Type} {P : Nat → Prop} {A : α → Prop} {answer : Except Error α}
    (h : Names P A answer) : Names P (fun a => answer = .ok a) answer := by
  cases answer with
  | ok a => rfl
  | error e => exact h

theorem Payload.names_expecting {α : Type} {P : Nat → Prop} (payload : Payload)
    (expected : String) (found : Option α) :
    Names P (fun _ => True) (payload.expecting expected found) := by
  unfold expecting
  cases found with
  | some a => trivial
  | none => exact nofun

theorem Payload.names_natural {P : Nat → Prop} (range : IntRange) (payload : Payload) :
    Names P (fun _ => True) (payload.natural range) :=
  (payload.names_expecting _ _).map Int.toNat

theorem Payload.names_naturals {P : Nat → Prop} (payload : Payload) :
    Names P (fun _ => True) payload.naturals :=
  (payload.names_expecting _ _).map _

theorem Directory.names_get {α : Type} {P : Nat → Prop} {convert : Payload → Except Error α}
    (h : ∀ payload, Names P (fun _ => True) (convert payload)) (directory : Directory)
    (tag : UInt16) : Names P (fun _ => True) (directory.get tag convert) := by
  unfold get
  cases directory.field? tag with
  | none => trivial
  | some field => exact (h field.toPayload).map some

theorem Directory.names_require {α : Type} {P : Nat → Prop}
    {convert : Payload → Except Error α} (h : ∀ payload, Names P (fun _ => True) (convert payload))
    (directory : Directory) (tag : UInt16) :
    Names P (fun _ => True) (directory.require tag convert) := by
  unfold require
  cases directory.field? tag with
  | none => exact nofun
  | some field => exact h field.toPayload

theorem Header.touches_read {P : Nat → Prop} (dialects : Dialects) :
    Touches P (fun _ => True) (read dialects) := by
  have hfirst : ∀ layout, Touches P (fun _ => True) (readFirst layout) := fun layout =>
    .bind (.of_bytes fun _ => .readNat _) fun first _ => .refuse nofun (.pure trivial)
  have hwidth : Touches P (fun _ => True) readWidth :=
    .bind (.of_bytes fun _ => .readU16) fun size _ => .refuse nofun <|
      .bind (.of_bytes fun _ => .readU16) fun reserved _ => .ite
        (fun _ => .bind (.of_bytes fun _ => .get) fun reader _ => .warn nofun)
        fun _ => .pure trivial
  have htail : ∀ dialect, Touches P (fun _ => True) (readTail dialect) := by
    intro dialect
    have hrest : Touches P (fun _ => True) (readRest dialect) :=
      .bind (hfirst dialect.layout) fun first _ =>
        .bind (.of_bytes fun _ => .order) fun order _ => .pure trivial
    rw [readTail_eq]
    cases dialect.layout with
    | classic => exact hrest
    | big => exact .bind hwidth fun _ _ => hrest
  refine .bind (.of_bytes fun _ => .seek 0) fun _ _ =>
    .bind (.of_bytes fun _ => .readBytes 2) fun magic _ => ?_
  cases ByteOrder.ofMagic? magic with
  | none => exact .throw nofun
  | some order =>
    refine .bind (.of_bytes fun _ _ => ⟨rfl, nofun⟩) fun _ _ =>
      .bind (.of_bytes fun _ => .readU16) fun version _ => ?_
    cases dialects.get? version with
    | none => exact .throw nofun
    | some dialect => exact htail dialect

section

variable {P : Nat → Prop} {A : Directory → Prop}

theorem Directory.touches_read {words : Dictionary} {limits : Limits} {layout : Layout}
    {offset : Nat} (hP : P offset) (hA : Yields A (read words limits layout offset)) :
    Touches P A (read words limits layout offset) :=
  .of_quiet (.readDirectory words limits layout offset) hP hA

namespace Container

theorem touches_walk {words : Dictionary} {limits : Limits} {layout : Layout}
    (hP : ∀ offset, offset ≠ 0 → P offset)
    (hA : ∀ offset, offset ≠ 0 → Yields A (Directory.read words limits layout offset))
    (left : Nat) (visited : List Nat) {done : List Directory} (offset : Nat)
    (hdone : ∀ directory ∈ done, A directory) :
    Touches P (fun directories => ∀ directory ∈ directories, A directory)
      (walk words limits layout left visited done offset) := by
  have hends : ∀ directory ∈ done.reverse, A directory := fun directory hmem =>
    hdone directory (List.mem_reverse.mp hmem)
  induction left generalizing visited done offset with
  | zero =>
    unfold walk
    exact .ite (fun _ => .pure hends) fun hne => .ite
      (fun _ => .throw (List.forall_mem_singleton.mpr (hP offset hne)))
      fun _ => .throw (List.forall_mem_nil _)
  | succ left ih =>
    unfold walk
    refine .ite (fun _ => .pure hends) fun hne => .ite
      (fun _ => .throw (List.forall_mem_singleton.mpr (hP offset hne))) fun _ => .bind
        (.adaptExcept (fun e he => List.forall_mem_cons.mpr ⟨hP offset hne, he⟩)
          (Directory.touches_read (hP offset hne) (hA offset hne))) fun directory hdirectory => ?_
    have hmore : ∀ d ∈ directory :: done, A d := List.forall_mem_cons.mpr ⟨hdirectory, hdone⟩
    exact ih _ _ hmore fun d hmem => hmore d (List.mem_reverse.mp hmem)

theorem touches_read {registry : Registry} {limits : Limits}
    (hP : ∀ offset, offset ≠ 0 → P offset)
    (hA : ∀ layout offset, offset ≠ 0 →
      Yields A (Directory.read registry.defaultDictionary limits layout offset)) :
    Touches P (fun container => ∀ directory ∈ container.directories, A directory)
      (read registry limits) :=
  .bind (Header.touches_read _) fun _ _ => .bind (touches_walk hP (hA _) _ _ _ nofun)
    fun _ hdirectories => .pure hdirectories

variable {container : Container}

theorem touches_subDirectory {offset space : Nat} (hP : P offset)
    (hA : Yields A (container.subDirectory offset space)) :
    Touches P A (container.subDirectory offset space) :=
  .of_quiet (.subDirectory container offset space) hP hA

section

variable (hP : ∀ offset, offset ≠ 0 → P offset)
  (hA : ∀ offset space, offset ≠ 0 → Yields A (container.subDirectory offset space))

include hP hA

theorem touches_subDirectoriesAt (tag : UInt16) (space : Nat) (offsets : List Nat)
    {done : List Directory} (hdone : ∀ directory ∈ done, A directory) :
    Touches P (fun directories => ∀ directory ∈ directories, A directory)
      (container.subDirectoriesAt tag space offsets done) := by
  induction offsets generalizing done with
  | nil => exact .pure fun directory hmem => hdone directory (List.mem_reverse.mp hmem)
  | cons offset offsets ih =>
    cases offset with
    | zero => exact .bind (.warn nofun) fun _ _ => ih hdone
    | succ n =>
      have hne : n + 1 ≠ 0 := Nat.succ_ne_zero n
      exact .bind (touches_subDirectory (hP _ hne) (hA _ space hne)) fun directory hdirectory =>
        ih (List.forall_mem_cons.mpr ⟨hdirectory, hdone⟩)

theorem touches_subDirectories (directory : Directory) (tag : UInt16) (space : Nat) :
    Touches P (fun directories => ∀ directory ∈ directories, A directory)
      (container.subDirectories directory tag space) := by
  refine .bind (.ofExcept (directory.names_get Payload.names_naturals tag)) fun offsets? _ => ?_
  cases offsets? with
  | none => exact .pure nofun
  | some offsets => exact touches_subDirectoriesAt hP hA tag space offsets nofun

end

end Container

namespace Exif

/-- No link leads to the null offset. -/
theorem ne_zero_of_link {holders : List Directory} {tag : UInt16} {offset : Nat}
    (h : holders.findSome? (pointer? tag) = some offset) : offset ≠ 0 := by
  obtain ⟨holder, -, hpointer⟩ := List.exists_of_findSome?_eq_some h
  unfold pointer? at hpointer
  split at hpointer
  · by_cases hzero : ‹Nat› = 0
    · simp [hzero] at hpointer
    · rw [if_neg hzero] at hpointer
      cases hpointer
      exact hzero
  · cases hpointer

variable {container : Container}

theorem touches_spaceFor (space : String) :
    Touches P (fun _ => True) (spaceFor container space) := by
  unfold spaceFor
  cases container.registry.tagSpace? space with
  | some place => exact .pure trivial
  | none => exact .bind (.warn nofun) fun _ _ => .pure trivial

section

variable (hP : ∀ offset, offset ≠ 0 → P offset)
  (hA : ∀ offset space, offset ≠ 0 → Yields A (container.subDirectory offset space))

include hP hA

theorem touches_linked (holders : List Directory) (tag : UInt16) (space : String) :
    Touches P (fun found? => ∀ directory ∈ found?.toList, A directory)
      (linked container holders tag space) := by
  unfold linked
  cases hlink : holders.findSome? (pointer? tag) with
  | none => exact .pure nofun
  | some offset =>
    have hne : offset ≠ 0 := ne_zero_of_link hlink
    refine .bind (touches_spaceFor space) fun place _ =>
      .bind (.attempt (Container.touches_subDirectory (hP offset hne) (hA offset place hne)))
        fun answer hnames => ?_
    cases answer with
    | ok directory => exact .pure (List.forall_mem_singleton.mpr hnames)
    | error cause =>
      exact .bind (.warn (List.forall_mem_cons.mpr ⟨hP offset hne, hnames⟩))
        fun _ _ => .pure nofun

/-- What is read of an Exif directory touches its own place, too, whatever that is. -/
theorem touches_read {B : Directory → Prop}
    (hexif : ∀ owner offset,
      container.directories.find? (·.has Catalog.exifPointer) = some owner →
      owner.require Catalog.exifPointer (Payload.natural · .uint64) = .ok offset →
      P offset ∧ ∀ space, Yields B (container.subDirectory offset space)) :
    Touches P (fun exif => B exif.exif ∧
        ∀ directory ∈ exif.gps.toList ++ exif.interop.toList, A directory)
      (read container) := by
  unfold read
  cases hchain : container.directories.find? (·.has Catalog.exifPointer) with
  | none => exact .throw nofun
  | some owner =>
    refine .bind (.ofExcept (owner.names_require (Payload.names_natural .uint64) _).self)
      fun offset hoffset => ?_
    obtain ⟨hplace, hfound⟩ := hexif owner offset hchain hoffset
    exact .bind (touches_spaceFor _) fun place _ =>
      .bind (Container.touches_subDirectory hplace (hfound place)) fun exif hB =>
      .bind (touches_linked hP hA _ _ _) fun _ hgps =>
      .bind (touches_linked hP hA _ _ _) fun _ hinterop =>
      .pure ⟨hB, List.forall_mem_append.mpr ⟨hgps, hinterop⟩⟩

end

end Exif

end

end Tiff
