-- Requests to a container. Its reader stays open, and directories, images and
-- sections can be read with it in any order. Each request stands beside the others:
-- it is answered from the content alone, as the walk along the chain was.

import Tiff.Exif
import Tiff.Image.Handler
import Tiff.Proofs.Agreement

namespace Tiff

/-! ## Requests -/

/-- What can be asked of a container. -/
inductive Request where
  | subDirectory (offset space : Nat)
  | subDirectories (directory : Directory) (tag : UInt16) (space : Nat)
  | exif
  | image
  | readSection (offset length : Int)

/-- Makes a request, whatever comes of it. -/
def Request.make (container : Container) : Request → ReadM Unit
  | subDirectory offset space => do
    let _ ← container.subDirectory offset space
  | subDirectories directory tag space => do
    let _ ← container.subDirectories directory tag space
  | exif => do
    let _ ← Exif.read container
  | image => do
    let decoder ← MonadExcept.ofExcept (Baseline.handler.decoder container)
    let _ ← decoder.image
  | readSection offset length => do
    let _ ← Reader.readSection offset length

/-- A container and the reader that was left when it was read. -/
structure Opened where
  container : Container
  reader : Reader

namespace Opened

/-- A request leaves a reader behind. -/
def ask (opened : Opened) (request : Request) : Opened :=
  { opened with reader := ((request.make opened.container).outcome opened.reader).2 }

def askAll (opened : Opened) (requests : List Request) : Opened := requests.foldl ask opened

/-- What the request for a directory is answered. -/
def subDirectory (opened : Opened) (offset space : Nat) : Except Error Directory :=
  ((opened.container.subDirectory offset space).outcome opened.reader).1

end Opened

/-! ## Readings beside the cursor -/

/-- A reading that leaves the cursor as it is and the source with what it held, however it ends. -/
def Aside {α : Type} (m : ReadM α) : Prop :=
  ∀ content sized reader, Source.Backs reader.source content sized →
    (m.outcome reader).2.source.Backs content sized ∧ (m.outcome reader).2.cursor = reader.cursor

namespace Aside

variable {α β : Type}

theorem pure (a : α) : Aside (pure a) := fun _ _ _ hbacks => ⟨hbacks, rfl⟩

theorem throw (e : Error) : Aside (throw e : ReadM α) := fun _ _ _ hbacks => ⟨hbacks, rfl⟩

theorem bind {m : ReadM α} {f : α → ReadM β} (hm : Aside m) (hf : ∀ a, Aside (f a)) :
    Aside (m >>= f) := by
  intro content sized reader hbacks
  obtain ⟨hmiddle, hcursor⟩ := hm content sized reader hbacks
  rw [ReadM.outcome_bind]
  rcases h : m.outcome reader with ⟨e | a, middle⟩ <;> rw [h] at hmiddle hcursor
  · exact ⟨hmiddle, hcursor⟩
  · obtain ⟨hafter, hkept⟩ := hf a content sized middle hmiddle
    exact ⟨hafter, hkept.trans hcursor⟩

theorem bind_ofExcept {a : Except Error α} {f : α → ReadM β} (hf : ∀ x, a = .ok x → Aside (f x)) :
    Aside (MonadExcept.ofExcept a >>= f) := by
  cases a with
  | ok x => exact hf x rfl
  | error e => exact fun _ _ _ hbacks => ⟨hbacks, rfl⟩

theorem ite {p : Prop} [Decidable p] {m n : ReadM α} (hm : Aside m) (hn : Aside n) :
    Aside (if p then m else n) := by
  split
  · exact hm
  · exact hn

theorem warn (warning : Warning) : Aside (Reader.warn warning) :=
  fun _ _ _ hbacks => ⟨hbacks, rfl⟩

theorem readAt (offset length : Nat) : Aside (Reader.readAt offset length) := by
  intro content sized reader hbacks
  obtain ⟨source, hsource, hread⟩ := Reader.outcome_readAt hbacks offset length
  rw [hread]
  exact ⟨hsource, rfl⟩

theorem readSection (offset length : Int) : Aside (Reader.readSection offset length) :=
  ite (throw _) (readAt _ _)

theorem attempt {m : ReadM α} (h : Aside m) : Aside (Reader.attempt m) := by
  intro content sized reader hbacks
  rw [Reader.outcome_attempt]
  exact h content sized reader hbacks

end Aside

namespace Directory

/-- However the reading of a directory ends, the source holds what it held. -/
theorem backs_outcome_read {content : ByteArray} {sized : Prop} {reader : Reader}
    (words : Dictionary) (limits : Limits) (layout : Layout) (offset : Nat)
    (hbacks : reader.source.Backs content sized) :
    ((read words limits layout offset).outcome reader).2.source.Backs content sized := by
  let start : Reader := { reader with cursor := { reader.cursor with position := offset } }
  have hstart : start.source.Backs content sized := hbacks
  have hmiddle := (OfContent.readNat layout.countSize).backs hstart
  rw [outcome_read]
  rcases hcount : (Reader.readNat layout.countSize).outcome start with ⟨e | count, middle⟩ <;>
    rw [hcount] at hmiddle
  · exact hmiddle
  · simp only
    split
    · exact hmiddle
    · exact (ofContent_readRest words limits layout offset count).backs hmiddle

end Directory

namespace Aside

/-- The cursor moves while a directory is read, and is put back. -/
theorem subDirectory (container : Container) (offset space : Nat) :
    Aside (container.subDirectory offset space) := by
  intro content sized reader hbacks
  unfold Container.subDirectory
  rw [Reader.outcome_detached]
  exact ⟨Directory.backs_outcome_read _ _ _ _ hbacks, rfl⟩

theorem subDirectoriesAt (container : Container) (tag : UInt16) (space : Nat) (offsets : List Nat)
    (done : List Directory) : Aside (container.subDirectoriesAt tag space offsets done) := by
  induction offsets generalizing done with
  | nil => exact pure _
  | cons offset offsets ih =>
    cases offset with
    | zero => exact bind (warn _) fun _ => ih done
    | succ n => exact bind (subDirectory container (n + 1) space) fun _ => ih _

theorem subDirectories (container : Container) (directory : Directory) (tag : UInt16)
    (space : Nat) : Aside (container.subDirectories directory tag space) := by
  refine bind_ofExcept fun offsets? _ => ?_
  cases offsets? with
  | none => exact pure _
  | some offsets => exact subDirectoriesAt container tag space offsets []

/-! ## Exif directories and images -/

theorem spaceFor (container : Container) (name : String) :
    Aside (Exif.spaceFor container name) := by
  unfold Exif.spaceFor
  split
  · exact pure _
  · exact bind (warn _) fun _ => pure _

theorem linked (container : Container) (holders : List Directory) (tag : UInt16) (space : String) :
    Aside (Exif.linked container holders tag space) := by
  unfold Exif.linked
  split
  · exact pure _
  · refine bind (spaceFor container space) fun place => ?_
    refine bind (attempt (subDirectory container _ place)) fun answer => ?_
    cases answer with
    | ok directory => exact pure _
    | error cause => exact bind (warn _) fun _ => pure _

theorem readExif (container : Container) : Aside (Exif.read container) := by
  unfold Exif.read
  split
  · exact throw _
  · exact bind_ofExcept fun offset _ => bind (spaceFor container _) fun place =>
      bind (subDirectory container offset place) fun _ => bind (linked container _ _ _) fun _ =>
        bind (linked container _ _ _) fun _ => pure _

theorem strips (ifd : Directory) : Aside (Baseline.strips ifd) :=
  bind_ofExcept fun _ _ => bind_ofExcept fun _ _ => ite (bind (warn _) fun _ => pure _) (pure _)

theorem readStrips (scheme : Compression) (places : List (Nat × Nat)) (done : List (List UInt8)) :
    Aside (Baseline.readStrips scheme places done) := by
  induction places generalizing done with
  | nil => exact pure _
  | cons place places ih =>
    exact bind (readAt place.1 place.2) fun _ => bind_ofExcept fun data _ => ih (data :: done)

theorem readImage (ifd : Directory) : Aside (Baseline.readImage ifd) :=
  bind_ofExcept fun _ _ => bind_ofExcept fun scheme _ => bind (strips ifd) fun _ =>
    bind (readStrips scheme _ []) fun _ => pure _

/-! ## All requests -/

theorem make (container : Container) (request : Request) : Aside (request.make container) := by
  cases request with
  | subDirectory offset space => exact bind (subDirectory container offset space) fun _ => pure _
  | subDirectories directory tag space =>
    exact bind (subDirectories container directory tag space) fun _ => pure _
  | exif => exact bind (readExif container) fun _ => pure _
  | image =>
    refine bind_ofExcept fun decoder hdecoder => ?_
    simp only [Baseline.handler] at hdecoder
    split at hdecoder
    · cases hdecoder
    · cases hdecoder
      exact bind (readImage _) fun _ => pure _
  | readSection offset length => exact bind (readSection offset length) fun _ => pure _

end Aside

variable {content : ByteArray} {sized : Prop}

namespace Opened

theorem ask_keeps (opened : Opened) (hbacks : opened.reader.source.Backs content sized)
    (request : Request) :
    (opened.ask request).reader.source.Backs content sized ∧
      (opened.ask request).reader.cursor = opened.reader.cursor :=
  Aside.make opened.container request content sized opened.reader hbacks

/-- Requests leave the container, and the reader with its cursor over the same content. -/
theorem askAll_keeps (opened : Opened) (hbacks : opened.reader.source.Backs content sized)
    (requests : List Request) :
    (opened.askAll requests).reader.source.Backs content sized ∧
      (opened.askAll requests).reader.cursor = opened.reader.cursor ∧
      (opened.askAll requests).container = opened.container := by
  induction requests generalizing opened with
  | nil => exact ⟨hbacks, rfl, rfl⟩
  | cons request requests ih =>
    obtain ⟨hnext, hcursor⟩ := ask_keeps opened hbacks request
    obtain ⟨hafter, hkept, hcontainer⟩ := ih _ hnext
    exact ⟨hafter, hkept.trans hcursor, hcontainer⟩

end Opened

/-! ## What the content answers -/

namespace Container

/-- A walk finds the directories that the content has. -/
theorem inContent_of_walk {words : Dictionary} {limits : Limits} {layout : Layout}
    {left offset : Nat} {visited : List Nat} {done directories : List Directory}
    {reader after : Reader} (hbacks : reader.source.Backs content sized)
    (hdone : ∀ directory ∈ done, Directory.inContent words limits layout reader.cursor.order content
      directory.offset = .ok directory)
    (h : (walk words limits layout left visited done offset).outcome reader =
      (.ok directories, after)) :
    after.source.Backs content sized ∧ after.cursor.order = reader.cursor.order ∧
      ∀ directory ∈ directories, Directory.inContent words limits layout reader.cursor.order content
        directory.offset = .ok directory := by
  induction left generalizing visited done offset reader with
  | zero =>
    rcases cases_of_walk h with ⟨-, rfl, rfl⟩ | ⟨-, -, _, _, _, hleft, -⟩
    · exact ⟨hbacks, rfl, fun directory hmem => hdone directory (List.mem_reverse.mp hmem)⟩
    · cases hleft
  | succ left ih =>
    rcases cases_of_walk h with ⟨-, rfl, rfl⟩ | ⟨-, -, _, directory, middle, hleft, hread, hrest⟩
    · exact ⟨hbacks, rfl, fun directory hmem => hdone directory (List.mem_reverse.mp hmem)⟩
    · cases hleft
      obtain ⟨hmiddle, horder⟩ := Directory.backs_of_read hread hbacks
      have hfound : Directory.inContent words limits layout reader.cursor.order content
          directory.offset = .ok directory := by
        rw [Directory.offset_eq_of_read hread]
        exact (Directory.read_eq_ok_iff _ _ _ _ hbacks _).mp (by rw [hread])
      rw [← horder] at hdone hfound ⊢
      exact ih hmiddle (List.forall_mem_cons.mpr ⟨hfound, hdone⟩) hrest

/-- A container that could be read has the directories of the content. -/
theorem inContent_of_read {registry : Registry} {limits : Limits} {reader after : Reader}
    {container : Container} (hbacks : reader.source.Backs content sized)
    (h : (read registry limits).outcome reader = (.ok container, after)) :
    after.source.Backs content sized ∧ after.cursor.order = container.header.order ∧
      ∀ directory ∈ container.directories,
        Directory.inContent (container.registry.dictionary container.registry.defaultSpace)
          container.limits container.header.layout after.cursor.order content
          directory.offset = .ok directory := by
  obtain ⟨header, directories, middle, hheader, hwalk, rfl⟩ := steps_of_read h
  have hmiddle : middle.source.Backs content sized := by
    have hleft := (OfContent.readHeader registry.dialects).backs hbacks
    rwa [hheader] at hleft
  obtain ⟨horder, -⟩ := Header.of_read hheader
  obtain ⟨hafter, hkept, hall⟩ := inContent_of_walk hmiddle (by simp) hwalk
  rw [← hkept] at hall
  exact ⟨hafter, hkept.trans horder.symm, hall⟩

end Container

namespace Opened

variable {opened : Opened}

/-- What the content answers to a request for a directory. -/
def expected (opened : Opened) (content : ByteArray) (offset space : Nat) :
    Except Error Directory :=
  Directory.inContent (opened.container.registry.dictionary space) opened.container.limits
    opened.container.header.layout opened.reader.cursor.order content offset

theorem subDirectory_eq_ok_iff (hbacks : opened.reader.source.Backs content sized)
    (offset space : Nat) (directory : Directory) :
    opened.subDirectory offset space = .ok directory ↔
      opened.expected content offset space = .ok directory := by
  unfold subDirectory Container.subDirectory
  rw [Reader.outcome_detached]
  exact Directory.read_eq_ok_iff _ _ _ _ hbacks directory

theorem subDirectory_eq_expected (hbacks : opened.reader.source.Backs content True)
    (offset space : Nat) :
    opened.subDirectory offset space = opened.expected content offset space := by
  unfold subDirectory Container.subDirectory
  rw [Reader.outcome_detached]
  exact Directory.read_eq_inContent _ _ _ _ hbacks

/-- Requests do not change what the content answers. -/
theorem expected_askAll (hbacks : opened.reader.source.Backs content sized)
    (requests : List Request) (offset space : Nat) :
    (opened.askAll requests).expected content offset space =
      opened.expected content offset space := by
  obtain ⟨-, hcursor, hcontainer⟩ := askAll_keeps opened hbacks requests
  unfold expected
  rw [hcursor, hcontainer]

end Opened

/-- Requests to a container do not get in each other's way, whether they succeed or fail, and
however its source cuts up the content or runs out of it. At the offset of each directory of the
chain, a request in the space of the chain finds that directory. At all other places and in all
other spaces, a request finds a directory after other requests if and only if it finds the same one
at once, and where the size of the content is known it also fails for the same cause. The container
is left as it is, and so is the cursor of the reader with its byte order, which is that of the
file. -/
theorem a_request_finds_what_the_walk_found (registry : Registry) (limits : Limits)
    (content : ByteArray) (reader after : Reader) (container : Container)
    (hholds : reader.source.Holds content)
    (hread : (Container.read registry limits).outcome reader = (.ok container, after))
    (requests : List Request) :
    let opened : Opened := ⟨container, after⟩
    let later := opened.askAll requests
    (∀ directory ∈ container.directories,
      later.subDirectory directory.offset container.registry.defaultSpace = .ok directory) ∧
    (∀ offset space directory, later.subDirectory offset space = .ok directory ↔
      opened.subDirectory offset space = .ok directory) ∧
    (after.source.size? = some content.size → ∀ offset space,
      later.subDirectory offset space = opened.subDirectory offset space) ∧
    later.container = container ∧ later.reader.cursor = after.cursor ∧
      later.reader.cursor.order = container.header.order := by
  intro opened later
  have hstart : reader.source.Backs content False := ⟨hholds, False.elim⟩
  obtain ⟨hbacks, horder, hall⟩ := Container.inContent_of_read hstart hread
  obtain ⟨hlater, hcursor, hcontainer⟩ := Opened.askAll_keeps opened hbacks requests
  have hexpected : ∀ offset space,
      later.expected content offset space = opened.expected content offset space :=
    Opened.expected_askAll hbacks requests
  refine ⟨?_, ?_, ?_, hcontainer, hcursor, by rw [hcursor]; exact horder⟩
  · intro directory hmem
    rw [Opened.subDirectory_eq_ok_iff hlater, hexpected]
    exact hall directory hmem
  · intro offset space directory
    rw [Opened.subDirectory_eq_ok_iff hlater, Opened.subDirectory_eq_ok_iff hbacks, hexpected]
  · intro hsize offset space
    have hsized : after.source.Backs content True := ⟨hbacks.holds, fun _ => hsize⟩
    obtain ⟨hknown, -⟩ := Opened.askAll_keeps opened hsized requests
    rw [Opened.subDirectory_eq_expected hknown, Opened.subDirectory_eq_expected hsized, hexpected]

/-- Two directories with a field each. The value of the second field lies at the end. -/
def pair : ByteArray := ⟨#[
  0x49, 0x49, 42, 0, 8, 0, 0, 0,
  1, 0, 0, 1, 3, 0, 1, 0, 0, 0, 5, 0, 0, 0, 26, 0, 0, 0,
  1, 0, 1, 1, 4, 0, 2, 0, 0, 0, 44, 0, 0, 0, 0, 0, 0, 0,
  7, 0, 0, 0, 9, 0, 0, 0]⟩

/-- Requests that fail: a section behind the end, which drains a stream, a directory that is not
there, an Exif directory and an image. -/
def failingRequests : List Request :=
  [.readSection 0 100, .subDirectory 100 0, .exif, .image]

/-- A stream that gives one or two bytes at a time still has both directories after it was
drained. -/
theorem a_request_finds_what_the_walk_found_of_pair :
    let stream : Reader :=
      { source := .ofStream { content := pair, grant := fun calls => calls % 2 + 1 } }
    stream.source.Holds pair ∧ ∃ container after,
      (Container.read (.standard {}) {}).outcome stream = (.ok container, after) ∧
      container.directories.map (·.offset) = [8, 26] ∧
      ∀ directory ∈ container.directories,
        (Opened.askAll ⟨container, after⟩ failingRequests).subDirectory directory.offset
          container.registry.defaultSpace = .ok directory := by
  intro stream
  have hgives : Device.Gives { content := pair, grant := fun calls => calls % 2 + 1 } pair :=
    ⟨rfl, rfl, fun _ => Nat.succ_pos _⟩
  have hholds : stream.source.Holds pair := (Source.backs_ofStream hgives "stream").holds
  have hoffsets : ((Container.read (.standard {}) {}).outcome stream).1.toOption.map
      (fun container => container.directories.map (·.offset)) = some [8, 26] := by
    decide +kernel
  rcases hread : (Container.read (.standard {}) {}).outcome stream with ⟨e | container, after⟩
  · rw [hread] at hoffsets
    cases hoffsets
  · obtain ⟨hfound, -⟩ := a_request_finds_what_the_walk_found (.standard {}) {} pair stream after
      container hholds hread failingRequests
    refine ⟨hholds, container, after, rfl, ?_, hfound⟩
    rw [hread] at hoffsets
    exact Option.some.inj hoffsets

end Tiff
