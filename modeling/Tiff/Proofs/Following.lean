-- Pointers followed. A pointer field has a list of offsets, and each of them is
-- followed on its own. Null offsets lead nowhere, and each of them is noted as it is
-- passed. If one of the others leads to no directory, there is none at all.

import Tiff.Proofs.Answers
import Tiff.Proofs.Conversions
import Tiff.Proofs.Listing
import Tiff.Proofs.Requests

namespace Tiff

variable {content : ByteArray} {opened : Opened} {answer : Nat → Except Error Directory}
  {tag : UInt16} {space : Nat}

/-! ## One offset -/

namespace Opened

/-- The reader goes on with its cursor where it was, and with nothing noted. -/
theorem outcome_subDirectory (opened : Opened) (hbacks : opened.reader.source.Backs content True)
    (offset space : Nat) :
    ∃ source : Source, source.Backs content True ∧
      (opened.container.subDirectory offset space).outcome opened.reader =
        (opened.expected content offset space, { opened.reader with source }) := by
  have hanswer : _ = opened.expected content offset space :=
    subDirectory_eq_expected hbacks offset space
  have hkept := Aside.subDirectory opened.container offset space content True opened.reader hbacks
  have hquiet := (Quiet.subDirectory opened.container offset space opened.reader).1
  rw [subDirectory] at hanswer
  rcases hread : (opened.container.subDirectory offset space).outcome opened.reader with
    ⟨found, after⟩
  rw [hread] at hanswer hkept hquiet
  obtain ⟨source, cursor, warnings⟩ := after
  obtain ⟨hsource, rfl⟩ := hkept
  cases hquiet
  exact ⟨source, hsource, by rw [← hanswer]⟩

end Opened

/-! ## A list of offsets -/

/-- Where a list of offsets leads to, by what is answered at each of them, and how many null offsets
are passed: to all of the directories, or to the first failure. -/
inductive LeadsTo (answer : Nat → Except Error Directory) (offsets : List Nat) :
    Except Error (List Directory) → Nat → Prop
  | found {directories : List Directory}
      (h : (offsets.filter (· ≠ 0)).map answer = directories.map .ok) :
      LeadsTo answer offsets (.ok directories) (offsets.count 0)
  | failed {before later : List Nat} {offset : Nat} {e : Error}
      (hsplit : offsets = before ++ offset :: later)
      (hbefore : ∀ earlier ∈ before, earlier ≠ 0 → ∃ directory, answer earlier = .ok directory)
      (hnull : offset ≠ 0) (h : answer offset = .error e) :
      LeadsTo answer offsets (.error e) (before.count 0)

namespace LeadsTo

variable {offsets : List Nat} {ending : Except Error (List Directory)} {nulls : Nat}

theorem null (h : LeadsTo answer offsets ending nulls) :
    LeadsTo answer (0 :: offsets) ending (nulls + 1) := by
  cases h with
  | found h =>
    rw [← List.count_cons_self]
    exact .found (by simpa using h)
  | failed hsplit hbefore hnull h =>
    rw [← List.count_cons_self, hsplit, ← List.cons_append]
    exact .failed rfl (List.forall_mem_cons.mpr ⟨fun hne => absurd rfl hne, hbefore⟩) hnull h

theorem cons {offset : Nat} {directory : Directory} (hnull : offset ≠ 0)
    (hanswer : answer offset = .ok directory) (h : LeadsTo answer offsets ending nulls) :
    LeadsTo answer (offset :: offsets) (ending.map (directory :: ·)) nulls := by
  cases h with
  | found h =>
    rw [← List.count_cons_of_ne hnull]
    exact .found (by simpa [hnull, hanswer] using h)
  | failed hsplit hbefore hnull' h =>
    rw [← List.count_cons_of_ne hnull, hsplit, ← List.cons_append]
    exact .failed rfl (List.forall_mem_cons.mpr ⟨fun _ => ⟨directory, hanswer⟩, hbefore⟩) hnull' h

theorem exists_ok_iff (h : LeadsTo answer offsets ending nulls) :
    (∃ directories, ending = .ok directories) ↔
      ∀ offset ∈ offsets, offset ≠ 0 → ∃ directory, answer offset = .ok directory := by
  cases h with
  | @found directories h =>
    refine iff_of_true ⟨directories, rfl⟩ fun offset hmem hnull => ?_
    have hanswer : answer offset ∈ directories.map .ok := by
      rw [← h]
      exact List.mem_map_of_mem (List.mem_filter.mpr ⟨hmem, by simpa using hnull⟩)
    obtain ⟨directory, -, hfound⟩ := List.mem_map.mp hanswer
    exact ⟨directory, hfound.symm⟩
  | @failed before later offset e hsplit hbefore hnull h =>
    refine iff_of_false nofun fun hall => ?_
    obtain ⟨directory, hfound⟩ := hall offset (by simp [hsplit]) hnull
    rw [h] at hfound
    cases hfound

end LeadsTo

namespace Container

theorem subDirectoriesAt_cons (container : Container) {offset : Nat} (hnull : offset ≠ 0)
    (offsets : List Nat) (done : List Directory) :
    container.subDirectoriesAt tag space (offset :: offsets) done =
      container.subDirectory offset space >>= fun directory =>
        container.subDirectoriesAt tag space offsets (directory :: done) := by
  rw [subDirectoriesAt]
  exact hnull

end Container

namespace Opened

/-- Every list of offsets leads somewhere, and following it leads there. What is found comes behind
the directories `done` that were found before, the last one of them first. -/
theorem exists_leadsTo (hbacks : opened.reader.source.Backs content True) (tag : UInt16)
    (space : Nat) (offsets : List Nat) (done : List Directory) :
    ∃ (ending : Except Error (List Directory)) (nulls : Nat) (source : Source),
      LeadsTo (opened.expected content · space) offsets ending nulls ∧
      source.Backs content True ∧
      (opened.container.subDirectoriesAt tag space offsets done).outcome opened.reader =
        (ending.map (done.reverse ++ ·), { opened.reader with
          source
          warnings := opened.reader.warnings ++ List.replicate nulls (.nullPointer tag) }) := by
  -- what is expected at an offset stays the same while the reader goes on
  obtain ⟨container, reader⟩ := opened
  induction offsets generalizing reader done with
  | nil =>
    refine ⟨.ok [], 0, reader.source, .found rfl, hbacks, ?_⟩
    simp [Container.subDirectoriesAt, Except.map]
  | cons offset offsets ih =>
    by_cases hnull : offset = 0
    · subst hnull
      let noted : Reader := { reader with warnings := reader.warnings ++ [.nullPointer tag] }
      obtain ⟨ending, nulls, source, hleads, hsource, hrest⟩ := ih done noted hbacks
      refine ⟨ending, nulls + 1, source, hleads.null, hsource, hrest.trans ?_⟩
      simp [noted, List.replicate_succ]
    · obtain ⟨source, hsource, hread⟩ :=
        outcome_subDirectory ⟨container, reader⟩ hbacks offset space
      rw [container.subDirectoriesAt_cons hnull]
      cases hanswer : expected ⟨container, reader⟩ content offset space with
      | error e =>
        rw [hanswer] at hread
        have hleads := LeadsTo.failed (List.nil_append (offset :: offsets)).symm nofun hnull hanswer
        refine ⟨.error e, 0, source, hleads, hsource, ?_⟩
        rw [ReadM.outcome_bind_error hread]
        simp [Except.map]
      | ok directory =>
        rw [hanswer] at hread
        obtain ⟨ending, nulls, source', hleads, hsource', hrest⟩ :=
          ih (directory :: done) { reader with source } hsource
        refine ⟨_, nulls, source', hleads.cons hnull hanswer, hsource', ?_⟩
        rw [ReadM.outcome_bind_ok hread, hrest]
        cases ending <;> simp [Except.map]

end Opened

/-! ## A pointer field -/

namespace Directory

variable {directory : Directory}

theorem get_of_absent {α : Type} (h : ∀ field ∈ directory.fields, field.tagId ≠ tag)
    (convert : Payload → Except Error α) : directory.get tag convert = .ok none := by
  have hnone : directory.field? tag = none := by
    rw [← Option.not_isSome_iff_eq_none]
    intro hsome
    rw [← has_eq_isSome_field?] at hsome
    obtain ⟨field, hmem, htag⟩ := (has_iff directory tag).mp hsome
    exact h field hmem htag
  rw [get, hnone]

theorem get_of_last {α : Type} {front back : List Field} {field : Field}
    (hsplit : directory.fields = front ++ field :: back) (htag : field.tagId = tag)
    (hback : ∀ later ∈ back, later.tagId ≠ tag) (convert : Payload → Except Error α) :
    directory.get tag convert = (convert field.toPayload).map some := by
  rw [get, (field?_eq_some_iff directory tag field).mpr ⟨htag, front, back, hsplit, hback⟩]

end Directory

theorem Payload.naturals_eq_error {payload : Payload} {e : Error}
    (h : payload.naturals = .error e) :
    e = .conversion payload.tagId "Vec<u64>" payload.value.kind payload.count := by
  unfold naturals at h
  cases hns : payload.integers .uint64 with
  | error cause =>
    rw [hns] at h
    cases h
    exact expecting_eq_error hns
  | ok ns =>
    rw [hns] at h
    cases h

/-- Over a source that knows the size of its content, as memory does, a pointer that is not there
leads to no directory. Where a tag stands more than once, its last field is followed, and if that
does not convert into a list of offsets, this is the error. All directories are found, in the order
of the offsets and each as often as its offset is there, if there is a directory at every offset but
the null ones; otherwise the first one that is not there is the error. Each null offset is noted, up
to the first failure, and nothing else is. -/
theorem a_pointer_leads_to_all_directories_or_to_none (opened : Opened) (content : ByteArray)
    (hbacks : opened.reader.source.Backs content True) (directory : Directory) (tag : UInt16)
    (space : Nat) :
    let following := (opened.container.subDirectories directory tag space).outcome opened.reader
    let noted := fun nulls => following.2.warnings =
      opened.reader.warnings ++ List.replicate nulls (Warning.nullPointer tag)
    ((∀ field ∈ directory.fields, field.tagId ≠ tag) → following.1 = .ok [] ∧ noted 0) ∧
    (∀ front field back, directory.fields = front ++ field :: back → field.tagId = tag →
      (∀ later ∈ back, later.tagId ≠ tag) →
      ((∀ offsets, field.naturals ≠ .ok offsets) →
        following.1 = .error (.conversion tag "Vec<u64>" field.value.kind field.count) ∧
          noted 0) ∧
      ∀ offsets, field.naturals = .ok offsets →
        ((∃ directories, following.1 = .ok directories) ↔
          ∀ offset ∈ offsets, offset ≠ 0 →
            ∃ found, opened.subDirectory offset space = .ok found) ∧
        ∃ nulls, LeadsTo (opened.subDirectory · space) offsets following.1 nulls ∧ noted nulls) ∧
    following.2.cursor = opened.reader.cursor ∧ following.2.source.Backs content True := by
  intro following noted
  obtain ⟨hsource, hcursor⟩ := Aside.subDirectories opened.container directory tag space content
    True opened.reader hbacks
  refine ⟨fun habsent => ?_, fun front field back hsplit htag hback => ⟨fun hconvert => ?_,
    fun offsets hoffsets => ?_⟩, hcursor, hsource⟩
  · have hfollowing : following = (.ok [], opened.reader) :=
      ReadM.outcome_bind_ofExcept_ok (Directory.get_of_absent habsent _)
    simp [noted, hfollowing]
  · have hget := Directory.get_of_last hsplit htag hback Payload.naturals
    cases hnaturals : field.naturals with
    | ok offsets => exact absurd hnaturals (hconvert offsets)
    | error e =>
      rw [hnaturals] at hget
      have hfollowing : following = (.error e, opened.reader) :=
        ReadM.outcome_bind_ofExcept_error hget
      rw [Payload.naturals_eq_error hnaturals, htag] at hfollowing
      simp [noted, hfollowing]
  · have hget := Directory.get_of_last hsplit htag hback Payload.naturals
    rw [hoffsets] at hget
    obtain ⟨ending, nulls, source, hleads, -, hrun⟩ :=
      Opened.exists_leadsTo hbacks tag space offsets []
    have hfollowing : following = _ := (ReadM.outcome_bind_ofExcept_ok hget).trans hrun
    have hfound : following.1 = ending := by
      rw [hfollowing]
      cases ending <;> rfl
    have hanswers : (opened.subDirectory · space) = (opened.expected content · space) :=
      funext fun offset => Opened.subDirectory_eq_expected hbacks offset space
    rw [← hanswers, ← hfound] at hleads
    exact ⟨hleads.exists_ok_iff, nulls, hleads, by simp [noted, hfollowing]⟩

/-- A field that points to some offsets. -/
def pointersTo (offsets : List UInt8) : Field where
  entry := { layout := .classic, tag := 330, type := 4, count := offsets.length, slot := [] }
  type := Coding.long.fieldType
  order := .little
  bytes := offsets.flatMap fun offset => [offset, 0, 0, 0]
  offset := 100
  tag := .unknown 330

/-- A directory that points to some offsets, and in an earlier field with the same tag elsewhere. -/
def branching (offsets : List UInt8) : Directory where
  offset := 200
  layout := .classic
  entryCount := 2
  table := .ofList [pointersTo [200], pointersTo offsets]
  next := 0

/-- A reader over two directories. -/
def beside : Opened where
  container := ⟨⟨.little, 42, .classic, 4, 8⟩, [], .standard {}, {}⟩
  reader := { source := .ofBytes pair }

/-- One directory is found twice, around another one. A failure ends the list, so the null offset
behind it is not noted. -/
theorem a_pointer_leads_to_all_directories_or_to_none_of_branching :
    beside.reader.source.Backs pair True ∧
    (∃ directories last,
      (beside.container.subDirectories (branching [26, 0, 8, 26]) 330 0).outcome beside.reader =
        (.ok directories, last) ∧
      directories.map (·.offset) = [26, 8, 26] ∧ last.warnings = [.nullPointer 330]) ∧
    let failing := (beside.container.subDirectories (branching [26, 0, 200, 0]) 330 0).outcome
      beside.reader
    failing.1 = .error (.truncated 200 2) ∧ failing.2.warnings = [.nullPointer 330] := by
  have hbacks : beside.reader.source.Backs pair True := Source.backs_ofBytes pair "memory" True
  obtain ⟨-, hlast, -⟩ := a_pointer_leads_to_all_directories_or_to_none beside pair hbacks
    (branching [26, 0, 8, 26]) 330 0
  obtain ⟨hall, nulls, hleads, hnoted⟩ :=
    (hlast [pointersTo [200]] (pointersTo [26, 0, 8, 26]) [] rfl rfl nofun).2 [26, 0, 8, 26]
      (by decide)
  have hfirst : (beside.subDirectory 8 0).map (·.offset) = .ok 8 := by decide +kernel
  have hsecond : (beside.subDirectory 26 0).map (·.offset) = .ok 26 := by decide +kernel
  cases hfound8 : beside.subDirectory 8 0 with
  | error e =>
    rw [hfound8] at hfirst
    cases hfirst
  | ok first =>
  cases hfound26 : beside.subDirectory 26 0 with
  | error e =>
    rw [hfound26] at hsecond
    cases hsecond
  | ok second =>
  rw [hfound8] at hfirst
  rw [hfound26] at hsecond
  obtain ⟨directories, hfound⟩ := hall.mpr (by simp [hfound8, hfound26])
  rcases hrun : (beside.container.subDirectories (branching [26, 0, 8, 26]) 330 0).outcome
    beside.reader with ⟨answer, last⟩
  rw [hrun] at hfound hleads hnoted
  obtain rfl : answer = .ok directories := hfound
  obtain ⟨hanswers⟩ := hleads
  have hdirectories : ([second, first, second].map .ok : List (Except Error Directory)) =
      directories.map .ok := by
    rw [← hanswers]
    simp [hfound8, hfound26]
  obtain rfl := (List.map_inj_right fun _ _ => Except.ok.inj).mp hdirectories
  refine ⟨hbacks, ⟨_, last, rfl, ?_, hnoted⟩, ?_⟩
  · simp [Except.ok.inj hfirst, Except.ok.inj hsecond]
  · decide +kernel

end Tiff
