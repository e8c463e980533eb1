-- Walks end. A directory that can be read is at an offset within the content, and
-- a walk reads none at the null offset and none twice. So it reads fewer
-- directories than the content has bytes, and a limit that leaves room for as
-- many says nothing about how the walk ends.

import Mathlib.Data.List.Perm.Subperm
import Tiff.Proofs.Chain

namespace Tiff

/-! ## One directory -/

namespace Directory

/-- What comes before the entries: their number, if so many can be there. -/
def readCount (limits : Limits) (layout : Layout) (offset : Nat) : ReadM Nat := do
  Reader.seek offset
  let count ← Reader.readNat layout.countSize
  let size? := (← getThe Reader).source.size?
  if limits.entries < count ∨ !fits layout offset count size? then
    throw (.directoryTooLarge offset count)
  else return count

theorem read_eq_bind (words : Dictionary) (limits : Limits) (layout : Layout) (offset : Nat) :
    read words limits layout offset =
      readCount limits layout offset >>= readRest words limits layout offset := by
  unfold read readCount
  simp only [bind_assoc]
  refine bind_congr fun _ => bind_congr fun count => bind_congr fun reader => ?_
  split <;> rfl

section

variable {words : Dictionary} {limits : Limits} {layout : Layout} {offset count : Nat}
  {content : ByteArray} {reader after : Reader} {directory : Directory}

/-- So many entries fit into a content that there are no more of them than bytes. -/
theorem count_le_of_fits (h : fits layout offset count (some content.size) = true) :
    count ≤ content.size := by
  have hend := ((fits_iff layout offset count (some content.size)).mp h).2 content.size rfl
  have hentry : count * 1 ≤ count * layout.entrySize :=
    Nat.mul_le_mul_left count (by cases layout <;> decide)
  omega

theorem count_le_of_readCount (hbacks : reader.source.Backs content True)
    (h : (readCount limits layout offset).outcome reader = (.ok count, after)) :
    count ≤ content.size := by
  unfold readCount at h
  rw [ReadM.outcome_bind_ok (Reader.outcome_seek offset reader)] at h
  obtain ⟨n, middle, hcount, h⟩ := ReadM.outcome_bind_eq_ok h
  obtain ⟨hmiddle, -, -⟩ := Advances.readNat layout.countSize content True
    { reader with cursor := { reader.cursor with position := offset } } middle n hbacks hcount
  obtain ⟨_, same, hget, h⟩ := ReadM.outcome_bind_eq_ok h
  cases hget
  simp only at h
  split at h
  · cases h
  · rename_i htest
    cases h
    rw [not_or, Bool.not_eq_true', Bool.not_eq_false, hmiddle.size_eq trivial] at htest
    exact count_le_of_fits htest.2

/-- A directory that can be read begins within the content. -/
theorem offset_lt_of_read {sized : Prop} (hbacks : reader.source.Backs content sized)
    (h : (read words limits layout offset).outcome reader = (.ok directory, after)) :
    offset < content.size := by
  obtain ⟨count, middle, hcount, -, -, -⟩ := steps_of_read h
  obtain ⟨-, -, hin⟩ := Advances.readNat layout.countSize content sized
    { reader with cursor := { reader.cursor with position := offset } } middle count hbacks hcount
  have hwidth : 0 < layout.countSize := by cases layout <;> decide
  simp only at hin
  omega

/-! ### The limit of directories -/

theorem readFields_more (more count : Nat) (table : FieldTable) :
    readFields words { limits with directories := more } layout count table =
      readFields words limits layout count table := by
  induction count generalizing table with
  | zero => rfl
  | succ count ih => exact bind_congr fun field => ih (table.push field)

/-- One directory does not know how many there may be. -/
theorem read_more (more : Nat) :
    read words { limits with directories := more } layout offset =
      read words limits layout offset := by
  unfold read
  simp only [readFields_more]

end

end Directory

/-! ## Visited offsets -/

/-- Offsets of directories of one content: no two of them the same, none null, and all of them
within the content. -/
structure Visits (content : ByteArray) (offsets : List Nat) : Prop where
  nodup : (0 :: offsets).Nodup
  lt_size : ∀ offset ∈ offsets, offset < content.size

namespace Visits

variable {content : ByteArray} {offset : Nat} {offsets : List Nat}

theorem nil (content : ByteArray) : Visits content [] := ⟨by simp, nofun⟩

/-- There are not as many of them as bytes, since none is null. -/
theorem length_lt (h : Visits content offsets) (hpos : 0 < content.size) :
    offsets.length < content.size := by
  have hsub : 0 :: offsets ⊆ List.range content.size := by
    intro offset hmem
    rw [List.mem_range]
    rcases List.mem_cons.mp hmem with rfl | hmem
    · exact hpos
    · exact h.lt_size offset hmem
  have hlength := (h.nodup.subperm hsub).length_le
  rwa [List.length_cons, List.length_range] at hlength

theorem cons (h : Visits content offsets) (hzero : offset ≠ 0) (hfresh : offset ∉ offsets)
    (hlt : offset < content.size) : Visits content (offset :: offsets) := by
  obtain ⟨hnull, hnodup⟩ := List.nodup_cons.mp h.nodup
  refine ⟨List.nodup_cons.mpr ⟨?_, List.nodup_cons.mpr ⟨hfresh, hnodup⟩⟩, ?_⟩
  · rw [List.mem_cons, not_or]
    exact ⟨hzero.symm, hnull⟩
  · exact List.forall_mem_cons.mpr ⟨hlt, h.lt_size⟩

end Visits

namespace Container

variable {words : Dictionary} {limits : Limits} {layout : Layout} {content : ByteArray}
  {sized : Prop}

/-! ## Walks -/

/-- Where there is room for as many directories as bytes, a walk ends in one way, however much room
there is. -/
theorem outcome_walk_of_room {left left' more : Nat} {visited : List Nat} {done : List Directory}
    {offset : Nat} {reader : Reader} (hpos : 0 < content.size)
    (hbacks : reader.source.Backs content sized) (hvisits : Visits content visited)
    (hleft : content.size ≤ visited.length + left)
    (hleft' : content.size ≤ visited.length + left') :
    (walk words { limits with directories := more } layout left' visited done offset).outcome
        reader =
      (walk words limits layout left visited done offset).outcome reader := by
  have hlength := hvisits.length_lt hpos
  induction left generalizing left' visited done offset reader with
  | zero => omega
  | succ left ih =>
    obtain ⟨left', rfl⟩ : ∃ n, left' = n + 1 := Nat.exists_eq_succ_of_ne_zero (by omega)
    unfold walk
    by_cases hzero : offset = 0
    · rw [if_pos hzero, if_pos hzero]
    · by_cases hseen : offset ∈ visited
      · rw [if_neg hzero, if_neg hzero, if_pos hseen, if_pos hseen]
      · rw [if_neg hzero, if_neg hzero, if_neg hseen, if_neg hseen]
        simp only [Directory.read_more, ReadM.outcome_bind, ReadM.outcome_adaptExcept]
        rcases hread : (Directory.read words limits layout offset).outcome reader with
          ⟨e | directory, after⟩
        · rfl
        · have hnext := hvisits.cons hzero hseen (Directory.offset_lt_of_read hbacks hread)
          exact ih (Directory.backs_of_read hread hbacks).1 hnext
            (by rw [List.length_cons]; omega) (by rw [List.length_cons]; omega)
            (hnext.length_lt hpos)

/-! ## Ways along a chain -/

section

variable {first k : Nat} {start : Reader} {stage : Stage}

theorem offsets_lt_of_chain (hbacks : start.source.Backs content sized)
    (hstage : chain words limits layout first start k = some stage) :
    ∀ offset ∈ stage.offsets, offset < content.size := by
  induction k generalizing stage with
  | zero =>
    cases hstage
    nofun
  | succ k ih =>
    obtain ⟨before, directory, after, hchain, hread, rfl⟩ := chain_succ_eq_some hstage
    intro offset hmem
    rcases List.mem_append.mp hmem with hmem | hmem
    · exact ih hchain offset hmem
    · rw [List.mem_singleton.mp hmem]
      exact Directory.offset_lt_of_read (backs_of_chain hbacks hchain).1 hread

/-- A way that no stage ended has fewer directories than the content has bytes. -/
theorem lt_size_of_not_ends (hpos : 0 < content.size) (hbacks : start.source.Backs content sized)
    (hstage : chain words limits layout first start k = some stage)
    (hbefore : ∀ j < k, ∀ before, chain words limits layout first start j = some before →
      ∀ ending, ¬ Ends words limits layout j before ending) :
    k < content.size := by
  obtain ⟨hnodup, hnull, -⟩ := offsets_of_not_ends hstage hbefore
  obtain ⟨hlength, hoffsets, -⟩ := linked_chain hstage
  have hvisits : Visits content stage.offsets :=
    ⟨List.nodup_cons.mpr ⟨hnull, hnodup⟩, offsets_lt_of_chain hbacks hstage⟩
  rw [← hlength, ← List.length_map (f := (·.offset)), hoffsets]
  exact hvisits.length_lt hpos

end

/-! ## Containers -/

/-- Behind the header, reading a container ends as its walk does. -/
theorem outcome_read_of_header {registry : Registry} {header : Header} {reader after : Reader}
    (limits : Limits)
    (h : (Header.read registry.dialects).outcome reader = (.ok header, after)) :
    ((read registry limits).outcome reader).1 =
      ((walk registry.defaultDictionary limits header.layout limits.directories [] []
        header.first).outcome after).1.map
          fun directories => { header, directories, registry, limits } := by
  unfold read
  rw [ReadM.outcome_bind_ok h, ReadM.outcome_bind]
  rcases (walk registry.defaultDictionary limits header.layout limits.directories [] []
    header.first).outcome after with ⟨e | directories, last⟩ <;> rfl

/-- The content alone brings a walk to its end. The first stage that ends it, in whatever way, has
fewer directories before it than the content has bytes. Wherever the walk comes on its way, a
directory begins with its entries only when their number got through, and there are not more of
them than bytes. A limit with room for as many directories as bytes does not matter: with every
other such limit the walk ends in the same way. -/
theorem the_content_brings_a_walk_to_its_end (registry : Registry) (limits : Limits)
    (content : ByteArray) (reader after : Reader) (header : Header)
    (hbacks : reader.source.Backs content True)
    (hheader : (Header.read registry.dialects).outcome reader = (.ok header, after)) :
    let words := registry.defaultDictionary
    let stages := chain words limits header.layout header.first after
    let ends := Ends words limits header.layout
    let answer := ((read registry limits).outcome reader).1
    (∃ k < content.size, ∃ stage ending, stages k = some stage ∧
      stage.directories.length = k ∧ ends k stage ending ∧
      (∀ j < k, ∀ before, stages j = some before → ∀ e, ¬ ends j before e) ∧
      answer = ending.map fun directories => { header, directories, registry, limits }) ∧
    (∀ k stage, stages k = some stage →
      (∀ j < k, ∀ before, stages j = some before → ∀ e, ¬ ends j before e) →
      k < content.size ∧
      Directory.read words limits header.layout stage.offset = (do
        let count ← Directory.readCount limits header.layout stage.offset
        Directory.readRest words limits header.layout stage.offset count) ∧
      ∀ count middle, (Directory.readCount limits header.layout stage.offset).outcome stage.reader =
        (.ok count, middle) → count ≤ content.size) ∧
    ∀ more, content.size ≤ limits.directories → content.size ≤ more →
      ((read registry { limits with directories := more }).outcome reader).1.map (·.directories) =
        answer.map (·.directories) := by
  intro words stages ends answer
  have hsize : 4 ≤ content.size := Header.size_of_read hbacks hheader
  have hpos : 0 < content.size := by omega
  have hafter : after.source.Backs content True := by
    have hleft := (OfContent.readHeader registry.dialects).backs hbacks
    rwa [hheader] at hleft
  refine ⟨?_, ?_, ?_⟩
  · obtain ⟨k, stage, ending, hstage, hends, hbefore, hwalk⟩ :=
      walk_ends (show stages 0 = some _ from rfl)
        (⟨by simp, rfl, rfl, rfl⟩ : Walks limits 0 _ limits.directories [] [])
    have hfirst : ∀ j < k, ∀ before, stages j = some before → ∀ e, ¬ ends j before e :=
      fun j hj => hbefore j (Nat.zero_le j) hj
    refine ⟨k, lt_size_of_not_ends hpos hafter hstage hfirst, stage, ending, hstage,
      (linked_chain hstage).length_eq, hends, hfirst, ?_⟩
    rw [← hwalk]
    exact outcome_read_of_header limits hheader
  · intro k stage hstage hbefore
    refine ⟨lt_size_of_not_ends hpos hafter hstage hbefore, Directory.read_eq_bind .., ?_⟩
    intro count middle
    exact Directory.count_le_of_readCount (backs_of_chain hafter hstage).1
  · intro more hroom hmore
    have hwalk : (walk words { limits with directories := more } header.layout more [] []
          header.first).outcome after =
        (walk words limits header.layout limits.directories [] [] header.first).outcome after :=
      outcome_walk_of_room hpos hafter (.nil content) (by simpa using hroom) (by simpa using hmore)
    simp only [answer, outcome_read_of_header _ hheader]
    rw [hwalk]
    cases ((walk words limits header.layout limits.directories [] [] header.first).outcome after).1
      <;> rfl

/-- A chain that comes back to its first offset ends at the third stage, however many directories
are allowed. -/
theorem the_content_brings_a_walk_to_its_end_of_loop :
    Source.Backs (.ofBytes loop) loop True ∧
    (Header.read (Registry.standard {}).dialects).outcome { source := .ofBytes loop } =
      (.ok ⟨.little, 42, .classic, 4, 8⟩, { source := .ofBytes loop, cursor := ⟨.little, 8⟩ }) ∧
    ((read (.standard {}) { directories := 1000000000 }).outcome { source := .ofBytes loop }).1.map
      (·.directories) = .error (.circular 8 1) := by
  have hbacks : Source.Backs (.ofBytes loop) loop True := Source.backs_ofBytes loop _ True
  have hdefault : ((read (.standard {}) {}).outcome { source := .ofBytes loop }).1.map
      (·.directories) = .error (.circular 8 1) := by decide +kernel
  obtain ⟨-, -, hmore⟩ := the_content_brings_a_walk_to_its_end (.standard {}) {} loop _ _ _ hbacks
    readHeader_loop
  exact ⟨hbacks, readHeader_loop,
    (hmore 1000000000 (by decide) (by decide)).trans hdefault⟩

end Container

end Tiff
