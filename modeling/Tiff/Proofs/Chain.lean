-- The chain of directories. Each directory is read where the link of the one
-- before it leads. A walk goes along the chain up to the first stage that ends
-- it, and nothing but the chain decides how it ends.

import Tiff.Proofs.Agreement

namespace Tiff

namespace Container

/-! ## Stages -/

/-- A point on the way along a chain. -/
structure Stage where
  /-- The offsets of the directories so far. -/
  offsets : List Nat
  /-- The directories read there. -/
  directories : List Directory
  offset : Nat
  reader : Reader

section

variable (words : Dictionary) (limits : Limits) (layout : Layout) (first : Nat) (start : Reader)

/-- The stages of the chain that begins at an offset. A directory that cannot be read has no stage
behind it. -/
def chain : Nat → Option Stage
  | 0 => some ⟨[], [], first, start⟩
  | k + 1 =>
    match chain k with
    | none => none
    | some stage =>
      match (Directory.read words limits layout stage.offset).outcome stage.reader with
      | (.error _, _) => none
      | (.ok directory, reader) =>
        some ⟨stage.offsets ++ [stage.offset], stage.directories ++ [directory], directory.next,
          reader⟩

/-- What ends a walk at the stage with the number `k`, and how. What is tested first comes first. -/
inductive Ends (k : Nat) (stage : Stage) : Except Error (List Directory) → Prop
  | null : stage.offset = 0 → Ends k stage (.ok stage.directories)
  | circular : stage.offset ≠ 0 → stage.offset ∈ stage.offsets →
      Ends k stage (.error (.circular stage.offset (k - 1)))
  | tooMany : stage.offset ≠ 0 → stage.offset ∉ stage.offsets → k = limits.directories →
      Ends k stage (.error (.tooManyDirectories limits.directories))
  | unreadable {e : Error} {after : Reader} : stage.offset ≠ 0 → stage.offset ∉ stage.offsets →
      k ≠ limits.directories →
      (Directory.read words limits layout stage.offset).outcome stage.reader = (.error e, after) →
      Ends k stage (.error (.directory k stage.offset e))

end

variable {words : Dictionary} {limits : Limits} {layout : Layout} {first : Nat} {start : Reader}
  {k : Nat} {stage : Stage}

/-- One more directory, one more stage. -/
theorem chain_succ {directory : Directory} {after : Reader}
    (hstage : chain words limits layout first start k = some stage)
    (hread : (Directory.read words limits layout stage.offset).outcome stage.reader =
      (.ok directory, after)) :
    chain words limits layout first start (k + 1) = some ⟨stage.offsets ++ [stage.offset],
      stage.directories ++ [directory], directory.next, after⟩ := by
  simp only [chain, hstage, hread]

/-- Behind every stage but the first there is one with a directory that could be read. -/
theorem chain_succ_eq_some (h : chain words limits layout first start (k + 1) = some stage) :
    ∃ before directory after, chain words limits layout first start k = some before ∧
      (Directory.read words limits layout before.offset).outcome before.reader =
        (.ok directory, after) ∧
      stage = ⟨before.offsets ++ [before.offset], before.directories ++ [directory],
        directory.next, after⟩ := by
  simp only [chain] at h
  split at h
  · cases h
  · rename_i before hbefore
    split at h
    · cases h
    · rename_i directory after hread
      exact ⟨before, directory, after, hbefore, hread, (Option.some.inj h).symm⟩

/-- A stage in the middle of a way: its directory can be read, and nothing else ends it. -/
theorem not_ends {directory : Directory} {after : Reader} (hoffset : stage.offset ≠ 0)
    (hfresh : stage.offset ∉ stage.offsets) (hlimit : k ≠ limits.directories)
    (hread : (Directory.read words limits layout stage.offset).outcome stage.reader =
      (.ok directory, after)) (ending : Except Error (List Directory)) :
    ¬ Ends words limits layout k stage ending := by
  intro hends
  cases hends with
  | null hzero => exact hoffset hzero
  | circular _ hvisited => exact hfresh hvisited
  | tooMany _ _ hk => exact hlimit hk
  | unreadable _ _ _ hfail =>
    rw [hread] at hfail
    cases hfail

/-- What a stage says of the directories before it: there are `k` of them, at the offsets of the
way, and the links lead from each to the next and from the last one on. -/
structure Linked (first k : Nat) (stage : Stage) : Prop where
  length_eq : stage.directories.length = k
  offsets_eq : stage.directories.map (·.offset) = stage.offsets
  links_eq : stage.offsets ++ [stage.offset] = first :: stage.directories.map (·.next)

theorem linked_chain (h : chain words limits layout first start k = some stage) :
    Linked first k stage := by
  induction k generalizing stage with
  | zero =>
    cases h
    exact ⟨rfl, rfl, rfl⟩
  | succ k ih =>
    obtain ⟨before, directory, after, hbefore, hread, rfl⟩ := chain_succ_eq_some h
    obtain ⟨hlength, hoffsets, hlinks⟩ := ih hbefore
    refine ⟨by simp [hlength], ?_, ?_⟩
    · simp [hoffsets, Directory.offset_eq_of_read hread]
    · simp [hlinks]

/-- A stage that ends nothing leads on: to a new offset, with a directory that can be read. -/
theorem step_of_not_ends
    (h : ∀ ending, ¬ Ends words limits layout k stage ending) :
    stage.offset ≠ 0 ∧ stage.offset ∉ stage.offsets ∧ k ≠ limits.directories := by
  have hoffset : stage.offset ≠ 0 := fun hzero => h _ (.null hzero)
  have hfresh : stage.offset ∉ stage.offsets := fun hvisited => h _ (.circular hoffset hvisited)
  exact ⟨hoffset, hfresh, fun hk => h _ (.tooMany hoffset hfresh hk)⟩

/-- A way that no stage ended comes to no offset twice, and is not longer than the limit. -/
theorem offsets_of_not_ends (hstage : chain words limits layout first start k = some stage)
    (hbefore : ∀ j < k, ∀ before, chain words limits layout first start j = some before →
      ∀ ending, ¬ Ends words limits layout j before ending) :
    stage.offsets.Nodup ∧ 0 ∉ stage.offsets ∧ k ≤ limits.directories := by
  induction k generalizing stage with
  | zero =>
    cases hstage
    simp
  | succ k ih =>
    obtain ⟨before, directory, after, hchain, -, rfl⟩ := chain_succ_eq_some hstage
    obtain ⟨hnodup, hzero, hle⟩ := ih hchain fun j hj => hbefore j (by omega)
    obtain ⟨hoffset, hfresh, hlimit⟩ :=
      step_of_not_ends (hbefore k (Nat.lt_succ_self k) before hchain)
    refine ⟨?_, ?_, by omega⟩
    · rw [List.nodup_append]
      refine ⟨hnodup, by simp, ?_⟩
      rintro a ha b hb rfl
      exact hfresh (by rwa [List.mem_singleton.mp hb] at ha)
    · rw [List.mem_append, List.mem_singleton]
      rintro (h | h)
      · exact hzero h
      · exact hoffset h.symm

/-- A chain that begins somewhere and now leads nowhere has directories at offsets of their own,
each linked to the next. -/
theorem directories_of_null (hfirst : first ≠ 0)
    (hstage : chain words limits layout first start k = some stage)
    (hbefore : ∀ j < k, ∀ before, chain words limits layout first start j = some before →
      ∀ ending, ¬ Ends words limits layout j before ending) (hnull : stage.offset = 0) :
    1 ≤ stage.directories.length ∧ stage.directories.length ≤ limits.directories ∧
      (stage.directories.map (·.offset)).Nodup ∧
      (∀ directory ∈ stage.directories, directory.offset ≠ 0) ∧
      stage.directories.map (·.offset) ++ [0] = first :: stage.directories.map (·.next) := by
  obtain ⟨hnodup, hzero, hle⟩ := offsets_of_not_ends hstage hbefore
  obtain ⟨hlength, hoffsets, hlinks⟩ := linked_chain hstage
  rw [hnull] at hlinks
  simp only [hlength, hoffsets, hlinks]
  refine ⟨?_, hle, hnodup, ?_, trivial⟩
  · rw [Nat.one_le_iff_ne_zero]
    rintro rfl
    cases hstage
    exact hfirst hnull
  · intro directory hmem hnone
    exact hzero (hoffsets ▸ hnone ▸ List.mem_map_of_mem hmem)

/-- No chain comes back at its first stage. -/
theorem pos_of_mem_offsets (hstage : chain words limits layout first start k = some stage)
    {offset : Nat} (hseen : offset ∈ stage.offsets) : 0 < k := by
  obtain ⟨hlength, hoffsets, -⟩ := linked_chain hstage
  rw [← hlength, ← List.length_map (f := (·.offset)), hoffsets]
  exact List.length_pos_of_mem hseen

/-- A stage ends the walk, or its directory is new and can be read. -/
theorem ends_or_step (words : Dictionary) (limits : Limits) (layout : Layout) (k : Nat)
    (stage : Stage) :
    (∃ ending, Ends words limits layout k stage ending) ∨
      stage.offset ≠ 0 ∧ stage.offset ∉ stage.offsets ∧ k ≠ limits.directories ∧
        ∃ directory after, (Directory.read words limits layout stage.offset).outcome stage.reader =
          (.ok directory, after) := by
  by_cases hzero : stage.offset = 0
  · exact .inl ⟨_, .null hzero⟩
  by_cases hseen : stage.offset ∈ stage.offsets
  · exact .inl ⟨_, .circular hzero hseen⟩
  by_cases hlimit : k = limits.directories
  · exact .inl ⟨_, .tooMany hzero hseen hlimit⟩
  rcases hread : (Directory.read words limits layout stage.offset).outcome stage.reader with
    ⟨e | directory, after⟩
  · exact .inl ⟨_, .unreadable hzero hseen hlimit hread⟩
  · exact .inr ⟨hzero, hseen, hlimit, directory, after, rfl⟩

/-! ## Walks -/

/-- What a walk keeps in mind at a stage: the offsets so far, the directories, and how many may
still follow. -/
structure Walks (limits : Limits) (k : Nat) (stage : Stage) (left : Nat) (visited : List Nat)
    (done : List Directory) : Prop where
  visited_iff : ∀ offset, offset ∈ visited ↔ offset ∈ stage.offsets
  done_eq : done.reverse = stage.directories
  done_length : done.length = k
  left_eq : left + k = limits.directories

variable {left : Nat} {visited : List Nat} {done : List Directory}

/-- A stage that ends the walk says how the walk ends. -/
theorem walk_of_ends {ending : Except Error (List Directory)}
    (hwalks : Walks limits k stage left visited done)
    (hends : Ends words limits layout k stage ending) :
    ((walk words limits layout left visited done stage.offset).outcome stage.reader).1 =
      ending := by
  obtain ⟨hvisited, hdone, hlength, hleft⟩ := hwalks
  unfold walk
  cases hends with
  | null hzero => rw [if_pos hzero, ReadM.outcome_pure, hdone]
  | circular hzero hseen =>
    rw [if_neg hzero, if_pos ((hvisited _).mpr hseen), ReadM.outcome_throw, hlength]
  | tooMany hzero hfresh hlimit =>
    obtain rfl : left = 0 := by omega
    rw [if_neg hzero, if_neg (mt (hvisited _).mp hfresh), ReadM.outcome_throw]
  | unreadable hzero hfresh hlimit hread =>
    obtain ⟨left, rfl⟩ : ∃ n, left = n + 1 := Nat.exists_eq_succ_of_ne_zero (by omega)
    rw [if_neg hzero, if_neg (mt (hvisited _).mp hfresh)]
    simp only [ReadM.outcome_bind_error (ReadM.outcome_adaptExcept_error _ hread), hlength]

/-- From every stage on, the walk goes to the first stage that ends it, and ends as that says. -/
theorem walk_ends (hstage : chain words limits layout first start k = some stage)
    (hwalks : Walks limits k stage left visited done) :
    ∃ n last ending, chain words limits layout first start n = some last ∧
      Ends words limits layout n last ending ∧
      (∀ j, k ≤ j → j < n → ∀ before, chain words limits layout first start j = some before →
        ∀ e, ¬ Ends words limits layout j before e) ∧
      ((walk words limits layout left visited done stage.offset).outcome stage.reader).1 =
        ending := by
  induction left generalizing k stage visited done with
  | zero =>
    rcases ends_or_step words limits layout k stage with ⟨ending, hends⟩ | ⟨-, -, hlimit, -⟩
    · exact ⟨k, stage, ending, hstage, hends, fun j _ _ => by omega, walk_of_ends hwalks hends⟩
    · exact absurd ((Nat.zero_add k).symm.trans hwalks.left_eq) hlimit
  | succ left ih =>
    rcases ends_or_step words limits layout k stage with
      ⟨ending, hends⟩ | ⟨hzero, hfresh, hlimit, directory, after, hread⟩
    · exact ⟨k, stage, ending, hstage, hends, fun j _ _ => by omega, walk_of_ends hwalks hends⟩
    · obtain ⟨hvisited, hdone, hlength, hleft⟩ := hwalks
      have hnext : Walks limits (k + 1) ⟨stage.offsets ++ [stage.offset],
          stage.directories ++ [directory], directory.next, after⟩ left
          (stage.offset :: visited) (directory :: done) :=
        ⟨fun offset => by simp [hvisited, or_comm], by simp [hdone], by simp [hlength], by omega⟩
      obtain ⟨n, last, ending, hlast, hends, hbefore, hwalk⟩ := ih (chain_succ hstage hread) hnext
      refine ⟨n, last, ending, hlast, hends, ?_, ?_⟩
      · intro j hkj hjn before hj e
        by_cases hjk : j = k
        · subst hjk
          obtain rfl : stage = before := Option.some.inj (hstage.symm.trans hj)
          exact not_ends hzero hfresh hlimit hread e
        · exact hbefore j (by omega) hjn before hj e
      · rw [outcome_walk_step hzero (mt (hvisited _).mp hfresh) hread]
        exact hwalk

/-! ## Containers -/

/-- Along a chain the source holds what it held, and the byte order stays. -/
theorem backs_of_chain {content : ByteArray} {sized : Prop}
    (hbacks : start.source.Backs content sized)
    (hstage : chain words limits layout first start k = some stage) :
    stage.reader.source.Backs content sized ∧ stage.reader.cursor.order = start.cursor.order := by
  induction k generalizing stage with
  | zero =>
    cases hstage
    exact ⟨hbacks, rfl⟩
  | succ k ih =>
    obtain ⟨before, directory, after, hchain, hread, rfl⟩ := chain_succ_eq_some hstage
    obtain ⟨hbefore, horder⟩ := ih hchain
    obtain ⟨hafter, hkept⟩ := Directory.backs_of_read hread hbefore
    exact ⟨hafter, hkept.trans horder⟩

/-- Where the size of the content is known, every stage finds the directories that it has. -/
theorem read_of_chain {content : ByteArray} (hbacks : start.source.Backs content True)
    (hstage : chain words limits layout first start k = some stage) (offset : Nat) :
    ((Directory.read words limits layout offset).outcome stage.reader).1 =
      Directory.inContent words limits layout start.cursor.order content offset := by
  obtain ⟨hstaged, hkept⟩ := backs_of_chain hbacks hstage
  rw [← hkept]
  exact Directory.read_eq_inContent words limits layout offset hstaged

/-- Once the header is read, the chain decides how reading ends: as the first stage says that ends
it. So a container has at least one directory and no more than the limit, each at an offset of its
own that is not null, and the links lead from each to the next and from the last one nowhere; only
a chain that comes back is called circular. Where the bytes and their number are known, no stage
depends on how the walk came there. -/
theorem the_chain_decides_how_reading_ends (registry : Registry) (limits : Limits)
    (reader after : Reader) (header : Header)
    (hheader : (Header.read registry.dialects).outcome reader = (.ok header, after)) :
    let words := registry.defaultDictionary
    let stages := chain words limits header.layout header.first after
    let ends := Ends words limits header.layout
    let answer := ((read registry limits).outcome reader).1
    (∃ k stage ending, stages k = some stage ∧ ends k stage ending ∧
      (∀ j < k, ∀ before, stages j = some before → ∀ e, ¬ ends j before e) ∧
      answer = ending.map fun directories => { header, directories, registry, limits }) ∧
    (∀ container, answer = .ok container →
      1 ≤ container.directories.length ∧ container.directories.length ≤ limits.directories ∧
      (container.directories.map (·.offset)).Nodup ∧
      (∀ directory ∈ container.directories, directory.offset ≠ 0) ∧
      container.directories.map (·.offset) ++ [0] =
        header.first :: container.directories.map (·.next)) ∧
    (∀ offset index, answer = .error (.circular offset index) →
      ∃ stage, stages (index + 1) = some stage ∧ stage.offset = offset ∧
        offset ∈ stage.offsets) ∧
    (∀ content, reader.source.Backs content True → ∀ k stage, stages k = some stage →
      ((Directory.read words limits header.layout stage.offset).outcome stage.reader).1 =
        ((Directory.read words limits header.layout stage.offset).outcome
          { source := .ofBytes content, cursor := { order := header.order } }).1) := by
  intro words stages ends answer
  obtain ⟨horder, hfirst⟩ := Header.of_read hheader
  obtain ⟨k, stage, ending, hstage, hends, hbefore, hwalk⟩ :=
    walk_ends (show chain words limits header.layout header.first after 0 = some _ from rfl)
      (⟨by simp, rfl, rfl, rfl⟩ : Walks limits 0 _ limits.directories [] [])
  have hanswer : answer =
      ending.map fun directories => { header, directories, registry, limits } := by
    simp only [answer, read]
    rw [ReadM.outcome_bind_ok hheader, ReadM.outcome_bind]
    rcases hw : (walk words limits header.layout limits.directories [] [] header.first).outcome
      after with ⟨a, last⟩
    rw [hw] at hwalk
    simp only at hwalk
    subst hwalk
    cases a <;> rfl
  refine ⟨⟨k, stage, ending, hstage, hends, fun j hj => hbefore j (Nat.zero_le j) hj, hanswer⟩,
    ?_, ?_, ?_⟩
  · intro container hok
    have hsize : 0 < header.layout.headerSize := by cases header.layout <;> decide
    rw [hanswer] at hok
    cases hends with
    | null hnull =>
      cases hok
      exact directories_of_null (by omega) hstage (fun j hj => hbefore j (Nat.zero_le j) hj) hnull
    | circular => cases hok
    | tooMany => cases hok
    | unreadable => cases hok
  · intro offset index herror
    rw [hanswer] at herror
    cases hends with
    | null => cases herror
    | circular hoffset hseen =>
      have hpos : 0 < k := pos_of_mem_offsets hstage hseen
      cases herror
      exact ⟨stage, by rwa [Nat.sub_add_cancel hpos], rfl, hseen⟩
    | tooMany => cases herror
    | unreadable => cases herror
  · intro content hbacks j before hj
    have htwins : Twins content True reader reader := ⟨rfl, hbacks, hbacks⟩
    have hafter := (OfContent.readHeader registry.dialects _ _ _ _ htwins).2.backs
    rw [hheader] at hafter
    rw [horder]
    exact read_of_chain hafter hj before.offset

/-- Two directories without entries, linked to each other. -/
def loop : ByteArray :=
  ⟨#[0x49, 0x49, 42, 0, 8, 0, 0, 0, 0, 0, 14, 0, 0, 0, 0, 0, 8, 0, 0, 0]⟩

theorem readHeader_loop :
    (Header.read .standard).outcome { source := .ofBytes loop } =
      (.ok ⟨.little, 42, .classic, 4, 8⟩, { source := .ofBytes loop, cursor := ⟨.little, 8⟩ }) :=
  rfl

/-- The chain of the loop comes back to its first offset at the third stage. -/
theorem the_chain_decides_how_reading_ends_of_loop :
    (Header.read (Registry.standard {}).dialects).outcome { source := .ofBytes loop } =
      (.ok ⟨.little, 42, .classic, 4, 8⟩, { source := .ofBytes loop, cursor := ⟨.little, 8⟩ }) ∧
    ((read (.standard {}) {}).outcome { source := .ofBytes loop }).1 = .error (.circular 8 1) ∧
    ∃ stage, chain (Registry.standard {}).defaultDictionary {} .classic 8
        { source := .ofBytes loop, cursor := ⟨.little, 8⟩ } 2 = some stage ∧
      stage.offset = 8 ∧ 8 ∈ stage.offsets := by
  have hloop : ((read (.standard {}) {}).outcome { source := .ofBytes loop }).1 =
      .error (.circular 8 1) := by decide +kernel
  obtain ⟨-, -, hcircular, -⟩ :=
    the_chain_decides_how_reading_ends (.standard {}) {} _ _ _ readHeader_loop
  exact ⟨readHeader_loop, hloop, hcircular 8 1 hloop⟩

end Container

end Tiff
