-- What merges tell. The other members of a space are the sets merged into it
-- before, of each name the last one. A merge tells of an id just where the newest
-- of these that has the id gives it another name, and nothing that was asked
-- before makes it tell more or less.

import Tiff.Proofs.Recall

namespace Tiff

open Registrable

variable {α : Type}

/-! ## The members of a history -/

/-- The set that an act merges into the space at a place, if there is such a set. -/
def Act.merged? (place size : Nat) : Act α → Option Nat
  | merge space set => if space = place ∧ set < size then some set else none
  | _ => none

/-- The sets that some acts merge into the space at a place, in order. -/
def mergedInto (place size : Nat) (acts : List (Act α)) : List Nat :=
  acts.filterMap (Act.merged? place size)

theorem mergedInto_cons (place size : Nat) (act : Act α) (acts : List (Act α)) :
    mergedInto place size (act :: acts) =
      (act.merged? place size).toList ++ mergedInto place size acts := by
  unfold mergedInto
  rw [List.filterMap_cons]
  cases act.merged? place size <;> rfl

/-- Of some sets those whose name does not come again. -/
def lastOfName (nameOf : Nat → Option String) : List Nat → List Nat
  | [] => []
  | place :: later =>
    if later.any fun other => nameOf other == nameOf place then lastOfName nameOf later
    else place :: lastOfName nameOf later

/-- One more set takes the place of its namesake. -/
theorem lastOfName_append_singleton (nameOf : Nat → Option String) (order : List Nat)
    (place : Nat) :
    lastOfName nameOf (order ++ [place]) =
      (lastOfName nameOf order).filter (fun other => nameOf other != nameOf place) ++ [place] := by
  induction order with
  | nil => simp [lastOfName]
  | cons first order ih =>
    rw [List.cons_append, lastOfName, lastOfName, List.any_append]
    by_cases hagain : (order.any fun other => nameOf other == nameOf first) = true
    · rw [if_pos (by simp [hagain]), if_pos hagain, ih]
    · rw [if_neg hagain]
      by_cases hsame : nameOf place = nameOf first
      · rw [if_pos (by simp [hsame]), ih, List.filter_cons_of_neg (by simp [hsame])]
      · rw [if_neg (by simpa [hsame] using hagain), ih,
          List.filter_cons_of_pos (by simpa using Ne.symm hsame), List.cons_append]

namespace PlainShelf

variable [Registrable α] {plain : PlainShelf α}

/-- The names of the sets stay, and their number. -/
theorem names_step (plain : PlainShelf α) (act : Act α) :
    Space.nameAt (plain.step act).2.sets = Space.nameAt plain.sets ∧
      (plain.step act).2.sets.size = plain.sets.size := by
  cases act with
  | register set item =>
    have he : Space.Evolves plain.sets _ (fun _ => 0) _ :=
      Shelf.evolves_register { sets := plain.sets } set item
    exact ⟨funext he.nameAt_eq, he.size_eq⟩
  | lock set =>
    have he : Space.Evolves plain.sets _ (fun _ => 0) _ :=
      Shelf.evolves_lock { sets := plain.sets } set
    exact ⟨funext he.nameAt_eq, he.size_eq⟩
  | merge space set => simp only [step, sets_merge, and_self]
  | lookup space id => exact ⟨rfl, rfl⟩

/-- A merge into a space puts the set behind the others, in the place of its namesake. -/
theorem space_step {place : Nat} {name : String} {order : List Nat}
    (h : plain.spaces[place]? = some ⟨name, lastOfName (Space.nameAt plain.sets) order⟩)
    (act : Act α) :
    (plain.step act).2.spaces[place]? =
      some ⟨name, lastOfName (Space.nameAt plain.sets)
        (order ++ (act.merged? place plain.sets.size).toList)⟩ := by
  cases act with
  | register set item => simpa [Act.merged?, step] using h
  | lock set => simpa [Act.merged?, step] using h
  | lookup space id => simpa [Act.merged?, step] using h
  | merge space set =>
    by_cases hspace : space = place
    · subst hspace
      have hlt : space < plain.spaces.size := (Array.getElem?_eq_some_iff.mp h).1
      simp only [step, merge, h, Act.merged?, true_and]
      cases hset : plain.sets[set]? with
      | none =>
        have hout : ¬ set < plain.sets.size := by simpa using hset
        simp [PlainSpace.merge, hout, hlt]
      | some new =>
        have hin : set < plain.sets.size := (Array.getElem?_eq_some_iff.mp hset).1
        have hname : Space.nameAt plain.sets set = some new.name :=
          congrArg (Option.map ItemSet.name) hset
        rw [if_pos hin, Option.toList_some, lastOfName_append_singleton, hname]
        simp only [PlainSpace.merge, hset, PlainSpace.without, Array.getElem?_setIfInBounds_self,
          hlt, if_true]
        rfl
    · have hkept : (plain.merge space set).2.spaces[place]? = plain.spaces[place]? := by
        unfold merge
        split
        · rfl
        · exact Array.getElem?_setIfInBounds_ne hspace
      simp only [step, hkept, h, Act.merged?, hspace, false_and, if_false, Option.toList_none,
        List.append_nil]

theorem names_after (plain : PlainShelf α) (acts : List (Act α)) :
    Space.nameAt (after step plain acts).sets = Space.nameAt plain.sets := by
  induction acts generalizing plain with
  | nil => rfl
  | cons act acts ih => exact (ih (plain.step act).2).trans (names_step plain act).1

/-- After some acts the members of a space are the sets merged into it, of each name the last. -/
theorem space_after {place : Nat} {name : String} {order : List Nat}
    (h : plain.spaces[place]? = some ⟨name, lastOfName (Space.nameAt plain.sets) order⟩)
    (acts : List (Act α)) :
    (after step plain acts).spaces[place]? =
      some ⟨name, lastOfName (Space.nameAt plain.sets)
        (order ++ mergedInto place plain.sets.size acts)⟩ := by
  induction acts generalizing plain order with
  | nil => rw [mergedInto, List.filterMap_nil, List.append_nil]; exact h
  | cons act acts ih =>
    obtain ⟨hnames, hsize⟩ := names_step plain act
    have hnext := space_step h act
    rw [← hnames] at hnext
    rw [after_cons, ih hnext, hnames, hsize, mergedInto_cons, List.append_assoc]

theorem space_after_fresh (sets : Array (ItemSet α)) {names : Array String} {place : Nat}
    {name : String} (hname : names[place]? = some name) (acts : List (Act α)) :
    (after step (fresh sets names) acts).spaces[place]? =
      some ⟨name, lastOfName (Space.nameAt sets) (mergedInto place sets.size acts)⟩ := by
  have hstart : (fresh sets names).spaces[place]? =
      some ⟨name, lastOfName (Space.nameAt sets) []⟩ := by
    simp [fresh, hname, lastOfName]
  exact space_after hstart acts

end PlainShelf

/-! ## What one merge tells -/

/-- A set that is the last of some to have an id, and the item that it has. -/
def IsNewest (sets : Array (ItemSet α)) (order : List Nat) (id : UInt16) (other : ItemSet α)
    (existing : α) : Prop :=
  ∃ before place later, order = before ++ place :: later ∧ sets[place]? = some other ∧
    other.items[id]? = some existing ∧
    ∀ place ∈ later, ∀ newer, sets[place]? = some newer → newer.items[id]? = none

namespace PlainSpace

variable [Registrable α] {sets : Array (ItemSet α)} {space : PlainSpace} {id : UInt16}

omit [Registrable α] in
/-- The newest set that has an id answers for it. -/
theorem resolve_eq_some_iff {found : Found α} :
    space.resolve sets id = some found ↔
      ∃ other existing, IsNewest sets space.order id other existing ∧
        found = ⟨other.name, existing⟩ := by
  unfold resolve
  simp only [List.findSome?_eq_some_iff, Option.bind_eq_bind, Option.bind_eq_some_iff,
    Option.bind_eq_none_iff, Option.pure_def, Option.some.injEq, reduceCtorEq, imp_false]
  constructor
  · rintro ⟨later, place, before, horder, ⟨other, hother, existing, hexisting, rfl⟩, hlater⟩
    refine ⟨other, existing, ⟨before.reverse, place, later.reverse, ?_, hother, hexisting, ?_⟩, rfl⟩
    · rw [← List.reverse_reverse space.order, horder]
      simp
    · intro place hplace newer hnewer
      rw [Option.eq_none_iff_forall_ne_some]
      exact hlater place (List.mem_reverse.mp hplace) newer hnewer
  · rintro ⟨other, existing, ⟨before, place, later, horder, hother, hexisting, hlater⟩, rfl⟩
    refine ⟨later.reverse, place, before.reverse, by simp [horder],
      ⟨other, hother, existing, hexisting, rfl⟩, ?_⟩
    intro place hplace newer hnewer
    rw [← Option.eq_none_iff_forall_ne_some]
    exact hlater place (List.mem_reverse.mp hplace) newer hnewer

/-- What is told of an item: the newest of the members that has its id, if the names differ. -/
theorem clash?_eq_some_iff {set : String} {item : α} {conflict : Conflict} :
    space.clash? sets set id item = some conflict ↔
      ∃ other existing, IsNewest sets space.order id other existing ∧
        title existing ≠ title item ∧
        conflict = {
          kind := kind α, space := space.name, id, name := title item, set,
          existing := title existing, existingSet := other.name } := by
  unfold clash?
  simp only [Option.bind_eq_bind, Option.bind_eq_some_iff, resolve_eq_some_iff]
  constructor
  · rintro ⟨found, ⟨other, existing, hnewest, rfl⟩, htold⟩
    split at htold
    · cases htold
    · rename_i hdiffer
      cases htold
      exact ⟨other, existing, hnewest, hdiffer, rfl⟩
  · rintro ⟨other, existing, hnewest, hdiffer, rfl⟩
    exact ⟨_, ⟨other, existing, hnewest, rfl⟩, if_neg hdiffer⟩

variable {index : Nat} {set : ItemSet α}

theorem mem_merge_iff (hset : sets[index]? = some set) {conflict : Conflict} :
    conflict ∈ (space.merge sets index).1 ↔
      ∃ item other existing, set.items[conflict.id]? = some item ∧
        IsNewest sets (space.without sets set.name).order conflict.id other existing ∧
        title existing ≠ title item ∧
        conflict = {
          kind := kind α, space := space.name, id := conflict.id
          name := title item, set := set.name
          existing := title existing, existingSet := other.name } := by
  simp only [merge, hset, List.mem_filterMap, clash?_eq_some_iff]
  constructor
  · rintro ⟨⟨id, item⟩, hitem, other, existing, hnewest, hdiffer, rfl⟩
    exact ⟨item, other, existing, Std.TreeMap.mem_toList_iff_getElem?_eq_some.mp hitem, hnewest,
      hdiffer, rfl⟩
  · rintro ⟨item, other, existing, hitem, hnewest, hdiffer, hconflict⟩
    exact ⟨(conflict.id, item), Std.TreeMap.mem_toList_iff_getElem?_eq_some.mpr hitem, other,
      existing, hnewest, hdiffer, hconflict⟩

/-- The ids ascend as they do in the set, so none is told of twice. -/
theorem pairwise_ids_merge (space : PlainSpace) (sets : Array (ItemSet α)) (index : Nat) :
    ((space.merge sets index).1.map Conflict.id).Pairwise (· < ·) := by
  unfold merge
  cases hset : sets[index]? with
  | none => exact .nil
  | some set =>
    rw [List.pairwise_map]
    refine (Std.TreeMap.ordered_keys_toList (t := set.items)).filterMap _ ?_
    rintro ⟨id, item⟩ ⟨id', item'⟩ hlt told htold told' htold'
    obtain ⟨_, _, -, -, rfl⟩ := clash?_eq_some_iff.mp htold
    obtain ⟨_, _, -, -, rfl⟩ := clash?_eq_some_iff.mp htold'
    exact Std.compare_eq_lt.mp hlt

end PlainSpace

namespace Shelf

variable [Registrable α] {shelf : Shelf α}

/-- A merge tells what it tells on the plain shelf. -/
theorem Distinct.merge (h : shelf.Distinct) (space index : Nat) :
    (shelf.merge space index).1 = (shelf.plain.merge space index).1 := by
  have hplain : shelf.plain.spaces[space]? = shelf.spaces[space]?.map Space.plain :=
    Array.getElem?_map
  unfold Shelf.merge PlainShelf.merge
  rw [hplain]
  cases hspace : shelf.spaces[space]? with
  | none => rfl
  | some old => exact (Space.merge_eq_plain (h old (Array.mem_of_getElem? hspace)) index).1

/-- After any history, a merge tells of conflicts in the order of their ids, each once. It tells of
an id of the set just if a set of another name that was merged before, and whose name did not come
again, has the id, and the newest of these gives it another name now. It tells the same where no
look-up came before, and whatever the space remembers. -/
theorem a_merge_tells_each_conflict_once (sets : Array (ItemSet α)) (names : Array String)
    (acts : List (Act α)) (place index : Nat) (name : String) (set : ItemSet α)
    (hname : names[place]? = some name)
    (hset : (after step (fresh sets names) acts).sets[index]? = some set) :
    let shelf := after step (fresh sets names) acts
    let told := (shelf.merge place index).1
    let nameOf := Space.nameAt sets
    let others := (lastOfName nameOf (mergedInto place sets.size acts)).filter fun other =>
      nameOf other != some set.name
    (told.map Conflict.id).Pairwise (· < ·) ∧
    (∀ conflict, conflict ∈ told ↔
      ∃ item other existing, set.items[conflict.id]? = some item ∧
        IsNewest shelf.sets others conflict.id other existing ∧
        title existing ≠ title item ∧
        conflict = {
          kind := kind α, space := name, id := conflict.id
          name := title item, set := set.name
          existing := title existing, existingSet := other.name }) ∧
    ((after step (fresh sets names) (acts.filter fun act => !act.isLookup)).merge place index).1 =
      told ∧
    ∀ old space : Space α, shelf.spaces[place]? = some old → space.plain = old.plain →
      (space.merge shelf.sets index).1 = told := by
  intro shelf told nameOf others
  let order := lastOfName nameOf (mergedInto place sets.size acts)
  have hfresh : (fresh sets names).Distinct := (sound_fresh sets names).distinct
  obtain ⟨hrun, hdistinct⟩ := hfresh.run acts
  rw [plain_fresh] at hrun
  have hplain : shelf.plain = after PlainShelf.step (.fresh sets names) acts := hrun
  have hnames : Space.nameAt shelf.sets = nameOf := by
    rw [show shelf.sets = shelf.plain.sets from rfl, hplain]
    exact PlainShelf.names_after _ acts
  have hspace : shelf.plain.spaces[place]? = some ⟨name, order⟩ := by
    rw [hplain]
    exact PlainShelf.space_after_fresh sets hname acts
  have hothers : (PlainSpace.without shelf.sets ⟨name, order⟩ set.name).order = others := by
    change order.filter (fun other => Space.nameAt shelf.sets other != some set.name) = others
    rw [hnames]
  have htold : told = ((PlainSpace.mk name order).merge shelf.sets index).1 := by
    have hmerge : told = (shelf.plain.merge place index).1 := hdistinct.merge place index
    rw [hmerge, PlainShelf.merge, hspace]
    rfl
  refine ⟨?_, fun conflict => ?_, ?_, fun old space hold hsame => ?_⟩
  · rw [htold]
    exact PlainSpace.pairwise_ids_merge _ _ _
  · rw [htold, PlainSpace.mem_merge_iff hset, hothers]
  · obtain ⟨hunasked, hdistinct'⟩ := hfresh.run (acts.filter fun act => !act.isLookup)
    rw [plain_fresh, PlainShelf.after_filter, ← hplain] at hunasked
    rw [hdistinct'.merge, hunasked]
    exact (hdistinct.merge place index).symm
  · have hnamed := hdistinct old (Array.mem_of_getElem? hold)
    have holdtold : told = (old.merge shelf.sets index).1 := by
      simp only [told, Shelf.merge, hold]
    rw [holdtold, (Space.merge_eq_plain hnamed index).1, ← hsame]
    exact (Space.merge_eq_plain (hsame ▸ hnamed) index).1

/-- The older set comes back in the place of its namesake, and finds its only id renamed by the set
that was filled late. -/
theorem a_merge_tells_each_conflict_once_of_lateActs :
    let names : Array String := #["First", "Second"]
    let shelf := after step (fresh threeSets names) lateActs
    names[0]? = some "First" ∧
    ∃ set, shelf.sets[0]? = some set ∧ set.items.toList.map Prod.fst = [1] ∧
      { kind := "tag", space := "First", id := 1, name := "One", set := "Base"
        existing := "Uno", existingSet := "Late" } ∈ (shelf.merge 0 0).1 := by
  intro names shelf
  have hbase : shelf.sets[0]?.map (fun set =>
      (set.name, set.items.toList.map Prod.fst, set.items[(1 : UInt16)]?.map Tag.name)) =
        some ("Base", [1], some "One") := by
    decide +kernel
  have hlate : shelf.sets[1]?.map (fun set =>
      (set.name, set.items[(1 : UInt16)]?.map Tag.name)) = some ("Late", some "Uno") := by
    decide +kernel
  obtain ⟨set, hset, hset'⟩ := Option.map_eq_some_iff.mp hbase
  obtain ⟨other, hother, hother'⟩ := Option.map_eq_some_iff.mp hlate
  rw [Prod.mk.injEq, Prod.mk.injEq] at hset'
  rw [Prod.mk.injEq] at hother'
  obtain ⟨hname, hids, hitem⟩ := hset'
  obtain ⟨hothername, hexisting⟩ := hother'
  obtain ⟨item, hitem, hone⟩ := Option.map_eq_some_iff.mp hitem
  obtain ⟨existing, hexisting, huno⟩ := Option.map_eq_some_iff.mp hexisting
  obtain ⟨-, htold, -⟩ :=
    a_merge_tells_each_conflict_once threeSets names lateActs 0 0 "First" set rfl hset
  refine ⟨rfl, set, hset, hids, (htold _).mpr ⟨item, other, existing, hitem,
    ⟨[], 1, [], ?_, hother, hexisting, nofun⟩, ?_, ?_⟩⟩
  · rw [hname]
    decide +kernel
  · simp only [title, hone, huno]
    decide
  · simp only [title, kind, hone, huno, hname, hothername]

end Shelf

end Tiff
