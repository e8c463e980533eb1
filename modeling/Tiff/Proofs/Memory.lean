-- The memory of spaces. What a space remembers is right as long as no member has
-- changed, and a member that has changed shows it by its revision. Every act on
-- a space or on the sets keeps that.

import Tiff.Proofs.History

namespace Tiff.Space

open Registrable

variable {α : Type}

/-! ## The invariant -/

def nameAt (sets : Array (ItemSet α)) (place : Nat) : Option String := sets[place]?.map ItemSet.name

/-- A member that is what it was when the memory was valid. -/
def IsCurrent (sets : Array (ItemSet α)) (m : Member) : Prop := revisionOf sets m.set = m.revision

/-- An answer comes from a member that gives it as long as it is current, and no member behind it
gives any as long as that one is current. -/
def Recalls (sets : Array (ItemSet α)) (members : List Member) (id : UInt16) (found : Found α) :
    Prop :=
  ∃ before m later, members = before ++ m :: later ∧ nameAt sets m.set = some found.set ∧
    (IsCurrent sets m → answerOf sets id m = some found) ∧
    ∀ n ∈ later, IsCurrent sets n → answerOf sets id n = none

/-- What holds of a space at all times. `spent` tells how many registrations each set took, and so
by how many its revision can have moved on. -/
structure Valid (sets : Array (ItemSet α)) (spent : Nat → Nat) (space : Space α) : Prop where
  placed : ∀ m ∈ space.members, m.set < sets.size
  distinct : (space.members.map fun m => nameAt sets m.set).Nodup
  aged : ∀ m ∈ space.members,
    ∃ age ≤ spent m.set, revisionOf sets m.set = m.revision + .ofNat age
  recalled : ∀ id found, space.memory[id]? = some found → Recalls sets space.members id found

variable {sets sets' : Array (ItemSet α)} {spent spent' : Nat → Nat} {space : Space α}
  {members : List Member} {m : Member} {id : UInt16} {found : Found α} {name : String}

/-! ## Searching -/

theorem search_eq_resolve : space.search sets id = space.plain.resolve sets id := by
  unfold search PlainSpace.resolve Space.plain
  simp only
  rw [← List.map_reverse, List.findSome?_map]
  rfl

theorem nameAt_of_answerOf (h : answerOf sets id m = some found) :
    nameAt sets m.set = some found.set := by
  unfold answerOf at h
  unfold nameAt
  cases hset : sets[m.set]? with
  | none => simp [hset] at h
  | some set =>
    cases hitem : set.items[id]? with
    | none => simp [hset, hitem] at h
    | some item =>
      simp only [hset, hitem, Option.bind_eq_bind, Option.bind_some, Option.pure_def,
        Option.some.injEq] at h
      subst h
      rfl

/-- What is recalled of members that are all current is what a search of them finds. -/
theorem Recalls.search (h : Recalls sets members id found)
    (hcurrent : ∀ m ∈ members, IsCurrent sets m) :
    members.reverse.findSome? (answerOf sets id) = some found := by
  obtain ⟨before, m, later, rfl, -, hanswer, hlater⟩ := h
  have hnone : later.reverse.findSome? (answerOf sets id) = none := by
    rw [List.findSome?_eq_none_iff]
    intro n hn
    rw [List.mem_reverse] at hn
    exact hlater n hn (hcurrent n (by simp [hn]))
  have hm : answerOf sets id m = some found := hanswer (hcurrent m (by simp))
  simp [List.findSome?_append, hnone, hm]

theorem recalls_of_search (h : members.reverse.findSome? (answerOf sets id) = some found) :
    Recalls sets members id found := by
  obtain ⟨later, m, before, hmembers, hanswer, hlater⟩ := List.findSome?_eq_some_iff.mp h
  refine ⟨before.reverse, m, later.reverse, ?_, nameAt_of_answerOf hanswer, fun _ => hanswer, ?_⟩
  · rw [← List.reverse_reverse members, hmembers]
    simp
  · intro n hn _
    exact hlater n (List.mem_reverse.mp hn)

/-! ## Looking up -/

theorem isStale_eq_false : space.isStale sets = false ↔ ∀ m ∈ space.members, IsCurrent sets m := by
  unfold isStale IsCurrent
  simp

/-- Refreshing leaves the members where they are. -/
theorem plain_refreshed : (space.refreshed sets).plain = space.plain := by
  unfold Space.refreshed
  split
  · simp [refresh, Space.plain]
  · rfl

/-- What a look-up changes is the memory alone. -/
theorem plain_lookup (id : UInt16) : (space.lookup sets id).2.plain = space.plain := by
  have hkept : (space.refreshed sets).plain = space.plain := plain_refreshed
  rw [← hkept]
  unfold Space.lookup
  simp only
  split
  · rfl
  · split <;> rfl

/-- After refreshing all members are current. -/
theorem isCurrent_refreshed : ∀ m ∈ (space.refreshed sets).members, IsCurrent sets m := by
  unfold Space.refreshed
  cases hstale : space.isStale sets with
  | false => exact isStale_eq_false.mp hstale
  | true =>
    intro m hm
    obtain ⟨old, hold, rfl⟩ := List.mem_map.mp hm
    exact rfl

theorem Valid.refreshed (h : space.Valid sets spent) : (space.refreshed sets).Valid sets spent := by
  unfold Space.refreshed
  cases hstale : space.isStale sets with
  | false => exact h
  | true =>
    simp only [if_true, refresh]
    refine ⟨?_, ?_, ?_, ?_⟩
    · intro m hm
      obtain ⟨old, hold, rfl⟩ := List.mem_map.mp hm
      exact h.placed old hold
    · rw [List.map_map]
      exact h.distinct
    · intro m hm
      obtain ⟨old, hold, rfl⟩ := List.mem_map.mp hm
      exact ⟨0, Nat.zero_le _, by simp⟩
    · intro id found hfound
      simp at hfound

/-- A look-up answers what a search would answer now. -/
theorem Valid.lookup (h : space.Valid sets spent) (id : UInt16) :
    (space.lookup sets id).1 = space.plain.resolve sets id ∧
      (space.lookup sets id).2.Valid sets spent := by
  have hvalid := h.refreshed
  rw [← plain_refreshed, ← search_eq_resolve]
  unfold Space.lookup
  cases hmemory : (space.refreshed sets).memory[id]? with
  | some found =>
    simp only [hmemory]
    exact ⟨((hvalid.recalled id found hmemory).search isCurrent_refreshed).symm, hvalid⟩
  | none =>
    cases hsearch : (space.refreshed sets).search sets id with
    | none =>
      simp only [hmemory, hsearch]
      exact ⟨trivial, hvalid⟩
    | some found =>
      simp only [hmemory, hsearch]
      refine ⟨trivial, hvalid.placed, hvalid.distinct, hvalid.aged, ?_⟩
      intro other answer hanswer
      rw [Std.TreeMap.getElem?_insert] at hanswer
      split at hanswer
      · rename_i hsame
        obtain rfl := Std.LawfulEqCmp.eq_of_compare hsame
        cases hanswer
        exact recalls_of_search hsearch
      · exact hvalid.recalled other answer hanswer

/-! ## Sets that move on -/

/-- A later state of a collection of sets. Names stay, every registration raises the revision of its
set, and a set that took none answers as before. -/
structure Evolves (sets sets' : Array (ItemSet α)) (spent spent' : Nat → Nat) : Prop where
  size_eq : sets'.size = sets.size
  nameAt_eq : ∀ i, nameAt sets' i = nameAt sets i
  gained : ∀ i < sets.size, ∃ n, spent' i = spent i + n ∧
    revisionOf sets' i = revisionOf sets i + .ofNat n ∧
    (n = 0 → ∀ id m, m.set = i → answerOf sets' id m = answerOf sets id m)

/-- A revision cannot come back to an older one in fewer steps than it has values. -/
theorem eq_zero_of_add_ofNat {revision : UInt64} {n : Nat} (hn : n < UInt64.size)
    (h : revision + .ofNat n = revision) : n = 0 := by
  have hzero : UInt64.ofNat n = 0 := by simpa using h
  have hmod := congrArg UInt64.toNat hzero
  rw [UInt64.toNat_ofNat', UInt64.toNat_zero] at hmod
  rwa [Nat.mod_eq_of_lt hn] at hmod

theorem Valid.evolves (h : space.Valid sets spent) (he : Evolves sets sets' spent spent')
    (hfew : ∀ i < sets.size, spent' i < UInt64.size) : space.Valid sets' spent' := by
  have haged : ∀ m ∈ space.members,
      (∃ age ≤ spent' m.set, revisionOf sets' m.set = m.revision + .ofNat age) ∧
      (IsCurrent sets' m → IsCurrent sets m ∧ ∀ id, answerOf sets' id m = answerOf sets id m) := by
    intro m hm
    obtain ⟨age, hage, hrevision⟩ := h.aged m hm
    obtain ⟨n, hspent, hraised, hanswer⟩ := he.gained m.set (h.placed m hm)
    have hnow : revisionOf sets' m.set = m.revision + .ofNat (age + n) := by
      rw [hraised, hrevision, UInt64.ofNat_add, UInt64.add_assoc]
    refine ⟨⟨age + n, by omega, hnow⟩, fun hcurrent => ?_⟩
    have hbound := hfew m.set (h.placed m hm)
    have hzero : age + n = 0 :=
      eq_zero_of_add_ofNat (by omega) (hnow.symm.trans hcurrent)
    obtain ⟨rfl, rfl⟩ : age = 0 ∧ n = 0 := by omega
    exact ⟨by simpa [IsCurrent] using hrevision, fun id => hanswer rfl id m rfl⟩
  refine ⟨?_, ?_, fun m hm => (haged m hm).1, ?_⟩
  · intro m hm
    exact he.size_eq ▸ h.placed m hm
  · simp only [he.nameAt_eq]
    exact h.distinct
  · intro id found hfound
    obtain ⟨before, m, later, hmembers, hname, hanswer, hlater⟩ := h.recalled id found hfound
    refine ⟨before, m, later, hmembers, (he.nameAt_eq m.set).trans hname, ?_, ?_⟩
    · intro hnow
      obtain ⟨hcurrent, hsame⟩ := (haged m (by simp [hmembers])).2 hnow
      rw [hsame, hanswer hcurrent]
    · intro n hn hnow
      obtain ⟨hcurrent, hsame⟩ := (haged n (by simp [hmembers, hn])).2 hnow
      rw [hsame, hlater n hn hcurrent]

/-! ## Merging -/

/-- Where the keys of a list are distinct, the first element of a key is the only one. -/
theorem eraseP_eq_filter {β γ : Type} [BEq γ] [LawfulBEq γ] (key : β → γ) (k : γ) (xs : List β)
    (h : (xs.map key).Nodup) :
    xs.eraseP (fun x => key x == k) = xs.filter fun x => key x != k := by
  induction xs with
  | nil => rfl
  | cons x xs ih =>
    obtain ⟨hx, hxs⟩ := List.nodup_cons.mp h
    by_cases hk : key x = k
    · have hall : ∀ y ∈ xs, (key y != k) = true := by
        intro y hy
        rw [bne_iff_ne]
        intro hyk
        exact hx (hk ▸ hyk ▸ List.mem_map_of_mem hy)
      simp [hk, List.filter_eq_self.mpr hall]
    · simp [hk, ih hxs]

/-- Whether a member has another name. -/
def isOther (sets : Array (ItemSet α)) (name : String) (m : Member) : Bool :=
  nameAt sets m.set != some name

/-- What a member answered stays where the members of another name go. -/
theorem Recalls.filter (h : Recalls sets members id found) (hname : found.set ≠ name) :
    Recalls sets (members.filter (isOther sets name)) id found := by
  obtain ⟨before, m, later, rfl, hm, hanswer, hlater⟩ := h
  have hkept : isOther sets name m = true := by
    rw [isOther, bne_iff_ne, hm]
    exact fun hsame => hname (Option.some.inj hsame)
  refine ⟨before.filter (isOther sets name), m, later.filter (isOther sets name), ?_, hm,
    hanswer, ?_⟩
  · rw [List.filter_append, List.filter_cons_of_pos hkept]
  · intro n hn
    exact hlater n (List.mem_filter.mp hn).1

/-- No two sets of an order have one name. -/
def DistinctNames (sets : Array (ItemSet α)) (order : List Nat) : Prop :=
  (order.map (nameAt sets)).Nodup

theorem Valid.distinctNames (h : space.Valid sets spent) :
    DistinctNames sets space.plain.order := by
  unfold DistinctNames Space.plain
  rw [List.map_map]
  exact h.distinct

/-- Dropping a name takes the member that has it away, and leaves the others as they are. -/
theorem members_drop (h : DistinctNames sets space.plain.order) (name : String) :
    (space.drop sets name).members = space.members.filter (isOther sets name) := by
  have hdistinct : (space.members.map fun m => nameAt sets m.set).Nodup := by
    unfold DistinctNames Space.plain at h
    rwa [List.map_map] at h
  unfold Space.drop
  simp only
  split
  · exact eraseP_eq_filter (fun m => nameAt sets m.set) (some name) space.members hdistinct
  · rename_i hnone
    rw [eq_comm, List.filter_eq_self]
    intro m hm
    simp only [List.any_eq_true, not_exists, not_and] at hnone
    simpa [isOther, nameAt] using hnone m hm

theorem plain_drop (h : DistinctNames sets space.plain.order) (name : String) :
    (space.drop sets name).plain = space.plain.without sets name := by
  have hname : (space.drop sets name).name = space.name := by
    unfold Space.drop
    simp only
    split <;> rfl
  unfold PlainSpace.without Space.plain
  rw [hname, members_drop h, List.filter_map]
  rfl

theorem Valid.drop (h : space.Valid sets spent) (name : String) :
    (space.drop sets name).Valid sets spent := by
  have hmembers := members_drop h.distinctNames name
  have hsub : (space.drop sets name).members.Sublist space.members :=
    hmembers ▸ List.filter_sublist
  refine ⟨fun m hm => h.placed m (hsub.subset hm), h.distinct.sublist (hsub.map _),
    fun m hm => h.aged m (hsub.subset hm), fun id found hfound => ?_⟩
  rw [hmembers]
  unfold Space.drop at hmembers hfound
  simp only at hmembers hfound
  split at hfound
  · rw [Std.TreeMap.getElem?_filter', Option.filter_eq_some_iff, bne_iff_ne] at hfound
    exact (h.recalled id found hfound.1).filter hfound.2
  · rename_i hnone
    rw [if_neg hnone] at hmembers
    rw [← hmembers]
    exact h.recalled id found hfound

section Entries

variable {entries : List (UInt16 × α)} {item : α}

/-- The memory with some answers of one set more. -/
def remember (name : String) (entries : List (UInt16 × α))
    (memory : Std.TreeMap UInt16 (Found α)) : Std.TreeMap UInt16 (Found α) :=
  entries.foldl (fun memory e => memory.insert e.1 ⟨name, e.2⟩) memory

theorem remember_of_not_mem (memory : Std.TreeMap UInt16 (Found α))
    (h : ∀ e ∈ entries, e.1 ≠ id) : (remember name entries memory)[id]? = memory[id]? := by
  induction entries generalizing memory with
  | nil => rfl
  | cons e entries ih =>
    have hne : compare e.1 id ≠ .eq :=
      fun hsame => h e (by simp) (Std.LawfulEqCmp.eq_of_compare hsame)
    calc (remember name (e :: entries) memory)[id]?
        = (memory.insert e.1 ⟨name, e.2⟩)[id]? := ih _ fun e he => h e (List.mem_cons_of_mem _ he)
      _ = memory[id]? := by rw [Std.TreeMap.getElem?_insert, if_neg hne]

theorem remember_of_mem (memory : Std.TreeMap UInt16 (Found α))
    (hdistinct : entries.Pairwise fun a b => a.1 ≠ b.1) (h : (id, item) ∈ entries) :
    (remember name entries memory)[id]? = some ⟨name, item⟩ := by
  induction entries generalizing memory with
  | nil => cases h
  | cons e entries ih =>
    obtain ⟨hhead, htail⟩ := List.pairwise_cons.mp hdistinct
    rcases List.mem_cons.mp h with rfl | hmem
    · refine (remember_of_not_mem _ fun e he => (hhead e he).symm).trans ?_
      exact Std.TreeMap.getElem?_insert_self
    · exact ih _ htail hmem

/-- After the items of a set are remembered, the set answers for its own ids. -/
theorem getElem?_remember (items : Std.TreeMap UInt16 α) (memory : Std.TreeMap UInt16 (Found α)) :
    (remember name items.toList memory)[id]? =
      (items[id]?.map (Found.mk name)).or memory[id]? := by
  cases hitem : items[id]? with
  | none =>
    refine remember_of_not_mem memory fun e he => ?_
    rintro rfl
    rw [Std.TreeMap.mem_toList_iff_getElem?_eq_some.mp he] at hitem
    cases hitem
  | some item =>
    refine remember_of_mem memory ?_ (Std.TreeMap.mem_toList_iff_getElem?_eq_some.mpr hitem)
    exact Std.TreeMap.distinct_keys_toList.imp fun hne hsame => hne (by simp [hsame])

end Entries

variable [Registrable α]

theorem conflict?_eq_clash? (set : String) (id : UInt16) (item : α) :
    space.conflict? sets set id item = space.plain.clash? sets set id item := by
  unfold conflict? PlainSpace.clash?
  rw [search_eq_resolve]
  rfl

/-- A merge does what it does without a memory. -/
theorem merge_eq_plain (h : DistinctNames sets space.plain.order) (index : Nat) :
    (space.merge sets index).1 = (space.plain.merge sets index).1 ∧
      (space.merge sets index).2.plain = (space.plain.merge sets index).2 := by
  unfold Space.merge PlainSpace.merge
  cases hset : sets[index]? with
  | none => exact ⟨rfl, rfl⟩
  | some set =>
    have hplain : ((space.drop sets set.name).refreshed sets).plain =
        space.plain.without sets set.name := plain_refreshed.trans (plain_drop h set.name)
    refine ⟨?_, ?_⟩
    · simp only [conflict?_eq_clash?, hplain]
    · simp only [← hplain]
      simp only [Space.plain, List.map_append, List.map_cons, List.map_nil]

/-- The members of other names stay, and the new one has a name of its own. -/
theorem DistinctNames.merge {plain : PlainSpace} (h : DistinctNames sets plain.order)
    (index : Nat) : DistinctNames sets (plain.merge sets index).2.order := by
  unfold PlainSpace.merge
  cases hset : sets[index]? with
  | none => exact h
  | some set =>
    have hname : nameAt sets index = some set.name := congrArg (Option.map ItemSet.name) hset
    have hothers : ∀ place ∈ (plain.without sets set.name).order,
        nameAt sets place ≠ nameAt sets index := by
      intro place hplace
      rw [hname]
      exact bne_iff_ne.mp (List.mem_filter.mp hplace).2
    have hwithout : DistinctNames sets (plain.without sets set.name).order :=
      h.sublist (List.filter_sublist.map _)
    unfold DistinctNames at hwithout ⊢
    rw [List.map_append, List.nodup_append]
    refine ⟨hwithout, by simp, ?_⟩
    intro a ha b hb
    obtain ⟨place, hplace, rfl⟩ := List.mem_map.mp ha
    obtain rfl := List.mem_singleton.mp hb
    exact hothers place hplace

/-- A merge remembers the items of the set. -/
theorem Valid.merge (h : space.Valid sets spent) (index : Nat) :
    (space.merge sets index).2.Valid sets spent := by
  obtain ⟨-, hplain⟩ := merge_eq_plain h.distinctNames index
  have hdistinct := h.distinctNames.merge index
  rw [← hplain] at hdistinct
  unfold DistinctNames Space.plain at hdistinct
  rw [List.map_map] at hdistinct
  revert hdistinct
  unfold Space.merge
  cases hset : sets[index]? with
  | none => exact fun _ => h
  | some set =>
    intro hdistinct
    have hvalid := (h.drop set.name).refreshed
    have hname : nameAt sets index = some set.name := congrArg (Option.map ItemSet.name) hset
    have hrevision : revisionOf sets index = set.revision := by
      simp [revisionOf, hset]
    refine ⟨?_, hdistinct, ?_, ?_⟩
    · intro m hm
      rcases List.mem_append.mp hm with hm | hm
      · exact hvalid.placed m hm
      · obtain rfl := List.mem_singleton.mp hm
        exact (Array.getElem?_eq_some_iff.mp hset).1
    · intro m hm
      rcases List.mem_append.mp hm with hm | hm
      · exact hvalid.aged m hm
      · obtain rfl := List.mem_singleton.mp hm
        exact ⟨0, Nat.zero_le _, by simp [hrevision]⟩
    · intro id found hfound
      change (remember set.name set.items.toList _)[id]? = some found at hfound
      rw [getElem?_remember] at hfound
      cases hitem : set.items[id]? with
      | some item =>
        simp only [hitem, Option.map_some, Option.some_or, Option.some.injEq] at hfound
        subst hfound
        exact ⟨_, _, [], rfl, hname, fun _ => by simp [answerOf, hset, hitem], by simp⟩
      | none =>
        simp only [hitem, Option.map_none, Option.none_or] at hfound
        obtain ⟨before, m, later, hmembers, hm, hanswer, hlater⟩ := hvalid.recalled id found hfound
        refine ⟨before, m, later ++ [⟨index, set.revision⟩], by simp [hmembers], hm, hanswer, ?_⟩
        intro n hn hnow
        rcases List.mem_append.mp hn with hn | hn
        · exact hlater n hn hnow
        · obtain rfl := List.mem_singleton.mp hn
          simp [answerOf, hset, hitem]

end Tiff.Space
