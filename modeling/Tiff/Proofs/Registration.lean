-- Registration. A set takes an item unless it is locked, or the id lies outside of
-- its range, or the id is bound to something else. An id has the item that was
-- taken last, and all items it ever had are bound alike.

import Tiff.Proofs.Recall

namespace Tiff

open Registrable

/-! ## What an id is bound to -/

/-- What items of a kind bind their ids to. An item takes the place of another one only if it binds
the id to the same. -/
structure Binding (α : Type) [Registrable α] (β : Type) where
  bound : α → β
  /-- How a set refuses the second item in the place of the first one. -/
  clash : α → α → String → Refusal
  conflict?_eq_some_iff : ∀ old new set refusal,
    conflict? old new set = some refusal ↔ bound old ≠ bound new ∧ refusal = clash old new set

/-- Tags bind their ids to names. -/
def Tag.binding : Binding Tag String where
  bound := Tag.name
  clash old new set := .tagConflict set old.id old.name new.name
  conflict?_eq_some_iff := by
    intro old new set refusal
    simp only [conflict?]
    split <;> simp_all [eq_comm]

/-- Field types bind their ids to names and sizes. -/
def FieldType.binding : Binding FieldType (String × Nat) where
  bound type := (type.name, type.size)
  clash old new set := .typeConflict set old.id old.name old.size new.name new.size
  conflict?_eq_some_iff := by
    intro old new set refusal
    simp only [conflict?]
    split <;> simp_all [eq_comm]

variable {α β : Type} [Registrable α] {binding : Binding α β}

namespace ItemSet

variable {start set new : ItemSet α} {item : α} {took : List α}

omit [Registrable α] in
theorem accepts_iff {id : UInt16} : set.accepts id = true ↔ set.lower ≤ id ∧ id ≤ set.upper := by
  simp [accepts]

/-! ## One registration -/

/-- Why a set refuses an item. The lock comes before the range, and the range before what the id is
bound to. -/
inductive Refuses (binding : Binding α β) (set : ItemSet α) (item : α) : Refusal → Prop
  | locked : set.locked = true → Refuses binding set item (.locked set.name)
  | outOfRange : set.locked = false → ¬ (set.lower ≤ key item ∧ key item ≤ set.upper) →
      Refuses binding set item (.outOfRange set.name (key item) set.lower set.upper)
  | clash {old : α} : set.locked = false → set.lower ≤ key item ∧ key item ≤ set.upper →
      set.items[key item]? = some old → binding.bound old ≠ binding.bound item →
      Refuses binding set item (binding.clash old item set.name)

theorem register_eq_error_iff {refusal : Refusal} :
    set.register item = .error refusal ↔ Refuses binding set item refusal := by
  unfold register
  constructor
  · intro h
    split at h
    · rename_i hlocked
      cases h
      exact .locked hlocked
    · rename_i hlocked
      rw [Bool.not_eq_true] at hlocked
      split at h
      · rename_i hrange
        cases h
        refine .outOfRange hlocked ?_
        rwa [Bool.not_eq_true', ← Bool.not_eq_true, accepts_iff] at hrange
      · rename_i hrange
        rw [Bool.not_eq_true', Bool.not_eq_false, accepts_iff] at hrange
        split at h
        · rename_i hclash
          cases h
          obtain ⟨old, hold, hconflict⟩ := Option.bind_eq_some_iff.mp hclash
          obtain ⟨hbound, rfl⟩ := (binding.conflict?_eq_some_iff ..).mp hconflict
          exact .clash hlocked hrange hold hbound
        · cases h
  · intro h
    cases h with
    | locked hlocked => rw [if_pos hlocked]
    | outOfRange hlocked hrange =>
      rw [← accepts_iff, Bool.not_eq_true] at hrange
      simp [hlocked, hrange]
    | clash hlocked hrange hold hbound =>
      have hconflict := (binding.conflict?_eq_some_iff _ _ set.name _).mpr ⟨hbound, rfl⟩
      rw [← accepts_iff] at hrange
      simp [hlocked, hrange, hold, hconflict]

/-- A registration that is taken binds the id as it was bound before. -/
theorem bound_of_register (binding : Binding α β) (h : set.register item = .ok new) (old : α)
    (hold : set.items[key item]? = some old) : binding.bound old = binding.bound item := by
  obtain ⟨-, -, hconflict, -⟩ := register_eq_ok h
  refine Classical.byContradiction fun hne => ?_
  have hsome := (binding.conflict?_eq_some_iff _ _ set.name _).mpr ⟨hne, rfl⟩
  rw [hconflict old hold] at hsome
  cases hsome

/-! ## Many registrations -/

/-- A set all of whose items stand under their own ids, in the range of the set. -/
def Filed (set : ItemSet α) : Prop :=
  ∀ id item, set.items[id]? = some item → key item = id ∧ set.lower ≤ id ∧ id ≤ set.upper

theorem getElem?_insert (items : Std.TreeMap UInt16 α) (new : α) (id : UInt16) :
    (items.insert (key new) new)[id]? = if key new = id then some new else items[id]? := by
  rw [Std.TreeMap.getElem?_insert]
  simp only [Std.LawfulEqCmp.compare_eq_iff_eq]

theorem Filed.insert (h : set.Filed) (hrange : set.lower ≤ key item ∧ key item ≤ set.upper)
    (revision : UInt64) :
    Filed { set with items := set.items.insert (key item) item, revision } := by
  intro id found hfound
  simp only [getElem?_insert] at hfound
  split at hfound
  · rename_i hid
    cases hfound
    exact ⟨hid, hid ▸ hrange⟩
  · exact h id found hfound

theorem Filed.fill (h : set.Filed) (kept : List α)
    (hkept : ∀ item ∈ kept, set.lower ≤ key item ∧ key item ≤ set.upper) :
    Filed { set with
      items := kept.foldl (fun items item => items.insert (key item) item) set.items } := by
  induction kept generalizing set with
  | nil => exact h
  | cons first kept ih =>
    rw [List.forall_mem_cons] at hkept
    exact ih (h.insert hkept.1 set.revision) hkept.2

/-- A set that is filled from the start holds items of its range only. -/
theorem filed_preloaded (name : String) (lower upper : UInt16) (items : List α) (locked : Bool) :
    (preloaded name lower upper items locked).Filed := by
  have hempty : Filed { name, lower, upper, locked : ItemSet α } := by simp [Filed]
  refine hempty.fill _ fun item hitem => ?_
  simpa using (List.mem_filter.mp hitem).2

/-- The items that an id had in a set that held one from the start and then took some, the first
one first. -/
def had (start : ItemSet α) (took : List α) (id : UInt16) : List α :=
  start.items[id]?.toList ++ took.filter fun item => key item = id

theorem had_append (start : ItemSet α) (took : List α) (item : α) (id : UInt16) :
    start.had (took ++ [item]) id =
      start.had took id ++ if key item = id then [item] else [] := by
  unfold had
  rw [List.filter_append, ← List.append_assoc]
  by_cases h : key item = id <;> simp [h]

/-- What has become of a set that took some items, one after the other. -/
structure Grown (binding : Binding α β) (start : ItemSet α) (took : List α) (set : ItemSet α) :
    Prop where
  name_eq : set.name = start.name
  lower_eq : set.lower = start.lower
  upper_eq : set.upper = start.upper
  filed : set.Filed
  /-- An id has the item that it got last. -/
  items_eq : ∀ id, set.items[id]? = (start.had took id).getLast?
  /-- All items that an id ever had are bound alike. -/
  bound_eq : ∀ id, ∀ first ∈ start.had took id, ∀ item ∈ start.had took id,
    binding.bound item = binding.bound first
  revision_eq : set.revision = start.revision + .ofNat took.length

theorem Grown.refl (binding : Binding α β) (h : set.Filed) : Grown binding set [] set where
  name_eq := rfl
  lower_eq := rfl
  upper_eq := rfl
  filed := h
  items_eq id := by
    unfold had
    cases set.items[id]? <;> rfl
  bound_eq id := by
    unfold had
    cases set.items[id]? <;> simp
  revision_eq := by simp

theorem Grown.lock (h : Grown binding start took set) : Grown binding start took set.lock :=
  ⟨h.name_eq, h.lower_eq, h.upper_eq, h.filed, h.items_eq, h.bound_eq, h.revision_eq⟩

/-- Whatever the id had before is bound like the item that it had last, and so like the new one. -/
theorem Grown.bound_of_register (h : Grown binding start took set)
    (hnew : set.register item = .ok new) (old : α) (hold : old ∈ start.had took (key item)) :
    binding.bound old = binding.bound item := by
  obtain ⟨last, hlast⟩ : ∃ last, (start.had took (key item)).getLast? = some last :=
    ⟨_, List.getLast?_eq_some_getLast (List.ne_nil_of_mem hold)⟩
  rw [h.bound_eq _ last (List.mem_of_getLast? hlast) old hold]
  exact ItemSet.bound_of_register binding hnew last (by rw [h.items_eq, hlast])

theorem Grown.register (h : Grown binding start took set) (hnew : set.register item = .ok new) :
    Grown binding start (took ++ [item]) new := by
  have hlike := h.bound_of_register hnew
  obtain ⟨-, hrange, -, rfl⟩ := register_eq_ok hnew
  rw [accepts_iff] at hrange
  refine ⟨h.name_eq, h.lower_eq, h.upper_eq, h.filed.insert hrange _, ?_, ?_, ?_⟩
  · intro id
    simp only [getElem?_insert, had_append]
    split
    · rw [List.getLast?_concat]
    · rw [List.append_nil, h.items_eq]
  · intro id first hfirst found hfound
    rw [had_append] at hfirst hfound
    split at hfirst
    · rename_i hid
      subst hid
      simp only [if_true, List.mem_append, List.mem_singleton] at hfirst hfound
      rcases hfirst with hfirst | rfl <;> rcases hfound with hfound | rfl
      · rw [hlike _ hfirst, hlike _ hfound]
      · rw [hlike _ hfirst]
      · rw [hlike _ hfound]
      · rfl
    · rename_i hid
      rw [if_neg hid, List.append_nil] at hfound
      rw [List.append_nil] at hfirst
      exact h.bound_eq id first hfirst found hfound
  · simp only [h.revision_eq, List.length_append, List.length_singleton, UInt64.ofNat_add]
    rw [UInt64.add_assoc]
    rfl

end ItemSet

/-! ## Histories of a shelf -/

/-- The item that the set at a place takes by an act, if it takes one. -/
def Act.itemTaken? (place : Nat) : Act α → Reply α → Option α
  | register set item, .registered (.ok _) => if set = place then some item else none
  | _, _ => none

namespace Shelf

variable {shelf : Shelf α} {place : Nat} {start set : ItemSet α} {took : List α}

/-- The items that the set at a place takes in a history, the first one first. -/
def itemsTaken (shelf : Shelf α) (place : Nat) (acts : List (Act α)) : List α :=
  (acts.zip (replies step shelf acts)).filterMap fun told => told.1.itemTaken? place told.2

theorem itemsTaken_cons (shelf : Shelf α) (place : Nat) (act : Act α) (acts : List (Act α)) :
    shelf.itemsTaken place (act :: acts) =
      (act.itemTaken? place (shelf.step act).1).toList ++
        (shelf.step act).2.itemsTaken place acts := by
  unfold itemsTaken
  rw [replies, List.zip_cons_cons, List.filterMap_cons]
  cases act.itemTaken? place (shelf.step act).1 <;> rfl

/-- An act leaves the set at a place as it is, or the set takes an item by it, or is locked. -/
theorem cases_of_step (hset : shelf.sets[place]? = some set) (act : Act α) :
    (act.itemTaken? place (shelf.step act).1 = none ∧
      (shelf.step act).2.sets[place]? = some set) ∨
    (∃ item new, set.register item = .ok new ∧
      act.itemTaken? place (shelf.step act).1 = some item ∧
      (shelf.step act).2.sets[place]? = some new) ∨
    act.itemTaken? place (shelf.step act).1 = none ∧
      (shelf.step act).2.sets[place]? = some set.lock := by
  obtain ⟨hlt, -⟩ := Array.getElem?_eq_some_iff.mp hset
  cases act with
  | register other item =>
    rcases register_cases shelf other item with
      ⟨hnone, hkept⟩ | ⟨old, new, hold, hnew, htaken⟩ | ⟨old, refusal, -, -, hkept⟩
    · have hother : other ≠ place := by
        rintro rfl
        simp [hset] at hnone
      exact .inl (by simp [step, hkept, Act.itemTaken?, hother, hset])
    · by_cases hother : other = place
      · subst hother
        cases hset.symm.trans hold
        exact .inr (.inl ⟨item, new, hnew, by simp [step, htaken, Act.itemTaken?, hlt]⟩)
      · exact .inl (by simp [step, htaken, Act.itemTaken?, hother, hset])
    · exact .inl (by simp [step, hkept, Act.itemTaken?, hset])
  | lock other =>
    by_cases hother : other = place
    · subst hother
      exact .inr (.inr ⟨rfl, by simp [step, lock, Array.getElem?_modify, hset]⟩)
    · exact .inl ⟨rfl, by simp [step, lock, Array.getElem?_modify, hother, hset]⟩
  | merge space other => exact .inl ⟨rfl, by simp only [step, sets_merge, hset]⟩
  | lookup space id => exact .inl ⟨rfl, by simp only [step, sets_lookup, hset]⟩

/-- Whatever happens to a shelf, the set at a place grows by what it takes. -/
theorem grown_after (hset : shelf.sets[place]? = some set)
    (hgrown : ItemSet.Grown binding start took set) (acts : List (Act α)) :
    ∃ last, (after step shelf acts).sets[place]? = some last ∧
      ItemSet.Grown binding start (took ++ shelf.itemsTaken place acts) last := by
  induction acts generalizing shelf set took with
  | nil => exact ⟨set, hset, by simpa [itemsTaken] using hgrown⟩
  | cons act acts ih =>
    rw [after_cons, itemsTaken_cons]
    rcases cases_of_step hset act with
      ⟨hitem, hnext⟩ | ⟨item, new, hnew, hitem, hnext⟩ | ⟨hitem, hnext⟩
    · rw [hitem]
      exact ih hnext hgrown
    · rw [hitem, ← List.append_assoc]
      exact ih hnext (hgrown.register hnew)
    · rw [hitem]
      exact ih hnext hgrown.lock

/-- Whatever happens to a shelf, a locked set stays what it is. -/
theorem kept_of_locked (hset : shelf.sets[place]? = some set) (hlocked : set.locked = true)
    (acts : List (Act α)) : (after step shelf acts).sets[place]? = some set := by
  induction acts generalizing shelf with
  | nil => exact hset
  | cons act acts ih =>
    refine ih ?_
    rcases cases_of_step hset act with ⟨-, hnext⟩ | ⟨item, new, hnew, -, -⟩ | ⟨-, hnext⟩
    · exact hnext
    · obtain ⟨hopen, -⟩ := ItemSet.register_eq_ok hnew
      rw [hlocked] at hopen
      cases hopen
    · have hsame : set.lock = set := by
        obtain ⟨name, lower, upper, items, locked, revision⟩ := set
        cases hlocked
        rfl
      rw [hnext, hsame]

/-! ## What a set keeps to -/

/-- What the set at a place of a shelf answers to a registration, and what will hold of it, whatever
happens to the shelf. -/
structure Orderly (binding : Binding α β) (shelf : Shelf α) (place : Nat) (set : ItemSet α) :
    Prop where
  /-- A registration is refused for one of three reasons, of which the first counts. -/
  refused_iff : ∀ item refusal, (shelf.register place item).1 = .error refusal ↔
    ItemSet.Refuses binding set item refusal
  /-- A registration that is refused changes nothing. -/
  refused_eq : ∀ item refusal, (shelf.register place item).1 = .error refusal →
    (shelf.register place item).2 = shelf
  /-- A registration that is taken changes the item of one id, and raises the revision. -/
  taken_eq : ∀ item, (shelf.register place item).1 = .ok () →
    ∃ new : ItemSet α,
      (shelf.register place item).2 = { shelf with sets := shelf.sets.setIfInBounds place new } ∧
      new = { set with items := new.items, revision := set.revision + 1 } ∧
      ∀ id, new.items[id]? = if key item = id then some item else set.items[id]?
  /-- An id that has an item keeps one for ever, bound alike. -/
  lasting : ∀ (id : UInt16) (item : α), set.items[id]? = some item → ∀ later, ∃ last item',
    (after step shelf later).sets[place]? = some last ∧ last.items[id]? = some item' ∧
      binding.bound item' = binding.bound item
  /-- A locked set stays what it is. -/
  locked : set.locked = true → ∀ later, (after step shelf later).sets[place]? = some set
  /-- Once it is locked, it stays what it was then. -/
  frozen : ∀ later, (after step (shelf.lock place) later).sets[place]? = some set.lock

theorem orderly_of_filed (binding : Binding α β) (hset : shelf.sets[place]? = some set)
    (hfiled : set.Filed) : Orderly binding shelf place set where
  refused_iff item refusal := by
    rw [← ItemSet.register_eq_error_iff]
    unfold register
    simp only [hset]
    cases set.register item <;> simp
  refused_eq item refusal h := by
    unfold register at h ⊢
    simp only [hset] at h ⊢
    cases hnew : set.register item with
    | ok new => simp [hnew] at h
    | error refusal => rfl
  taken_eq item h := by
    unfold register at h ⊢
    simp only [hset] at h ⊢
    cases hnew : set.register item with
    | ok new =>
      obtain ⟨-, -, -, rfl⟩ := ItemSet.register_eq_ok hnew
      exact ⟨_, rfl, rfl, ItemSet.getElem?_insert set.items item⟩
    | error refusal => simp [hnew] at h
  lasting id item hitem later := by
    obtain ⟨last, hlast, hgrown⟩ :=
      grown_after hset (ItemSet.Grown.refl binding hfiled) later
    have hfirst : item ∈ set.had ([] ++ shelf.itemsTaken place later) id := by
      simp [ItemSet.had, hitem]
    have hitem' := List.getLast?_eq_some_getLast (List.ne_nil_of_mem hfirst)
    refine ⟨last, _, hlast, (hgrown.items_eq id).trans hitem', ?_⟩
    exact hgrown.bound_eq id item hfirst _ (List.getLast_mem _)
  locked hlocked := kept_of_locked hset hlocked
  frozen := kept_of_locked (by simp [lock, Array.getElem?_modify, hset]) rfl

/-- A set that began as `start` is what it took since then, and is orderly, at whatever place of a
shelf and after whatever has happened there. -/
def StaysOrderly (binding : Binding α β) (start : ItemSet α) : Prop :=
  ∀ (shelf : Shelf α) (place : Nat), shelf.sets[place]? = some start → ∀ acts, ∃ set,
    (after step shelf acts).sets[place]? = some set ∧
    ItemSet.Grown binding start (shelf.itemsTaken place acts) set ∧
    ((shelf.itemsTaken place acts).length < UInt64.size →
      set.revision.toNat = (shelf.itemsTaken place acts).length) ∧
    Orderly binding (after step shelf acts) place set

theorem staysOrderly_preloaded (binding : Binding α β) (name : String) (lower upper : UInt16)
    (items : List α) (locked : Bool) :
    StaysOrderly binding (.preloaded name lower upper items locked) := by
  intro shelf place hset acts
  obtain ⟨set, hafter, hgrown⟩ := grown_after hset
    (ItemSet.Grown.refl binding (ItemSet.filed_preloaded name lower upper items locked)) acts
  rw [List.nil_append] at hgrown
  refine ⟨set, hafter, hgrown, ?_, orderly_of_filed binding hafter hgrown.filed⟩
  intro hfew
  have hrevision : set.revision = .ofNat (shelf.itemsTaken place acts).length := by
    rw [hgrown.revision_eq]
    exact UInt64.zero_add _
  rw [hrevision, UInt64.toNat_ofNat_of_lt' hfew]

/-- An empty set is one that is filled with nothing. -/
example (name : String) (lower upper : UInt16) :
    (.preloaded name lower upper [] false : ItemSet Tag) = { name, lower, upper } := rfl

/-- Sets of tags and of field types, empty or filled with a catalog, stay orderly. An id that has
an item keeps its name, and a field type its size; the rest is what was registered last. Nothing is
taken out of range, under another binding, or behind a lock, and what is refused leaves no trace. -/
theorem an_id_stays_bound_as_it_was (name : String) (lower upper : UInt16) (locked : Bool) :
    (∀ items, StaysOrderly Tag.binding (.preloaded name lower upper items locked)) ∧
      ∀ items, StaysOrderly FieldType.binding (.preloaded name lower upper items locked) :=
  ⟨fun items => staysOrderly_preloaded Tag.binding name lower upper items locked,
    fun items => staysOrderly_preloaded FieldType.binding name lower upper items locked⟩

/-- Registrations of which a set takes the first one and the one that tells more under its name. -/
def vendorActs : List (Act Tag) := [
  .register 0 (.make 50001 "VendorA"), .register 0 (.make 50001 "VendorB"),
  .register 0 (.make 49999 "TooLow"), .register 0 (.make 50001 "VendorA" (some fun _ => "A")),
  .lock 0, .register 0 (.make 50002 "VendorC")]

/-- The id keeps its first name and has its last interpreter. What was refused left no trace, and
the set stays locked. -/
theorem an_id_stays_bound_as_it_was_of_vendorActs :
    let start : ItemSet Tag := .preloaded "Vendor" 50000 50100 [] false
    let shelf : Shelf Tag := { sets := #[start] }
    ∃ set, (after step shelf vendorActs).sets[0]? = some set ∧ set.revision.toNat = 2 ∧
      (set.items[(50001 : UInt16)]?.map fun tag => (tag.name, tag.interpreter.isSome)) =
        some ("VendorA", true) ∧
      set.items[(50002 : UInt16)]?.isNone ∧
      ((after step shelf vendorActs).register 0 (.make 50001 "VendorA")).1 =
        .error (.locked "Vendor") ∧
      ((after step shelf vendorActs).register 0 (.make 50001 "VendorA")).2 =
        after step shelf vendorActs := by
  intro start shelf
  obtain ⟨htags, -⟩ := an_id_stays_bound_as_it_was "Vendor" 50000 50100 false
  obtain ⟨set, hset, hgrown, hrevision, horderly⟩ := htags [] shelf 0 rfl vendorActs
  have hlocked : set.locked = true := by
    have h : (after step shelf vendorActs).sets[0]?.map ItemSet.locked = some true := by
      decide +kernel
    simpa [hset] using h
  have hrefused := (horderly.refused_iff (.make 50001 "VendorA") _).mpr (.locked hlocked)
  have hname : set.name = "Vendor" := hgrown.name_eq
  rw [hname] at hrefused
  refine ⟨set, hset, ?_, ?_, ?_, hrefused, horderly.refused_eq _ _ hrefused⟩
  · rw [hrevision (by decide +kernel)]
    decide +kernel
  · rw [hgrown.items_eq]
    decide +kernel
  · rw [hgrown.items_eq]
    decide +kernel

end Shelf

end Tiff
