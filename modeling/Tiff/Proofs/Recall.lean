-- What spaces answer. Whatever happens to a shelf, its spaces answer as those of
-- the plain shelf do, which remember nothing.

import Tiff.Proofs.Memory

namespace Tiff

open Registrable

variable {α : Type} [Registrable α]

/-! ## Items and their ids -/

/-- What stands for an id that nobody registered has that id. -/
class LawfulRegistrable (α : Type) [Registrable α] : Prop where
  key_placeholder : ∀ id, key (placeholder id : α) = id

instance : LawfulRegistrable Tag := ⟨fun _ => rfl⟩

instance : LawfulRegistrable FieldType := ⟨fun _ => rfl⟩

namespace ItemSet

variable {set new : ItemSet α} {item : α}

/-- A set whose items all stand under their own ids. -/
def Keyed (set : ItemSet α) : Prop := ∀ id item, set.items[id]? = some item → key item = id

theorem keyed_insert {items : Std.TreeMap UInt16 α}
    (h : ∀ id item, items[id]? = some item → key item = id) (new : α) :
    ∀ id item, (items.insert (key new) new)[id]? = some item → key item = id := by
  intro id item hitem
  rw [Std.TreeMap.getElem?_insert] at hitem
  split at hitem
  · rename_i hsame
    cases hitem
    exact Std.LawfulEqCmp.eq_of_compare hsame
  · exact h id item hitem

/-- Sets that are filled from the start are filled under the ids of the items. -/
theorem keyed_preloaded (name : String) (lower upper : UInt16) (items : List α) (locked : Bool) :
    (preloaded name lower upper items locked).Keyed := by
  unfold Keyed preloaded
  simp only
  generalize hkept : items.filter _ = kept
  clear hkept
  have hfold : ∀ map : Std.TreeMap UInt16 α,
      (∀ id item, map[id]? = some item → key item = id) →
      ∀ id item, (kept.foldl (fun map item => map.insert (key item) item) map)[id]? = some item →
        key item = id := by
    induction kept with
    | nil => exact fun map h => h
    | cons first kept ih => exact fun map h => ih _ (keyed_insert h first)
  exact hfold {} (by simp)

/-- A registration that is taken adds the item, and raises the revision. -/
theorem register_eq_ok (h : set.register item = .ok new) :
    set.locked = false ∧ set.accepts (key item) = true ∧
      (∀ old, set.items[key item]? = some old → conflict? old item set.name = none) ∧
      new = { set with
        items := set.items.insert (key item) item
        revision := set.revision + 1 } := by
  unfold register at h
  split at h
  · cases h
  · rename_i hlocked
    split at h
    · cases h
    · rename_i haccepts
      split at h
      · cases h
      · rename_i hconflict
        cases h
        refine ⟨by simpa using hlocked, by simpa using haccepts, ?_, rfl⟩
        intro old hold
        simpa [hold] using hconflict

end ItemSet

namespace Shelf

variable {shelf shelf' : Shelf α} {spent : Nat → Nat}

/-! ## What one act does to the sets -/

/-- A registration names a place without a set, or the set there takes it, or refuses it. -/
theorem register_cases (shelf : Shelf α) (place : Nat) (item : α) :
    (shelf.sets[place]? = none ∧ shelf.register place item = (.ok (), shelf)) ∨
    (∃ old new, shelf.sets[place]? = some old ∧ old.register item = .ok new ∧
      shelf.register place item =
        (.ok (), { shelf with sets := shelf.sets.setIfInBounds place new })) ∨
    ∃ old refusal, shelf.sets[place]? = some old ∧ old.register item = .error refusal ∧
      shelf.register place item = (.error refusal, shelf) := by
  unfold register
  cases hset : shelf.sets[place]? with
  | none => exact .inl ⟨rfl, rfl⟩
  | some old =>
    cases hnew : old.register item with
    | ok new => exact .inr (.inl ⟨old, new, rfl, hnew, by simp only [hnew]⟩)
    | error refusal => exact .inr (.inr ⟨old, refusal, rfl, hnew, by simp only [hnew]⟩)

theorem sets_merge (shelf : Shelf α) (space set : Nat) :
    (shelf.merge space set).2.sets = shelf.sets := by
  unfold merge
  split <;> rfl

omit [Registrable α] in
theorem sets_lookup (shelf : Shelf α) (space : Nat) (id : UInt16) :
    (shelf.lookup space id).2.sets = shelf.sets := by
  unfold lookup
  split <;> rfl

theorem register_congr (hsets : shelf'.sets = shelf.sets) (place : Nat) (item : α) :
    (shelf'.register place item).1 = (shelf.register place item).1 ∧
      (shelf'.register place item).2.sets = (shelf.register place item).2.sets := by
  unfold register
  rw [hsets]
  split
  · exact ⟨rfl, hsets⟩
  · split
    · exact ⟨rfl, rfl⟩
    · exact ⟨rfl, hsets⟩

/-- What an act does to the sets is up to the sets. -/
theorem sets_step (hsets : shelf'.sets = shelf.sets) (act : Act α) :
    (shelf'.step act).2.sets = (shelf.step act).2.sets ∧
      ∀ place, shelf'.gain act place = shelf.gain act place := by
  cases act with
  | register set item =>
    obtain ⟨hresult, hnext⟩ := register_congr hsets set item
    have hreply : (shelf'.step (.register set item)).1 = (shelf.step (.register set item)).1 :=
      congrArg Reply.registered hresult
    exact ⟨hnext, fun place => by rw [gain, gain, hreply]⟩
  | lock set => exact ⟨by simp only [step, lock, hsets], fun _ => rfl⟩
  | merge space set => exact ⟨by simp only [step, sets_merge, hsets], fun _ => rfl⟩
  | lookup space id => exact ⟨by simp only [step, sets_lookup, hsets], fun _ => rfl⟩

/-- Look-ups do not count among the registrations, and leave what the sets take as it is. -/
theorem taken_filter (hsets : shelf'.sets = shelf.sets) (place : Nat) (acts : List (Act α)) :
    shelf'.taken place (acts.filter fun act => !act.isLookup) = shelf.taken place acts := by
  induction acts generalizing shelf shelf' with
  | nil => rfl
  | cons act acts ih =>
    obtain ⟨hnext, hgain⟩ := sets_step hsets act
    cases hlookup : act.isLookup with
    | false =>
      rw [List.filter_cons_of_pos (by simp [hlookup]), taken_cons, taken_cons, hgain, ih hnext]
    | true =>
      rw [List.filter_cons_of_neg (by simp [hlookup]), taken_cons]
      cases act with
      | lookup space id =>
        have hkept : shelf'.sets = (shelf.step (.lookup space id)).2.sets := by
          rw [hsets]
          exact (sets_lookup shelf space id).symm
        rw [ih hkept]
        exact (Nat.zero_add _).symm
      | register set item => cases hlookup
      | lock set => cases hlookup
      | merge space set => cases hlookup

omit [Registrable α] in
theorem evolves_refl {sets : Array (ItemSet α)} :
    Space.Evolves sets sets spent fun place => spent place + 0 :=
  ⟨rfl, fun _ => rfl, fun _ _ => ⟨0, rfl, by simp, fun _ _ _ _ => rfl⟩⟩

/-- The sets move on by a registration as the gain tells. -/
theorem evolves_register (shelf : Shelf α) (set : Nat) (item : α) :
    Space.Evolves shelf.sets (shelf.register set item).2.sets spent
      fun place => spent place + shelf.gain (.register set item) place := by
  rcases register_cases shelf set item with
    ⟨hset, h⟩ | ⟨old, new, hset, hnew, h⟩ | ⟨old, refusal, hset, hnew, h⟩
  · have hgain : ∀ place < shelf.sets.size, shelf.gain (.register set item) place = 0 := by
      intro place hplace
      have hne : set ≠ place := by
        rintro rfl
        simp at hset
        omega
      simp [gain, step, h, Act.isTaken, hne]
    rw [h]
    refine ⟨rfl, fun _ => rfl, fun place hplace => ⟨0, ?_, by simp, fun _ _ _ _ => rfl⟩⟩
    rw [hgain place hplace]
  · obtain ⟨-, -, -, rfl⟩ := ItemSet.register_eq_ok hnew
    obtain ⟨hlt, hold⟩ := Array.getElem?_eq_some_iff.mp hset
    rw [h]
    refine ⟨Array.size_setIfInBounds, ?_, ?_⟩
    · intro place
      by_cases hplace : set = place
      · subst hplace
        simp [Space.nameAt, hlt, hold]
      · simp [Space.nameAt, hplace]
    · intro place hplace
      refine ⟨shelf.gain (.register set item) place, rfl, ?_⟩
      by_cases hplace : set = place
      · subst hplace
        simp [gain, step, h, Act.isTaken, Space.revisionOf, hlt, hold]
      · simp [gain, step, h, Act.isTaken, Space.revisionOf, Space.answerOf, hplace]
        rintro id m rfl
        simp [hplace]
  · have hgain : ∀ place, shelf.gain (.register set item) place = 0 := by
      intro place
      simp [gain, step, h, Act.isTaken]
    rw [h]
    simp only [hgain]
    exact evolves_refl

omit [Registrable α] in
theorem evolves_lock (shelf : Shelf α) (set : Nat) :
    Space.Evolves shelf.sets (shelf.lock set).sets spent
      fun place => spent place + 0 := by
  refine ⟨Array.size_modify, ?_, ?_⟩
  · intro place
    unfold Space.nameAt lock
    simp only [Array.getElem?_modify]
    split
    · cases shelf.sets[place]? <;> rfl
    · rfl
  · intro place hplace
    refine ⟨0, rfl, ?_, ?_⟩
    · unfold Space.revisionOf lock
      simp only [Array.getElem?_modify]
      split
      · simp [hplace, ItemSet.lock]
      · simp
    · rintro - id m rfl
      unfold Space.answerOf lock
      simp only [Array.getElem?_modify]
      split
      · simp [hplace, ItemSet.lock]
      · rfl

/-! ## The shelf and the plain shelf -/

/-- A shelf all of whose spaces are valid. -/
def Sound (shelf : Shelf α) (spent : Nat → Nat) : Prop :=
  ∀ space ∈ shelf.spaces, space.Valid shelf.sets spent

omit [Registrable α] in
theorem Sound.put (h : shelf.Sound spent) {new : Space α} (hnew : new.Valid shelf.sets spent)
    (place : Nat) :
    { shelf with spaces := shelf.spaces.setIfInBounds place new : Shelf α }.Sound spent := by
  intro space hspace
  rcases Array.mem_or_eq_of_mem_setIfInBounds hspace with hold | rfl
  · exact h space hold
  · exact hnew

omit [Registrable α] in
theorem Sound.evolves (h : shelf.Sound spent) {sets : Array (ItemSet α)} {spent' : Nat → Nat}
    (he : Space.Evolves shelf.sets sets spent spent')
    (hfew : ∀ place < shelf.sets.size, spent' place < UInt64.size) :
    { shelf with sets }.Sound spent' :=
  fun space hspace => (h space hspace).evolves he hfew

theorem setIfInBounds_same {β : Type} {xs : Array β} {i : Nat} {x : β} (h : xs[i]? = some x) :
    xs.setIfInBounds i x = xs := by
  obtain ⟨hlt, hx⟩ := Array.getElem?_eq_some_iff.mp h
  refine Array.ext_getElem? fun j => ?_
  rw [Array.getElem?_setIfInBounds]
  split
  · rename_i hij
    subst hij
    rw [h]
  · rfl

/-- A shelf none of whose spaces has two members of one name. -/
def Distinct (shelf : Shelf α) : Prop :=
  ∀ space ∈ shelf.spaces, Space.DistinctNames shelf.sets space.plain.order

omit [Registrable α] in
theorem Sound.distinct (h : shelf.Sound spent) : shelf.Distinct :=
  fun space hspace => (h space hspace).distinctNames

omit [Registrable α] in
theorem Distinct.put (h : shelf.Distinct) {new : Space α}
    (hnew : Space.DistinctNames shelf.sets new.plain.order) (place : Nat) :
    { shelf with spaces := shelf.spaces.setIfInBounds place new : Shelf α }.Distinct := by
  intro space hspace
  rcases Array.mem_or_eq_of_mem_setIfInBounds hspace with hold | rfl
  · exact h space hold
  · exact hnew

omit [Registrable α] in
theorem Distinct.evolves (h : shelf.Distinct) {sets : Array (ItemSet α)}
    (hnames : Space.nameAt sets = Space.nameAt shelf.sets) : { shelf with sets }.Distinct := by
  intro space hspace
  have hspace' := h space hspace
  unfold Space.DistinctNames at hspace' ⊢
  rwa [hnames]

theorem spaces_register (shelf : Shelf α) (set : Nat) (item : α) :
    (shelf.register set item).2.spaces = shelf.spaces := by
  rcases register_cases shelf set item with ⟨-, h⟩ | ⟨_, _, -, -, h⟩ | ⟨_, _, -, -, h⟩
  all_goals rw [h]

/-- Registering goes by the sets alone. -/
theorem plain_register (shelf : Shelf α) (set : Nat) (item : α) :
    (shelf.register set item).2.plain = (shelf.plain.step (.register set item)).2 := by
  obtain ⟨-, hnext⟩ := register_congr
    (show ({ sets := shelf.plain.sets } : Shelf α).sets = shelf.sets from rfl) set item
  simp only [PlainShelf.step, Shelf.plain, spaces_register]
  exact congrArg (PlainShelf.mk · _) hnext.symm

/-- One act leaves what it leaves on the plain shelf, whatever the spaces remember. -/
theorem Distinct.step (h : shelf.Distinct) (act : Act α) :
    (shelf.step act).2.plain = (shelf.plain.step act).2 ∧ (shelf.step act).2.Distinct := by
  have hplain : ∀ space : Nat, shelf.plain.spaces[space]? = shelf.spaces[space]?.map Space.plain :=
    fun _ => Array.getElem?_map
  cases act with
  | register set item =>
    have he : Space.Evolves shelf.sets (shelf.register set item).2.sets (fun _ => 0) _ :=
      evolves_register shelf set item
    refine ⟨plain_register shelf set item, ?_⟩
    have hdistinct := h.evolves (funext he.nameAt_eq)
    rw [← spaces_register shelf set item] at hdistinct
    exact hdistinct
  | lock set =>
    have he : Space.Evolves shelf.sets (shelf.lock set).sets (fun _ => 0) _ := evolves_lock shelf set
    exact ⟨rfl, h.evolves (funext he.nameAt_eq)⟩
  | merge space set =>
    simp only [Shelf.step, PlainShelf.step, Shelf.merge, PlainShelf.merge, hplain]
    cases hspace : shelf.spaces[space]? with
    | none => exact ⟨rfl, h⟩
    | some old =>
      have hold := h old (Array.mem_of_getElem? hspace)
      obtain ⟨-, hnew⟩ := Space.merge_eq_plain hold set
      refine ⟨?_, h.put (hnew ▸ hold.merge set) space⟩
      simp only [Shelf.plain, Array.map_setIfInBounds, hnew]
      rfl
  | lookup space id =>
    simp only [Shelf.step, PlainShelf.step, Shelf.lookup]
    cases hspace : shelf.spaces[space]? with
    | none => exact ⟨rfl, h⟩
    | some old =>
      have hnew : (old.lookup shelf.sets id).2.plain = old.plain := Space.plain_lookup id
      have hsame : shelf.plain.spaces.setIfInBounds space old.plain = shelf.plain.spaces :=
        setIfInBounds_same ((hplain space).trans (congrArg (Option.map Space.plain) hspace))
      refine ⟨?_, h.put (hnew ▸ h old (Array.mem_of_getElem? hspace)) space⟩
      simp only [Shelf.plain, Array.map_setIfInBounds, hnew]
      exact congrArg (PlainShelf.mk _) hsame

/-- So does a whole history. -/
theorem Distinct.run (h : shelf.Distinct) (acts : List (Act α)) :
    (after Shelf.step shelf acts).plain = after PlainShelf.step shelf.plain acts ∧
      (after Shelf.step shelf acts).Distinct := by
  induction acts generalizing shelf with
  | nil => exact ⟨rfl, h⟩
  | cons act acts ih =>
    obtain ⟨hplain, hdistinct⟩ := h.step act
    rw [after_cons, after_cons, ← hplain]
    exact ih hdistinct

/-- One act gives back what it does on the plain shelf, and does the same. -/
theorem Sound.step (h : shelf.Sound spent) (act : Act α)
    (hfew : ∀ place < shelf.sets.size, spent place + shelf.gain act place < UInt64.size) :
    (shelf.step act).1 = (shelf.plain.step act).1 ∧
      (shelf.step act).2.sets.size = shelf.sets.size ∧
      (shelf.step act).2.Sound fun place => spent place + shelf.gain act place := by
  have hplain : ∀ space : Nat, shelf.plain.spaces[space]? = shelf.spaces[space]?.map Space.plain :=
    fun _ => Array.getElem?_map
  cases act with
  | register set item =>
    have he : Space.Evolves shelf.sets (shelf.register set item).2.sets spent
        fun place => spent place + shelf.gain (.register set item) place :=
      evolves_register shelf set item
    obtain ⟨hresult, -⟩ := register_congr
      (show ({ sets := shelf.plain.sets } : Shelf α).sets = shelf.sets from rfl) set item
    refine ⟨congrArg Reply.registered hresult.symm, he.size_eq, ?_⟩
    have hsound := h.evolves he hfew
    rw [← spaces_register shelf set item] at hsound
    exact hsound
  | lock set => exact ⟨rfl, Array.size_modify, h.evolves (evolves_lock shelf set) hfew⟩
  | merge space set =>
    simp only [Shelf.step, PlainShelf.step, Shelf.merge, PlainShelf.merge, hplain]
    cases hspace : shelf.spaces[space]? with
    | none => exact ⟨rfl, rfl, h⟩
    | some old =>
      have hold := h old (Array.mem_of_getElem? hspace)
      obtain ⟨hconflicts, -⟩ := Space.merge_eq_plain hold.distinctNames set
      exact ⟨congrArg Reply.merged hconflicts, rfl, h.put (hold.merge set) space⟩
  | lookup space id =>
    simp only [Shelf.step, PlainShelf.step, Shelf.lookup, PlainShelf.resolve, hplain]
    cases hspace : shelf.spaces[space]? with
    | none => exact ⟨rfl, rfl, h⟩
    | some old =>
      obtain ⟨hfound, hvalid⟩ := (h old (Array.mem_of_getElem? hspace)).lookup id
      exact ⟨congrArg Reply.found hfound, rfl, h.put hvalid space⟩

/-- A whole history gives back what it does on the plain shelf, and leaves the same. -/
theorem Sound.run (h : shelf.Sound spent) (acts : List (Act α))
    (hfew : ∀ place < shelf.sets.size, spent place + shelf.taken place acts < UInt64.size) :
    replies Shelf.step shelf acts = replies PlainShelf.step shelf.plain acts ∧
      (after Shelf.step shelf acts).plain = after PlainShelf.step shelf.plain acts ∧
      (after Shelf.step shelf acts).sets.size = shelf.sets.size ∧
      (after Shelf.step shelf acts).Sound fun place => spent place + shelf.taken place acts := by
  induction acts generalizing shelf spent with
  | nil => exact ⟨rfl, rfl, rfl, h⟩
  | cons act acts ih =>
    simp only [taken_cons, ← Nat.add_assoc] at hfew ⊢
    obtain ⟨hplain, -⟩ := h.distinct.step act
    obtain ⟨hreply, hsize, hsound⟩ := h.step act fun place hplace =>
      Nat.lt_of_le_of_lt (Nat.le_add_right _ _) (hfew place hplace)
    obtain ⟨hreplies, hafter, hsizes, hsounds⟩ := ih hsound fun place hplace =>
      hfew place (hsize ▸ hplace)
    rw [hplain] at hreplies hafter
    refine ⟨?_, hafter, hsizes.trans hsize, hsounds⟩
    simp only [replies, hreply, hreplies]

omit [Registrable α] in
theorem sound_fresh (sets : Array (ItemSet α)) (names : Array String) :
    (fresh sets names).Sound fun _ => 0 := by
  intro space hspace
  obtain ⟨name, -, rfl⟩ := Array.mem_map.mp hspace
  exact ⟨by simp, by simp, by simp, by simp⟩

end Shelf

/-! ## What a space answers -/

namespace PlainShelf

variable {plain : PlainShelf α}

theorem sets_merge (plain : PlainShelf α) (space set : Nat) :
    (plain.merge space set).2.sets = plain.sets := by
  unfold merge
  split <;> rfl

theorem keyed_step (h : ∀ set ∈ plain.sets, set.Keyed) (act : Act α) :
    ∀ set ∈ (plain.step act).2.sets, set.Keyed := by
  cases act with
  | register place item =>
    intro set hset
    simp only [step] at hset
    rcases Shelf.register_cases { sets := plain.sets } place item with
      ⟨-, hkept⟩ | ⟨old, new, hold, hnew, htaken⟩ | ⟨_, _, -, -, hkept⟩
    · rw [hkept] at hset
      exact h set hset
    · rw [htaken] at hset
      rcases Array.mem_or_eq_of_mem_setIfInBounds hset with hset | rfl
      · exact h set hset
      · obtain ⟨-, -, -, rfl⟩ := ItemSet.register_eq_ok hnew
        exact ItemSet.keyed_insert (h old (Array.mem_of_getElem? hold)) item
    · rw [hkept] at hset
      exact h set hset
  | lock place =>
    intro set hset
    obtain ⟨i, hi⟩ := Array.mem_iff_getElem?.mp hset
    simp only [step, Shelf.lock, Array.getElem?_modify] at hi
    split at hi
    · obtain ⟨old, hold, rfl⟩ := Option.map_eq_some_iff.mp hi
      exact h old (Array.mem_of_getElem? hold)
    · exact h set (Array.mem_of_getElem? hi)
  | merge space set =>
    simp only [step, sets_merge]
    exact h
  | lookup space id => exact h

theorem keyed_after (h : ∀ set ∈ plain.sets, set.Keyed) (acts : List (Act α)) :
    ∀ set ∈ (after step plain acts).sets, set.Keyed := by
  induction acts generalizing plain with
  | nil => exact h
  | cons act acts ih => exact ih (keyed_step h act)

theorem key_of_resolve (h : ∀ set ∈ plain.sets, set.Keyed) {space : Nat} {id : UInt16}
    {found : Found α} (hfound : plain.resolve space id = some found) : key found.item = id := by
  simp only [resolve, Option.bind_eq_bind, Option.bind_eq_some_iff] at hfound
  obtain ⟨old, -, hfound⟩ := hfound
  obtain ⟨place, -, hplace⟩ := List.exists_of_findSome?_eq_some hfound
  simp only [Option.bind_eq_bind, Option.bind_eq_some_iff, Option.pure_def,
    Option.some.injEq] at hplace
  obtain ⟨set, hset, item, hitem, rfl⟩ := hplace
  exact h set (Array.mem_of_getElem? hset) id item hitem

end PlainShelf

namespace Shelf

variable {shelf : Shelf α} {spent : Nat → Nat}

omit [Registrable α] in
theorem plain_fresh (sets : Array (ItemSet α)) (names : Array String) :
    (fresh sets names).plain = .fresh sets names := by
  unfold fresh Shelf.plain PlainShelf.fresh
  rw [Array.map_map]
  rfl

/-- A history and what comes later, from the start on. -/
theorem run_fresh (sets : Array (ItemSet α)) (names : Array String) (acts later : List (Act α))
    (hfew : ∀ place < sets.size, (fresh sets names).taken place (acts ++ later) < UInt64.size) :
    let shelf := after step (fresh sets names) acts
    let plain := after PlainShelf.step (.fresh sets names) acts
    shelf.plain = plain ∧ (∃ spent, shelf.Sound spent) ∧
      replies step shelf later = replies PlainShelf.step plain later := by
  intro shelf plain
  simp only [taken_append] at hfew
  obtain ⟨-, hplain, hsize, hsound⟩ := (sound_fresh sets names).run acts fun place hplace => by
    have hbound := hfew place hplace
    omega
  rw [plain_fresh] at hplain
  obtain ⟨hreplies, -⟩ := hsound.run later fun place hplace => by
    have hbound := hfew place (hsize ▸ hplace)
    omega
  rw [hplain] at hreplies
  exact ⟨hplain, ⟨_, hsound⟩, hreplies⟩

omit [Registrable α] in
/-- A look-up on a sound shelf finds what the plain shelf does. -/
theorem Sound.lookup (h : shelf.Sound spent) (space : Nat) (id : UInt16) :
    (shelf.lookup space id).1 = shelf.plain.resolve space id := by
  have hplain : shelf.plain.spaces[space]? = shelf.spaces[space]?.map Space.plain :=
    Array.getElem?_map
  unfold Shelf.lookup PlainShelf.resolve
  cases hspace : shelf.spaces[space]? with
  | none =>
    rw [hplain, hspace]
    rfl
  | some old =>
    rw [hplain, hspace]
    exact ((h old (Array.mem_of_getElem? hspace)).lookup id).1

/-- After any history, a space gives for an id what the plain shelf finds for it at that moment,
searching from the set merged last to the one merged first, and the placeholder where it finds
nothing; the item always has the id that was asked for. Whatever happens later gives back what it
does on the plain shelf, and what it does where no look-up came before. -/
theorem a_space_answers_as_if_it_remembered_nothing [LawfulRegistrable α]
    (sets : Array (ItemSet α)) (names : Array String) (hkeyed : ∀ set ∈ sets, set.Keyed)
    (acts later : List (Act α))
    (hfew : ∀ place < sets.size, (fresh sets names).taken place (acts ++ later) < UInt64.size) :
    let shelf := after step (fresh sets names) acts
    let plain := after PlainShelf.step (.fresh sets names) acts
    (∀ space id,
      shelf.get space id = ((plain.resolve space id).map Found.item).getD (placeholder id) ∧
      (shelf.lookup space id).1.map Found.set = (plain.resolve space id).map Found.set ∧
      key (shelf.get space id) = id) ∧
    replies step shelf later = replies PlainShelf.step plain later ∧
    replies step (after step (fresh sets names) (acts.filter fun act => !act.isLookup)) later =
      replies step shelf later := by
  intro shelf plain
  obtain ⟨hplain, ⟨spent, hsound⟩, hreplies⟩ := run_fresh sets names acts later hfew
  refine ⟨?_, hreplies, ?_⟩
  · intro space id
    have hlookup : (shelf.lookup space id).1 = plain.resolve space id := by
      rw [hsound.lookup, hplain]
    have hget : shelf.get space id =
        ((plain.resolve space id).map Found.item).getD (placeholder id) := by
      rw [get, itemOf, hlookup]
    refine ⟨hget, by rw [hlookup], ?_⟩
    rw [hget]
    cases hfound : plain.resolve space id with
    | none => exact LawfulRegistrable.key_placeholder id
    | some found => exact PlainShelf.key_of_resolve (PlainShelf.keyed_after hkeyed acts) hfound
  · have hasked : ∀ place < sets.size, (fresh sets names).taken place
        ((acts.filter fun act => !act.isLookup) ++ later) < UInt64.size := by
      intro place hplace
      rw [← taken_filter rfl, List.filter_append, List.filter_filter]
      simp only [Bool.and_self]
      rw [← List.filter_append, taken_filter rfl]
      exact hfew place hplace
    obtain ⟨-, -, hunasked⟩ := run_fresh sets names _ later hasked
    rw [hunasked, PlainShelf.after_filter, hreplies]

/-- Two sets of one name, and one that is filled late. -/
def threeSets : Array (ItemSet Tag) := #[
  .preloaded "Base" 0 9 [.make 1 "One"] false,
  .preloaded "Late" 0 9 [] false,
  .preloaded "Base" 0 9 [.make 2 "Two"] false]

/-- Registrations behind the back of a space that has answered before, and a set that takes the
place of its namesake. -/
def lateActs : List (Act Tag) := [
  .merge 0 0, .lookup 0 1, .merge 0 1, .merge 1 1, .lookup 0 1, .register 1 (.make 1 "Uno"),
  .register 1 (.make 10 "Ten"), .lookup 0 1, .register 1 (.make 2 "Dos"), .lookup 0 2, .merge 0 2]

/-- The set filled late answers in front of the older one, and the one that took the place of its
namesake in front of both. -/
theorem a_space_answers_as_if_it_remembered_nothing_of_lateActs :
    let shelf := after step (fresh threeSets #["First", "Second"]) lateActs
    (∀ set ∈ threeSets, set.Keyed) ∧
      (∀ place < threeSets.size,
        (fresh threeSets #["First", "Second"]).taken place (lateActs ++ [.lookup 1 2]) <
          UInt64.size) ∧
      (shelf.lookup 0 1).1.map Found.set = some "Late" ∧ (shelf.get 0 1).name = "Uno" ∧
      (shelf.lookup 0 2).1.map Found.set = some "Base" ∧ (shelf.get 0 2).name = "Two" ∧
      (shelf.lookup 1 2).1.map Found.set = some "Late" ∧ (shelf.get 0 7).id = 7 := by
  intro shelf
  have hkeyed : ∀ set ∈ threeSets, set.Keyed := by
    intro set hset
    simp only [threeSets, List.mem_toArray, List.mem_cons, List.not_mem_nil, or_false] at hset
    rcases hset with rfl | rfl | rfl
    all_goals exact ItemSet.keyed_preloaded _ _ _ _ _
  have hfew : ∀ place < threeSets.size,
      (fresh threeSets #["First", "Second"]).taken place (lateActs ++ [.lookup 1 2]) <
        UInt64.size := by
    decide +kernel
  obtain ⟨hanswers, -, -⟩ := a_space_answers_as_if_it_remembered_nothing threeSets
    #["First", "Second"] hkeyed lateActs [.lookup 1 2] hfew
  refine ⟨hkeyed, hfew, ?_, ?_, ?_, ?_, ?_, (hanswers 0 7).2.2⟩
  · rw [(hanswers 0 1).2.1]
    decide +kernel
  · rw [(hanswers 0 1).1]
    decide +kernel
  · rw [(hanswers 0 2).2.1]
    decide +kernel
  · rw [(hanswers 0 2).1]
    decide +kernel
  · rw [(hanswers 1 2).2.1]
    decide +kernel

end Shelf

end Tiff
