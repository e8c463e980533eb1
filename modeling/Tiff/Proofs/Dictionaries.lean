-- Dictionaries. A dictionary is made once for a reading, while every look-up
-- changes what the spaces of a shelf remember. None of that shows: after any
-- look-ups a registry has the dictionaries that it had before.

import Tiff.Proofs.Memory
import Tiff.Registry

namespace Tiff

variable {α : Type}

/-! ## Look-ups in a space -/

namespace Space

/-- What is found is what a valid memory has, and what the members have where it has nothing. -/
theorem lookup_fst (sets : Array (ItemSet α)) (space : Space α) (id : UInt16) :
    (space.lookup sets id).1 =
      (space.refreshed sets).memory[id]?.or ((space.refreshed sets).search sets id) := by
  unfold lookup
  cases hmemory : (space.refreshed sets).memory[id]? with
  | some found => simp only [hmemory, Option.some_or]
  | none => cases hsearch : (space.refreshed sets).search sets id <;> simp [hmemory, hsearch]

/-- What a look-up leaves has the members of now, and remembers at most one answer more: the one
that a search finds. -/
theorem lookup_snd (sets : Array (ItemSet α)) (space : Space α) (id : UInt16) :
    (space.lookup sets id).2.members = (space.refreshed sets).members ∧
      ((space.lookup sets id).2.memory = (space.refreshed sets).memory ∨
        ∃ found, (space.refreshed sets).memory[id]? = none ∧
          (space.refreshed sets).search sets id = some found ∧
          (space.lookup sets id).2.memory = (space.refreshed sets).memory.insert id found) := by
  unfold lookup
  cases hmemory : (space.refreshed sets).memory[id]? with
  | some found => exact ⟨by simp only [hmemory], .inl (by simp only [hmemory])⟩
  | none =>
    cases hsearch : (space.refreshed sets).search sets id with
    | none => exact ⟨by simp only [hmemory, hsearch], .inl (by simp only [hmemory, hsearch])⟩
    | some found =>
      exact ⟨by simp only [hmemory, hsearch],
        .inr ⟨found, rfl, rfl, by simp only [hmemory, hsearch]⟩⟩

theorem refreshed_lookup (sets : Array (ItemSet α)) (space : Space α) (id : UInt16) :
    (space.lookup sets id).2.refreshed sets = (space.lookup sets id).2 := by
  have hcurrent : (space.lookup sets id).2.isStale sets = false := by
    rw [isStale_eq_false, (lookup_snd sets space id).1]
    exact isCurrent_refreshed
  rw [refreshed, hcurrent]
  rfl

/-- A look-up does not show in the ones that follow. -/
theorem lookup_lookup (sets : Array (ItemSet α)) (space : Space α) (id later : UInt16) :
    ((space.lookup sets id).2.lookup sets later).1 = (space.lookup sets later).1 := by
  rw [lookup_fst, lookup_fst, refreshed_lookup]
  obtain ⟨hmembers, hmemory⟩ := lookup_snd sets space id
  have hsearch : (space.lookup sets id).2.search sets later =
      (space.refreshed sets).search sets later := by
    rw [search, search, hmembers]
  rw [hsearch]
  rcases hmemory with hsame | ⟨found, hnone, hfound, hmore⟩
  · rw [hsame]
  · rw [hmore, Std.TreeMap.getElem?_insert]
    split
    · rename_i hid
      obtain rfl := Std.LawfulEqCmp.eq_of_compare hid
      rw [hnone, hfound]
      rfl
    · rfl

end Space

/-! ## Look-ups on a shelf -/

namespace Shelf

theorem lookup_fst (shelf : Shelf α) (space : Nat) (id : UInt16) :
    (shelf.lookup space id).1 =
      shelf.spaces[space]?.bind fun s => (s.lookup shelf.sets id).1 := by
  unfold lookup
  cases shelf.spaces[space]? <;> rfl

variable [Registrable α]

/-- A look-up changes one space, and in that nothing that shows. -/
theorem get_lookup (shelf : Shelf α) (space space' : Nat) (id id' : UInt16) :
    (shelf.lookup space id).2.get space' id' = shelf.get space' id' := by
  unfold get
  congr 1
  cases hspace : shelf.spaces[space]? with
  | none => rw [show (shelf.lookup space id).2 = shelf by simp only [lookup, hspace]]
  | some old =>
    obtain ⟨hlt, -⟩ := Array.getElem?_eq_some_iff.mp hspace
    have hnext : (shelf.lookup space id).2 = { shelf with
        spaces := shelf.spaces.setIfInBounds space (old.lookup shelf.sets id).2 } := by
      simp only [lookup, hspace]
    rw [lookup_fst, lookup_fst, hnext, Array.getElem?_setIfInBounds]
    by_cases hsame : space = space'
    · subst hsame
      rw [if_pos rfl, if_pos hlt, hspace]
      exact Space.lookup_lookup shelf.sets old id id'
    · rw [if_neg hsame]

/-- After any look-ups every id has the item that it had before. -/
theorem get_after {acts : List (Act α)} (h : ∀ act ∈ acts, act.isLookup = true) (shelf : Shelf α)
    (space : Nat) (id : UInt16) : (after step shelf acts).get space id = shelf.get space id := by
  induction acts generalizing shelf with
  | nil => rfl
  | cons act acts ih =>
    obtain ⟨hfirst, hrest⟩ := List.forall_mem_cons.mp h
    rw [after_cons, ih hrest]
    cases act with
    | lookup asked other => exact get_lookup shelf asked space other id
    | register set item => cases hfirst
    | lock set => cases hfirst
    | merge space set => cases hfirst

end Shelf

/-! ## Dictionaries of a registry -/

/-- What is looked up while directories are read, of tags and of types, leaves the registry with
the dictionaries that it had. So a reading may take them from the start. -/
theorem Registry.dictionary_after_lookups (registry : Registry) {tags : List (Act Tag)}
    {types : List (Act FieldType)} (htags : ∀ act ∈ tags, act.isLookup = true)
    (htypes : ∀ act ∈ types, act.isLookup = true) (space : Nat) :
    Registry.dictionary { registry with
        tags := after Shelf.step registry.tags tags
        types := after Shelf.step registry.types types } space =
      registry.dictionary space := by
  unfold dictionary
  congr 1
  · funext id
    exact Shelf.get_after htags registry.tags space id
  · funext id
    exact Shelf.get_after htypes registry.types registry.typeSpace id

end Tiff
