-- How readings end. A reading ends with an answer or an error and leaves a
-- reader behind, and a sequence of readings ends as its first failure says. Two
-- readings go alike when related readers lead both to the same end.

import Tiff.Reader

namespace Tiff

/-- An end can be compared with an error, also where answers cannot be compared. -/
instance {α : Type} (a : Except Error α) (e : Error) : Decidable (a = .error e) :=
  match a with
  | .ok _ => .isFalse nofun
  | .error e' => decidable_of_iff (e' = e) (by rw [Except.error.injEq])

instance {α : Type} [DecidableEq α] : DecidableEq (Except Error α)
  | .ok a, .ok b => decidable_of_iff (a = b) (by rw [Except.ok.injEq])
  | .error e, .error e' => decidable_of_iff (e = e') (by rw [Except.error.injEq])
  | .ok _, .error _ => .isFalse nofun
  | .error _, .ok _ => .isFalse nofun

namespace ReadM

variable {α β : Type}

/-! ## One reading -/

@[simp] theorem outcome_pure (a : α) (reader : Reader) :
    (pure a : ReadM α).outcome reader = (.ok a, reader) := rfl

@[simp] theorem outcome_throw (e : Error) (reader : Reader) :
    (throw e : ReadM α).outcome reader = (.error e, reader) := rfl

@[simp] theorem outcome_get (reader : Reader) :
    (get : ReadM Reader).outcome reader = (.ok reader, reader) := rfl

theorem outcome_bind (m : ReadM α) (f : α → ReadM β) (reader : Reader) :
    (m >>= f).outcome reader = match m.outcome reader with
      | (.ok a, reader') => (f a).outcome reader'
      | (.error e, reader') => (.error e, reader') := by
  unfold outcome
  simp only [EStateM.run, bind, EStateM.bind]
  rcases m reader with ⟨a, reader'⟩ | ⟨e, reader'⟩ <;> rfl

theorem outcome_bind_ok {m : ReadM α} {f : α → ReadM β} {reader reader' : Reader} {a : α}
    (h : m.outcome reader = (.ok a, reader')) :
    (m >>= f).outcome reader = (f a).outcome reader' := by
  rw [outcome_bind, h]

theorem outcome_bind_error {m : ReadM α} {f : α → ReadM β} {reader reader' : Reader} {e : Error}
    (h : m.outcome reader = (.error e, reader')) :
    (m >>= f).outcome reader = (.error e, reader') := by
  rw [outcome_bind, h]

/-- A sequence that succeeds has a first part that does. -/
theorem outcome_bind_eq_ok {m : ReadM α} {f : α → ReadM β} {reader reader' : Reader} {b : β}
    (h : (m >>= f).outcome reader = (.ok b, reader')) :
    ∃ a middle, m.outcome reader = (.ok a, middle) ∧ (f a).outcome middle = (.ok b, reader') := by
  rw [outcome_bind] at h
  rcases hm : m.outcome reader with ⟨e | a, middle⟩
  · simp [hm] at h
  · exact ⟨a, middle, rfl, by simpa [hm] using h⟩

theorem outcome_bind_ofExcept_ok {a : Except Error α} {x : α} {f : α → ReadM β} {reader : Reader}
    (h : a = .ok x) : (MonadExcept.ofExcept a >>= f).outcome reader = (f x).outcome reader := by
  subst h
  rfl

theorem outcome_bind_ofExcept_error {a : Except Error α} {e : Error} {f : α → ReadM β}
    {reader : Reader} (h : a = .error e) :
    (MonadExcept.ofExcept a >>= f).outcome reader = (.error e, reader) := by
  subst h
  rfl

theorem outcome_bind_pure (m : ReadM α) (f : α → β) (reader : Reader) :
    (m >>= fun a => pure (f a)).outcome reader =
      ((m.outcome reader).1.map f, (m.outcome reader).2) := by
  rw [outcome_bind]
  rcases m.outcome reader with ⟨e | a, reader'⟩ <;> rfl

/-- Where something is known of the answer, there is one. -/
theorem exists_of_map_outcome {m : ReadM α} {f : α → β} {reader : Reader} {b : β}
    (h : (m.outcome reader).1.map f = .ok b) :
    ∃ a after, m.outcome reader = (.ok a, after) ∧ f a = b := by
  rcases hread : m.outcome reader with ⟨e | a, after⟩ <;> rw [hread] at h
  · cases h
  · exact ⟨a, after, rfl, Except.ok.inj h⟩

theorem outcome_adaptExcept (f : Error → Error) (m : ReadM α) (reader : Reader) :
    ReadM.outcome (EStateM.adaptExcept f m) reader =
      ((m.outcome reader).1.mapError f, (m.outcome reader).2) := by
  unfold outcome
  simp only [EStateM.run, EStateM.adaptExcept]
  rcases m reader with ⟨a, reader'⟩ | ⟨e, reader'⟩ <;> rfl

theorem outcome_adaptExcept_ok (f : Error → Error) {m : ReadM α} {reader reader' : Reader} {a : α}
    (h : m.outcome reader = (.ok a, reader')) :
    ReadM.outcome (EStateM.adaptExcept f m) reader = (.ok a, reader') := by
  rw [outcome_adaptExcept, h]
  rfl

theorem outcome_adaptExcept_error (f : Error → Error) {m : ReadM α} {reader reader' : Reader}
    {e : Error} (h : m.outcome reader = (.error e, reader')) :
    ReadM.outcome (EStateM.adaptExcept f m) reader = (.error (f e), reader') := by
  rw [outcome_adaptExcept, h]
  rfl

/-- Only failures are told in another way. -/
theorem outcome_adaptExcept_eq_ok {f : Error → Error} {m : ReadM α} {reader reader' : Reader}
    {a : α} (h : ReadM.outcome (EStateM.adaptExcept f m) reader = (.ok a, reader')) :
    m.outcome reader = (.ok a, reader') := by
  rcases hm : m.outcome reader with ⟨e | b, behind⟩
  · rw [outcome_adaptExcept_error f hm] at h
    cases h
  · rw [outcome_adaptExcept_ok f hm] at h
    exact h

end ReadM

namespace Reader

@[simp] theorem outcome_seek (position : Nat) (reader : Reader) :
    (seek position).outcome reader =
      (.ok (), { reader with cursor := { reader.cursor with position } }) := rfl

@[simp] theorem outcome_setOrder (order : ByteOrder) (reader : Reader) :
    (setOrder order).outcome reader =
      (.ok (), { reader with cursor := { reader.cursor with order } }) := rfl

theorem outcome_detached {α : Type} (m : ReadM α) (reader : Reader) :
    (detached m).outcome reader =
      ((m.outcome reader).1, { (m.outcome reader).2 with cursor := reader.cursor }) := by
  unfold ReadM.outcome detached
  simp only [EStateM.run]
  rcases m reader with ⟨a, reader'⟩ | ⟨e, reader'⟩ <;> rfl

/-- An attempt always succeeds, whatever comes of it. -/
theorem outcome_attempt {α : Type} (m : ReadM α) (reader : Reader) :
    (attempt m).outcome reader = (.ok (m.outcome reader).1, (m.outcome reader).2) := by
  unfold ReadM.outcome attempt
  simp only [EStateM.run]
  rcases m reader with ⟨a, reader'⟩ | ⟨e, reader'⟩ <;> rfl

end Reader

/-! ## Two readings -/

/-- Two ends of a reading: related answers, or the same error. -/
inductive SameEnd {α β : Type} (Q : α → β → Prop) : Except Error α → Except Error β → Prop
  | ok {a : α} {b : β} (h : Q a b) : SameEnd Q (.ok a) (.ok b)
  | error (e : Error) : SameEnd Q (.error e) (.error e)

theorem sameEnd_eq_iff {α : Type} {a b : Except Error α} : SameEnd Eq a b ↔ a = b := by
  constructor
  · rintro (⟨rfl⟩ | _) <;> rfl
  · rintro rfl
    cases a with
    | ok a => exact .ok rfl
    | error e => exact .error e

/-- Readings that lead related readers to the same end, and leave related readers. -/
def Alike {α β : Type} (R : Reader → Reader → Prop) (Q : α → β → Prop) (m : ReadM α)
    (m' : ReadM β) : Prop :=
  ∀ r r', R r r' →
    SameEnd Q (m.outcome r).1 (m'.outcome r').1 ∧ R (m.outcome r).2 (m'.outcome r').2

namespace Alike

variable {α α' β β' : Type} {R : Reader → Reader → Prop} {Q : α → β → Prop} {P : α' → β' → Prop}

theorem pure {a : α} {b : β} (h : Q a b) : Alike R Q (pure a) (pure b) :=
  fun _ _ hr => ⟨.ok h, hr⟩

theorem throw (e : Error) : Alike R Q (throw e) (throw e) := fun _ _ hr => ⟨.error e, hr⟩

theorem bind {m : ReadM α} {m' : ReadM β} {f : α → ReadM α'} {f' : β → ReadM β'}
    (hm : Alike R Q m m') (hf : ∀ a b, Q a b → Alike R P (f a) (f' b)) :
    Alike R P (m >>= f) (m' >>= f') := by
  intro r r' hr
  obtain ⟨hend, hleft⟩ := hm r r' hr
  rw [ReadM.outcome_bind, ReadM.outcome_bind]
  rcases h : m.outcome r with ⟨e | a, s⟩ <;> rcases h' : m'.outcome r' with ⟨e' | b, s'⟩ <;>
    rw [h, h'] at hend hleft <;> cases hend
  · exact ⟨.error e, hleft⟩
  · exact hf a b ‹_› s s' hleft

/-- A reading goes as it goes. -/
theorem refl (m : ReadM α) : Alike Eq Eq m m := by
  rintro r _ rfl
  exact ⟨sameEnd_eq_iff.mpr rfl, rfl⟩

theorem ite {p : Prop} [Decidable p] {m n : ReadM α} {m' n' : ReadM β} (hm : Alike R Q m m')
    (hn : Alike R Q n n') : Alike R Q (if p then m else n) (if p then m' else n') := by
  by_cases h : p
  · rwa [if_pos h, if_pos h]
  · rwa [if_neg h, if_neg h]

theorem detached {m : ReadM α} {m' : ReadM β} (h : Alike Eq Q m m') :
    Alike Eq Q (Reader.detached m) (Reader.detached m') := by
  rintro r _ rfl
  obtain ⟨hend, hleft⟩ := h r r rfl
  rw [Reader.outcome_detached, Reader.outcome_detached, hleft]
  exact ⟨hend, rfl⟩

theorem adaptExcept {m : ReadM α} {m' : ReadM β} (f : Error → Error) (h : Alike R Q m m') :
    Alike R Q (EStateM.adaptExcept f m) (EStateM.adaptExcept f m') := by
  intro r r' hr
  obtain ⟨hend, hleft⟩ := h r r' hr
  rw [ReadM.outcome_adaptExcept, ReadM.outcome_adaptExcept]
  refine ⟨?_, hleft⟩
  rcases h : (m.outcome r).1 with e | a <;> rcases h' : (m'.outcome r').1 with e' | b <;>
    rw [h, h'] at hend <;> cases hend
  · exact .error (f e)
  · exact .ok ‹_›

end Alike

end Tiff
