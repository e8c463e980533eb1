-- Limits refuse, and do nothing else. A reading under wider limits goes the same
-- way, up to a place where the narrower ones refuse to go on. No limit decides
-- what is read, or which other fault is found.

import Tiff.Proofs.Outcome
import Tiff.Container

namespace Tiff

/-! ## Wider limits -/

/-- Limits none of which goes beyond the other ones. -/
structure Limits.Within (limits limits' : Limits) : Prop where
  directories_le : limits.directories ≤ limits'.directories
  entries_le : limits.entries ≤ limits'.entries
  valueSize_le : limits.valueSize ≤ limits'.valueSize

namespace Error

/-- What an error comes down to, without the places where it was met. -/
def innermost : Error → Error
  | value _ _ cause => cause.innermost
  | directory _ _ cause => cause.innermost
  | e => e

/-- Whether an error says that there is too much of something: of directories, of entries in a
directory, or of bytes in a value. -/
def isExcess : Error → Bool
  | tooManyDirectories _ | directoryTooLarge .. | valueTooLarge .. => true
  | _ => false

end Error

/-! ## Readings under two limits -/

/-- Two readings of which the second one goes like the first, unless that ends because there is
too much of something. -/
def Widens {α : Type} (m m' : ReadM α) : Prop :=
  ∀ reader, m'.outcome reader = m.outcome reader ∨
    ∃ e, (m.outcome reader).1 = .error e ∧ e.innermost.isExcess = true

namespace Widens

variable {α β : Type}

theorem refl (m : ReadM α) : Widens m m := fun _ => .inl rfl

/-- Where there is too much, the second reading may go anywhere. -/
theorem throw {e : Error} (h : e.innermost.isExcess = true) (m : ReadM α) :
    Widens (throw e) m := fun _ => .inr ⟨e, rfl, h⟩

theorem bind {m m' : ReadM α} {f f' : α → ReadM β} (hm : Widens m m')
    (hf : ∀ a, Widens (f a) (f' a)) : Widens (m >>= f) (m' >>= f') := by
  intro reader
  rcases hm reader with hsame | ⟨e, he, hexcess⟩
  · rcases h : m.outcome reader with ⟨e | a, middle⟩
    · rw [ReadM.outcome_bind_error h, ReadM.outcome_bind_error (hsame.trans h)]
      exact .inl rfl
    · rw [ReadM.outcome_bind_ok h, ReadM.outcome_bind_ok (hsame.trans h)]
      exact hf a middle
  · right
    refine ⟨e, ?_, hexcess⟩
    rw [ReadM.outcome_bind_error (Prod.ext he rfl)]

theorem adaptExcept {m m' : ReadM α} (h : Widens m m') (f : Error → Error)
    (hf : ∀ e, (f e).innermost = e.innermost) :
    Widens (EStateM.adaptExcept f m) (EStateM.adaptExcept f m') := by
  intro reader
  rw [ReadM.outcome_adaptExcept, ReadM.outcome_adaptExcept]
  rcases h reader with hsame | ⟨e, he, hexcess⟩
  · exact .inl (by rw [hsame])
  · right
    refine ⟨f e, ?_, by rwa [hf]⟩
    rw [he]
    rfl

theorem ite {p : Prop} [Decidable p] {m m' n n' : ReadM α} (hm : Widens m m')
    (hn : Widens n n') : Widens (if p then m else n) (if p then m' else n') := by
  by_cases h : p
  · rwa [if_pos h, if_pos h]
  · rwa [if_neg h, if_neg h]

/-- Tests of two limits, of which the first one refuses whenever the second one does. -/
theorem test {p p' : Prop} [Decidable p] [Decidable p'] {e e' : Error} {m m' : ReadM α}
    (hp : p' → p) (he : e.innermost.isExcess = true) (hm : Widens m m') :
    Widens (if p then MonadExcept.throw e else m) (if p' then MonadExcept.throw e' else m') := by
  by_cases h : p
  · rw [if_pos h]
    exact throw he _
  · rw [if_neg h, if_neg (mt hp h)]
    exact hm

end Widens

section

variable {limits limits' : Limits} (hle : limits.Within limits') (words : Dictionary)
  (layout : Layout)

include hle

theorem Field.widens_resolve (entry : Entry) :
    Widens (resolve words limits entry) (resolve words limits' entry) := by
  apply (Widens.refl Reader.order).bind
  intro order
  apply Widens.test _ rfl (Widens.refl _)
  apply Or.imp_right
  exact Nat.lt_of_le_of_lt hle.valueSize_le

theorem Field.widens_read :
    Widens (read words limits layout) (read words limits' layout) :=
  (Widens.refl (Entry.read layout)).bind fun entry => widens_resolve hle words entry

theorem Directory.widens_readFields (count : Nat) (table : FieldTable) :
    Widens (readFields words limits layout count table)
      (readFields words limits' layout count table) := by
  induction count generalizing table with
  | zero => exact Widens.refl _
  | succ count ih =>
    exact (Field.widens_read hle words layout).bind fun field => ih (table.push field)

theorem Directory.widens_read (offset : Nat) :
    Widens (read words limits layout offset) (read words limits' layout offset) := by
  apply (Widens.refl (Reader.seek offset)).bind
  intro _
  apply (Widens.refl (Reader.readNat layout.countSize)).bind
  intro count
  apply (Widens.refl MonadState.get).bind
  intro reader
  apply Widens.test _ rfl
  · exact (widens_readFields hle words layout count .empty).bind fun table => Widens.refl _
  · apply Or.imp_left
    exact Nat.lt_of_le_of_lt hle.entries_le

/-- A walk that may take more directories goes along the same chain. -/
theorem Container.widens_walk {left left' : Nat} (hleft : left ≤ left') (visited : List Nat)
    (done : List Directory) (offset : Nat) :
    Widens (walk words limits layout left visited done offset)
      (walk words limits' layout left' visited done offset) := by
  induction left generalizing left' visited done offset with
  | zero =>
    unfold walk
    exact .ite (.refl _) (.ite (.refl _) (.throw rfl _))
  | succ left ih =>
    obtain ⟨left', rfl⟩ := Nat.exists_eq_add_of_le' (Nat.lt_of_lt_of_le (Nat.succ_pos left) hleft)
    unfold walk
    apply Widens.ite (.refl _)
    apply Widens.ite (.refl _)
    apply ((Directory.widens_read hle words layout offset).adaptExcept
      (Error.directory done.length offset) fun _ => rfl).bind
    intro directory
    exact ih (Nat.le_of_succ_le_succ hleft) _ _ _

/-- A container is read as under the narrower limits, but notes the wider ones. -/
theorem Container.widens_read (registry : Registry) :
    Widens (do
        let container ← read registry limits
        return { container with limits := limits' })
      (read registry limits') := by
  unfold read
  rw [bind_assoc]
  apply (Widens.refl (Header.read registry.dialects)).bind
  intro header
  rw [bind_assoc]
  apply (widens_walk hle registry.defaultDictionary header.layout hle.directories_le [] []
    header.first).bind
  intro directories
  exact Widens.refl _

end

/-! ## Containers -/

namespace Container

/-- Limits only refuse. A container that is read is read just so under wider limits, which it keeps
instead. An error that does not come down to there being too much of something is the same under
wider limits. Either way the reader is left as before. -/
theorem limits_only_refuse (registry : Registry) (limits limits' : Limits)
    (hle : limits.Within limits') (reader after : Reader) :
    (∀ container, (read registry limits).outcome reader = (.ok container, after) →
      (read registry limits').outcome reader =
        (.ok { container with limits := limits' }, after)) ∧
    ∀ e, (read registry limits).outcome reader = (.error e, after) →
      e.innermost.isExcess = false →
        (read registry limits').outcome reader = (.error e, after) := by
  refine ⟨?_, ?_⟩
  · intro container hread
    rcases widens_read hle registry reader with hsame | ⟨e, he, -⟩
    · rw [hsame, ReadM.outcome_bind_ok hread, ReadM.outcome_pure]
    · rw [ReadM.outcome_bind_ok hread] at he
      cases he
  · intro e hread hother
    rcases widens_read hle registry reader with hsame | ⟨e', he, hexcess⟩
    · rw [hsame, ReadM.outcome_bind_error hread]
    · rw [ReadM.outcome_bind_error hread] at he
      cases he
      rw [hexcess] at hother
      cases hother

/-- A file of one directory without entries, which is linked to an offset. -/
def linkedTo (offset : UInt8) : ByteArray :=
  ⟨#[0x49, 0x49, 42, 0, 8, 0, 0, 0, 0, 0, offset, 0, 0, 0]⟩

/-- No limit is too narrow for a chain of one directory without entries, if it allows for one. So
the chain that ends there is read, and the one that comes back is called circular. -/
theorem limits_only_refuse_of_linkedTo :
    let tight : Limits := { directories := 1, entries := 0, valueSize := 0 }
    let outcome (limits : Limits) (content : ByteArray) :=
      (read .standard limits).outcome { source := .ofBytes content }
    tight.Within {} ∧
    (∃ container after, outcome tight (linkedTo 0) = (.ok container, after) ∧
      outcome {} (linkedTo 0) = (.ok { container with limits := {} }, after)) ∧
    ∃ after, outcome tight (linkedTo 8) = (.error (.circular 8 0), after) ∧
      (Error.circular 8 0).innermost.isExcess = false ∧
      outcome {} (linkedTo 8) = (.error (.circular 8 0), after) := by
  intro tight outcome
  have hle : tight.Within {} := ⟨by decide, by decide, by decide⟩
  refine ⟨hle, ?_, ?_⟩
  · have hsome : (outcome tight (linkedTo 0)).1.toOption.isSome = true := by decide +kernel
    rcases hread : outcome tight (linkedTo 0) with ⟨e | container, after⟩
    · rw [hread] at hsome
      cases hsome
    · obtain ⟨hwider, -⟩ := limits_only_refuse .standard tight {} hle _ after
      exact ⟨container, after, rfl, hwider container hread⟩
  · have herror : (outcome tight (linkedTo 8)).1 = .error (.circular 8 0) := by decide +kernel
    rcases hread : outcome tight (linkedTo 8) with ⟨answer, after⟩
    rw [hread] at herror
    obtain rfl : answer = .error (.circular 8 0) := herror
    obtain ⟨-, hwider⟩ := limits_only_refuse .standard tight {} hle _ after
    exact ⟨after, rfl, rfl, hwider _ hread rfl⟩

end Container

end Tiff
