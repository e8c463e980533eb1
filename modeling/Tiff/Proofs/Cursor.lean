-- How far a reading moves the cursor. Whatever source holds the content, a
-- reading that succeeds moves the cursor on by what its record takes, and all of
-- the record lies in the content. Values that lie elsewhere do not move it.

import Tiff.Directory
import Tiff.Proofs.Holding

namespace Tiff

/-- A reading that moves the cursor on by `n` bytes of the content when it succeeds. It keeps the
byte order, and the source holds what it held. -/
def Advances {α : Type} (n : Nat) (m : ReadM α) : Prop :=
  ∀ content sized reader reader' a, Source.Backs reader.source content sized →
    m.outcome reader = (.ok a, reader') →
      reader'.source.Backs content sized ∧
      reader'.cursor = { reader.cursor with position := reader.cursor.position + n } ∧
      (n = 0 ∨ reader.cursor.position + n ≤ content.size)

namespace Advances

variable {α β : Type} {n k : Nat}

theorem pure (a : α) : Advances 0 (pure a) := by
  intro content sized reader reader' a' hbacks h
  cases h
  exact ⟨hbacks, rfl, .inl rfl⟩

theorem throw (e : Error) : Advances n (throw e : ReadM α) := by
  intro content sized reader reader' a hbacks h
  cases h

theorem bind {m : ReadM α} {f : α → ReadM β} (hm : Advances n m) (hf : ∀ a, Advances k (f a)) :
    Advances (n + k) (m >>= f) := by
  intro content sized reader reader' b hbacks h
  obtain ⟨a, middle, hfirst, hsecond⟩ := ReadM.outcome_bind_eq_ok h
  obtain ⟨hbacks₁, hcursor₁, hin₁⟩ := hm _ _ _ _ _ hbacks hfirst
  obtain ⟨hbacks₂, hcursor₂, hin₂⟩ := hf a _ _ _ _ _ hbacks₁ hsecond
  refine ⟨hbacks₂, ?_, ?_⟩
  · rw [hcursor₂, hcursor₁, Nat.add_assoc]
  · rw [hcursor₁] at hin₂
    simp only at hin₂
    omega

theorem adaptExcept {m : ReadM α} (f : Error → Error) (h : Advances n m) :
    Advances n (EStateM.adaptExcept f m) := by
  intro content sized reader reader' a hbacks hm
  exact h _ _ _ _ _ hbacks (ReadM.outcome_adaptExcept_eq_ok hm)

theorem ite {p : Prop} [Decidable p] {m m' : ReadM α} (hm : Advances n m) (hm' : Advances n m') :
    Advances n (if p then m else m') := by
  split
  · exact hm
  · exact hm'

theorem order : Advances 0 Reader.order := by
  intro content sized reader reader' a hbacks h
  cases h
  exact ⟨hbacks, rfl, .inl rfl⟩

theorem warn (tell : Reader → Warning) : Advances 0 (do Reader.warn (tell (← get))) := by
  intro content sized reader reader' a hbacks h
  cases h
  exact ⟨hbacks, rfl, .inl rfl⟩

theorem readAt (offset length : Nat) : Advances 0 (Reader.readAt offset length) := by
  intro content sized reader reader' bytes hbacks h
  obtain ⟨source, hbacks', hread⟩ := Reader.outcome_readAt hbacks offset length
  rw [hread, Prod.mk.injEq] at h
  obtain ⟨-, rfl⟩ := h
  exact ⟨hbacks', rfl, .inl rfl⟩

theorem readSection (offset length : Int) : Advances 0 (Reader.readSection offset length) :=
  ite (throw _) (readAt _ _)

theorem readBytes (length : Nat) : Advances length (Reader.readBytes length) := by
  intro content sized reader reader' bytes hbacks h
  obtain ⟨source, hbacks', hread⟩ :=
    Reader.outcome_readAt hbacks reader.cursor.position length
  unfold Reader.readBytes at h
  rw [ReadM.outcome_bind_ok (ReadM.outcome_get reader)] at h
  obtain ⟨bytes', middle, hfirst, hsecond⟩ := ReadM.outcome_bind_eq_ok h
  rw [hread, Prod.mk.injEq] at hfirst
  obtain ⟨hrange, rfl⟩ := hfirst
  cases hsecond
  obtain ⟨hin, -⟩ := rangeOf_eq_ok_iff.mp hrange
  exact ⟨hbacks', rfl, hin.imp_right And.right⟩

theorem readNat (width : Nat) : Advances width (Reader.readNat width) :=
  bind (readBytes width) fun _ => bind order fun _ => pure _

theorem readU16 : Advances 2 Reader.readU16 :=
  bind (readBytes 2) fun _ => bind order fun _ => pure _

/-! ## Entries and fields -/

theorem readEntry (layout : Layout) : Advances layout.entrySize (Entry.read layout) := by
  have h : Advances (2 + (2 + (layout.slotSize + (layout.slotSize + 0)))) (Entry.read layout) :=
    bind readU16 fun _ => bind readU16 fun _ => bind (readNat _) fun _ =>
      bind (readBytes _) fun _ => pure _
  cases layout <;> exact h

theorem resolve (words : Dictionary) (limits : Limits) (entry : Entry) :
    Advances 0 (Field.resolve words limits entry) :=
  bind order fun _ => ite (throw _) <| ite (pure _) <|
    bind (adaptExcept _ (ite (readSection _ _) (throw _))) fun _ => pure _

theorem readField (words : Dictionary) (limits : Limits) (layout : Layout) :
    Advances layout.entrySize (Field.read words limits layout) :=
  bind (readEntry layout) fun entry => resolve words limits entry

theorem readFields (words : Dictionary) (limits : Limits) (layout : Layout) (count : Nat)
    (table : FieldTable) :
    Advances (count * layout.entrySize) (Directory.readFields words limits layout count table) := by
  induction count generalizing table with
  | zero => rw [Nat.zero_mul]; exact pure _
  | succ count ih =>
    rw [Nat.succ_mul, Nat.add_comm]
    exact bind (readField words limits layout) fun field => ih (table.push field)

end Advances

end Tiff
