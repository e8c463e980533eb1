-- Readers over one content. Two readers that stand at the same place over
-- sources with the same bytes are twins: what one of them reads, the other one
-- reads too. Only one thing tells them apart, that a stream may not know its size.

import Tiff.Proofs.Directory

namespace Tiff

/-- Readers with one cursor over sources that hold one content. The first one knows how long it
is, and the second one too if it is said to be sized. -/
structure Twins (content : ByteArray) (sized : Prop) (r r' : Reader) : Prop where
  cursor_eq : r'.cursor = r.cursor
  backs : r.source.Backs content True
  backs' : r'.source.Backs content sized

/-- A reading that the content decides: it goes alike for all twins. -/
def OfContent {α : Type} (m : ReadM α) : Prop :=
  ∀ content sized, Alike (Twins content sized) Eq m m

namespace OfContent

variable {α β : Type}

theorem pure (a : α) : OfContent (pure a) := fun _ _ => Alike.pure rfl

theorem throw (e : Error) : OfContent (throw e : ReadM α) := fun _ _ => Alike.throw e

theorem bind {m : ReadM α} {f : α → ReadM β} (hm : OfContent m) (hf : ∀ a, OfContent (f a)) :
    OfContent (m >>= f) := by
  intro content sized
  refine Alike.bind (hm content sized) ?_
  rintro a _ rfl
  exact hf a content sized

theorem adaptExcept {m : ReadM α} (f : Error → Error) (h : OfContent m) :
    OfContent (EStateM.adaptExcept f m) := fun content sized => (h content sized).adaptExcept f

theorem ite {p : Prop} [Decidable p] {m n : ReadM α} (hm : OfContent m) (hn : OfContent n) :
    OfContent (if p then m else n) := by
  split
  · exact hm
  · exact hn

/-- However the reading ends, the source holds what it held. -/
theorem backs {m : ReadM α} (h : OfContent m) {content : ByteArray} {sized : Prop}
    {reader : Reader} (hbacks : reader.source.Backs content sized) :
    (m.outcome reader).2.source.Backs content sized := by
  have htwins :
      Twins content sized { source := .ofBytes content, cursor := reader.cursor } reader :=
    ⟨rfl, Source.backs_ofBytes content _ True, hbacks⟩
  exact (h content sized _ reader htwins).2.backs'

/-! ## Cursors -/

theorem seek (position : Nat) : OfContent (Reader.seek position) := by
  intro content sized r r' h
  exact ⟨.ok rfl, by simp [h.cursor_eq], h.backs, h.backs'⟩

theorem setOrder (order : ByteOrder) : OfContent (Reader.setOrder order) := by
  intro content sized r r' h
  exact ⟨.ok rfl, by simp [h.cursor_eq], h.backs, h.backs'⟩

theorem order : OfContent Reader.order := by
  intro content sized r r' h
  exact ⟨.ok (by rw [h.cursor_eq]), h⟩

/-- Warnings may name the source; they are noted beside what is read. -/
theorem warn (tell : Reader → Warning) : OfContent (do Reader.warn (tell (← get))) := by
  intro content sized r r' h
  exact ⟨.ok rfl, h.cursor_eq, h.backs, h.backs'⟩

/-! ## Reading -/

theorem readAt (offset length : Nat) : OfContent (Reader.readAt offset length) := by
  intro content sized r r' h
  obtain ⟨source, hbacks, hr⟩ := Reader.outcome_readAt h.backs offset length
  obtain ⟨source', hbacks', hr'⟩ := Reader.outcome_readAt h.backs' offset length
  rw [hr, hr']
  exact ⟨sameEnd_eq_iff.mpr rfl, h.cursor_eq, hbacks, hbacks'⟩

theorem readSection (offset length : Int) : OfContent (Reader.readSection offset length) :=
  ite (throw _) (readAt _ _)

/-- A reading that begins with a look at the cursor. -/
theorem atCursor {f : Cursor → ReadM α} (hf : ∀ cursor, OfContent (f cursor)) :
    OfContent (do f (← get).cursor) := by
  intro content sized r r' h
  rw [show (do f (← get).cursor : ReadM α).outcome r = (f r.cursor).outcome r from rfl,
    show (do f (← get).cursor : ReadM α).outcome r' = (f r.cursor).outcome r' by
      rw [← h.cursor_eq]; rfl]
  exact hf r.cursor content sized r r' h

theorem readBytes (length : Nat) : OfContent (Reader.readBytes length) := by
  have h : ∀ cursor : Cursor, OfContent (do
      let bytes ← Reader.readAt cursor.position length
      Reader.seek (cursor.position + length)
      return bytes) := fun cursor =>
    bind (readAt _ _) fun bytes => bind (seek _) fun _ => pure bytes
  exact atCursor h

theorem readNat (width : Nat) : OfContent (Reader.readNat width) :=
  bind (readBytes width) fun _ => bind order fun _ => pure _

theorem readU16 : OfContent Reader.readU16 :=
  bind (readBytes 2) fun _ => bind order fun _ => pure _

/-! ## Headers, entries and fields -/

theorem readFirst (layout : Layout) : OfContent (Header.readFirst layout) :=
  bind (readNat _) fun first => ite (bind (throw _) fun _ => pure first) (pure first)

theorem readWidth : OfContent Header.readWidth := by
  have hreserved : OfContent (do
      let reserved ← Reader.readU16
      if reserved ≠ 0 then Reader.warn (.reservedWord (← get).source.name reserved)) :=
    bind readU16 fun reserved => ite (warn fun r => .reservedWord r.source.name reserved) (pure ())
  exact bind readU16 fun _ => ite (bind (throw _) fun _ => hreserved) hreserved

theorem readTail (dialect : Dialect) : OfContent (Header.readTail dialect) := by
  have hrest : OfContent (Header.readRest dialect) :=
    bind (readFirst _) fun _ => bind order fun _ => pure _
  rw [Header.readTail_eq]
  split
  · exact hrest
  · exact bind readWidth fun _ => hrest

theorem readHeader (dialects : Dialects) : OfContent (Header.read dialects) := by
  refine bind (seek 0) fun _ => bind (readBytes 2) fun magic => ?_
  split
  · exact throw _
  · rename_i fileOrder _
    refine bind (setOrder fileOrder) fun _ => bind readU16 fun version => ?_
    split
    · exact throw _
    · exact readTail _

theorem readEntry (layout : Layout) : OfContent (Entry.read layout) :=
  bind readU16 fun _ => bind readU16 fun _ => bind (readNat _) fun _ =>
    bind (readBytes _) fun _ => pure _

theorem resolve (words : Dictionary) (limits : Limits) (entry : Entry) :
    OfContent (Field.resolve words limits entry) :=
  bind order fun _ => ite (throw _) <| ite (pure _) <|
    bind (adaptExcept _ (ite (readSection _ _) (throw _))) fun _ => pure _

theorem readField (words : Dictionary) (limits : Limits) (layout : Layout) :
    OfContent (Field.read words limits layout) :=
  bind (readEntry layout) fun entry => resolve words limits entry

theorem readFields (words : Dictionary) (limits : Limits) (layout : Layout) (count : Nat)
    (table : FieldTable) : OfContent (Directory.readFields words limits layout count table) := by
  induction count generalizing table with
  | zero => exact pure _
  | succ count ih =>
    exact bind (readField words limits layout) fun field => ih (table.push field)

end OfContent

end Tiff
