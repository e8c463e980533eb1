-- Readers that share a source. Each has a cursor of its own, and the source
-- answers all of them from its content. So a reader reads what it would read
-- alone, whatever its clones do in between, and a clone goes on from where the
-- reader stood that it was made of.

import Mathlib.Algebra.Ring.Nat
import Tiff.Proofs.Twins

namespace Tiff

namespace Reader

/-! ## Operations -/

/-- What can be asked of a reader. An array is read as a run of bytes. -/
inductive Operation where
  | seek (position : Nat)
  | setOrder (order : ByteOrder)
  | readU16
  | readU32
  | readU64
  | readBytes (length : Nat)
  | readSection (offset length : Int)
  | readAt (offset length : Nat)
  deriving DecidableEq

/-- What an operation gives back. -/
inductive Answer where
  | done
  | word (n : Nat)
  | bytes (bytes : List UInt8)
  deriving DecidableEq

namespace Operation

def perform : Operation → ReadM Answer
  | seek position => do
    Reader.seek position
    return .done
  | setOrder order => do
    Reader.setOrder order
    return .done
  | readU16 => return .word (← Reader.readU16).toNat
  | readU32 => return .word (← Reader.readU32).toNat
  | readU64 => return .word (← Reader.readU64).toNat
  | readBytes length => return .bytes (← Reader.readBytes length)
  | readSection offset length => return .bytes (← Reader.readSection offset length)
  | readAt offset length => return .bytes (← Reader.readAt offset length)

/-- How many bytes an operation reads in sequence, if it does. -/
def width? : Operation → Option Nat
  | readU16 => some 2
  | readU32 => some 4
  | readU64 => some 8
  | readBytes length => some length
  | _ => none

/-- What an operation makes of the bytes that it reads in sequence. -/
def told (order : ByteOrder) (bytes : List UInt8) : Operation → Answer
  | readU16 => .word (order.readU16 bytes).toNat
  | readU32 => .word (order.readU32 bytes).toNat
  | readU64 => .word (order.readU64 bytes).toNat
  | _ => .bytes bytes

/-- The content decides what any operation gives, and where it leads. -/
theorem ofContent_perform (operation : Operation) : OfContent operation.perform := by
  cases operation with
  | seek position => exact .bind (.seek position) fun _ => .pure _
  | setOrder order => exact .bind (.setOrder order) fun _ => .pure _
  | readU16 => exact .bind .readU16 fun _ => .pure _
  | readU32 =>
    exact .bind (.bind (.readBytes 4) fun _ => .bind .order fun _ => .pure _) fun _ => .pure _
  | readU64 =>
    exact .bind (.bind (.readBytes 8) fun _ => .bind .order fun _ => .pure _) fun _ => .pure _
  | readBytes length => exact .bind (.readBytes length) fun _ => .pure _
  | readSection offset length => exact .bind (.readSection offset length) fun _ => .pure _
  | readAt offset length => exact .bind (.readAt offset length) fun _ => .pure _

end Operation

/-! ## One operation -/

section

variable {content : ByteArray} {sized : Prop} {reader : Reader}

/-- A reading in sequence gives what it makes of the next bytes and goes on behind them. Where they
are not there, it fails and stays. -/
theorem Operation.outcome_perform (hbacks : reader.source.Backs content sized)
    {operation : Operation} {length : Nat} (hwidth : operation.width? = some length) :
    ∃ source : Source, operation.perform.outcome reader =
      match rangeOf content reader.cursor.position length with
      | .ok bytes => (.ok (operation.told reader.cursor.order bytes), { reader with
          source, cursor := ⟨reader.cursor.order, reader.cursor.position + length⟩ })
      | .error e => (.error e, { reader with source }) := by
  obtain ⟨source, -, hread⟩ := outcome_readBytes hbacks length
  refine ⟨source, ?_⟩
  cases hrange : rangeOf content reader.cursor.position length with
  | error e =>
    rw [hrange] at hread
    cases operation with
    | readU16 | readU32 | readU64 =>
      cases hwidth
      exact ReadM.outcome_bind_error (ReadM.outcome_bind_error hread)
    | readBytes length =>
      cases hwidth
      exact ReadM.outcome_bind_error hread
    | _ => cases hwidth
  | ok bytes =>
    rw [hrange] at hread
    cases operation with
    | readU16 | readU32 | readU64 =>
      cases hwidth
      exact ReadM.outcome_bind_ok (ReadM.outcome_bind_ok hread)
    | readBytes length =>
      cases hwidth
      exact ReadM.outcome_bind_ok hread
    | _ => cases hwidth

theorem cursor_outcome_readAt (hbacks : reader.source.Backs content sized) (offset length : Nat) :
    ((readAt offset length).outcome reader).2.cursor = reader.cursor := by
  obtain ⟨source, -, hread⟩ := outcome_readAt hbacks offset length
  rw [hread]

theorem cursor_outcome_readSection (hbacks : reader.source.Backs content sized)
    (offset length : Int) :
    ((readSection offset length).outcome reader).2.cursor = reader.cursor := by
  unfold readSection
  split
  · rfl
  · exact cursor_outcome_readAt hbacks _ _

/-- An operation that fails leaves the cursor as it is. -/
theorem Operation.cursor_of_fails (hbacks : reader.source.Backs content sized)
    {operation : Operation} {e : Error} (h : (operation.perform.outcome reader).1 = .error e) :
    (operation.perform.outcome reader).2.cursor = reader.cursor := by
  cases hwidth : operation.width? with
  | some length =>
    obtain ⟨source, hperform⟩ := outcome_perform hbacks hwidth
    rw [hperform] at h ⊢
    split at h
    · cases h
    · rfl
  | none =>
    cases operation with
    | seek position | setOrder order => cases h
    | readSection offset length =>
      unfold perform
      rw [ReadM.outcome_bind_pure]
      exact cursor_outcome_readSection hbacks offset length
    | readAt offset length =>
      unfold perform
      rw [ReadM.outcome_bind_pure]
      exact cursor_outcome_readAt hbacks offset length
    | _ => cases hwidth

/-! ### Runs in pieces -/

/-- A range that is there is there in two pieces, too. -/
theorem rangeOf_add {offset front back : Nat} {bytes : List UInt8}
    (h : rangeOf content offset (front + back) = .ok bytes) :
    ∃ xs ys, rangeOf content offset front = .ok xs ∧
      rangeOf content (offset + front) back = .ok ys ∧ xs ++ ys = bytes := by
  obtain ⟨hin, rfl⟩ := rangeOf_eq_ok_iff.mp h
  refine ⟨slice content offset front, slice content (offset + front) back, ?_, ?_,
    slice_append ..⟩
  · exact rangeOf_eq_ok_iff.mpr ⟨by omega, rfl⟩
  · exact rangeOf_eq_ok_iff.mpr ⟨by omega, rfl⟩

/-- A run that can be read at once can be read in pieces: they are the same bytes, and the cursor
comes to the same place. -/
theorem outcome_pieces (hbacks : reader.source.Backs content sized) (lengths : List Nat)
    {bytes : List UInt8}
    (h : rangeOf content reader.cursor.position lengths.sum = .ok bytes) :
    ∃ pieces after, (lengths.mapM readBytes).outcome reader = (.ok pieces, after) ∧
      pieces.flatten = bytes ∧
      after.cursor = ⟨reader.cursor.order, reader.cursor.position + lengths.sum⟩ := by
  induction lengths generalizing reader bytes with
  | nil =>
    cases h
    exact ⟨[], reader, rfl, rfl, rfl⟩
  | cons length lengths ih =>
    rw [List.sum_cons] at h
    obtain ⟨xs, ys, hxs, hys, rfl⟩ := rangeOf_add h
    obtain ⟨source, hsource, hread⟩ := outcome_readBytes hbacks length
    rw [hxs] at hread
    let next : Reader := { reader with
      source, cursor := ⟨reader.cursor.order, reader.cursor.position + length⟩ }
    have hnext : next.source.Backs content sized := hsource
    obtain ⟨pieces, after, hpieces, rfl, hcursor⟩ := ih hnext hys
    refine ⟨xs :: pieces, after, ?_, List.flatten_cons, ?_⟩
    · rw [List.mapM_cons, ReadM.outcome_bind_ok hread, ReadM.outcome_bind_ok hpieces]
      rfl
    · rw [hcursor, List.sum_cons, Nat.add_assoc]

end

/-! ## Many operations -/

/-- Performs operations one after the other, whatever comes of them. -/
def performAll (reader : Reader) : List Operation → List (Except Error Answer) × Reader
  | [] => ([], reader)
  | operation :: operations =>
    let (answer, reader) := operation.perform.outcome reader
    let (answers, reader) := performAll reader operations
    (answer :: answers, reader)

theorem performAll_concat (reader : Reader) (operations : List Operation) (last : Operation) :
    performAll reader (operations ++ [last]) =
      ((performAll reader operations).1 ++
          [(last.perform.outcome (performAll reader operations).2).1],
        (last.perform.outcome (performAll reader operations).2).2) := by
  induction operations generalizing reader with
  | nil => rfl
  | cons operation operations ih => simp only [List.cons_append, performAll, ih]

theorem holds_performAll {content : ByteArray} {reader : Reader}
    (h : reader.source.Holds content) (operations : List Operation) :
    (performAll reader operations).2.source.Holds content := by
  induction operations generalizing reader with
  | nil => exact h
  | cons operation operations ih =>
    have hbacks : reader.source.Backs content False := ⟨h, False.elim⟩
    exact ih (operation.ofContent_perform.backs hbacks).holds

end Reader

/-- Readers with one cursor over one content go alike, however their sources keep it. -/
theorem OfContent.outcome_eq {α : Type} {m : ReadM α} (hm : OfContent m) {content : ByteArray}
    {r r' : Reader} (hcursor : r'.cursor = r.cursor) (h : r.source.Holds content)
    (h' : r'.source.Holds content) :
    (m.outcome r').1 = (m.outcome r).1 ∧ (m.outcome r').2.cursor = (m.outcome r).2.cursor := by
  -- both of them are twins of a reader whose source lies in memory
  let middle : Reader := { source := .ofBytes content, cursor := r.cursor }
  have hmiddle : middle.source.Backs content True := Source.backs_ofBytes content _ True
  obtain ⟨hend, htwins⟩ := hm content False middle r ⟨rfl, hmiddle, h, False.elim⟩
  obtain ⟨hend', htwins'⟩ := hm content False middle r' ⟨hcursor, hmiddle, h', False.elim⟩
  rw [sameEnd_eq_iff] at hend hend'
  exact ⟨hend'.symm.trans hend, htwins'.cursor_eq.trans htwins.cursor_eq.symm⟩

namespace SharedReaders

open Reader

/-! ## Sessions -/

/-- What can happen to the readers of a source. They are named by their places. -/
inductive Act where
  | clone (index : Nat)
  | perform (index : Nat) (operation : Operation)

/-- What became of a reader: the cursor that it began with, what it was asked since then, and what
it answered. A clone goes on with the trail of the reader that it was made of. -/
structure Trail where
  start : Cursor := {}
  steps : List (Operation × Except Error Answer) := []
  deriving DecidableEq

/-- Readers of one source, and the trail of each. -/
structure Session where
  shared : SharedReaders
  trails : Array Trail

namespace Session

def start (shared : SharedReaders) : Session where
  shared := shared
  trails := shared.cursors.map fun cursor => { start := cursor }

def step (session : Session) : Act → Session
  | .clone index =>
    { shared := session.shared.clone index
      trails := session.trails.push (session.trails.getD index {}) }
  | .perform index operation =>
    let (answer, shared) := session.shared.run index operation.perform
    { shared
      trails := session.trails.modify index fun trail =>
        { trail with steps := trail.steps ++ [(operation, answer)] } }

def after (session : Session) (acts : List Act) : Session := acts.foldl step session

end Session

/-! ## Alone -/

/-- The trail and the cursor of a reader are those that it would have alone, over a source of its
own. -/
structure IsAlone (fresh : Source) (trail : Trail) (cursor : Cursor) : Prop where
  answers_eq : (performAll { source := fresh, cursor := trail.start }
    (trail.steps.map Prod.fst)).1 = trail.steps.map Prod.snd
  cursor_eq : (performAll { source := fresh, cursor := trail.start }
    (trail.steps.map Prod.fst)).2.cursor = cursor

variable {fresh : Source} {content : ByteArray} {session : Session}

/-- What a reader is asked next, it answers as it would alone. -/
theorem IsAlone.perform {trail : Trail} {reader : Reader}
    (h : IsAlone fresh trail reader.cursor) (hfresh : fresh.Holds content)
    (hreader : reader.source.Holds content) (operation : Operation) :
    IsAlone fresh
      { trail with steps := trail.steps ++ [(operation, (operation.perform.outcome reader).1)] }
      (operation.perform.outcome reader).2.cursor := by
  have hbefore : (performAll { source := fresh, cursor := trail.start }
      (trail.steps.map Prod.fst)).2.source.Holds content := holds_performAll hfresh _
  obtain ⟨hanswer, hcursor⟩ :=
    operation.ofContent_perform.outcome_eq h.cursor_eq hreader hbefore
  constructor
  · simp only [List.map_append, List.map_cons, List.map_nil, performAll_concat, h.answers_eq,
      hanswer]
  · simp only [List.map_append, List.map_cons, List.map_nil, performAll_concat, hcursor]

/-- All readers of a session are as if they were alone. -/
structure Session.Apart (session : Session) (fresh : Source) (content : ByteArray) : Prop where
  holds : session.shared.source.Holds content
  size_eq : session.trails.size = session.shared.cursors.size
  alone : ∀ index trail, session.trails[index]? = some trail →
    IsAlone fresh trail (session.shared.reader index).cursor

namespace Session

theorem apart_start {shared : SharedReaders} (h : shared.source.Holds content) :
    (start shared).Apart fresh content := by
  refine ⟨h, Array.size_map .., ?_⟩
  intro index trail htrail
  obtain ⟨cursor, hcursor, rfl⟩ := Option.map_eq_some_iff.mp (Array.getElem?_map ▸ htrail)
  refine ⟨rfl, ?_⟩
  simp [performAll, start, SharedReaders.reader, hcursor]

/-- Where there is no reader, a new one takes its place, and that one is alone, too. -/
theorem Apart.alone_getD (h : session.Apart fresh content) (index : Nat) :
    IsAlone fresh (session.trails.getD index {}) (session.shared.reader index).cursor := by
  rw [Array.getD_eq_getD_getElem?]
  cases htrail : session.trails[index]? with
  | some trail => exact h.alone index trail htrail
  | none =>
    have hcursor : session.shared.cursors[index]? = none := by
      rw [Array.getElem?_eq_none_iff] at htrail ⊢
      rwa [← h.size_eq]
    refine ⟨rfl, ?_⟩
    simp [performAll, SharedReaders.reader, hcursor]

/-- A clone begins with what became of its origin. -/
theorem Apart.clone (h : session.Apart fresh content) (index : Nat) :
    (session.step (.clone index)).Apart fresh content := by
  refine ⟨h.holds, ?_, ?_⟩
  · simp [step, SharedReaders.clone, h.size_eq]
  · intro i trail htrail
    simp only [step, Array.getElem?_push] at htrail
    by_cases hnew : i = session.trails.size
    · rw [if_pos hnew, Option.some.injEq] at htrail
      subst htrail hnew
      have horigin := h.alone_getD index
      simpa [step, SharedReaders.clone, SharedReaders.reader, h.size_eq] using horigin
    · rw [if_neg hnew] at htrail
      have hold := h.alone i trail htrail
      rw [h.size_eq] at hnew
      simpa [step, SharedReaders.clone, SharedReaders.reader, Array.getElem?_push, hnew] using hold

theorem Apart.perform (h : session.Apart fresh content) (hfresh : fresh.Holds content)
    (index : Nat) (operation : Operation) :
    (session.step (.perform index operation)).Apart fresh content := by
  have hbacks : (session.shared.reader index).source.Backs content False :=
    ⟨h.holds, False.elim⟩
  refine ⟨(operation.ofContent_perform.backs hbacks).holds, ?_, ?_⟩
  · simp [step, SharedReaders.run, h.size_eq]
  · intro i trail htrail
    simp only [step, Array.getElem?_modify] at htrail
    by_cases hi : index = i
    · subst hi
      rw [if_pos rfl] at htrail
      obtain ⟨old, hold, rfl⟩ := Option.map_eq_some_iff.mp htrail
      have hlt : index < session.shared.cursors.size := by
        rw [← h.size_eq]
        exact (Array.getElem?_eq_some_iff.mp hold).1
      have hnext := (h.alone index old hold).perform hfresh h.holds operation
      simpa [step, SharedReaders.run, SharedReaders.reader, hlt] using hnext
    · rw [if_neg hi] at htrail
      have hold := h.alone i trail htrail
      simpa [step, SharedReaders.run, SharedReaders.reader, hi] using hold

theorem Apart.after (h : session.Apart fresh content) (hfresh : fresh.Holds content)
    (acts : List Act) : (session.after acts).Apart fresh content := by
  induction acts generalizing session with
  | nil => exact h
  | cons act acts ih =>
    cases act with
    | clone index => exact ih (h.clone index)
    | perform index operation => exact ih (h.perform hfresh index operation)

end Session

/-- Readers of one source do not disturb each other, however it keeps its content, and whatever
they were asked, one after the other, on clones of them and on clones of those. What each of them
was answered, and where it stands, is what it would be alone over another source with that content.
Now a reading in sequence succeeds if and only if its bytes are there. It tells what they say and
goes on behind them, and a run of bytes can be read in pieces as well. What fails leaves the cursor
with its byte order, and so do sections and absolute readings. -/
theorem a_reader_reads_as_if_it_were_alone (shared : SharedReaders) (fresh : Source)
    (content : ByteArray) (hshared : shared.source.Holds content) (hfresh : fresh.Holds content)
    (hsize : content.size < addressLimit) (acts : List Act) :
    let session := Session.after (.start shared) acts
    session.trails.size = session.shared.cursors.size ∧
    (∀ (index : Nat) (trail : Trail), session.trails[index]? = some trail →
      let alone := performAll { source := fresh, cursor := trail.start } (trail.steps.map Prod.fst)
      trail.steps.map Prod.snd = alone.1 ∧
        session.shared.cursors[index]? = some alone.2.cursor) ∧
    ∀ index : Nat,
      let reader := session.shared.reader index
      let order := reader.cursor.order
      let position := reader.cursor.position
      (∀ (operation : Operation) (length : Nat), operation.width? = some length →
        ((∃ reply, (operation.perform.outcome reader).1 = .ok reply) ↔
          length = 0 ∨ position + length ≤ content.size) ∧
        ∀ reply after, operation.perform.outcome reader = (.ok reply, after) →
          reply = operation.told order (slice content position length) ∧
          after.cursor = ⟨order, position + length⟩) ∧
      (∀ (operation : Operation) e after, operation.perform.outcome reader = (.error e, after) →
        after.cursor = reader.cursor) ∧
      (∀ offset length, ((readSection offset length).outcome reader).2.cursor = reader.cursor) ∧
      (∀ offset length, ((readAt offset length).outcome reader).2.cursor = reader.cursor) ∧
      ∀ (lengths : List Nat) bytes after, (readBytes lengths.sum).outcome reader = (.ok bytes, after) →
        ∃ pieces behind, (lengths.mapM readBytes).outcome reader = (.ok pieces, behind) ∧
          pieces.flatten = bytes ∧ behind.cursor = after.cursor := by
  intro session
  have hapart : session.Apart fresh content := (Session.apart_start hshared).after hfresh acts
  refine ⟨hapart.size_eq, ?_, ?_⟩
  · intro index trail htrail
    have halone := hapart.alone index trail htrail
    refine ⟨halone.answers_eq.symm, ?_⟩
    have hlt : index < session.shared.cursors.size := by
      rw [← hapart.size_eq]
      exact (Array.getElem?_eq_some_iff.mp htrail).1
    simp [halone.cursor_eq, SharedReaders.reader, hlt]
  · intro index reader order position
    have hbacks : reader.source.Backs content False := ⟨hapart.holds, False.elim⟩
    refine ⟨?_, ?_, cursor_outcome_readSection hbacks, cursor_outcome_readAt hbacks, ?_⟩
    · intro operation length hwidth
      obtain ⟨source, hperform⟩ := Operation.outcome_perform hbacks hwidth
      rw [hperform]
      cases hrange : rangeOf content reader.cursor.position length with
      | ok bytes =>
        obtain ⟨hin, rfl⟩ := rangeOf_eq_ok_iff.mp hrange
        have hthere : length = 0 ∨ position + length ≤ content.size := hin.imp_right And.right
        refine ⟨⟨fun _ => hthere, fun _ => ⟨_, rfl⟩⟩, ?_⟩
        intro reply after h
        cases h
        exact ⟨rfl, rfl⟩
      | error e =>
        refine ⟨⟨nofun, fun hin => ?_⟩, nofun⟩
        have hthere : rangeOf content position length = .ok (slice content position length) :=
          rangeOf_eq_ok_iff.mpr ⟨by omega, rfl⟩
        rw [hthere] at hrange
        cases hrange
    · intro operation e after h
      have hfails : (operation.perform.outcome reader).1 = .error e := by rw [h]
      have hcursor := Operation.cursor_of_fails hbacks hfails
      rwa [h] at hcursor
    · intro lengths bytes after h
      obtain ⟨source, -, hread⟩ := outcome_readBytes hbacks lengths.sum
      rw [hread] at h
      cases hrange : rangeOf content reader.cursor.position lengths.sum with
      | error e =>
        rw [hrange] at h
        cases h
      | ok run =>
        rw [hrange] at h
        cases h
        exact outcome_pieces hbacks lengths hrange

/-- Acts on a reader and on its clone. In between, the clone asks for more than there is. -/
def turns : List Act := [
  .perform 0 .readU16, .clone 0, .perform 1 (.readBytes 100), .perform 0 .readU16,
  .perform 1 (.setOrder .big), .perform 1 .readU16, .perform 0 (.readAt 7 5),
  .perform 1 (.seek (addressLimit - 1)), .perform 0 .readU32, .perform 1 (.readBytes 1)]

/-- Over a stream of eight bytes that gives one or two at a time, both go on from the first word,
each in its order. -/
theorem a_reader_reads_as_if_it_were_alone_of_turns :
    let content : ByteArray := ⟨#[1, 0, 2, 0, 3, 0, 4, 0]⟩
    let device : Device := { content, grant := fun calls => calls % 2 + 1 }
    let shared : SharedReaders := { source := .ofStream device, cursors := #[{}] }
    let session := Session.after (.start shared) turns
    shared.source.Holds content ∧ (Source.ofBytes content).Holds content ∧
      content.size < addressLimit ∧
      (performAll { source := .ofBytes content } [.readU16, .readU16, .readAt 7 5, .readU32]).1 =
        [.ok (.word 1), .ok (.word 2), .error (.truncated 7 5), .ok (.word 0x40003)] ∧
      session.shared.cursors[0]? = some ⟨.little, 8⟩ ∧
      (performAll { source := .ofBytes content }
        [.readU16, .readBytes 100, .setOrder .big, .readU16, .seek (addressLimit - 1),
          .readBytes 1]).1 =
        [.ok (.word 1), .error (.truncated 2 100), .ok .done, .ok (.word 0x200), .ok .done,
          .error (.truncated (addressLimit - 1) 1)] ∧
      session.shared.cursors[1]? = some ⟨.big, addressLimit - 1⟩ := by
  intro content device shared session
  have hgives : device.Gives content := ⟨rfl, rfl, fun _ => Nat.succ_pos _⟩
  have hshared : shared.source.Holds content := (Source.backs_ofStream hgives "stream").holds
  have hfresh : (Source.ofBytes content).Holds content := rfl
  have hsize : content.size < addressLimit := by decide
  obtain ⟨-, halone, -⟩ := a_reader_reads_as_if_it_were_alone shared (.ofBytes content) content
    hshared hfresh hsize turns
  have hfirst : session.trails[0]? = some ⟨{}, [
      (.readU16, .ok (.word 1)), (.readU16, .ok (.word 2)), (.readAt 7 5, .error (.truncated 7 5)),
      (.readU32, .ok (.word 0x40003))]⟩ := by
    decide +kernel
  have hsecond : session.trails[1]? = some ⟨{}, [
      (.readU16, .ok (.word 1)), (.readBytes 100, .error (.truncated 2 100)),
      (.setOrder .big, .ok .done), (.readU16, .ok (.word 0x200)),
      (.seek (addressLimit - 1), .ok .done),
      (.readBytes 1, .error (.truncated (addressLimit - 1) 1))]⟩ := by
    decide +kernel
  obtain ⟨hanswers, hcursor⟩ := halone 0 _ hfirst
  obtain ⟨hanswers', hcursor'⟩ := halone 1 _ hsecond
  refine ⟨hshared, hfresh, hsize, hanswers.symm, ?_, hanswers'.symm, ?_⟩
  · rw [hcursor]
    decide +kernel
  · rw [hcursor']
    decide +kernel

end SharedReaders

end Tiff
