-- Sources that hold a content. Memory, an honest device that can be sought, and
-- a stream with what it gave so far all stand for one run of bytes, and a range
-- of it is answered from these bytes alone, however the device cuts them up.

import Tiff.Proofs.Outcome
import Tiff.Proofs.Streaming

namespace Tiff

/-! ## Devices -/

namespace Device

/-- A device that works throughout, gives at least one byte at each call before the end, and
whose bytes are the content. -/
structure Gives (device : Device) (content : ByteArray) : Prop where
  content_eq : device.content = content
  unbroken : device.break? = none
  grant_pos : ∀ calls, 0 < device.grant calls

variable {device : Device} {content : ByteArray}

/-- All of the content can be had, and nothing breaks behind it. -/
theorem Gives.whole (h : device.Gives content) :
    device.fault? = none ∧ device.reach = content.size := by
  have hfault : device.fault? = none := by
    unfold fault?
    rw [h.unbroken]
  exact ⟨hfault, by rw [reach_of_fault?_eq_none hfault, h.content_eq]⟩

end Device

/-- From wherever it stands, a pull brings all that is wanted and there, however it is cut up. -/
theorem Handle.pull_of_gives {handle : Handle} {content : ByteArray}
    (h : handle.device.Gives content) {wanted : Nat}
    (hin : handle.position + wanted ≤ content.size) :
    (handle.pull wanted).bytes = slice content handle.position wanted ∧
      (handle.pull wanted).failure = none := by
  obtain ⟨-, hreach⟩ := h.whole
  obtain ⟨hbytes, hfailure⟩ := handle.pull_eq h.grant_pos wanted (by omega)
  refine ⟨?_, by rw [hfailure, if_pos (by omega)]⟩
  rw [hbytes, h.content_eq, slice_eq_slice_iff]
  omega

/-! ## Streams -/

namespace Stream

/-- A stream whose buffer is a front of the content, with the device right behind it, and all of it
once the stream has ended. -/
structure Mirrors (stream : Stream) (content : ByteArray) : Prop where
  device : stream.handle.device.Gives content
  position_eq : stream.handle.position = stream.buffer.size
  buffer_eq : stream.buffer.data.toList = slice content 0 stream.buffer.size
  size_of_ended : stream.ended = true → stream.buffer.size = content.size

variable {stream : Stream} {content : ByteArray}

theorem Mirrors.size_le (h : stream.Mirrors content) : stream.buffer.size ≤ content.size := by
  have hlen := congrArg List.length h.buffer_eq
  rw [length_slice, Array.length_toList, ByteArray.size_data] at hlen
  omega

/-- A mark for what the stream holds: its buffer was asked for, and more than the content once it
has ended. -/
theorem Mirrors.marked (h : stream.Mirrors content) :
    ∃ mark, stream.Marked stream.handle.device mark := by
  obtain ⟨hfault, hreach⟩ := h.device.whole
  have hle := h.size_le
  cases hended : stream.ended with
  | true =>
    have hall := h.size_of_ended hended
    refine ⟨content.size + 1, rfl, h.position_eq, ?_, by simp [hended, hreach, hfault]⟩
    rw [h.device.content_eq, hreach, Nat.min_eq_right (Nat.le_succ _), ← hall, ← h.buffer_eq]
  | false =>
    refine ⟨stream.buffer.size, rfl, h.position_eq, ?_,
      by simp [hended, hreach, Nat.not_lt.mpr hle]⟩
    rw [h.device.content_eq, hreach, Nat.min_eq_left hle, ← h.buffer_eq]

theorem Marked.mirrors {device : Device} {mark : Nat} (h : stream.Marked device mark)
    (hgives : device.Gives content) : stream.Mirrors content := by
  obtain ⟨-, hreach⟩ := hgives.whole
  have hsize := h.size_eq
  refine ⟨h.device_eq ▸ hgives, h.position_eq, ?_, ?_⟩
  · rw [h.buffer_eq, hgives.content_eq, hsize]
  · intro hended
    obtain ⟨hmark, -⟩ := of_decide_eq_true (h.ended_eq.symm.trans hended)
    omega

/-- A range of a stream is answered as the content says. -/
theorem Mirrors.read (h : stream.Mirrors content) (offset length : Nat) :
    (stream.read offset length).2.Mirrors content ∧
      (stream.ended = true → (stream.read offset length).2.ended = true) ∧
      if offset + length < addressLimit ∧ offset + length ≤ content.size then
        (stream.read offset length).1 = .ok (slice content offset length)
      else ∃ size, (stream.read offset length).1 = .error (.outOfBounds offset length size) := by
  by_cases haddress : addressLimit ≤ offset + length
  · rw [read_of_overflow haddress, if_neg (by omega)]
    exact ⟨h, id, _, rfl⟩
  · rw [Nat.not_le] at haddress
    obtain ⟨hfault, hreach⟩ := h.device.whole
    obtain ⟨mark, hmarked⟩ := h.marked
    obtain ⟨hnext, hanswer⟩ := hmarked.read h.device.grant_pos haddress
    refine ⟨hnext.mirrors h.device, ?_, ?_⟩
    · intro hended
      obtain ⟨hmark, -⟩ := of_decide_eq_true (hmarked.ended_eq.symm.trans hended)
      rw [hnext.ended_eq, decide_eq_true_eq]
      exact ⟨by omega, hfault⟩
    · rw [hanswer, hreach, hfault, h.device.content_eq]
      by_cases hin : offset + length ≤ content.size
      · rw [if_pos hin, if_pos ⟨haddress, hin⟩]
      · rw [if_neg hin, if_neg (by omega)]
        exact ⟨_, rfl⟩

end Stream

/-! ## Sources -/

namespace Source

variable {source : Source} {content : ByteArray}

/-- A source whose bytes are the content, however they are kept. Where a device that can be sought
stands does not matter. -/
def Holds (source : Source) (content : ByteArray) : Prop :=
  match source.backing with
  | .memory bytes => bytes = content
  | .seekable handle size => handle.device.Gives content ∧ size = content.size
  | .stream stream => stream.Mirrors content

/-- A source that holds the content and, if it is said to be sized, knows how long it is. -/
structure Backs (source : Source) (content : ByteArray) (sized : Prop) : Prop where
  holds : source.Holds content
  size_eq : sized → source.size? = some content.size

theorem backs_ofBytes (content : ByteArray) (name : String) (sized : Prop) :
    (ofBytes content name).Backs content sized := ⟨rfl, fun _ => rfl⟩

theorem backs_ofStream {device : Device} (h : device.Gives content) (name : String) :
    (ofStream device name).Backs content False :=
  ⟨⟨h, rfl, by rw [Stream.ofDevice, ByteArray.size_empty, slice_zero]; rfl,
      fun hended => nomatch hended⟩,
    fun hsized => hsized.elim⟩

theorem backs_openSeekable {device : Device} (h : device.Gives content) (name : String) :
    ∃ source, openSeekable device (.ok content.size) name = .ok source ∧
      source.Backs content True :=
  ⟨_, rfl, ⟨h, rfl⟩, fun _ => rfl⟩

/-- The size, if a source that holds the content knows one. -/
theorem Holds.size?_eq (h : source.Holds content) :
    source.size? = none ∨ source.size? = some content.size := by
  rcases source with ⟨name, bytes | ⟨handle, size⟩ | stream⟩
  · obtain rfl : bytes = content := h
    exact .inr rfl
  · exact .inr (congrArg some h.2)
  · obtain hended | hended := Bool.eq_false_or_eq_true stream.ended
    · exact .inr (by simp [size?, hended, Stream.Mirrors.size_of_ended h hended])
    · exact .inl (by simp [size?, hended])

/-- A range is answered as the content says, and the source still holds it. -/
theorem Backs.read {sized : Prop} (h : source.Backs content sized) (offset length : Nat) :
    (source.read offset length).2.Backs content sized ∧
      if offset + length < addressLimit ∧ offset + length ≤ content.size then
        (source.read offset length).1 = .ok (slice content offset length)
      else ∃ size, (source.read offset length).1 = .error (.outOfBounds offset length size) := by
  obtain ⟨hholds, hsize⟩ := h
  rcases source with ⟨name, bytes | ⟨handle, size⟩ | stream⟩
  · obtain rfl : bytes = content := hholds
    simp only [Source.read]
    split
    · exact ⟨⟨rfl, hsize⟩, rfl⟩
    · exact ⟨⟨rfl, hsize⟩, _, rfl⟩
  · obtain ⟨hgives, rfl⟩ : handle.device.Gives content ∧ size = content.size := hholds
    simp only [Source.read]
    split
    · rename_i hin
      obtain ⟨hdevice, -⟩ := (handle.seek offset).pull_moves length
      obtain ⟨hbytes, hfailure⟩ :=
        Handle.pull_of_gives (show (handle.seek offset).device.Gives content from hgives) hin.2
      have hbytes : ((handle.seek offset).pull length).bytes = slice content offset length := hbytes
      have hafter : ((handle.seek offset).pull length).handle.device.Gives content :=
        hdevice ▸ hgives
      have hall : ¬ (slice content offset length).length < length := by
        rw [length_slice]
        omega
      simp only [hbytes, hfailure, hall, if_false]
      exact ⟨⟨⟨hafter, rfl⟩, fun _ => rfl⟩, trivial⟩
    · exact ⟨⟨⟨hgives, rfl⟩, hsize⟩, _, rfl⟩
  · have hstream : stream.Mirrors content := hholds
    obtain ⟨hmirrors, hended, hanswer⟩ := hstream.read offset length
    refine ⟨⟨hmirrors, fun hsized => ?_⟩, hanswer⟩
    obtain hbefore | hbefore := Bool.eq_false_or_eq_true stream.ended
    · have hafter := hended hbefore
      simp only [Source.read, size?, hafter, if_true, hmirrors.size_of_ended hafter]
    · have hknown := hsize hsized
      simp [size?, hbefore] at hknown

end Source

/-! ## Readers -/

/-- What a reader over the content answers to a request for a range. -/
def rangeOf (content : ByteArray) (offset length : Nat) : Except Error (List UInt8) :=
  if length = 0 then .ok []
  else if offset + length < addressLimit ∧ offset + length ≤ content.size then
    .ok (slice content offset length)
  else .error (.truncated offset length)

theorem rangeOf_eq_ok_iff {content : ByteArray} {offset length : Nat} {bytes : List UInt8} :
    rangeOf content offset length = .ok bytes ↔
      (length = 0 ∨ offset + length < addressLimit ∧ offset + length ≤ content.size) ∧
      slice content offset length = bytes := by
  unfold rangeOf
  by_cases hzero : length = 0
  · subst hzero
    simp
  · by_cases hin : offset + length < addressLimit ∧ offset + length ≤ content.size <;>
      simp [hzero, hin]

theorem rangeOf_eq_error {content : ByteArray} {offset length : Nat} {e : Error}
    (h : rangeOf content offset length = .error e) : e = .truncated offset length := by
  unfold rangeOf at h
  split at h
  · cases h
  · split at h <;> cases h
    rfl

theorem Reader.outcome_readAt {reader : Reader} {content : ByteArray} {sized : Prop}
    (h : reader.source.Backs content sized) (offset length : Nat) :
    ∃ source : Source, source.Backs content sized ∧
      (readAt offset length).outcome reader =
        (rangeOf content offset length, { reader with source }) := by
  by_cases hzero : length = 0
  · exact ⟨reader.source, h, by simp [ReadM.outcome, readAt, rangeOf, hzero, EStateM.run]⟩
  · obtain ⟨hbacks, hanswer⟩ := h.read offset length
    refine ⟨_, hbacks, ?_⟩
    rcases hread : reader.source.read offset length with ⟨answer, source⟩
    rw [hread] at hanswer
    simp only [ReadM.outcome, readAt, rangeOf, hzero, if_false, EStateM.run, hread]
    split at hanswer
    · rename_i hin
      simp only at hanswer
      rw [if_pos hin, hanswer]
    · rename_i hout
      obtain ⟨size, hsize⟩ := hanswer
      simp only at hsize
      rw [if_neg hout, hsize]
      rfl

/-- The next bytes are a range of the content, too. The cursor moves on behind them, and stays
where they are not there. -/
theorem Reader.outcome_readBytes {reader : Reader} {content : ByteArray} {sized : Prop}
    (h : reader.source.Backs content sized) (length : Nat) :
    ∃ source : Source, source.Backs content sized ∧
      (readBytes length).outcome reader =
        match rangeOf content reader.cursor.position length with
        | .ok bytes => (.ok bytes, { reader with
            source, cursor := ⟨reader.cursor.order, reader.cursor.position + length⟩ })
        | .error e => (.error e, { reader with source }) := by
  obtain ⟨source, hsource, hread⟩ := outcome_readAt h reader.cursor.position length
  refine ⟨source, hsource, ?_⟩
  unfold readBytes
  rw [ReadM.outcome_bind_ok (ReadM.outcome_get reader), ReadM.outcome_bind, hread]
  cases rangeOf content reader.cursor.position length <;> rfl

/-! ## Readers over memory -/

section

variable {reader : Reader} {content : ByteArray}

/-- A content that lies in memory is left as it is. -/
theorem Reader.outcome_readAt_of_memory (h : reader.source.backing = .memory content)
    (offset length : Nat) :
    (readAt offset length).outcome reader = (rangeOf content offset length, reader) := by
  by_cases hzero : length = 0
  · simp [ReadM.outcome, readAt, rangeOf, hzero, EStateM.run]
  · by_cases hin : offset + length < addressLimit ∧ offset + length ≤ content.size <;>
      simp [ReadM.outcome, readAt, rangeOf, hzero, EStateM.run, Source.read, h, hin, refusal]

theorem Reader.outcome_readBytes_of_memory (h : reader.source.backing = .memory content)
    (length : Nat) :
    (readBytes length).outcome reader =
      match rangeOf content reader.cursor.position length with
      | .ok bytes => (.ok bytes, { reader with
          cursor := ⟨reader.cursor.order, reader.cursor.position + length⟩ })
      | .error e => (.error e, reader) := by
  unfold readBytes
  rw [ReadM.outcome_bind_ok (ReadM.outcome_get reader), ReadM.outcome_bind,
    outcome_readAt_of_memory h]
  cases rangeOf content reader.cursor.position length <;> rfl

end

end Tiff
