-- Spelled content. Where a piece of the content spells something, a reading that
-- stands in front of it reads just that and comes to stand behind it.

import Mathlib.Algebra.Group.Nat.Defs
import Tiff.Proofs.Outcome

namespace Tiff

/-! ## Numerals -/

theorem ofBytesLE_toBytesLE {width n : Nat} (h : n < 256 ^ width) :
    ofBytesLE (toBytesLE width n) = n := by
  induction width generalizing n with
  | zero =>
    obtain rfl : n = 0 := by omega
    rfl
  | succ width ih =>
    have hrest : n / 256 < 256 ^ width := by
      rw [Nat.pow_succ] at h
      omega
    rw [toBytesLE, ofBytesLE, ih hrest, UInt8.toNat_ofNat']
    omega

namespace ByteOrder

/-- A number that fits is read as it was spelled, whatever follows it. -/
theorem read_toBytes_append (order : ByteOrder) {width n : Nat} (h : n < 256 ^ width)
    (rest : List UInt8) : order.read width (order.toBytes width n ++ rest) = n := by
  have hfit : fitBytes width (order.toBytes width n ++ rest) = order.toBytes width n := by
    unfold fitBytes
    rw [List.take_left' (length_toBytes order width n)]
    simp [List.rightpad]
  rw [read, hfit]
  cases order with
  | little => exact ofBytesLE_toBytesLE h
  | big => simp only [ofBytes, toBytes, List.reverse_reverse, ofBytesLE_toBytesLE h]

theorem read_toBytes (order : ByteOrder) {width n : Nat} (h : n < 256 ^ width) :
    order.read width (order.toBytes width n) = n := by
  have hread := order.read_toBytes_append h []
  rwa [List.append_nil] at hread

theorem readU16_toBytes (order : ByteOrder) (word : UInt16) :
    order.readU16 (order.toBytes 2 word.toNat) = word := by
  rw [readU16, order.read_toBytes word.toNat_lt, UInt16.ofNat_toNat]

theorem readU32_toBytes_append (order : ByteOrder) (word : UInt32) (rest : List UInt8) :
    order.readU32 (order.toBytes 4 word.toNat ++ rest) = word := by
  rw [readU32, order.read_toBytes_append word.toNat_lt, UInt32.ofNat_toNat]

theorem readU32_toBytes (order : ByteOrder) (word : UInt32) :
    order.readU32 (order.toBytes 4 word.toNat) = word := by
  rw [readU32, order.read_toBytes word.toNat_lt, UInt32.ofNat_toNat]

theorem readU64_toBytes (order : ByteOrder) (word : UInt64) :
    order.readU64 (order.toBytes 8 word.toNat) = word := by
  rw [readU64, order.read_toBytes word.toNat_lt, UInt64.ofNat_toNat]

end ByteOrder

/-! ## Pieces of the content -/

/-- The content has these bytes at this position. -/
def Spelled (content : ByteArray) (position : Nat) (bytes : List UInt8) : Prop :=
  ∃ before behind, content.data.toList = before ++ (bytes ++ behind) ∧ before.length = position

variable {content : ByteArray} {position : Nat} {bytes xs ys : List UInt8}

theorem Spelled.append (h : Spelled content position (xs ++ ys)) :
    Spelled content position xs ∧ Spelled content (position + xs.length) ys := by
  obtain ⟨before, behind, hcontent, rfl⟩ := h
  refine ⟨⟨before, ys ++ behind, by simp [hcontent], rfl⟩, before ++ xs, behind, ?_, ?_⟩
  · simp [hcontent]
  · rw [List.length_append]

theorem Spelled.le_size (h : Spelled content position bytes) :
    position + bytes.length ≤ content.size := by
  obtain ⟨before, behind, hcontent, rfl⟩ := h
  rw [← ByteArray.size_data, ← Array.length_toList, hcontent]
  simp only [List.length_append]
  omega

theorem Spelled.slice_eq (h : Spelled content position bytes) :
    slice content position bytes.length = bytes := by
  obtain ⟨before, behind, hcontent, rfl⟩ := h
  rw [Tiff.slice_eq, hcontent]
  simp

/-- All of some bytes stands at the start of the content that they make. -/
theorem spelled_start (bytes : List UInt8) : Spelled ⟨bytes.toArray⟩ 0 bytes :=
  ⟨[], [], by simp, rfl⟩

/-! ## Readings in front of a piece -/

/-- A reader of some bytes in memory, at a position. -/
def standing (content : ByteArray) (order : ByteOrder) (position : Nat) : Reader :=
  { source := .ofBytes content, cursor := ⟨order, position⟩ }

/-- A reading that takes the bytes in front of it for a value, wherever they stand. -/
def Reads {α : Type} (content : ByteArray) (order : ByteOrder) (m : ReadM α) (a : α)
    (bytes : List UInt8) : Prop :=
  ∀ position, Spelled content position bytes →
    m.outcome (standing content order position) =
      (.ok a, standing content order (position + bytes.length))

variable {order : ByteOrder}

/-- A range of the content is there at once, and the cursor stays. -/
theorem outcome_readAt_of_spelled (hsize : content.size < addressLimit)
    (h : Spelled content position bytes) (reader : Reader)
    (hsource : reader.source = .ofBytes content) :
    (Reader.readAt position bytes.length).outcome reader = (.ok bytes, reader) := by
  have hle := h.le_size
  by_cases hempty : bytes.length = 0
  · rw [List.length_eq_zero_iff] at hempty
    subst hempty
    rfl
  · have hin : position + bytes.length < addressLimit ∧
        position + bytes.length ≤ content.size := ⟨by omega, hle⟩
    have hread : reader.source.read position bytes.length = (.ok bytes, reader.source) := by
      rw [hsource]
      simp only [Source.read, Source.ofBytes, hin, and_self, if_true, h.slice_eq]
    simp only [Reader.readAt, ReadM.outcome, EStateM.run, if_neg hempty, hread]

namespace Reads

variable {α β : Type} {m : ReadM α} {f : α → ReadM β} {a a' : α} {b : β}

theorem pure (h : a = a') : Reads content order (Pure.pure a) a' [] := by
  subst h
  exact fun _ _ => rfl

theorem bind (hm : Reads content order m a xs) (hf : Reads content order (f a) b ys) :
    Reads content order (m >>= f) b (xs ++ ys) := by
  intro position h
  obtain ⟨hxs, hys⟩ := h.append
  rw [ReadM.outcome_bind_ok (hm position hxs), hf _ hys, List.length_append, Nat.add_assoc]

/-- What comes last may read nothing more. -/
theorem bind_nil (hm : Reads content order m a xs) (hf : Reads content order (f a) b []) :
    Reads content order (m >>= f) b xs := by
  have h := hm.bind hf
  rwa [List.append_nil] at h

theorem adaptExcept (h : Reads content order m a xs) (f : Error → Error) :
    Reads content order (EStateM.adaptExcept f m) a xs :=
  fun position hspelled => ReadM.outcome_adaptExcept_ok f (h position hspelled)

theorem readOrder : Reads content order Reader.order order [] := fun _ _ => rfl

theorem readBytes (hsize : content.size < addressLimit) (bytes : List UInt8) :
    Reads content order (Reader.readBytes bytes.length) bytes bytes := by
  intro position h
  exact ReadM.outcome_bind_ok (outcome_readAt_of_spelled hsize h _ rfl)

theorem readNat (hsize : content.size < addressLimit) {width n : Nat} (h : n < 256 ^ width) :
    Reads content order (Reader.readNat width) n (order.toBytes width n) := by
  have hbytes : Reads content order (Reader.readBytes width) _ _ :=
    order.length_toBytes width n ▸ readBytes hsize (order.toBytes width n)
  exact hbytes.bind_nil (readOrder.bind_nil (pure (order.read_toBytes h)))

theorem readU16 (hsize : content.size < addressLimit) (word : UInt16) :
    Reads content order Reader.readU16 word (order.toBytes 2 word.toNat) := by
  have hbytes : Reads content order (Reader.readBytes 2) _ _ :=
    order.length_toBytes 2 word.toNat ▸ readBytes hsize (order.toBytes 2 word.toNat)
  exact hbytes.bind_nil (readOrder.bind_nil (pure (order.readU16_toBytes word)))

end Reads

end Tiff
