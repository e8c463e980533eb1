-- Sources of bytes. A source gives any range of its bytes on request, whether
-- they lie in memory, in a file that is sought and read, or come from a stream
-- that only moves on. A stream keeps all that it gave, so it can be read at any
-- offset, and it gives no byte before a request needs it.

import Tiff.Error

namespace Tiff

/-- Offsets and lengths are 64-bit numbers: all of them lie below this. -/
def addressLimit : Nat := UInt64.size

/-- The bytes of a range, as far as they are there. -/
def slice (content : ByteArray) (offset length : Nat) : List UInt8 :=
  (content.extract (min offset content.size) (min (offset + length) content.size)).data.toList

/-- The range as a piece of the list of all bytes. -/
theorem slice_eq (content : ByteArray) (offset length : Nat) :
    slice content offset length = (content.data.toList.drop offset).take length := by
  rw [slice, ByteArray.data_extract, Array.toList_extract, List.extract_eq_take_drop,
    ← ByteArray.size_data, ← Array.length_toList]
  generalize content.data.toList = bytes
  apply List.ext_getElem?
  intro i
  grind

@[simp] theorem slice_zero (content : ByteArray) (offset : Nat) : slice content offset 0 = [] := by
  simp [slice_eq]

theorem length_slice (content : ByteArray) (offset length : Nat) :
    (slice content offset length).length = min length (content.size - offset) := by
  rw [slice_eq, List.length_take, List.length_drop, Array.length_toList, ByteArray.size_data]

theorem length_slice_of_le {content : ByteArray} {offset length : Nat}
    (h : offset + length ≤ content.size) : (slice content offset length).length = length := by
  rw [length_slice]
  omega

/-- A slice is its front and the slice behind that. -/
theorem slice_append (content : ByteArray) (offset front back : Nat) :
    slice content offset front ++ slice content (offset + front) back =
      slice content offset (front + back) := by
  rw [slice_eq, slice_eq, slice_eq, ← List.drop_drop, ← List.take_add]

/-- The length of a slice says which slice it is. -/
theorem slice_length_of_eq {content : ByteArray} {offset length : Nat} {bytes : List UInt8}
    (h : slice content offset length = bytes) : slice content offset bytes.length = bytes := by
  subst h
  rw [slice_eq, slice_eq, List.length_take]
  exact List.take_eq_take_min.symm

/-- A slice does not go beyond the content, however long it is said to be. -/
theorem slice_eq_slice_iff {content : ByteArray} {offset length length' : Nat} :
    slice content offset length = slice content offset length' ↔
      min length (content.size - offset) = min length' (content.size - offset) := by
  rw [slice_eq, slice_eq, List.take_eq_take_iff, List.length_drop, Array.length_toList,
    ByteArray.size_data]

/-! ## Devices -/

/-- Where a device stops working, and what it says then. -/
structure Break where
  position : Nat
  message : String
  deriving DecidableEq, Repr

/-- What hands out the bytes of a file or a stream, a few at each call. -/
structure Device where
  content : ByteArray
  /-- The most bytes that a call hands out, by the number of calls before it. -/
  grant : Nat → Nat := fun _ => content.size
  /-- Calls at this position or past it fail, and calls before it stop short of it. -/
  break? : Option Break := none

namespace Device

/-- What a call gives at a position: at most `wanted` bytes, none at the end of the data. -/
def call (device : Device) (calls position wanted : Nat) : Except String (List UInt8) :=
  let give (room : Nat) :=
    slice device.content position (min wanted (min room (device.grant calls)))
  match device.break? with
  | some stop =>
    if stop.position ≤ position then .error stop.message else .ok (give (stop.position - position))
  | none => .ok (give wanted)

theorem length_call {device : Device} {calls position wanted : Nat} {bytes : List UInt8}
    (h : device.call calls position wanted = .ok bytes) : bytes.length ≤ wanted := by
  unfold call at h
  split at h
  · split at h
    · simp at h
    · injection h with h
      subst h
      simp [slice]
      omega
  · injection h with h
    subst h
    simp [slice]
    omega

end Device

/-! ## Open devices -/

/-- A device that is open. It goes on where the last call left it, unless it is sought. -/
structure Handle where
  device : Device
  /-- Where the next call begins. -/
  position : Nat := 0
  /-- The calls so far. -/
  calls : Nat := 0

/-- What repeated calls brought: the bytes, the message of the call that failed, if one did, and
the device after them. -/
structure Pulled where
  bytes : List UInt8
  failure : Option String
  handle : Handle

namespace Handle

def seek (handle : Handle) (position : Nat) : Handle := { handle with position }

/-- A call from where the device stands. It moves on past the bytes that it gives. -/
def call (handle : Handle) (wanted : Nat) : Except String (List UInt8) × Handle :=
  match handle.device.call handle.calls handle.position wanted with
  | .error message => (.error message, { handle with calls := handle.calls + 1 })
  | .ok bytes => (.ok bytes, { handle with
      position := handle.position + bytes.length
      calls := handle.calls + 1 })

variable {handle handle' : Handle} {wanted : Nat}

theorem call_eq_error {message : String} (h : handle.call wanted = (.error message, handle')) :
    handle.device.call handle.calls handle.position wanted = .error message ∧
      handle' = { handle with calls := handle.calls + 1 } := by
  unfold call at h
  split at h <;> cases h
  exact ⟨‹_›, rfl⟩

theorem call_eq_ok {bytes : List UInt8} (h : handle.call wanted = (.ok bytes, handle')) :
    handle.device.call handle.calls handle.position wanted = .ok bytes ∧
      handle' = { handle with
        position := handle.position + bytes.length
        calls := handle.calls + 1 } := by
  unfold call at h
  split at h <;> cases h
  exact ⟨‹_›, rfl⟩

/-- Calls again and again until `wanted` bytes are there, or a call gives none, or one fails. -/
def pull (handle : Handle) (wanted : Nat) : Pulled :=
  if wanted = 0 then ⟨[], none, handle⟩
  else
    match handle.call wanted with
    | (.error message, after) => ⟨[], some message, after⟩
    | (.ok [], after) => ⟨[], none, after⟩
    | (.ok (b :: bytes), after) =>
      let got := b :: bytes
      let rest := after.pull (wanted - got.length)
      ⟨got ++ rest.bytes, rest.failure, rest.handle⟩
termination_by wanted
decreasing_by
  simp only [List.length_cons]
  omega

end Handle

/-! ## Streams -/

/-- A stream with the bytes that it gave so far. -/
structure Stream where
  handle : Handle
  buffer : ByteArray := .empty
  /-- Whether the stream was found to hold no more than the buffer. -/
  ended : Bool := false

namespace Stream

/-- A stream of which nothing was read yet. -/
def ofDevice (device : Device) : Stream := { handle := { device } }

/-- Pulls what the buffer lacks up to `stop`, from wherever the device stands. What came before a
failure stays in the buffer, and the next request that needs more tries again. -/
def fill (stream : Stream) (stop : Nat) : Option String × Stream :=
  if stop ≤ stream.buffer.size || stream.ended then (none, stream)
  else
    let wanted := stop - stream.buffer.size
    let pulled := stream.handle.pull wanted
    let stream' : Stream := { stream with
      handle := pulled.handle
      buffer := stream.buffer ++ ⟨pulled.bytes.toArray⟩ }
    match pulled.failure with
    | some message => (some message, stream')
    | none => (none, { stream' with ended := pulled.bytes.length < wanted })

def read (stream : Stream) (offset length : Nat) : Except SourceError (List UInt8) × Stream :=
  let stop := offset + length
  if addressLimit ≤ stop then (.error (.outOfBounds offset length stream.buffer.size), stream)
  else
    match stream.fill stop with
    | (some message, stream') => (.error (.broken offset message), stream')
    | (none, stream') =>
      if stream'.buffer.size < stop then
        (.error (.outOfBounds offset length stream'.buffer.size), stream')
      else (.ok (slice stream'.buffer offset length), stream')

end Stream

/-! ## Sources -/

/-- Where the bytes of a source are. -/
inductive Backing where
  | memory (content : ByteArray)
  /-- A device that can be sought, and the size found when it was opened. -/
  | seekable (handle : Handle) (size : Nat)
  | stream (stream : Stream)

/-- A source with the name that it goes by in messages. -/
structure Source where
  name : String
  backing : Backing

namespace Source

def ofBytes (content : ByteArray) (name : String := "memory") : Source :=
  ⟨name, .memory content⟩

def ofStream (device : Device) (name : String := "stream") : Source :=
  ⟨name, .stream (.ofDevice device)⟩

/-- Opens a device that can be sought; the size is where a seek to the end leads, and there the
device stands then. -/
def openSeekable (device : Device) (size : Except String Nat) (name : String := "seekable") :
    Except SourceError Source :=
  match size with
  | .error message => .error (.broken 0 message)
  | .ok size => .ok ⟨name, .seekable { device, position := size } size⟩

/-- What the operating system says of a path that leads to no file. -/
def noFile : String := "No such file or directory (os error 2)"

/-- Opens the file at a path, which names the source. -/
def openFile (path : String) (content : Except String ByteArray) : Except SourceError Source :=
  match content with
  | .error message => .error (.broken 0 s!"{path}: {message}")
  | .ok content => openSeekable { content } (.ok content.size) path

/-- The size, once it is known: a stream has to come to its end first. -/
def size? (source : Source) : Option Nat :=
  match source.backing with
  | .memory content => some content.size
  | .seekable _ size => some size
  | .stream stream => if stream.ended then some stream.buffer.size else none

/-- How many bytes a stream keeps. -/
def buffered? (source : Source) : Option Nat :=
  match source.backing with
  | .stream stream => some stream.buffer.size
  | _ => none

/-- A range of bytes, all of them or an error, and the source after the request. -/
def read (source : Source) (offset length : Nat) : Except SourceError (List UInt8) × Source :=
  match source.backing with
  | .memory content =>
    if offset + length < addressLimit ∧ offset + length ≤ content.size then
      (.ok (slice content offset length), source)
    else (.error (.outOfBounds offset length content.size), source)
  | .seekable handle size =>
    if offset + length < addressLimit ∧ offset + length ≤ size then
      let pulled := (handle.seek offset).pull length
      let source' := { source with backing := .seekable pulled.handle size }
      match pulled.failure with
      | some message => (.error (.broken offset message), source')
      | none =>
        if pulled.bytes.length < length then (.error (.outOfBounds offset length size), source')
        else (.ok pulled.bytes, source')
    else (.error (.outOfBounds offset length size), source)
  | .stream stream =>
    let (answer, stream') := stream.read offset length
    (answer, { source with backing := .stream stream' })

end Source

end Tiff
