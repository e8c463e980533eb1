-- Streams on demand. A stream is pulled only as far as a request needs, and it
-- keeps all that came. So nothing of the requests before shows in it but how far
-- they went, and a range is answered as if it were the first one asked for.

import Tiff.Byte.Source

namespace Tiff

/-! ## Devices -/

namespace Device

/-- How many bytes a device has to give: its content, as far as it does not break before. -/
def reach (device : Device) : Nat :=
  match device.break? with
  | some stop => min device.content.size stop.position
  | none => device.content.size

/-- What a device says behind its reach, if it breaks there. Otherwise its content ends there. -/
def fault? (device : Device) : Option String :=
  match device.break? with
  | some stop => if stop.position ≤ device.content.size then some stop.message else none
  | none => none

variable {device : Device}

theorem reach_le_size (device : Device) : device.reach ≤ device.content.size := by
  unfold reach
  split <;> omega

theorem fault?_eq_some {stop : Break} (hbreak : device.break? = some stop)
    (hstop : stop.position ≤ device.content.size) :
    device.reach = stop.position ∧ device.fault? = some stop.message := by
  unfold reach fault?
  simp only [hbreak, if_pos hstop, and_true]
  omega

/-- A device without a fault gives all that it has. -/
theorem fault?_eq_none_iff :
    device.fault? = none ↔
      ∀ stop, device.break? = some stop → device.content.size < stop.position := by
  unfold fault?
  cases device.break? with
  | none => simp
  | some stop => simp

theorem reach_of_fault?_eq_none (h : device.fault? = none) :
    device.reach = device.content.size := by
  rw [fault?_eq_none_iff] at h
  unfold reach
  cases hbreak : device.break? with
  | none => rfl
  | some stop =>
    have := h stop hbreak
    simp only
    omega

/-! ## Pulling -/

/-- A call within reach gives a front of what is wanted. -/
theorem call_of_lt {calls position wanted : Nat} (h : position < device.reach) :
    device.call calls position wanted =
      .ok (slice device.content position
        (min wanted (min (device.reach - position) (device.grant calls)))) := by
  unfold reach at h ⊢
  unfold call
  cases hbreak : device.break? with
  | none =>
    simp only [hbreak] at h ⊢
    rw [Except.ok.injEq, slice_eq_slice_iff]
    omega
  | some stop =>
    simp only [hbreak] at h ⊢
    rw [if_neg (by omega), Except.ok.injEq]
    rcases Nat.le_total stop.position device.content.size with hle | hge
    · rw [Nat.min_eq_right hle]
    · rw [Nat.min_eq_left hge, slice_eq_slice_iff]
      omega

/-- A call at the end of the reach fails, or gives nothing. -/
theorem call_reach (calls wanted : Nat) :
    device.call calls device.reach wanted =
      match device.fault? with
      | some message => .error message
      | none => .ok [] := by
  have hnone : ∀ length, slice device.content device.content.size length = [] := by
    intro length
    apply List.eq_nil_of_length_eq_zero
    rw [length_slice]
    omega
  unfold call reach fault?
  cases device.break? with
  | none => simp [hnone]
  | some stop =>
    by_cases hstop : stop.position ≤ device.content.size
    · simp [hstop]
    · have hmin : min device.content.size stop.position = device.content.size := by omega
      simp [hstop, hmin, hnone]

end Device

namespace Handle

variable {handle : Handle}

/-- A pull moves the device on by what it brings, whether it fails or not. -/
theorem pull_moves (handle : Handle) (wanted : Nat) :
    (handle.pull wanted).handle.device = handle.device ∧
      (handle.pull wanted).handle.position =
        handle.position + (handle.pull wanted).bytes.length := by
  fun_induction Handle.pull handle wanted with
  | case1 => exact ⟨rfl, rfl⟩
  | case2 handle wanted hwanted message after hcall =>
    obtain ⟨-, rfl⟩ := call_eq_error hcall
    exact ⟨rfl, rfl⟩
  | case3 handle wanted hwanted after hcall =>
    obtain ⟨-, rfl⟩ := call_eq_ok hcall
    exact ⟨rfl, rfl⟩
  | case4 handle wanted hwanted b bytes after hcall got rest ih =>
    obtain ⟨hdevice, hposition⟩ := ih
    obtain ⟨-, rfl⟩ := call_eq_ok hcall
    exact ⟨hdevice, by rw [hposition, List.length_append, Nat.add_assoc]⟩

/-- A pull brings all that is wanted and within reach, however it is cut up. It fails just where
more is wanted and the device breaks. -/
theorem pull_eq (hgrant : ∀ calls, 0 < handle.device.grant calls) (wanted : Nat)
    (hposition : handle.position ≤ handle.device.reach) :
    (handle.pull wanted).bytes = slice handle.device.content handle.position
        (min wanted (handle.device.reach - handle.position)) ∧
      (handle.pull wanted).failure =
        if handle.position + wanted ≤ handle.device.reach then none
        else handle.device.fault? := by
  fun_induction Handle.pull handle wanted with
  | case1 => simp [hposition]
  | case2 handle wanted hwanted message after hcall =>
    obtain ⟨hcall, -⟩ := call_eq_error hcall
    rcases Nat.lt_or_eq_of_le hposition with hlt | heq
    · rw [Device.call_of_lt hlt] at hcall
      cases hcall
    · rw [heq, Device.call_reach] at hcall
      cases hfault : handle.device.fault? with
      | none => simp [hfault] at hcall
      | some text =>
        simp only [hfault, Except.error.injEq] at hcall
        rw [heq, Nat.sub_self, Nat.min_zero, slice_zero, if_neg (by omega), hcall]
        exact ⟨rfl, rfl⟩
  | case3 handle wanted hwanted after hcall =>
    obtain ⟨hcall, -⟩ := call_eq_ok hcall
    rcases Nat.lt_or_eq_of_le hposition with hlt | heq
    · -- a byte was there, and one was granted
      rw [Device.call_of_lt hlt, Except.ok.injEq] at hcall
      have hsize := handle.device.reach_le_size
      have hlen := congrArg List.length hcall
      have hpos := hgrant handle.calls
      rw [length_slice, List.length_nil] at hlen
      omega
    · rw [heq, Device.call_reach] at hcall
      cases hfault : handle.device.fault? with
      | none => simp [heq]
      | some text => simp [hfault] at hcall
  | case4 handle wanted hwanted b bytes after hcall got rest ih =>
    obtain ⟨hgiven, rfl⟩ := call_eq_ok hcall
    have hlt : handle.position < handle.device.reach := by
      rcases Nat.lt_or_eq_of_le hposition with hlt | heq
      · exact hlt
      · rw [heq, Device.call_reach] at hgiven
        cases hfault : handle.device.fault? <;> simp [hfault] at hgiven
    rw [Device.call_of_lt hlt, Except.ok.injEq] at hgiven
    have hgot : slice handle.device.content handle.position got.length = got :=
      slice_length_of_eq hgiven
    have hlen : got.length ≤ min wanted (handle.device.reach - handle.position) := by
      rw [show got = _ from hgiven.symm, length_slice]
      omega
    -- the rest is pulled from where this call left the device
    have hinside : handle.position + got.length ≤ handle.device.reach := by omega
    obtain ⟨hbytes, hfailure⟩ := ih hgrant hinside
    refine ⟨?_, ?_⟩
    · calc got ++ rest.bytes
          = slice handle.device.content handle.position got.length ++
              slice handle.device.content (handle.position + got.length)
                (min (wanted - got.length)
                  (handle.device.reach - (handle.position + got.length))) := by
            rw [hgot, ← hbytes]
        _ = slice handle.device.content handle.position
              (min wanted (handle.device.reach - handle.position)) := by
            rw [slice_append, slice_eq_slice_iff]
            omega
    · have hend : handle.position + got.length + (wanted - got.length) =
          handle.position + wanted := by omega
      rw [hfailure, hend]

end Handle

/-! ## What a stream holds -/

namespace Stream

/-- A stream of which as much was asked for as `mark` says. It holds all that it could give up to
there, its device stands right behind that, and it was found to end if that was not enough and no
call failed. -/
structure Marked (stream : Stream) (device : Device) (mark : Nat) : Prop where
  device_eq : stream.handle.device = device
  position_eq : stream.handle.position = stream.buffer.size
  buffer_eq : stream.buffer.data.toList = slice device.content 0 (min mark device.reach)
  ended_eq : stream.ended = decide (device.reach < mark ∧ device.fault? = none)

variable {stream : Stream} {device : Device} {mark : Nat}

theorem marked_fresh (device : Device) : (ofDevice device).Marked device 0 :=
  ⟨rfl, rfl, by rw [Nat.zero_min, slice_zero]; rfl, by simp [ofDevice]⟩

theorem Marked.size_eq (h : stream.Marked device mark) :
    stream.buffer.size = min mark device.reach := by
  have hlen := congrArg List.length h.buffer_eq
  have hsize := device.reach_le_size
  rw [length_slice, Array.length_toList, ByteArray.size_data] at hlen
  omega

/-- What lies in the buffer is answered from the content. -/
theorem Marked.slice_buffer (h : stream.Marked device mark) {offset length : Nat}
    (hle : offset + length ≤ stream.buffer.size) :
    slice stream.buffer offset length = slice device.content offset length := by
  have hsize := h.size_eq
  rw [slice_eq, h.buffer_eq, slice_eq, slice_eq, List.drop_zero, List.drop_take, List.take_take]
  congr 1
  omega

theorem fill_of_done {stop : Nat} (h : stop ≤ stream.buffer.size ∨ stream.ended = true) :
    stream.fill stop = (none, stream) := by
  unfold fill
  rw [if_pos (by simpa using h)]

/-- Where the buffer lacks nothing or the stream has ended, the mark may move and nothing else
changes. -/
theorem Marked.of_done (h : stream.Marked device mark) {stop : Nat}
    (hdone : stop ≤ stream.buffer.size ∨ stream.ended = true) :
    stream.Marked device (max mark stop) ∧ (stop ≤ device.reach ∨ device.fault? = none) := by
  have hsize := h.size_eq
  rcases hdone with hstop | hended
  · rcases Nat.le_total stop mark with hle | hge
    · rw [Nat.max_eq_left hle]
      exact ⟨h, .inl (by omega)⟩
    · obtain rfl : mark = stop := by omega
      rw [Nat.max_self]
      exact ⟨h, .inl (by omega)⟩
  · obtain ⟨hmark, hfault⟩ := of_decide_eq_true (h.ended_eq.symm.trans hended)
    have hmin : min (max mark stop) device.reach = min mark device.reach := by omega
    refine ⟨⟨h.device_eq, h.position_eq, by rw [hmin, h.buffer_eq], ?_⟩, .inr hfault⟩
    rw [hended, eq_comm, decide_eq_true_eq]
    exact ⟨by omega, hfault⟩

/-- What a pull brings for a buffer that lacks some bytes up to `stop`. Because the device stands
behind the buffer, they are the bytes that come next. -/
theorem Marked.pull (h : stream.Marked device mark) (hgrant : ∀ calls, 0 < device.grant calls)
    {stop : Nat} (hstop : stream.buffer.size < stop) :
    let pulled := stream.handle.pull (stop - stream.buffer.size)
    let buffer := stream.buffer ++ ⟨pulled.bytes.toArray⟩
    pulled.handle.device = device ∧ pulled.handle.position = buffer.size ∧
      buffer.data.toList = slice device.content 0 (min (max mark stop) device.reach) ∧
      pulled.bytes.length = min stop device.reach - stream.buffer.size ∧
      pulled.failure = if stop ≤ device.reach then none else device.fault? := by
  intro pulled buffer
  obtain rfl := h.device_eq
  have hreach := stream.handle.device.reach_le_size
  have hsize := h.size_eq
  have hposition := h.position_eq
  obtain ⟨hdevice, hmoved⟩ := stream.handle.pull_moves (stop - stream.buffer.size)
  obtain ⟨hbytes, hfailure⟩ :=
    Handle.pull_eq hgrant (stop - stream.buffer.size) (by omega : stream.handle.position ≤ _)
  rw [hposition] at hmoved hbytes hfailure
  refine ⟨hdevice, ?_, ?_, ?_, ?_⟩
  · rw [hmoved, ByteArray.size_append]
    rfl
  · rw [ByteArray.data_append, Array.toList_append, h.buffer_eq, hbytes, hsize]
    have happend := slice_append stream.handle.device.content 0
      (min mark stream.handle.device.reach)
      (min (stop - min mark stream.handle.device.reach)
        (stream.handle.device.reach - min mark stream.handle.device.reach))
    rw [Nat.zero_add] at happend
    rw [happend, slice_eq_slice_iff]
    omega
  · rw [hbytes, length_slice]
    omega
  · rw [hfailure, Nat.add_sub_cancel' (Nat.le_of_lt hstop)]

/-- Filling the buffer moves the mark, and fails just where the device breaks before `stop`. -/
theorem Marked.fill (h : stream.Marked device mark) (hgrant : ∀ calls, 0 < device.grant calls)
    (stop : Nat) :
    (stream.fill stop).1 = (if stop ≤ device.reach then none else device.fault?) ∧
      (stream.fill stop).2.Marked device (max mark stop) := by
  by_cases hdone : stop ≤ stream.buffer.size ∨ stream.ended = true
  · rw [fill_of_done hdone]
    obtain ⟨hmarked, hle | hfault⟩ := h.of_done hdone
    · exact ⟨by rw [if_pos hle], hmarked⟩
    · exact ⟨by simp [hfault], hmarked⟩
  · rw [not_or, Nat.not_le, Bool.not_eq_true] at hdone
    obtain ⟨hstop, hended⟩ := hdone
    have hsize := h.size_eq
    have hopen : ¬ (device.reach < mark ∧ device.fault? = none) :=
      of_decide_eq_false (h.ended_eq.symm.trans hended)
    obtain ⟨hdevice, hposition, hbuffer, hlength, hfailure⟩ := h.pull hgrant hstop
    have hlacks : ¬ (stop ≤ stream.buffer.size || stream.ended) = true := by
      simp [hended, hstop]
    unfold Stream.fill
    rw [if_neg hlacks]
    simp only [hfailure, hlength]
    by_cases hreach : stop ≤ device.reach
    · simp only [if_pos hreach, true_and]
      refine ⟨hdevice, hposition, hbuffer, ?_⟩
      rw [decide_eq_decide]
      omega
    · simp only [if_neg hreach]
      cases hfault : device.fault? with
      | none =>
        refine ⟨rfl, hdevice, hposition, hbuffer, ?_⟩
        simp only [hfault, and_true, decide_eq_decide]
        omega
      | some message =>
        refine ⟨rfl, hdevice, hposition, hbuffer, ?_⟩
        simp [hended, hfault]

/-! ## What a stream answers -/

/-- A request whose end has no address is refused, and nothing is pulled for it. -/
theorem read_of_overflow {offset length : Nat} (h : addressLimit ≤ offset + length) :
    stream.read offset length =
      (.error (.outOfBounds offset length stream.buffer.size), stream) := by
  unfold Stream.read
  rw [if_pos h]

/-- Any other request moves the mark to its end. The mark before does not show in the answer. -/
theorem Marked.read (h : stream.Marked device mark) (hgrant : ∀ calls, 0 < device.grant calls)
    {offset length : Nat} (haddress : offset + length < addressLimit) :
    (stream.read offset length).2.Marked device (max mark (offset + length)) ∧
      (stream.read offset length).1 =
        if offset + length ≤ device.reach then .ok (slice device.content offset length)
        else
          match device.fault? with
          | some message => .error (.broken offset message)
          | none => .error (.outOfBounds offset length device.content.size) := by
  obtain ⟨hfailure, hmarked⟩ := h.fill hgrant (offset + length)
  unfold Stream.read
  rw [if_neg (by omega)]
  rcases hfill : stream.fill (offset + length) with ⟨failure, filled⟩
  rw [hfill] at hfailure hmarked
  simp only at hfailure hmarked
  have hsize := hmarked.size_eq
  by_cases hreach : offset + length ≤ device.reach
  · rw [if_pos hreach] at hfailure ⊢
    have hhas : ¬ filled.buffer.size < offset + length := by omega
    simp only [hfailure, if_neg hhas]
    exact ⟨hmarked, by rw [hmarked.slice_buffer (by omega)]⟩
  · rw [if_neg hreach] at hfailure ⊢
    cases hfault : device.fault? with
    | some message =>
      simp only [hfailure, hfault]
      exact ⟨hmarked, trivial⟩
    | none =>
      have hreach_eq := Device.reach_of_fault?_eq_none hfault
      have hall : filled.buffer.size = device.content.size := by omega
      have hlacks : device.content.size < offset + length := by omega
      simp only [hfailure, hfault, hall, if_pos hlacks]
      exact ⟨hmarked, trivial⟩

/-- The size is known once more than the whole content was asked for. -/
theorem Marked.size?_eq (h : stream.Marked device mark) (name : String) :
    Source.size? ⟨name, .stream stream⟩ =
      if device.fault? = none ∧ device.content.size < mark then some device.content.size
      else none := by
  have hsize := h.size_eq
  simp only [Source.size?, h.ended_eq, decide_eq_true_eq]
  by_cases hfault : device.fault? = none
  · have hreach := Device.reach_of_fault?_eq_none hfault
    simp only [hfault, hreach, and_true, true_and]
    by_cases hmark : device.content.size < mark
    · rw [if_pos hmark, if_pos hmark, Option.some.injEq]
      omega
    · rw [if_neg hmark, if_neg hmark]
  · simp [hfault]

/-! ## Histories of requests -/

/-- A request for a range. -/
structure Request where
  offset : Nat
  length : Nat

def Request.stop (request : Request) : Nat := request.offset + request.length

/-- What some requests leave of a stream, one after the other, however they were answered. -/
def after (stream : Stream) (requests : List Request) : Stream :=
  requests.foldl (fun stream request => (stream.read request.offset request.length).2) stream

/-- The furthest end of some requests, among those that have an address. -/
def furthest (requests : List Request) : Nat :=
  ((requests.map Request.stop).filter (· < addressLimit)).foldr max 0

theorem furthest_cons (request : Request) (requests : List Request) :
    furthest (request :: requests) =
      if request.stop < addressLimit then max request.stop (furthest requests)
      else furthest requests := by
  unfold furthest
  by_cases h : request.stop < addressLimit <;> simp [h]

theorem lt_furthest_iff {n : Nat} {requests : List Request} :
    n < furthest requests ↔
      ∃ request ∈ requests, request.stop < addressLimit ∧ n < request.stop := by
  induction requests with
  | nil => simp [furthest]
  | cons request requests ih =>
    rw [furthest_cons]
    by_cases h : request.stop < addressLimit
    · have hmax : n < max request.stop (furthest requests) ↔
          n < request.stop ∨ n < furthest requests := by omega
      simp [h, hmax, ih]
    · simp [h, ih]

/-- After any requests the mark stands at the furthest end. -/
theorem Marked.after (h : stream.Marked device mark) (hgrant : ∀ calls, 0 < device.grant calls)
    (requests : List Request) :
    (stream.after requests).Marked device (max mark (furthest requests)) := by
  induction requests generalizing stream mark with
  | nil => simpa [Stream.after, furthest] using h
  | cons request requests ih =>
    rw [furthest_cons]
    by_cases haddress : request.stop < addressLimit
    · have hnext := ih (h.read hgrant haddress).1
      rwa [if_pos haddress, ← Nat.max_assoc]
    · have hsame : (stream.read request.offset request.length).2 = stream := by
        rw [read_of_overflow (Nat.le_of_not_lt haddress)]
      rw [if_neg haddress]
      have hnext := ih h
      simpa [Stream.after, hsame] using hnext

/-- A stream answers from its bytes alone. After any requests it holds its bytes up to the furthest
end that was asked for, as far as they can be had, and the device stands right behind them; it knows
its size just if a request went beyond all of them. Then any range is answered as the bytes say: it
is given if it can be had, it is out of bounds if the bytes end before it does, and where the device
breaks before, the request fails with what that says. A range whose end has no address is refused,
and nothing is pulled. -/
theorem a_stream_answers_from_its_bytes_alone (device : Device)
    (hgrant : ∀ calls, 0 < device.grant calls) (requests : List Request) (name : String) :
    let stream := after (ofDevice device) requests
    let bytes := device.content.data.toList
    let isWhole := ∀ stop, device.break? = some stop → device.content.size < stop.position
    stream.buffer.data.toList = bytes.take (min device.reach (furthest requests)) ∧
    stream.buffer.size = min device.reach (furthest requests) ∧
    stream.handle.position = stream.buffer.size ∧
    (∀ size, Source.size? ⟨name, .stream stream⟩ = some size ↔
      size = device.content.size ∧ isWhole ∧
        ∃ request ∈ requests, request.stop < addressLimit ∧ device.content.size < request.stop) ∧
    ∀ offset length,
      (addressLimit ≤ offset + length →
        stream.read offset length =
          (.error (.outOfBounds offset length stream.buffer.size), stream)) ∧
      (offset + length < addressLimit → offset + length ≤ device.reach →
        (stream.read offset length).1 = .ok ((bytes.drop offset).take length)) ∧
      (offset + length < addressLimit → isWhole → device.content.size < offset + length →
        (stream.read offset length).1 =
          .error (.outOfBounds offset length device.content.size)) ∧
      ∀ stop, device.break? = some stop → stop.position ≤ device.content.size →
        offset + length < addressLimit → stop.position < offset + length →
        (stream.read offset length).1 = .error (.broken offset stop.message) := by
  intro stream bytes isWhole
  have hwhole : isWhole ↔ device.fault? = none := Device.fault?_eq_none_iff.symm
  have hmarked : stream.Marked device (furthest requests) := by
    have h := (marked_fresh device).after hgrant requests
    rwa [Nat.zero_max] at h
  have hsize : stream.buffer.size = min device.reach (furthest requests) := by
    rw [hmarked.size_eq, Nat.min_comm]
  refine ⟨?_, hsize, hmarked.position_eq, ?_, ?_⟩
  · rw [hmarked.buffer_eq, slice_eq, List.drop_zero, Nat.min_comm]
  · intro size
    rw [hmarked.size?_eq, hwhole, ← lt_furthest_iff, Option.ite_none_right_eq_some,
      Option.some.injEq]
    constructor
    · rintro ⟨⟨hfault, hbeyond⟩, rfl⟩
      exact ⟨rfl, hfault, hbeyond⟩
    · rintro ⟨rfl, hfault, hbeyond⟩
      exact ⟨⟨hfault, hbeyond⟩, rfl⟩
  · intro offset length
    refine ⟨read_of_overflow, ?_, ?_, ?_⟩
    · intro haddress hreach
      rw [(hmarked.read hgrant haddress).2, if_pos hreach, slice_eq]
    · intro haddress hall hbeyond
      have hfault := hwhole.mp hall
      have hreach := Device.reach_of_fault?_eq_none hfault
      rw [(hmarked.read hgrant haddress).2, if_neg (by omega), hfault]
    · intro stop hbreak hstop haddress hbeyond
      obtain ⟨hreach, hfault⟩ := Device.fault?_eq_some hbreak hstop
      rw [(hmarked.read hgrant haddress).2, if_neg (by omega), hfault]

/-- Five bytes behind a device that breaks after three of them. -/
def brittle : Device where
  content := ⟨#[1, 2, 3, 4, 5]⟩
  grant := fun calls => calls % 2 + 1
  break? := some ⟨3, "gone"⟩

/-- The three bytes stay when a request beyond them fails, which it does again, and a request
without an address in between changes nothing. -/
theorem a_stream_answers_from_its_bytes_alone_of_brittle :
    (∀ calls, 0 < brittle.grant calls) ∧
    let stream := after (ofDevice brittle) [⟨1, 1⟩, ⟨2, 7⟩, ⟨addressLimit, 0⟩]
    stream.buffer.size = 3 ∧ Source.size? ⟨"stream", .stream stream⟩ ≠ some 5 ∧
      (stream.read 1 2).1 = .ok [2, 3] ∧ (stream.read 2 7).1 = .error (.broken 2 "gone") := by
  have hgrant : ∀ calls, 0 < brittle.grant calls := fun _ => Nat.succ_pos _
  obtain ⟨-, hbuffered, -, hsize, hread⟩ := a_stream_answers_from_its_bytes_alone brittle hgrant
    [⟨1, 1⟩, ⟨2, 7⟩, ⟨addressLimit, 0⟩] "stream"
  obtain ⟨-, hinside, -, -⟩ := hread 1 2
  obtain ⟨-, -, -, hbroken⟩ := hread 2 7
  refine ⟨hgrant, hbuffered, ?_, hinside (by decide) (by decide), ?_⟩
  · intro hknown
    obtain ⟨-, hwhole, -⟩ := (hsize 5).mp hknown
    exact absurd (hwhole _ rfl) (by decide)
  · exact hbroken ⟨3, "gone"⟩ rfl (by decide) (by decide) (by decide)

end Stream

end Tiff
