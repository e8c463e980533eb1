-- Bytes in groups of one width. What is left over at the end, too short for a
-- group, belongs to none.

namespace Tiff

/-- The groups of `width` bytes, in order. There are none of width zero. -/
def groups (width : Nat) (bytes : List UInt8) : List (List UInt8) :=
  let all := bytes.toArray
  (List.range (bytes.length / width)).map fun i =>
    (all.extract (i * width) (i * width + width)).toList

/-- Bytes that are too few for a group have none. -/
theorem groups_of_lt {width : Nat} {bytes : List UInt8} (h : bytes.length < width) :
    groups width bytes = [] := by
  simp [groups, Nat.div_eq_of_lt h]

/-- Otherwise the first `width` bytes are a group, and the others follow behind them. -/
theorem groups_cons {width : Nat} {bytes : List UInt8} (pos : 0 < width)
    (h : width ≤ bytes.length) :
    groups width bytes = bytes.take width :: groups width (bytes.drop width) := by
  have count : bytes.length / width = (bytes.length - width) / width + 1 :=
    Nat.div_eq_sub_div pos h
  simp only [groups, count, List.range_succ_eq_map, List.map_cons, List.map_map,
    List.length_drop]
  congr 1
  · simp [List.extract_eq_take_drop]
  · apply List.map_congr_left
    intro i _
    simp [List.extract_eq_take_drop, List.drop_drop, Nat.succ_mul, Nat.add_comm]

@[simp] theorem length_groups (width : Nat) (bytes : List UInt8) :
    (groups width bytes).length = bytes.length / width := by
  simp [groups]

end Tiff
