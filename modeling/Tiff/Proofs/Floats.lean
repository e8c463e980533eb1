-- Conversions into floating-point numbers. Every number of a payload has one, but
-- whole numbers come to it through signed numbers of 64 bits. So where one of them
-- is too large for these, nothing comes out.

import Tiff.Proofs.Conversions

namespace Tiff

namespace Value

/-! ## Signed numbers -/

theorem signed64?_eq_some_iff {n : Nat} {z : Int} :
    signed64? n = some z ↔ IntRange.int64.Contains n ∧ z = n := by
  rw [IntRange.contains_iff]
  unfold signed64? IntRange.least IntRange.limit
  split
  · simp only [Option.some.injEq]
    omega
  · simp only [reduceCtorEq, false_iff]
    omega

theorem mapM_signed64?_eq_some_iff {ns : List Nat} {zs : List Int} :
    ns.mapM signed64? = some zs ↔
      (∀ n ∈ ns, IntRange.int64.Contains n) ∧ zs = ns.map Int.ofNat := by
  induction ns generalizing zs with
  | nil => simp [eq_comm]
  | cons n ns ih =>
    simp only [List.mapM_cons, Option.bind_eq_bind, Option.bind_eq_some_iff, signed64?_eq_some_iff,
      ih, Option.pure_def, Option.some.injEq, List.forall_mem_cons, List.map_cons]
    constructor
    · rintro ⟨_, ⟨hn, rfl⟩, _, ⟨hns, rfl⟩, rfl⟩
      exact ⟨⟨hn, hns⟩, rfl⟩
    · rintro ⟨⟨hn, hns⟩, rfl⟩
      exact ⟨n, ⟨hn, rfl⟩, _, ⟨hns, rfl⟩, rfl⟩

theorem integers?_of_naturals? {value : Value} {ns : List Nat} (h : value.naturals? = some ns) :
    value.integers? = ns.mapM signed64? := by
  cases value <;> cases h <;> rfl

/-- Only two kinds have numbers that are too large for 64 bits with a sign. -/
theorem contains_wholes {value : Value}
    (h : ∀ xs, value = .long8 xs ∨ value = .ifd8 xs → ∀ x ∈ xs, x.toNat < 0x8000000000000000) :
    ∀ n ∈ value.wholes, IntRange.int64.Contains n := by
  simp only [IntRange.contains_iff, IntRange.least, IntRange.limit]
  cases value with
  | byte xs | undefined xs | short xs | long xs | ifd xs =>
    refine List.forall_mem_map.mpr fun x _ => ?_
    have hlimit := x.toNat_lt
    omega
  | sbyte xs | sshort xs | slong xs | slong8 xs =>
    refine List.forall_mem_map.mpr fun x _ => ?_
    have hleast := x.le_toInt
    have hlimit := x.toInt_lt
    omega
  | long8 xs | ifd8 xs =>
    refine List.forall_mem_map.mpr fun x hx => ?_
    have hlimit := h xs (by simp) x hx
    omega
  | _ => exact fun n hn => absurd hn List.not_mem_nil

theorem contains_of_signed {value : Value} {zs : List Int} (hnone : value.naturals? = none)
    (h : value.integers? = some zs) : ∀ z ∈ zs, IntRange.int64.Contains z := by
  have hwholes : zs = value.wholes := by
    cases value <;> cases hnone <;> cases h <;> rfl
  rw [hwholes]
  refine contains_wholes ?_
  rintro xs (rfl | rfl) <;> cases hnone

/-- The signed view of a value has its whole numbers, if all of them have 64 bits with a sign. -/
theorem integers?_eq_some_iff {value : Value} {zs : List Int} :
    value.integers? = some zs ↔
      value.IsWhole ∧ (∀ n ∈ value.wholes, IntRange.int64.Contains n) ∧ zs = value.wholes := by
  have hwholes : value.integers? = some zs ↔
      value.wholes? = some zs ∧ ∀ z ∈ zs, IntRange.int64.Contains z := by
    unfold wholes?
    cases hnaturals : value.naturals? with
    | none => exact ⟨fun h => ⟨h, contains_of_signed hnaturals h⟩, And.left⟩
    | some ns =>
      rw [integers?_of_naturals? hnaturals, mapM_signed64?_eq_some_iff]
      simp only [Option.some.injEq]
      constructor
      · rintro ⟨hall, rfl⟩
        exact ⟨rfl, List.forall_mem_map.mpr hall⟩
      · rintro ⟨rfl, hall⟩
        exact ⟨List.forall_mem_map.mp hall, rfl⟩
  rw [hwholes, wholes?_eq_some_iff]
  constructor
  · rintro ⟨⟨hwhole, rfl⟩, hall⟩
    exact ⟨hwhole, hall, rfl⟩
  · rintro ⟨hwhole, hall, rfl⟩
    exact ⟨⟨hwhole, rfl⟩, hall⟩

/-! ## Floating-point numbers -/

/-- A value of a numeric kind: neither text nor bytes that nothing is said about. -/
def IsNumeric (value : Value) : Prop := value.kind ≠ "ASCII" ∧ value.kind ≠ "raw bytes"

instance (value : Value) : Decidable value.IsNumeric := inferInstanceAs (Decidable (_ ∧ _))

/-- The elements of a numeric kind as floating-point numbers, in their order. -/
def floats : Value → List Float
  | float xs => xs.map fun bits => (Float32.ofBits bits).toFloat
  | double xs => xs.map Float.ofBits
  | rational xs => xs.map Rational.toFloat
  | srational xs => xs.map SRational.toFloat
  | value => value.wholes.map fun n => (Int64.ofInt n).toFloat

/-- A value that has floating-point numbers: one of a numeric kind, with no whole number that is too
large for 64 bits with a sign. -/
structure HasFloats (value : Value) : Prop where
  isNumeric : value.IsNumeric
  contains : ∀ n ∈ value.wholes, IntRange.int64.Contains n

theorem length_floats {value : Value} (h : value.IsNumeric) :
    value.floats.length = value.length := by
  cases value <;> simp_all [floats, wholes, length, IsNumeric, kind]

theorem floats?_of_isWhole {value : Value} (h : value.IsWhole) :
    value.IsNumeric ∧ (value.floats = value.wholes.map fun n => (Int64.ofInt n).toFloat) ∧
      value.floats? = value.integers?.map fun ns => ns.map fun n => (Int64.ofInt n).toFloat := by
  cases value <;>
    simp [IsWhole, kind, Coding.wholes, Coding.name, IsNumeric, floats, floats?] at h ⊢

theorem floats?_of_not_isWhole {value : Value} (h : ¬ value.IsWhole) :
    value.wholes = [] ∧ ∀ xs, value.floats? = some xs ↔ value.IsNumeric ∧ xs = value.floats := by
  cases value <;>
    simp [IsWhole, kind, Coding.wholes, Coding.name, IsNumeric, floats, floats?, wholes, integers?,
      naturals?, eq_comm] at h ⊢

theorem floats?_eq_some_iff {value : Value} {xs : List Float} :
    value.floats? = some xs ↔ value.HasFloats ∧ xs = value.floats := by
  by_cases hwhole : value.IsWhole
  · obtain ⟨hnumeric, hfloats, hview⟩ := floats?_of_isWhole hwhole
    simp only [hview, hfloats, Option.map_eq_some_iff, integers?_eq_some_iff]
    constructor
    · rintro ⟨_, ⟨-, hall, rfl⟩, rfl⟩
      exact ⟨⟨hnumeric, hall⟩, rfl⟩
    · rintro ⟨⟨-, hall⟩, rfl⟩
      exact ⟨_, ⟨hwhole, hall, rfl⟩, rfl⟩
  · obtain ⟨hnone, hview⟩ := floats?_of_not_isWhole hwhole
    rw [hview]
    constructor
    · rintro ⟨hnumeric, rfl⟩
      exact ⟨⟨hnumeric, by simp [hnone]⟩, rfl⟩
    · rintro ⟨⟨hnumeric, -⟩, rfl⟩
      exact ⟨hnumeric, rfl⟩

theorem hasFloats_iff {value : Value} :
    value.HasFloats ↔ value.IsNumeric ∧
      ∀ xs, value = .long8 xs ∨ value = .ifd8 xs → ∀ x ∈ xs, x.toNat < 0x8000000000000000 := by
  constructor
  · rintro ⟨hnumeric, hall⟩
    refine ⟨hnumeric, fun xs hxs x hx => ?_⟩
    have hmem : (x.toNat : Int) ∈ value.wholes := by
      rcases hxs with rfl | rfl <;> exact List.mem_map_of_mem hx
    obtain ⟨-, hlimit⟩ := (IntRange.contains_iff _ _).mp (hall _ hmem)
    exact Int.ofNat_lt.mp hlimit
  · rintro ⟨hnumeric, hall⟩
    exact ⟨hnumeric, contains_wholes hall⟩

/-- The elements of a numeric kind as floating-point numbers of 32 bits. -/
def singles : Value → List Float32
  | float xs => xs.map Float32.ofBits
  | value => value.floats.map Float.toFloat32

theorem length_singles {value : Value} (h : value.IsNumeric) :
    value.singles.length = value.length := by
  rw [← length_floats h]
  cases value <;> simp [singles, floats]

/-- The view as numbers of 32 bits keeps those that have 32 bits as they are. -/
theorem singles?_eq_some_iff {value : Value} {ys : List Float32} :
    (match value with
      | .float xs => some (xs.map Float32.ofBits)
      | value => value.floats?.map fun xs => xs.map Float.toFloat32) = some ys ↔
      value.HasFloats ∧ ys = value.singles := by
  by_cases hfloat : ∃ xs, value = .float xs
  · obtain ⟨xs, rfl⟩ := hfloat
    have hhas : (float xs).HasFloats := ⟨⟨by simp [kind], by simp [kind]⟩, nofun⟩
    simp [hhas, singles, eq_comm]
  · have hsingles : value.singles = value.floats.map Float.toFloat32 := by
      cases value <;> first | rfl | exact absurd ⟨_, rfl⟩ hfloat
    split
    · exact absurd ⟨_, rfl⟩ hfloat
    · simp only [Option.map_eq_some_iff, floats?_eq_some_iff, hsingles]
      constructor
      · rintro ⟨_, ⟨hhas, rfl⟩, rfl⟩
        exact ⟨hhas, rfl⟩
      · rintro ⟨hhas, rfl⟩
        exact ⟨_, ⟨hhas, rfl⟩, rfl⟩

end Value

/-! ## Payloads -/

namespace Payload

/-- A payload converts into some elements, and into the first one of them, just where it has
floating-point numbers. -/
structure ConvertsInto {α : Type} (payload : Payload) (name : String) (elements : List α)
    (all : Except Error (List α)) (first : Except Error α) : Prop where
  length_eq : payload.value.IsNumeric → elements.length = payload.value.length
  all_eq : payload.value.HasFloats → all = .ok elements
  first_eq : payload.value.HasFloats → ∀ x ∈ elements.head?, first = .ok x
  first_of_nil : payload.value.HasFloats → elements = [] →
    first = .error (.conversion payload.tagId name payload.value.kind payload.count)
  refused : ¬ payload.value.HasFloats →
    all = .error (.conversion payload.tagId ("Vec<" ++ name ++ ">") payload.value.kind
      payload.count) ∧
    first = .error (.conversion payload.tagId ("Vec<" ++ name ++ ">") payload.value.kind
      payload.count)

theorem convertsInto {α : Type} {payload : Payload} {name : String} {elements : List α}
    {found : Option (List α)}
    (hlength : payload.value.IsNumeric → elements.length = payload.value.length)
    (hfound : ∀ xs, found = some xs ↔ payload.value.HasFloats ∧ xs = elements) :
    payload.ConvertsInto name elements (payload.expecting (listOf name) found)
      (payload.firstOf name (payload.expecting (listOf name) found)) := by
  by_cases h : payload.value.HasFloats
  · obtain rfl : found = some elements := (hfound elements).mpr ⟨h, rfl⟩
    refine ⟨hlength, fun _ => rfl, fun _ x hx => ?_, fun _ hnil => ?_, fun hnot => absurd h hnot⟩
    · obtain ⟨others, rfl⟩ := List.head?_eq_some_iff.mp hx
      rfl
    · subst hnil
      rfl
  · obtain rfl : found = none := by
      rw [Option.eq_none_iff_forall_ne_some]
      exact fun xs hxs => h ((hfound xs).mp hxs).1
    exact ⟨hlength, fun h' => absurd h' h, fun h' => absurd h' h, fun h' => absurd h' h,
      fun _ => ⟨rfl, rfl⟩⟩

/-- A payload of numbers converts into floating-point numbers, one for each element, unless one of
its elements is a whole number that is too large for 64 bits with a sign. Then it is refused, as
text and raw bytes are. One number is the first one of such a list. -/
theorem numbers_have_floats_unless_too_large (payload : Payload) :
    (payload.value.HasFloats ↔ payload.value.IsNumeric ∧
      ∀ xs, payload.value = .long8 xs ∨ payload.value = .ifd8 xs →
        ∀ x ∈ xs, x.toNat < 0x8000000000000000) ∧
    (∀ xs, payload.value.floats? = some xs ↔
      payload.value.HasFloats ∧ xs = payload.value.floats) ∧
    payload.ConvertsInto "f64" payload.value.floats payload.doubles payload.double ∧
    payload.ConvertsInto "f32" payload.value.singles payload.singles payload.single :=
  ⟨Value.hasFloats_iff, fun _ => Value.floats?_eq_some_iff,
    convertsInto Value.length_floats fun _ => Value.floats?_eq_some_iff,
    convertsInto Value.length_singles fun _ => Value.singles?_eq_some_iff⟩

/-- The first number of 64 bits that has none with a sign. -/
def large : Payload where
  entry := {
    layout := .big, tag := 700, type := 16, count := 1, slot := [0, 0, 0, 0, 0, 0, 0, 0x80] }
  type := Coding.long8.fieldType
  order := .little
  bytes := [0, 0, 0, 0, 0, 0, 0, 0x80]
  offset := 0

/-- It converts into a natural number, but into no floating-point number. -/
theorem a_large_whole_number_has_no_float :
    large.value = .long8 [0x8000000000000000] ∧ large.value.IsNumeric ∧
    large.naturals = .ok [0x8000000000000000] ∧ large.value.floats? = none ∧
    large.doubles = .error (.conversion 700 "Vec<f64>" "LONG8" 1) ∧
    large.double = .error (.conversion 700 "Vec<f64>" "LONG8" 1) ∧
    large.singles = .error (.conversion 700 "Vec<f32>" "LONG8" 1) ∧
    large.single = .error (.conversion 700 "Vec<f32>" "LONG8" 1) :=
  ⟨by decide, by decide, rfl, rfl, rfl, rfl, rfl, rfl⟩

end Payload

end Tiff
