-- Conversions into whole numbers. A payload of whole numbers converts into every
-- range that has all of its elements, and what comes out are the elements as they
-- stand. Where one element is outside of the range, nothing comes out.

import Tiff.Coding
import Tiff.Payload.Convert

namespace Tiff

/-! ## Ranges -/

namespace IntRange

/-- The numbers of a range are those that a machine word of its name can be. -/
def Contains (range : IntRange) (n : Int) : Prop :=
  match range with
  | uint8 => ∃ word : UInt8, (word.toNat : Int) = n
  | uint16 => ∃ word : UInt16, (word.toNat : Int) = n
  | uint32 => ∃ word : UInt32, (word.toNat : Int) = n
  | uint64 => ∃ word : UInt64, (word.toNat : Int) = n
  | int8 => ∃ word : Int8, word.toInt = n
  | int16 => ∃ word : Int16, word.toInt = n
  | int32 => ∃ word : Int32, word.toInt = n
  | int64 => ∃ word : Int64, word.toInt = n

/-- Words whose numbers stay in an interval, with a word for every number there, have just the
numbers of the interval. -/
theorem exists_word_iff {Word : Type} {number : Word → Int} {wordOf : Int → Word} {least limit : Int}
    (hstays : ∀ word, least ≤ number word ∧ number word < limit)
    (hword : ∀ n, least ≤ n → n < limit → number (wordOf n) = n) (n : Int) :
    (∃ word, number word = n) ↔ least ≤ n ∧ n < limit := by
  constructor
  · rintro ⟨word, rfl⟩
    exact hstays word
  · rintro ⟨hleast, hlimit⟩
    exact ⟨wordOf n, hword n hleast hlimit⟩

/-- Unsigned words are the numbers from zero up to a limit. -/
theorem exists_unsigned_iff {Word : Type} {number : Word → Nat} {wordOf : Nat → Word} {limit : Nat}
    (hstays : ∀ word, number word < limit) (hword : ∀ n < limit, number (wordOf n) = n) (n : Int) :
    (∃ word, (number word : Int) = n) ↔ 0 ≤ n ∧ n < limit := by
  have hstays' : ∀ word, (0 : Int) ≤ number word ∧ (number word : Int) < limit := by
    intro word
    have hlt := hstays word
    omega
  have hword' : ∀ n : Int, 0 ≤ n → n < limit → (number (wordOf n.toNat) : Int) = n := by
    intro n hleast hlimit
    have hlt : n.toNat < limit := by omega
    rw [hword n.toNat hlt, Int.toNat_of_nonneg hleast]
  exact exists_word_iff hstays' hword' n

theorem contains_iff (range : IntRange) (n : Int) :
    range.Contains n ↔ range.least ≤ n ∧ n < range.limit := by
  cases range with
  | uint8 => exact exists_unsigned_iff UInt8.toNat_lt (fun _ => UInt8.toNat_ofNat_of_lt') n
  | uint16 => exact exists_unsigned_iff UInt16.toNat_lt (fun _ => UInt16.toNat_ofNat_of_lt') n
  | uint32 => exact exists_unsigned_iff UInt32.toNat_lt (fun _ => UInt32.toNat_ofNat_of_lt') n
  | uint64 => exact exists_unsigned_iff UInt64.toNat_lt (fun _ => UInt64.toNat_ofNat_of_lt') n
  | int8 =>
    exact exists_word_iff (fun word => ⟨word.le_toInt, word.toInt_lt⟩)
      (fun _ => Int8.toInt_ofInt_of_le) n
  | int16 =>
    exact exists_word_iff (fun word => ⟨word.le_toInt, word.toInt_lt⟩)
      (fun _ => Int16.toInt_ofInt_of_le) n
  | int32 =>
    exact exists_word_iff (fun word => ⟨word.le_toInt, word.toInt_lt⟩)
      (fun _ => Int32.toInt_ofInt_of_le) n
  | int64 =>
    exact exists_word_iff (fun word => ⟨word.le_toInt, word.toInt_lt⟩)
      (fun _ => Int64.toInt_ofInt_of_le) n

instance (range : IntRange) (n : Int) : Decidable (range.Contains n) :=
  decidable_of_iff _ (range.contains_iff n).symm

theorem holds_iff (range : IntRange) (n : Int) : range.holds n = true ↔ range.Contains n := by
  unfold holds
  rw [contains_iff, Bool.and_eq_true, decide_eq_true_iff, decide_eq_true_iff]

end IntRange

/-! ## Elements -/

/-- The codings whose elements are whole numbers. -/
def Coding.wholes : List Coding :=
  [.byte, .undefined, .short, .long, .ifd, .long8, .ifd8, .sbyte, .sshort, .slong, .slong8]

namespace Value

/-- The elements that are whole numbers, in their order. -/
def wholes : Value → List Int
  | byte xs | undefined xs => xs.map fun x => (x.toNat : Int)
  | short xs => xs.map fun x => (x.toNat : Int)
  | long xs | ifd xs => xs.map fun x => (x.toNat : Int)
  | long8 xs | ifd8 xs => xs.map fun x => (x.toNat : Int)
  | sbyte xs => xs.map Int8.toInt
  | sshort xs => xs.map Int16.toInt
  | slong xs => xs.map Int32.toInt
  | slong8 xs => xs.map Int64.toInt
  | _ => []

/-- A value of an integer kind, which goes by the name of its coding. -/
def IsWhole (value : Value) : Prop := value.kind ∈ Coding.wholes.map Coding.name

instance (value : Value) : Decidable value.IsWhole :=
  inferInstanceAs (Decidable (value.kind ∈ Coding.wholes.map Coding.name))

/-- The two views of a value together have the elements of every integer kind, and those of no
other kind. -/
theorem wholes?_eq_some_iff (value : Value) (ns : List Int) :
    value.wholes? = some ns ↔ value.IsWhole ∧ ns = value.wholes := by
  cases value <;>
    simp [wholes?, naturals?, integers?, IsWhole, kind, Coding.wholes, Coding.name, wholes,
      Function.comp_def, eq_comm]

end Value

/-! ## Payloads -/

namespace Payload

variable {payload : Payload} {range : IntRange}

section

variable {α : Type} {expected : String} {found : Option α}

theorem expecting_eq_ok_iff {a : α} : payload.expecting expected found = .ok a ↔ found = some a := by
  unfold expecting
  cases found <;> simp

/-- A refusal tells what was expected, what there is, and of which tag. -/
theorem expecting_eq_error {e : Error} (h : payload.expecting expected found = .error e) :
    e = .conversion payload.tagId expected payload.value.kind payload.count := by
  unfold expecting at h
  cases found with
  | none =>
    cases h
    rfl
  | some a => cases h

end

theorem wholesIn?_eq_some_iff {ns : List Int} : payload.wholesIn? range = some ns ↔
    payload.value.IsWhole ∧ (∀ n ∈ payload.value.wholes, range.Contains n) ∧
      ns = payload.value.wholes := by
  unfold wholesIn?
  simp only [Option.filter_eq_some_iff, Value.wholes?_eq_some_iff, List.all_eq_true,
    IntRange.holds_iff]
  constructor
  · rintro ⟨⟨hwhole, rfl⟩, hall⟩
    exact ⟨hwhole, hall, rfl⟩
  · rintro ⟨hwhole, hall, rfl⟩
    exact ⟨⟨hwhole, rfl⟩, hall⟩

theorem integers_eq_ok_iff {ns : List Int} : payload.integers range = .ok ns ↔
    payload.value.IsWhole ∧ (∀ n ∈ payload.value.wholes, range.Contains n) ∧
      ns = payload.value.wholes := by
  unfold integers
  rw [expecting_eq_ok_iff, wholesIn?_eq_some_iff]

/-- One number is the first one of a list that converts as a whole. -/
theorem integer_eq_ok_iff {n : Int} :
    payload.integer range = .ok n ↔ ∃ others, payload.integers range = .ok (n :: others) := by
  unfold integer integers
  simp only [expecting_eq_ok_iff, Option.bind_eq_bind, Option.bind_eq_some_iff,
    List.head?_eq_some_iff]
  constructor
  · rintro ⟨_, hwholes, others, rfl⟩
    exact ⟨others, hwholes⟩
  · rintro ⟨others, hwholes⟩
    exact ⟨_, hwholes, others, rfl⟩

/-- Numbers without a sign are the natural numbers that they are read as. -/
theorem map_toNat_of_nonneg {ns : List Int} (h : ∀ n ∈ ns, 0 ≤ n) :
    (ns.map Int.toNat).map Int.ofNat = ns := by
  have hsame : ∀ n ∈ ns, (Int.ofNat ∘ Int.toNat) n = n := by
    intro n hn
    exact Int.toNat_of_nonneg (h n hn)
  rw [List.map_map, List.map_congr_left hsame, List.map_id']

/-- Offsets and counts are the elements in the range of 64 bits without a sign. -/
theorem integers_eq_naturals :
    payload.integers .uint64 = payload.naturals.map fun ns => ns.map Int.ofNat := by
  unfold naturals
  cases hns : payload.integers .uint64 with
  | error e => rfl
  | ok ns =>
    obtain ⟨-, hall, rfl⟩ := integers_eq_ok_iff.mp hns
    have hnonneg : ∀ n ∈ payload.value.wholes, 0 ≤ n := by
      intro n hn
      obtain ⟨word, rfl⟩ := hall n hn
      exact Int.natCast_nonneg _
    simp only [Except.map, map_toNat_of_nonneg hnonneg]

theorem integer_eq_natural (hunsigned : ∀ n, range.Contains n → 0 ≤ n) :
    payload.integer range = (payload.natural range).map Int.ofNat := by
  unfold natural
  cases hn : payload.integer range with
  | error e => rfl
  | ok n =>
    obtain ⟨others, hns⟩ := integer_eq_ok_iff.mp hn
    obtain ⟨-, hall, hwholes⟩ := integers_eq_ok_iff.mp hns
    have hnonneg : 0 ≤ n := hunsigned n (hall n (hwholes ▸ List.mem_cons_self ..))
    simp only [Except.map, Int.ofNat_eq_natCast, Int.toNat_of_nonneg hnonneg]

/-- A payload converts into a list of whole numbers just where it is of an integer kind and the
range has all of its elements, and the list has them in their order. It converts into one whole
number just where that is the first one of such a list. All else is refused, with the tag, what was
expected, and what there is. So all ranges that a payload converts into agree on it, and each of
them can be widened. -/
theorem whole_numbers_convert_as_they_stand (payload : Payload) (range : IntRange) :
    (∀ ns, payload.integers range = .ok ns ↔
      payload.value.IsWhole ∧ (∀ n ∈ payload.value.wholes, range.Contains n) ∧
        ns = payload.value.wholes) ∧
    (∀ n, payload.integer range = .ok n ↔
      ∃ others, payload.integers range = .ok (n :: others)) ∧
    (∀ e, payload.integers range = .error e → e =
      .conversion payload.tagId ("Vec<" ++ range.name ++ ">") payload.value.kind payload.count) ∧
    (∀ e, payload.integer range = .error e → e =
      .conversion payload.tagId range.name payload.value.kind payload.count) ∧
    payload.integers .uint64 = (payload.naturals.map fun ns => ns.map Int.ofNat) ∧
    ((∀ n, range.Contains n → 0 ≤ n) →
      payload.integer range = (payload.natural range).map Int.ofNat) ∧
    ∀ other : IntRange,
      (∀ ns ns', payload.integers range = .ok ns → payload.integers other = .ok ns' → ns = ns') ∧
      (∀ n ns', payload.integer range = .ok n → payload.integers other = .ok ns' →
        ns'.head? = some n) ∧
      (∀ n n', payload.integer range = .ok n → payload.integer other = .ok n' → n = n') ∧
      ((∀ n, range.Contains n → other.Contains n) →
        (∀ ns, payload.integers range = .ok ns → payload.integers other = .ok ns) ∧
        ∀ n, payload.integer range = .ok n → payload.integer other = .ok n) := by
  have hagree : ∀ (other : IntRange) ns ns', payload.integers range = .ok ns →
      payload.integers other = .ok ns' → ns = ns' := by
    intro other ns ns' hns hns'
    obtain ⟨-, -, rfl⟩ := integers_eq_ok_iff.mp hns
    obtain ⟨-, -, rfl⟩ := integers_eq_ok_iff.mp hns'
    rfl
  have hwidened : ∀ other : IntRange, (∀ n, range.Contains n → other.Contains n) →
      ∀ ns, payload.integers range = .ok ns → payload.integers other = .ok ns := by
    intro other hwider ns hns
    obtain ⟨hwhole, hall, rfl⟩ := integers_eq_ok_iff.mp hns
    exact integers_eq_ok_iff.mpr ⟨hwhole, fun n hn => hwider n (hall n hn), rfl⟩
  refine ⟨fun _ => integers_eq_ok_iff, fun _ => integer_eq_ok_iff, fun _ => expecting_eq_error,
    fun _ => expecting_eq_error, integers_eq_naturals, integer_eq_natural,
    fun other => ⟨hagree other, ?_, ?_, ?_⟩⟩
  · intro n ns' hn hns'
    obtain ⟨others, hns⟩ := integer_eq_ok_iff.mp hn
    rw [← hagree other _ _ hns hns', List.head?_cons]
  · intro n n' hn hn'
    obtain ⟨others, hns⟩ := integer_eq_ok_iff.mp hn
    obtain ⟨others', hns'⟩ := integer_eq_ok_iff.mp hn'
    exact (List.cons.inj (hagree other _ _ hns hns')).1
  · intro hwider
    refine ⟨hwidened other hwider, fun n hn => ?_⟩
    obtain ⟨others, hns⟩ := integer_eq_ok_iff.mp hn
    exact integer_eq_ok_iff.mpr ⟨others, hwidened other hwider _ hns⟩

/-- A negative number and one of more than 16 bits. -/
def minusFive : Payload where
  entry := { layout := .classic, tag := 700, type := 9, count := 2, slot := [0, 0, 0, 8] }
  type := Coding.slong.fieldType
  order := .big
  bytes := [0xFF, 0xFF, 0xFF, 0xFB, 0, 0, 0x9C, 0x40]
  offset := 8

/-- The first element alone would be a number of 16 bits, but the second one is not. With 32 bits
there is room for both, and so there is with 64. -/
theorem whole_numbers_convert_as_they_stand_of_minusFive :
    minusFive.value.kind = "SLONG" ∧ minusFive.value.wholes = [-5, 40000] ∧
    (∀ n, IntRange.int32.Contains n → IntRange.int64.Contains n) ∧
    minusFive.integers .int32 = .ok [-5, 40000] ∧ minusFive.integer .int64 = .ok (-5) ∧
    (∃ e, minusFive.integer .int16 = .error e ∧ e = .conversion 700 "i16" "SLONG" 2) := by
  have hwider : ∀ n, IntRange.int32.Contains n → IntRange.int64.Contains n := by
    intro n
    rw [IntRange.contains_iff, IntRange.contains_iff]
    simp only [IntRange.least, IntRange.limit]
    omega
  obtain ⟨hlists, hfirsts, -, -, -, -, hwiden⟩ :=
    whole_numbers_convert_as_they_stand minusFive .int32
  have hlist : minusFive.integers .int32 = .ok [-5, 40000] :=
    (hlists _).mpr ⟨by decide, by decide, by decide⟩
  have hfirst : minusFive.integer .int32 = .ok (-5) := (hfirsts _).mpr ⟨[40000], hlist⟩
  obtain ⟨-, -, -, hwidened⟩ := hwiden .int64
  obtain ⟨-, -, -, hrefused, -⟩ := whole_numbers_convert_as_they_stand minusFive .int16
  have hsmall : minusFive.integer .int16 = .error (minusFive.unresolved "i16") := rfl
  exact ⟨rfl, by decide, hwider, hlist, (hwidened hwider).2 _ hfirst, _, hsmall,
    hrefused _ hsmall⟩

end Payload

end Tiff
