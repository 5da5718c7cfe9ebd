import RemoteCall.MessagePack.Reader
import RemoteCall.MessagePack.Writer
import Mathlib.Tactic

/-!
# Forms of values

The format allows a value several forms: a number or a size may stand in the marker or in more
bytes behind it than it needs, and a number that is not negative may be written as a signed one. The
writer chooses a form that no other is shorter than.
-/
namespace RemoteCall.MessagePack

/-! ## Numbers -/

/-- The markers of numbers without a sign, with the bytes that follow. -/
def naturalMarkers : List (UInt8 × Nat) := [(0xcc, 1), (0xcd, 2), (0xce, 4), (0xcf, 8)]

/-- The markers of numbers in two's complement. -/
def integerMarkers : List (UInt8 × Nat) := [(0xd0, 1), (0xd1, 2), (0xd2, 4), (0xd3, 8)]

/-- The forms of a whole number. -/
inductive NumberForm (n : Int) : Bytes → Prop where
  | positive (low : 0 ≤ n) (high : n < 128) : NumberForm n [UInt8.ofNat n.toNat]
  | negative (low : -32 ≤ n) (high : n < 0) : NumberForm n [UInt8.ofNat (n + 256).toNat]
  | natural {marker : UInt8} {width : Nat} (mem : (marker, width) ∈ naturalMarkers) (low : 0 ≤ n)
      (high : n < Bytes.capacity width) : NumberForm n (marked marker width n.toNat)
  | integer {marker : UInt8} {width : Nat} (mem : (marker, width) ∈ integerMarkers)
      (low : -(Bytes.capacity width : Int) ≤ 2 * n) (high : 2 * n < Bytes.capacity width) :
      NumberForm n (marked marker width (n % Bytes.capacity width).toNat)

@[simp] theorem length_marked (marker : UInt8) (width n : Nat) :
    (marked marker width n).length = width + 1 := by
  rw [marked, List.length_cons, Bytes.length_bigEndian]

/-- A form of a natural number with the range that it is good for. -/
theorem NumberForm.of_nat {marker : UInt8} {width n : Nat} (mem : (marker, width) ∈ naturalMarkers)
    (high : n < Bytes.capacity width) : NumberForm n (marked marker width n) :=
  .natural mem (Int.natCast_nonneg n) (Int.ofNat_lt.2 high)

theorem numberForm_encodeNat {n : Nat} (h : n < UInt64.size) : NumberForm n (encodeNat n) := by
  unfold encodeNat
  split
  · exact .positive (Int.natCast_nonneg n) (by omega)
  split
  · exact .of_nat (by decide) ‹_›
  split
  · exact .of_nat (by decide) ‹_›
  split
  · exact .of_nat (by decide) ‹_›
  · exact .of_nat (by decide) h

/-- A form in two's complement is the sum with the capacity where a number is negative. -/
theorem NumberForm.of_neg {marker : UInt8} {width size : Nat} {n : Int}
    (mem : (marker, width) ∈ integerMarkers) (same : Bytes.capacity width = size)
    (low : -(size : Int) ≤ 2 * n) (high : n < 0) :
    NumberForm n (marked marker width (n + size).toNat) := by
  have complement : n % (Bytes.capacity width : Int) = n + size := by
    rw [same, ← Int.add_emod_right, Int.emod_eq_of_lt (by omega) (by omega)]
  rw [← complement]
  exact .integer mem (by omega) (by omega)

theorem numberForm_encodeNegative {n : Int} (low : -9223372036854775808 ≤ n) (high : n < 0) :
    NumberForm n (encodeNegative n) := by
  unfold encodeNegative
  split
  · exact .negative ‹_› high
  split
  · exact .of_neg (by decide) (by decide) (by norm_num [UInt8.size]; omega) high
  split
  · exact .of_neg (by decide) (by decide) (by norm_num [UInt16.size]; omega) high
  split
  · exact .of_neg (by decide) (by decide) (by norm_num [UInt32.size]; omega) high
  · exact .of_neg (by decide) (by decide) (by norm_num [UInt64.size]; omega) high

theorem numberForm_encodeInt {n : Int} (low : -9223372036854775808 ≤ n)
    (high : n < 18446744073709551616) : NumberForm n (encodeInt n) := by
  unfold encodeInt
  split
  · have form : NumberForm n.toNat (encodeNat n.toNat) :=
      numberForm_encodeNat (by norm_num [UInt64.size]; omega)
    rwa [Int.toNat_of_nonneg ‹_›] at form
  · exact numberForm_encodeNegative low (by omega)

/-- The widths that numbers and sizes are written in, with what can be written in them. -/
theorem capacity_of_mem {width : Nat} (h : width ∈ [1, 2, 4, 8]) :
    width = 1 ∧ Bytes.capacity width = 256 ∨ width = 2 ∧ Bytes.capacity width = 65536 ∨
      width = 4 ∧ Bytes.capacity width = 4294967296 ∨
      width = 8 ∧ Bytes.capacity width = 18446744073709551616 := by
  revert width
  decide

theorem width_of_natural {marker : UInt8} {width : Nat} (mem : (marker, width) ∈ naturalMarkers) :
    width ∈ [1, 2, 4, 8] := by
  have widths : naturalMarkers.map Prod.snd = [1, 2, 4, 8] := rfl
  rw [← widths]
  exact List.mem_map_of_mem mem

theorem width_of_integer {marker : UInt8} {width : Nat} (mem : (marker, width) ∈ integerMarkers) :
    width ∈ [1, 2, 4, 8] := by
  have widths : integerMarkers.map Prod.snd = [1, 2, 4, 8] := rfl
  rw [← widths]
  exact List.mem_map_of_mem mem

theorem length_encodeNat_le {n width : Nat} (mem : width ∈ [1, 2, 4, 8])
    (h : n < Bytes.capacity width) : (encodeNat n).length ≤ width + 1 := by
  have cases := capacity_of_mem mem
  simp only [encodeNat, UInt8.size, UInt16.size, UInt32.size]
  split_ifs <;> simp only [length_marked, List.length_singleton] <;> omega

theorem length_encodeNegative_le {n : Int} {width : Nat} (mem : width ∈ [1, 2, 4, 8])
    (h : -(Bytes.capacity width : Int) ≤ 2 * n) : (encodeNegative n).length ≤ width + 1 := by
  have cases := capacity_of_mem mem
  unfold encodeNegative
  split_ifs <;> simp only [length_marked, List.length_singleton] <;> omega

/-- No form of a number is shorter than the one that is written. -/
theorem length_encodeInt_le {n : Int} {form : Bytes} (h : NumberForm n form) :
    (encodeInt n).length ≤ form.length := by
  unfold encodeInt
  cases h with
  | positive low high =>
    rw [if_pos low, encodeNat, if_pos (by omega)]
  | negative low high =>
    rw [if_neg (by omega), encodeNegative, if_pos low]
    rfl
  | natural mem low high =>
    rw [if_pos low, length_marked]
    exact length_encodeNat_le (width_of_natural mem) (by omega)
  | integer mem low high =>
    rw [length_marked]
    split
    · exact length_encodeNat_le (width_of_integer mem) (by omega)
    · exact length_encodeNegative_le (width_of_integer mem) low

/-- A number that has a form fits into eight bytes. -/
theorem NumberForm.range {n : Int} {form : Bytes} (h : NumberForm n form) :
    -9223372036854775808 ≤ n ∧ n < 18446744073709551616 := by
  cases h with
  | positive low high => omega
  | negative low high => omega
  | natural mem low high =>
    have cases := capacity_of_mem (width_of_natural mem)
    omega
  | integer mem low high =>
    have cases := capacity_of_mem (width_of_integer mem)
    omega

/-! ## Sizes -/

/-- The markers of a kind of value that has a size: those that say the size, and those that say in
how many bytes it follows. -/
structure SizeMarkers where
  fixed : List (UInt8 × Nat)
  wide : List (UInt8 × Nat)

namespace SizeMarkers

/-- The markers from `base` on say the sizes below `count`. -/
def upTo (base count : Nat) : List (UInt8 × Nat) :=
  (List.range count).map fun size => (UInt8.ofNat (base + size), size)

def text : SizeMarkers := ⟨upTo 0xa0 32, [(0xd9, 1), (0xda, 2), (0xdb, 4)]⟩

def binary : SizeMarkers := ⟨[], [(0xc4, 1), (0xc5, 2), (0xc6, 4)]⟩

def array : SizeMarkers := ⟨upTo 0x90 16, [(0xdc, 2), (0xdd, 4)]⟩

def map : SizeMarkers := ⟨upTo 0x80 16, [(0xde, 2), (0xdf, 4)]⟩

def extension : SizeMarkers :=
  ⟨[(0xd4, 1), (0xd5, 2), (0xd6, 4), (0xd7, 8), (0xd8, 16)], [(0xc7, 1), (0xc8, 2), (0xc9, 4)]⟩

/-- The forms of a size. -/
inductive Form (markers : SizeMarkers) (size : Nat) : Bytes → Prop where
  | fixed {marker : UInt8} (mem : (marker, size) ∈ markers.fixed) : Form markers size [marker]
  | wide {marker : UInt8} {width : Nat} (mem : (marker, width) ∈ markers.wide)
      (high : size < Bytes.capacity width) : Form markers size (marked marker width size)

theorem mem_upTo {base count size : Nat} (h : size < count) :
    (UInt8.ofNat (base + size), size) ∈ upTo base count :=
  List.mem_map.2 ⟨size, List.mem_range.2 h, rfl⟩

theorem lt_of_mem_upTo {base count size : Nat} {marker : UInt8}
    (h : (marker, size) ∈ upTo base count) : size < count := by
  obtain ⟨other, mem, same⟩ := List.mem_map.1 h
  obtain rfl : other = size := congrArg Prod.snd same
  exact List.mem_range.1 mem

/-- A size that fits into four bytes is written in a form that no other is shorter than, and no
other size has a form. -/
structure Writes (markers : SizeMarkers) (write : Nat → Bytes) : Prop where
  form : ∀ {size}, size < UInt32.size → markers.Form size (write size)
  shortest : ∀ {size form}, markers.Form size form → (write size).length ≤ form.length
  small : ∀ {size form}, markers.Form size form → size < UInt32.size

/-- It is enough to compare what is written with each marker. -/
theorem Writes.of_markers {markers : SizeMarkers} {write : Nat → Bytes}
    (form : ∀ {size}, size < UInt32.size → markers.Form size (write size))
    (fixed : ∀ {marker size}, (marker, size) ∈ markers.fixed →
      (write size).length = 1 ∧ size < UInt32.size)
    (narrow : ∀ entry ∈ markers.wide, Bytes.capacity entry.2 ≤ UInt32.size)
    (wide : ∀ entry ∈ markers.wide, ∀ {size}, size < Bytes.capacity entry.2 →
      (write size).length ≤ entry.2 + 1) : markers.Writes write where
  form := form
  shortest h := by
    cases h with
    | fixed mem => exact (fixed mem).1.le
    | wide mem high =>
      rw [length_marked]
      exact wide _ mem high
  small h := by
    cases h with
    | fixed mem => exact (fixed mem).2
    | wide mem high => exact high.trans_le (narrow _ mem)

theorem writes_text : text.Writes textMarker := by
  refine .of_markers (fun {size} h => ?_) (fun {marker size} mem => ?_) (by decide)
    (fun entry mem {size} high => ?_)
  · unfold textMarker
    split
    · exact .fixed (mem_upTo ‹_›)
    split
    · exact .wide (by decide) ‹_›
    split
    · exact .wide (by decide) ‹_›
    · exact .wide (by decide) h
  · have low := lt_of_mem_upTo mem
    rw [textMarker, if_pos low]
    exact ⟨rfl, low.trans (by decide)⟩
  · have widths : ∀ entry ∈ text.wide, entry.2 = 1 ∧ Bytes.capacity entry.2 = 256 ∨
        entry.2 = 2 ∧ Bytes.capacity entry.2 = 65536 ∨ entry.2 = 4 := by decide
    have cases := widths entry mem
    simp only [textMarker, UInt8.size, UInt16.size]
    split_ifs <;> simp only [length_marked, List.length_singleton] <;> omega

theorem writes_binary : binary.Writes binaryMarker := by
  refine .of_markers (fun {size} h => ?_) (fun {marker size} mem => ?_) (by decide)
    (fun entry mem {size} high => ?_)
  · unfold binaryMarker
    split
    · exact .wide (by decide) ‹_›
    split
    · exact .wide (by decide) ‹_›
    · exact .wide (by decide) h
  · exact absurd mem List.not_mem_nil
  · have widths : ∀ entry ∈ binary.wide, entry.2 = 1 ∧ Bytes.capacity entry.2 = 256 ∨
        entry.2 = 2 ∧ Bytes.capacity entry.2 = 65536 ∨ entry.2 = 4 := by decide
    have cases := widths entry mem
    simp only [binaryMarker, UInt8.size, UInt16.size]
    split_ifs <;> simp only [length_marked] <;> omega

/-- Arrays and maps have their sizes below sixteen in the marker, and no size in a single byte. -/
theorem Writes.of_sixteen {base : Nat} {two four : UInt8} {write : Nat → Bytes}
    (writes : ∀ size, write size = if size < 16 then [UInt8.ofNat (base + size)]
      else if size < UInt16.size then marked two 2 size else marked four 4 size) :
    Writes ⟨upTo base 16, [(two, 2), (four, 4)]⟩ write := by
  have widths : ∀ entry ∈ [(two, 2), (four, 4)], entry.2 = 2 ∧ Bytes.capacity entry.2 = 65536 ∨
      entry.2 = 4 ∧ Bytes.capacity entry.2 = 4294967296 := by
    simp [Bytes.capacity]
  refine .of_markers (fun {size} h => ?_) (fun {marker size} mem => ?_) (fun entry mem => ?_)
    (fun entry mem {size} high => ?_)
  · rw [writes]
    split
    · exact .fixed (mem_upTo ‹_›)
    split
    · exact .wide (by simp) ‹_›
    · exact .wide (by simp) h
  · have low := lt_of_mem_upTo mem
    rw [writes, if_pos low]
    exact ⟨rfl, low.trans (by decide)⟩
  · have cases := widths entry mem
    simp only [UInt32.size]
    omega
  · have cases := widths entry mem
    simp only [writes, UInt16.size]
    split_ifs <;> simp only [length_marked, List.length_singleton] <;> omega

theorem writes_array : array.Writes arrayMarker := .of_sixteen fun _ => rfl

theorem writes_map : map.Writes mapMarker := .of_sixteen fun _ => rfl

theorem writes_extension : extension.Writes extensionMarker := by
  refine .of_markers (fun {size} h => ?_) (fun {marker size} mem => ?_) (by decide)
    (fun entry mem {size} high => ?_)
  · unfold extensionMarker
    split_ifs
    any_goals subst size; exact .fixed (by decide)
    · exact .wide (by decide) ‹_›
    · exact .wide (by decide) ‹_›
    · exact .wide (by decide) h
  · have sizes : ∀ entry ∈ extension.fixed, (extensionMarker entry.2).length = 1 ∧
        entry.2 < UInt32.size := by decide
    exact sizes _ mem
  · have widths : ∀ entry ∈ extension.wide, entry.2 = 1 ∧ Bytes.capacity entry.2 = 256 ∨
        entry.2 = 2 ∧ Bytes.capacity entry.2 = 65536 ∨ entry.2 = 4 := by decide
    have cases := widths entry mem
    simp only [extensionMarker, UInt8.size, UInt16.size]
    split_ifs <;> simp only [length_marked, List.length_singleton] <;> omega

end SizeMarkers

/-! ## Values -/

/-- One form and another behind it. -/
def Both (First Second : Bytes → Prop) (form : Bytes) : Prop :=
  ∃ front back, First front ∧ Second back ∧ form = front ++ back

namespace Value

mutual

/-- The forms of a value. An integer has the forms of its number, on whichever side it is. -/
def Form : Value → Bytes → Prop
  | nil => (· = [0xc0])
  | bool b => (· = [if b then 0xc3 else 0xc2])
  | unsigned n => NumberForm n.toNat
  | signed n => NumberForm n.toInt
  | float32 bits => (· = marked 0xca 4 bits.toNat)
  | float64 bits => (· = marked 0xcb 8 bits.toNat)
  | text utf8 => Both (SizeMarkers.text.Form utf8.length) (· = utf8)
  | binary bytes => Both (SizeMarkers.binary.Form bytes.length) (· = bytes)
  | array items => Both (SizeMarkers.array.Form items.length) (ItemsForm items)
  | map entries => Both (SizeMarkers.map.Form entries.length) (EntriesForm entries)
  | extension kind bytes => Both (SizeMarkers.extension.Form bytes.length) (· = kind :: bytes)

def ItemsForm : List Value → Bytes → Prop
  | [] => (· = [])
  | item :: items => Both item.Form (ItemsForm items)

def EntriesForm : List (Value × Value) → Bytes → Prop
  | [] => (· = [])
  | (key, value) :: entries => Both key.Form (Both value.Form (EntriesForm entries))

end

end Value

/-! ## Writing -/

/-- What is written in front of the rest is a form, and none is shorter. -/
structure Written (Form : Bytes → Prop) (before : Bytes → Bytes) (short : Bytes) : Prop where
  before : ∀ rest, before rest = short ++ rest
  form : Form short
  shortest : ∀ form, Form form → short.length ≤ form.length

namespace Written

theorem only (short : Bytes) : Written (· = short) (short ++ ·) short :=
  ⟨fun _ => rfl, rfl, fun _ h => (congrArg List.length h).ge⟩

theorem number {n : Int} {form : Bytes} (h : NumberForm n form) :
    Written (NumberForm n) (encodeInt n ++ ·) (encodeInt n) :=
  ⟨fun _ => rfl, numberForm_encodeInt h.range.1 h.range.2, fun _ h => length_encodeInt_le h⟩

theorem size {markers : SizeMarkers} {write : Nat → Bytes} (writes : markers.Writes write)
    {size : Nat} {form : Bytes} (h : markers.Form size form) :
    Written (markers.Form size) (write size ++ ·) (write size) :=
  ⟨fun _ => rfl, writes.form (writes.small h), fun _ h => writes.shortest h⟩

theorem both {First Second : Bytes → Prop} {before after : Bytes → Bytes} {front back : Bytes}
    (first : Written First before front) (second : Written Second after back) :
    Written (Both First Second) (fun rest => before (after rest)) (front ++ back) where
  before rest := by rw [second.before, first.before, List.append_assoc]
  form := ⟨_, _, first.form, second.form, rfl⟩
  shortest := by
    rintro form ⟨one, other, left, right, rfl⟩
    have := first.shortest one left
    have := second.shortest other right
    simp only [List.length_append]
    omega

end Written

namespace Value

mutual

/-- A value that has a form is written in one that no other is shorter than. -/
theorem exists_written : ∀ (value : Value) {form : Bytes}, value.Form form →
    ∃ short, Written value.Form value.encodeBefore short
  | nil, _, _ => ⟨_, .only _⟩
  | bool _, _, _ => ⟨_, .only _⟩
  | unsigned _, _, h => ⟨_, .number h⟩
  | signed _, _, h => ⟨_, .number h⟩
  | float32 _, _, _ => ⟨_, .only _⟩
  | float64 _, _, _ => ⟨_, .only _⟩
  | text _, _, ⟨_, _, size, _⟩ => ⟨_, (Written.size SizeMarkers.writes_text size).both (.only _)⟩
  | binary _, _, ⟨_, _, size, _⟩ =>
      ⟨_, (Written.size SizeMarkers.writes_binary size).both (.only _)⟩
  | array items, _, ⟨_, _, size, body, _⟩ =>
      have ⟨_, written⟩ := exists_items_written items body
      ⟨_, (Written.size SizeMarkers.writes_array size).both written⟩
  | map entries, _, ⟨_, _, size, body, _⟩ =>
      have ⟨_, written⟩ := exists_entries_written entries body
      ⟨_, (Written.size SizeMarkers.writes_map size).both written⟩
  | extension _ _, _, ⟨_, _, size, _⟩ =>
      ⟨_, (Written.size SizeMarkers.writes_extension size).both (.only _)⟩

theorem exists_items_written : ∀ (items : List Value) {form : Bytes}, ItemsForm items form →
    ∃ short, Written (ItemsForm items) (encodeItemsBefore items) short
  | [], _, _ => ⟨_, .only _⟩
  | item :: items, _, ⟨_, _, front, back, _⟩ =>
      have ⟨_, first⟩ := exists_written item front
      have ⟨_, later⟩ := exists_items_written items back
      ⟨_, first.both later⟩

theorem exists_entries_written : ∀ (entries : List (Value × Value)) {form : Bytes},
    EntriesForm entries form →
    ∃ short, Written (EntriesForm entries) (encodeEntriesBefore entries) short
  | [], _, _ => ⟨_, .only _⟩
  | (key, value) :: entries, _, ⟨_, _, front, ⟨_, _, middle, back, _⟩, _⟩ =>
      have ⟨_, first⟩ := exists_written key front
      have ⟨_, second⟩ := exists_written value middle
      have ⟨_, later⟩ := exists_entries_written entries back
      ⟨_, first.both (second.both later)⟩

end

/-- The writer gives a shortest form of every value that has any. -/
theorem Form.encode {value : Value} {form : Bytes} (h : value.Form form) :
    value.Form value.encode ∧ ∀ other, value.Form other → value.encode.length ≤ other.length := by
  obtain ⟨short, written⟩ := exists_written value h
  have whole : value.encode = short := (written.before []).trans short.append_nil
  rw [whole]
  exact ⟨written.form, written.shortest⟩

end Value

end RemoteCall.MessagePack
