import RemoteCall.Proofs.MessagePack.Format

/-!
# Every form is read

Whatever follows it, a form is taken from the front as the value that it is a form of. Only the side
that an integer was written on may differ, so values are compared with their integers on one side.
-/
namespace RemoteCall.MessagePack

namespace Value

/-- An integer on the unsigned side unless it is negative. -/
def ofInteger (n : Int) : Value := if 0 ≤ n then ofNat n.toNat else ofInt n

mutual

/-- The value with its integers on the unsigned side where they are not negative. -/
def normal : Value → Value
  | unsigned n => ofInteger n.toNat
  | signed n => ofInteger n.toInt
  | array items => array (normalItems items)
  | map entries => map (normalEntries entries)
  | value => value

def normalItems : List Value → List Value
  | [] => []
  | item :: items => item.normal :: normalItems items

def normalEntries : List (Value × Value) → List (Value × Value)
  | [] => []
  | (key, value) :: entries => (key.normal, value.normal) :: normalEntries entries

end

mutual

/-- How deeply arrays, maps and extensions are nested in a value. -/
def nesting : Value → Nat
  | array items => itemsNesting items + 1
  | map entries => entriesNesting entries + 1
  | extension _ _ => 1
  | _ => 0

def itemsNesting : List Value → Nat
  | [] => 0
  | item :: items => max item.nesting (itemsNesting items)

def entriesNesting : List (Value × Value) → Nat
  | [] => 0
  | (key, value) :: entries => max (max key.nesting value.nesting) (entriesNesting entries)

end

theorem normal_of_int {value : Value} {n : Int} (h : value.int? = some n) :
    value.normal = ofInteger n := by
  cases value <;> cases h <;> rfl

theorem int?_ofNat {n : Nat} (h : n < 18446744073709551616) : (ofNat n).int? = some (n : Int) := by
  rw [ofNat, int?, UInt64.toNat_ofNat_of_lt' h]

theorem int?_ofInt {n : Int} (low : -9223372036854775808 ≤ n) (high : n < 9223372036854775808) :
    (ofInt n).int? = some n := by
  rw [ofInt, int?, Int64.toInt_ofInt_of_le low high]

end Value

/-! ## Numbers and sizes -/

/-- Whatever follows it, a form is taken from the front, and what it is read as is good. -/
def Reads {α : Type} (take : Bytes → Option (α × Bytes)) (form : Bytes) (Good : α → Prop) : Prop :=
  ∀ rest, ∃ a, take (form ++ rest) = some (a, rest) ∧ Good a

theorem takeBytes_append (front rest : Bytes) :
    takeBytes front.length (front ++ rest) = some (front, rest) := by
  simp only [takeBytes, List.take_left, List.drop_left, if_pos]

theorem takeNat_bigEndian {width n : Nat} (h : n < Bytes.capacity width) (rest : Bytes) :
    takeNat width (Bytes.bigEndian width n ++ rest) = some (n, rest) := by
  have taken := takeBytes_append (Bytes.bigEndian width n) rest
  rw [Bytes.length_bigEndian] at taken
  simp only [takeNat, taken, Option.map_some, Bytes.value_bigEndian, Nat.mod_eq_of_lt h]

/-- The number behind a marker in two's complement is read with its sign. -/
theorem takeInt_bigEndian {width : Nat} {n : Int} (low : -(Bytes.capacity width : Int) ≤ 2 * n)
    (high : 2 * n < Bytes.capacity width) (rest : Bytes) :
    takeInt width (Bytes.bigEndian width (n % Bytes.capacity width).toNat ++ rest) =
      some (n, rest) := by
  have pos := Bytes.capacity_pos width
  have nonneg : 0 ≤ n % (Bytes.capacity width : Int) := Int.emod_nonneg n (by omega)
  have less : n % (Bytes.capacity width : Int) < Bytes.capacity width :=
    Int.emod_lt_of_pos n (by omega)
  have fits : (n % (Bytes.capacity width : Int)).toNat < Bytes.capacity width := by omega
  simp only [takeInt, takeNat_bigEndian fits, Option.map_some, Int.toNat_of_nonneg nonneg]
  rcases Int.lt_or_le n 0 with negative | positive
  · have complement : n % (Bytes.capacity width : Int) = n + Bytes.capacity width := by
      rw [← Int.add_emod_right, Int.emod_eq_of_lt (by omega) (by omega)]
    rw [if_neg (by omega), complement, Int.add_sub_cancel]
  · have same : n % (Bytes.capacity width : Int) = n := Int.emod_eq_of_lt positive (by omega)
    rw [if_pos (by omega), same]

theorem ofByte_positive {n : Nat} (h : n < 128) :
    Marker.ofByte (UInt8.ofNat n) = .natural (.within n) := by
  have byte : (UInt8.ofNat n).toNat = n :=
    UInt8.toNat_ofNat_of_lt' (by simp only [UInt8.size]; omega)
  rw [Marker.ofByte, byte]
  exact if_pos h

theorem ofByte_negative {n : Int} (low : -32 ≤ n) (high : n < 0) :
    Marker.ofByte (UInt8.ofNat (n + 256).toNat) = .negative n := by
  have byte : (UInt8.ofNat (n + 256).toNat).toNat = (n + 256).toNat :=
    UInt8.toNat_ofNat_of_lt' (by simp only [UInt8.size]; omega)
  simp only [Marker.ofByte, byte]
  rw [if_neg (by omega), if_neg (by omega), if_neg (by omega), if_neg (by omega),
    if_neg (by omega), Int.toNat_of_nonneg (by omega), Int.add_sub_cancel]

/-- The reader knows the markers that numbers of some width follow. -/
theorem ofByte_numbers :
    (∀ entry ∈ naturalMarkers, Marker.ofByte entry.1 = .natural (.behind entry.2)) ∧
      (∀ entry ∈ integerMarkers, Marker.ofByte entry.1 = .integer entry.2) ∧
      Marker.ofByte 0xca = .float32 ∧ Marker.ofByte 0xcb = .float64 := by
  decide +kernel

theorem Head.take_cons (marker : UInt8) (rest : Bytes) :
    Head.take (marker :: rest) = Head.takeFor rest (Marker.ofByte marker) := rfl

/-- Every form of a number is read as that number. -/
theorem NumberForm.reads {n : Int} {form : Bytes} (h : NumberForm n form) :
    Reads Head.take form fun head => ∃ value, head = .leaf value ∧ value.int? = some n := by
  intro rest
  have range := h.range
  cases h with
  | positive low high =>
    refine ⟨.leaf (.ofNat n.toNat), ?_, _, rfl, ?_⟩
    · rw [List.singleton_append, Head.take_cons, ofByte_positive (by omega)]
      rfl
    · rw [Value.int?_ofNat (by omega), Int.toNat_of_nonneg low]
  | negative low high =>
    refine ⟨.leaf (.ofInt n), ?_, _, rfl, Value.int?_ofInt (by omega) (by omega)⟩
    rw [List.singleton_append, Head.take_cons, ofByte_negative low high]
    rfl
  | natural mem low high =>
    rename_i marker width
    have fits : n.toNat < Bytes.capacity width := by omega
    refine ⟨.leaf (.ofNat n.toNat), ?_, _, rfl, ?_⟩
    · rw [marked, List.cons_append, Head.take_cons, ofByte_numbers.1 _ mem, Head.takeFor,
        SizeForm.take, takeNat_bigEndian fits]
      rfl
    · rw [Value.int?_ofNat (by omega), Int.toNat_of_nonneg low]
  | integer mem low high =>
    have cases := capacity_of_mem (width_of_integer mem)
    refine ⟨.leaf (.ofInt n), ?_, _, rfl, Value.int?_ofInt (by omega) (by omega)⟩
    rw [marked, List.cons_append, Head.take_cons, ofByte_numbers.2.1 _ mem, Head.takeFor,
      takeInt_bigEndian low high]
    rfl

namespace SizeMarkers

/-- The reader knows the markers as those of one kind. -/
structure Known (markers : SizeMarkers) (kind : SizeForm → Marker) : Prop where
  fixed : ∀ entry ∈ markers.fixed, Marker.ofByte entry.1 = kind (.within entry.2)
  wide : ∀ entry ∈ markers.wide, Marker.ofByte entry.1 = kind (.behind entry.2)

/-- The reader knows the markers of sizes of every kind. -/
theorem known : text.Known .text ∧ binary.Known .binary ∧ array.Known .array ∧ map.Known .map ∧
    extension.Known .extension := by
  refine ⟨⟨?_, ?_⟩, ⟨?_, ?_⟩, ⟨?_, ?_⟩, ⟨?_, ?_⟩, ⟨?_, ?_⟩⟩ <;> decide +kernel

/-- A form of a size is a marker of its kind and the size behind it. -/
theorem Known.exists_marker {markers : SizeMarkers} {kind : SizeForm → Marker}
    (known : markers.Known kind) {size : Nat} {form : Bytes} (h : markers.Form size form) :
    ∃ stands : SizeForm, ∃ more : Bytes,
      (∀ rest, Head.take (form ++ rest) = Head.takeFor (more ++ rest) (kind stands)) ∧
      ∀ rest, stands.take (more ++ rest) = some (size, rest) := by
  cases h with
  | fixed mem =>
    refine ⟨.within size, [], fun rest => ?_, fun rest => rfl⟩
    rw [List.singleton_append, Head.take_cons, known.fixed _ mem, List.nil_append]
  | wide mem high =>
    rename_i marker width
    refine ⟨.behind width, Bytes.bigEndian width size, fun rest => ?_, fun rest => ?_⟩
    · rw [marked, List.cons_append, Head.take_cons, known.wide _ mem]
    · exact takeNat_bigEndian high rest

end SizeMarkers

/-! ## Values -/

namespace Value

theorem take_leaf {bytes rest : Bytes} {value : Value}
    (h : Head.take bytes = some (.leaf value, rest)) (depth : Nat) :
    take depth bytes = some (value, rest) := by
  cases depth <;> rw [take, h]

/-- A value without parts that a marker announces and the bytes behind the size are. -/
theorem reads_sized {markers : SizeMarkers} {kind : SizeForm → Marker}
    (known : markers.Known kind) {value : Value} {content : Bytes}
    (takes : ∀ stands rest after,
      SizeForm.take rest stands = some (content.length, content ++ after) →
        Head.takeFor rest (kind stands) = some (.leaf value, after))
    {form : Bytes} (h : Both (markers.Form content.length) (· = content) form) (depth : Nat) :
    Reads (take depth) form fun read => read.normal = value.normal := by
  obtain ⟨size, _, head, rfl, rfl⟩ := h
  obtain ⟨stands, more, marker, taken⟩ := known.exists_marker head
  intro rest
  refine ⟨value, take_leaf ?_ depth, rfl⟩
  rw [List.append_assoc, marker]
  exact takes stands _ rest (taken _)

theorem takeFor_text {stands : SizeForm} {rest content after : Bytes}
    (h : stands.take rest = some (content.length, content ++ after)) :
    Head.takeFor rest (.text stands) = some (.leaf (.text content), after) := by
  simp only [Head.takeFor, h, Option.bind_eq_bind, Option.bind_some, takeBytes_append]
  rfl

theorem takeFor_binary {stands : SizeForm} {rest content after : Bytes}
    (h : stands.take rest = some (content.length, content ++ after)) :
    Head.takeFor rest (.binary stands) = some (.leaf (.binary content), after) := by
  simp only [Head.takeFor, h, Option.bind_eq_bind, Option.bind_some, takeBytes_append]
  rfl

theorem reads_number {value : Value} {n : Int} {form : Bytes} (int : value.int? = some n)
    (h : NumberForm n form) (depth : Nat) :
    Reads (take depth) form fun read => read.normal = value.normal := by
  intro rest
  obtain ⟨head, taken, read, rfl, same⟩ := h.reads rest
  exact ⟨read, take_leaf taken depth, (normal_of_int same).trans (normal_of_int int).symm⟩

/-- A value whose only form is a marker and a number behind it. -/
theorem reads_only {value : Value} {form : Bytes}
    (takes : ∀ rest, Head.take (form ++ rest) = some (.leaf value, rest)) (depth : Nat) :
    Reads (take depth) form fun read => read.normal = value.normal :=
  fun rest => ⟨value, take_leaf (takes rest) depth, rfl⟩

theorem take_float32 (bits : UInt32) (rest : Bytes) :
    Head.take (marked 0xca 4 bits.toNat ++ rest) = some (.leaf (.float32 bits), rest) := by
  have fits : bits.toNat < Bytes.capacity 4 := bits.toNat_lt
  have known : Marker.ofByte 0xca = .float32 := ofByte_numbers.2.2.1
  rw [marked, List.cons_append, Head.take_cons, known, Head.takeFor, takeNat_bigEndian fits]
  simp only [Option.map_some, UInt32.ofNat_toNat]

theorem take_float64 (bits : UInt64) (rest : Bytes) :
    Head.take (marked 0xcb 8 bits.toNat ++ rest) = some (.leaf (.float64 bits), rest) := by
  have fits : bits.toNat < Bytes.capacity 8 := bits.toNat_lt
  have known : Marker.ofByte 0xcb = .float64 := ofByte_numbers.2.2.2
  rw [marked, List.cons_append, Head.take_cons, known, Head.takeFor, takeNat_bigEndian fits]
  simp only [Option.map_some, UInt64.ofNat_toNat]

theorem take_array {bytes rest after : Bytes} {size depth : Nat} {items : List Value}
    (head : Head.take bytes = some (.array size, rest))
    (many : takeMany (take depth) size rest [] = some (items, after)) :
    take (depth + 1) bytes = some (.array items, after) := by
  rw [take, head]
  simp only [many, Option.map_some]

theorem take_map {bytes rest after : Bytes} {size depth : Nat} {entries : List (Value × Value)}
    (head : Head.take bytes = some (.map size, rest))
    (many : takeMany (takeEntry (take depth)) size rest [] = some (entries, after)) :
    take (depth + 1) bytes = some (.map entries, after) := by
  rw [take, head]
  simp only [many, Option.map_some]

theorem take_extension {bytes rest after content : Bytes} {kind : UInt8} {depth : Nat}
    (head : Head.take bytes = some (.extension content.length, rest))
    (split : rest = kind :: (content ++ after)) :
    take (depth + 1) bytes = some (.extension kind content, after) := by
  rw [take, head]
  simp only [split, takeExtension, takeBytes_append, if_neg (Nat.succ_ne_zero depth),
    Option.map_some]

theorem takeMany_succ {α : Type} {takeOne : Bytes → Option (α × Bytes)} {bytes rest : Bytes} {a : α}
    (one : takeOne bytes = some (a, rest)) (count : Nat) (done : List α) :
    takeMany takeOne (count + 1) bytes done = takeMany takeOne count rest (a :: done) := by
  rw [takeMany, one]

theorem takeEntry_eq {takeOne : Bytes → Option (Value × Bytes)} {bytes middle rest : Bytes}
    {key value : Value} (first : takeOne bytes = some (key, middle))
    (second : takeOne middle = some (value, rest)) :
    takeEntry takeOne bytes = some ((key, value), rest) := by
  simp only [takeEntry, first, second, Option.bind_eq_bind, Option.bind_some]
  rfl

mutual

/-- Every form of a value that is not nested too deeply is read as that value. -/
theorem reads_of_form : ∀ (value : Value) {form : Bytes}, value.Form form →
    ∀ {depth : Nat}, value.nesting ≤ depth →
      Reads (take depth) form fun read => read.normal = value.normal
  | nil, _, rfl, depth, _ => reads_only (fun _ => rfl) depth
  | bool false, _, rfl, depth, _ => reads_only (fun _ => rfl) depth
  | bool true, _, rfl, depth, _ => reads_only (fun _ => rfl) depth
  | unsigned _, _, h, depth, _ => reads_number rfl h depth
  | signed _, _, h, depth, _ => reads_number rfl h depth
  | float32 bits, _, rfl, depth, _ => reads_only (take_float32 bits) depth
  | float64 bits, _, rfl, depth, _ => reads_only (take_float64 bits) depth
  | text _, _, h, depth, _ =>
      reads_sized SizeMarkers.known.1 (fun _ _ _ taken => takeFor_text taken) h depth
  | binary _, _, h, depth, _ =>
      reads_sized SizeMarkers.known.2.1 (fun _ _ _ taken => takeFor_binary taken) h depth
  | array items, _, ⟨_, body, size, inner, rfl⟩, depth + 1, within => by
    obtain ⟨stands, more, marker, taken⟩ := SizeMarkers.known.2.2.1.exists_marker size
    intro rest
    obtain ⟨read, many, later, split, same⟩ :=
      reads_items items inner (Nat.le_of_succ_le_succ within) [] rest
    obtain rfl : read = later := split
    refine ⟨array read, ?_, congrArg array same⟩
    rw [List.append_assoc]
    refine take_array ?_ many
    rw [marker, Head.takeFor, taken]
    rfl
  | map entries, _, ⟨_, body, size, inner, rfl⟩, depth + 1, within => by
    obtain ⟨stands, more, marker, taken⟩ := SizeMarkers.known.2.2.2.1.exists_marker size
    intro rest
    obtain ⟨read, many, later, split, same⟩ :=
      reads_entries entries inner (Nat.le_of_succ_le_succ within) [] rest
    obtain rfl : read = later := split
    refine ⟨map read, ?_, congrArg map same⟩
    rw [List.append_assoc]
    refine take_map ?_ many
    rw [marker, Head.takeFor, taken]
    rfl
  | extension kind content, _, ⟨_, _, size, rfl, rfl⟩, depth + 1, _ => by
    obtain ⟨stands, more, marker, taken⟩ := SizeMarkers.known.2.2.2.2.exists_marker size
    intro rest
    refine ⟨extension kind content, ?_, rfl⟩
    rw [List.append_assoc]
    refine take_extension ?_ rfl
    rw [marker, Head.takeFor, taken]
    rfl

theorem reads_items : ∀ (items : List Value) {form : Bytes}, ItemsForm items form →
    ∀ {depth : Nat}, itemsNesting items ≤ depth → ∀ done : List Value,
      Reads (takeMany (take depth) items.length · done) form fun read =>
        ∃ later, read = done.reverse ++ later ∧ normalItems later = normalItems items
  | [], _, rfl, _, _, done => fun rest => ⟨_, rfl, [], (List.append_nil _).symm, rfl⟩
  | item :: items, _, ⟨front, back, first, others, rfl⟩, depth, within, done => by
    obtain ⟨inner, outer⟩ := max_le_iff.1 within
    intro rest
    obtain ⟨read, one, alike⟩ := reads_of_form item first inner (back ++ rest)
    obtain ⟨_, many, later, rfl, same⟩ := reads_items items others outer (read :: done) rest
    rw [List.reverse_cons, List.append_assoc, List.singleton_append] at many
    refine ⟨done.reverse ++ read :: later, ?_, read :: later, rfl, ?_⟩
    · simp only [List.append_assoc, List.length_cons, takeMany_succ one]
      exact many
    · rw [normalItems, normalItems, alike, same]

theorem reads_entries : ∀ (entries : List (Value × Value)) {form : Bytes},
    EntriesForm entries form → ∀ {depth : Nat}, entriesNesting entries ≤ depth → ∀ done : List (Value × Value),
      Reads (takeMany (takeEntry (take depth)) entries.length · done) form fun read =>
        ∃ later, read = done.reverse ++ later ∧ normalEntries later = normalEntries entries
  | [], _, rfl, _, _, done => fun rest => ⟨_, rfl, [], (List.append_nil _).symm, rfl⟩
  | (key, value) :: entries, _, ⟨front, _, first, ⟨middle, back, second, others, rfl⟩, rfl⟩, depth,
      within, done => by
    obtain ⟨inner, outer⟩ := max_le_iff.1 within
    obtain ⟨left, right⟩ := max_le_iff.1 inner
    intro rest
    obtain ⟨name, one, alike⟩ := reads_of_form key first left (middle ++ (back ++ rest))
    obtain ⟨read, other, alike'⟩ := reads_of_form value second right (back ++ rest)
    obtain ⟨_, many, later, rfl, same⟩ :=
      reads_entries entries others outer ((name, read) :: done) rest
    rw [List.reverse_cons, List.append_assoc, List.singleton_append] at many
    refine ⟨done.reverse ++ (name, read) :: later, ?_, (name, read) :: later, rfl, ?_⟩
    · simp only [List.append_assoc, List.length_cons, takeMany_succ (takeEntry_eq one other)]
      exact many
    · rw [normalEntries, normalEntries, alike, alike', same]

end

end Value

end RemoteCall.MessagePack
