import RemoteCall.MessagePack.Packable
import RemoteCall.Proofs.MessagePack.Reading

/-!
# Typed values are unpacked as they were packed

A typed value is read from every value that is alike but for the sides of integers. A record is
read from a map with the same named entries, in any order: each entry is put into the slot of its
name, and what is in a slot in the end is what the map has under that name.
-/
namespace RemoteCall

/-- The text of a UTF-8 form. -/
@[simp] theorem Bytes.toText?_ofText (text : String) : toText? (ofText text) = some text := by
  have valid : (⟨(ofText text).toArray⟩ : ByteArray).IsValidUTF8 := text.isValidUTF8
  exact dif_pos valid

theorem Bytes.ofText_inj {one other : String} : ofText one = ofText other ↔ one = other := by
  refine ⟨fun same => ?_, congrArg ofText⟩
  exact Option.some.inj ((toText?_ofText one).symm.trans ((congrArg toText? same).trans
    (toText?_ofText other)))

@[simp] theorem Bytes.length_ofText (text : String) : (ofText text).length = text.utf8ByteSize := by
  simp [ofText]

namespace MessagePack

namespace Value

theorem int?_ofInteger {n : Int} (low : -9223372036854775808 ≤ n)
    (high : n < 18446744073709551616) : (ofInteger n).int? = some n := by
  unfold ofInteger
  split
  · rw [int?_ofNat (by omega), Int.toNat_of_nonneg ‹_›]
  · exact int?_ofInt low (by omega)

/-- The number of an integer does not depend on its side. -/
theorem int?_normal (value : Value) : value.normal.int? = value.int? := by
  cases value with
  | unsigned n =>
    have := n.toNat_lt
    exact int?_ofInteger (by omega) (by omega)
  | signed n =>
    have low := n.le_toInt
    have high := n.toInt_lt
    exact int?_ofInteger (by omega) (by omega)
  | _ => rfl

theorem int?_eq_of_normal {value other : Value} (h : value.normal = other.normal) :
    value.int? = other.int? := by
  rw [← int?_normal, h, int?_normal]

theorem ofInteger_cases (n : Int) :
    (∃ m, ofInteger n = unsigned m) ∨ ∃ m, ofInteger n = signed m := by
  unfold ofInteger
  split
  · exact .inl ⟨_, rfl⟩
  · exact .inr ⟨_, rfl⟩

theorem eq_of_normal_nil {value : Value} (h : value.normal = nil) : value = nil := by
  cases value with
  | unsigned n | signed n =>
    rcases ofInteger_cases _ with ⟨m, same⟩ | ⟨m, same⟩ <;> cases same.symm.trans h
  | nil => rfl
  | _ => cases h

theorem eq_of_normal_text {value : Value} {utf8 : Bytes} (h : value.normal = text utf8) :
    value = text utf8 := by
  cases value with
  | unsigned n | signed n =>
    rcases ofInteger_cases _ with ⟨m, same⟩ | ⟨m, same⟩ <;> cases same.symm.trans h
  | text utf8 => exact h
  | _ => cases h

theorem exists_of_normal_array {value : Value} {items : List Value}
    (h : value.normal = array items) : ∃ read, value = array read ∧ normalItems read = items := by
  cases value with
  | unsigned n | signed n =>
    rcases ofInteger_cases _ with ⟨m, same⟩ | ⟨m, same⟩ <;> cases same.symm.trans h
  | array read => exact ⟨read, rfl, array.inj h⟩
  | _ => cases h

theorem exists_of_normal_map {value : Value} {entries : List (Value × Value)}
    (h : value.normal = map entries) : ∃ read, value = map read ∧ normalEntries read = entries := by
  cases value with
  | unsigned n | signed n =>
    rcases ofInteger_cases _ with ⟨m, same⟩ | ⟨m, same⟩ <;> cases same.symm.trans h
  | map read => exact ⟨read, rfl, map.inj h⟩
  | _ => cases h

end Value

/-! ## Plain types -/

/-- What is packed is unpacked from every value that is alike but for the sides of integers. -/
class Faithful (α : Type) [Packable α] : Prop where
  ofValue?_eq : ∀ {a : α} {value : Value}, value.normal = (Packable.toValue a).normal →
    Packable.ofValue? value = some a

section

variable {value : Value}

instance : Faithful String where
  ofValue?_eq {text value} h := by
    rw [Value.eq_of_normal_text h]
    exact Bytes.toText?_ofText text

theorem Value.below?_of_normal {n bound : Nat} (h : value.normal = (ofNat n).normal)
    (low : n < bound) (fits : n < 18446744073709551616) : value.below? bound = some n := by
  have int : value.int? = some (n : Int) := (int?_eq_of_normal h).trans (int?_ofNat fits)
  rw [below?, int]
  have within : 0 ≤ (n : Int) ∧ (n : Int) < bound := ⟨Int.natCast_nonneg n, Int.ofNat_lt.2 low⟩
  simp only [if_pos within, Int.toNat_natCast]

instance : Faithful UInt64 where
  ofValue?_eq {n value} h := by
    have same : Value.ofNat n.toNat = .unsigned n := congrArg Value.unsigned UInt64.ofNat_toNat
    have found := Value.below?_of_normal (h.trans (congrArg Value.normal same.symm)) n.toNat_lt
      n.toNat_lt
    exact (congrArg (Option.map UInt64.ofNat) found).trans (congrArg some UInt64.ofNat_toNat)

instance : Faithful UInt32 where
  ofValue?_eq {n value} h := by
    have small := n.toNat_lt
    have found := Value.below?_of_normal h small (by omega)
    exact (congrArg (Option.map UInt32.ofNat) found).trans (congrArg some UInt32.ofNat_toNat)

instance : Faithful UInt8 where
  ofValue?_eq {n value} h := by
    have small := n.toNat_lt
    have found := Value.below?_of_normal h small (by omega)
    exact (congrArg (Option.map UInt8.ofNat) found).trans (congrArg some UInt8.ofNat_toNat)

instance : Faithful Int32 where
  ofValue?_eq {n value} h := by
    have low := n.le_toInt
    have high := n.toInt_lt
    have int : value.int? = some n.toInt :=
      (Value.int?_eq_of_normal h).trans (Value.int?_ofInt (by omega) (by omega))
    show (match value.int? with
      | some n => if -2147483648 ≤ n ∧ n < 2147483648 then some (Int32.ofInt n) else none
      | none => none) = _
    rw [int]
    simp only [if_pos (show -2147483648 ≤ n.toInt ∧ n.toInt < 2147483648 by omega),
      Int32.ofInt_toInt]

/-- Nothing is told from something that is never packed as nil. -/
theorem Faithful.option {α : Type} [Packable α] [Faithful α]
    (present : ∀ a : α, Packable.toValue a ≠ .nil) : Faithful (Option α) where
  ofValue?_eq {a value} h := by
    cases a with
    | none => rw [Value.eq_of_normal_nil h]; rfl
    | some a =>
      have there : value ≠ .nil := by
        rintro rfl
        exact present a (Value.eq_of_normal_nil h.symm)
      have read : Packable.ofValue? value = some a := ofValue?_eq h
      have whole : (Packable.ofValue? value : Option (Option α)) =
          (Packable.ofValue? value).map some := by
        cases value with
        | nil => exact absurd rfl there
        | _ => rfl
      rw [whole, read, Option.map_some]

instance : Faithful (Option Int32) := .option fun _ => nofun

theorem Faithful.mapM_eq {α : Type} [Packable α] [Faithful α] {items : List Value} {as : List α}
    (h : Value.normalItems items = Value.normalItems (as.map Packable.toValue)) :
    items.mapM Packable.ofValue? = some as := by
  induction as generalizing items with
  | nil =>
    cases items with
    | nil => rfl
    | cons item items => cases h
  | cons a as ih =>
    cases items with
    | nil => cases h
    | cons item items =>
      obtain ⟨first, later⟩ := List.cons.inj h
      rw [List.mapM_cons, ofValue?_eq first, ih later]
      rfl

instance : Faithful Bytes where
  ofValue?_eq {bytes value} h := by
    obtain ⟨read, rfl, same⟩ := Value.exists_of_normal_array h
    exact Faithful.mapM_eq same

end

/-! ## Records -/

/-- Entries with texts for keys. -/
def named (fields : List (String × Value)) : List (Value × Value) :=
  fields.map fun (name, value) => (.ofText name, value)

/-- A field with its integers on one side. -/
def normalField (field : String × Value) : String × Value := (field.1, field.2.normal)

/-- Keys that are texts are read as these texts. -/
theorem exists_named {entries : List (Value × Value)} {fields : List (String × Value)}
    (h : Value.normalEntries entries = Value.normalEntries (named fields)) :
    ∃ read, entries = named read ∧ read.map normalField = fields.map normalField := by
  induction fields generalizing entries with
  | nil =>
    cases entries with
    | nil => exact ⟨[], rfl, rfl⟩
    | cons entry entries => cases h
  | cons field fields ih =>
    cases entries with
    | nil => cases h
    | cons entry entries =>
      obtain ⟨first, later⟩ := List.cons.inj h
      obtain ⟨read, rfl, same⟩ := ih later
      obtain ⟨key, value⟩ := Prod.ext_iff.1 first
      have text : entry.1 = .ofText field.1 := Value.eq_of_normal_text key
      refine ⟨(field.1, entry.2) :: read, ?_, ?_⟩
      · exact congrArg (· :: named read) (Prod.ext text rfl)
      · rw [List.map_cons, List.map_cons, same]
        exact congrArg (· :: _) (Prod.ext rfl value)

/-- A name that is known names its field. -/
theorem FieldKey.ofValue_ofText {names : List String} {index : Nat} (nodup : names.Nodup)
    (h : index < names.length) :
    FieldKey.ofValue names (.ofText names[index]) = .field index := by
  have found : (names.map Bytes.ofText).idxOf? (Bytes.ofText names[index]) = some index := by
    refine List.idxOf?_eq_some_iff.2 ⟨by rwa [List.length_map], List.getElem_map _, ?_⟩
    intro earlier less same
    rw [List.getElem_map, Bytes.ofText_inj, nodup.getElem_inj_iff] at same
    exact absurd same less.ne
  simp only [Value.ofText, ofValue, named, found]

theorem lookup_eq_none {name : String} {fields : List (String × Value)}
    (h : name ∉ fields.map Prod.fst) : fields.lookup name = none := by
  refine List.lookup_eq_none_iff.2 fun field mem => bne_iff_ne.2 ?_
  rintro rfl
  exact h (List.mem_map_of_mem mem)

theorem lookup_eq_some {name : String} {value : Value} {fields : List (String × Value)}
    (nodup : (fields.map Prod.fst).Nodup) (mem : (name, value) ∈ fields) :
    fields.lookup name = some value := by
  obtain ⟨before, after, rfl⟩ := List.append_of_mem mem
  have absent : name ∉ before.map Prod.fst := by
    rw [List.map_append, List.nodup_append] at nodup
    exact fun early => nodup.2.2 _ early _ List.mem_cons_self rfl
  rw [List.lookup_append, lookup_eq_none absent, Option.none_or, List.lookup_cons_self]

/-- An entry goes into the slot of its name. -/
theorem map_lookup_concat {names : List String} {index : Nat} (nodup : names.Nodup)
    (h : index < names.length) {done : List (String × Value)} (value : Value)
    (absent : done.lookup names[index] = none) :
    (names.map (done.lookup ·)).set index (some value) =
      names.map ((done ++ [(names[index], value)]).lookup ·) := by
  refine List.ext_getElem (by rw [List.length_set, List.length_map, List.length_map]) ?_
  intro other less less'
  rw [List.getElem_set, List.getElem_map, List.getElem_map, List.lookup_append]
  split
  · subst other
    rw [absent, Option.none_or, List.lookup_cons_self]
  · rename_i differs
    have within : other < names.length := by rwa [List.length_map] at less'
    have apart : names[other] ≠ names[index] :=
      fun same => differs (nodup.getElem_inj_iff.1 same).symm
    rw [List.lookup_cons, beq_false_of_ne apart, List.lookup_nil, Option.or_none]

/-- Entries with known names, none of them twice, fill the slots of their names. -/
theorem fillSlots_named {names : List String} (nodup : names.Nodup)
    (entries done : List (String × Value)) (once : ((done ++ entries).map Prod.fst).Nodup)
    (known : ∀ entry ∈ entries, entry.1 ∈ names) :
    fillSlots names (named entries) (names.map (done.lookup ·)) =
      some (names.map ((done ++ entries).lookup ·)) := by
  induction entries generalizing done with
  | nil => rw [List.append_nil]; rfl
  | cons entry entries ih =>
    obtain ⟨name, value⟩ := entry
    obtain ⟨index, h, rfl⟩ := List.mem_iff_getElem.1 (known _ List.mem_cons_self)
    have absent : done.lookup names[index] = none := by
      rw [List.map_append, List.nodup_append] at once
      exact lookup_eq_none fun early => once.2.2 _ early _ List.mem_cons_self rfl
    have slot : (names.map (done.lookup ·))[index]? = some none := by
      rw [List.getElem?_map, List.getElem?_eq_getElem h, Option.map_some, absent]
    have step : fillSlots names (named ((names[index], value) :: entries))
          (names.map (done.lookup ·)) =
        fillSlots names (named entries)
          (names.map ((done ++ [(names[index], value)]).lookup ·)) := by
      rw [named, List.map_cons, fillSlots]
      simp only [FieldKey.ofValue_ofText nodup h, slot, map_lookup_concat nodup h value absent]
      rfl
    rw [List.append_cons] at once
    have others : ∀ later ∈ entries, later.1 ∈ names :=
      fun later mem => known later (List.mem_cons_of_mem _ mem)
    rw [step, ih _ once others, ← List.append_cons]

theorem mapM_id_map_some {α : Type} (as : List α) : (as.map some).mapM id = some as := by
  induction as with
  | nil => rfl
  | cons a as ih =>
    rw [List.map_cons, List.mapM_cons, ih]
    rfl

/-- A record is read from a map with its entries in any order. -/
theorem recordFields?_of_perm {fields read : List (String × Value)}
    (nodup : (fields.map Prod.fst).Nodup)
    (perm : (read.map normalField).Perm (fields.map normalField)) :
    ∃ values, recordFields? (fields.map Prod.fst) (.map (named read)) = some values ∧
      values.map Value.normal = fields.map fun field => field.2.normal := by
  have keys (list : List (String × Value)) :
      (list.map normalField).map Prod.fst = list.map Prod.fst := by
    rw [List.map_map]
    rfl
  have names : (read.map Prod.fst).Perm (fields.map Prod.fst) := by
    have same := perm.map Prod.fst
    rwa [keys, keys] at same
  have once : (read.map Prod.fst).Nodup := names.nodup_iff.2 nodup
  have present : ∀ field ∈ fields, ∃ value, read.lookup field.1 = some value ∧
      value.normal = field.2.normal := by
    intro field mem
    obtain ⟨⟨name, value⟩, found, same⟩ :=
      List.mem_map.1 (perm.mem_iff.2 (List.mem_map_of_mem mem))
    obtain ⟨rfl, alike⟩ := Prod.ext_iff.1 same
    exact ⟨value, lookup_eq_some once found, alike⟩
  have filled : fillSlots (fields.map Prod.fst) (named read)
      ((fields.map Prod.fst).map fun _ => none) =
      some ((fields.map Prod.fst).map (read.lookup ·)) :=
    fillSlots_named nodup read [] once fun entry mem => names.mem_iff.1 (List.mem_map_of_mem mem)
  refine ⟨fields.map fun field => (read.lookup field.1).getD .nil, ?_, ?_⟩
  · have slots : (fields.map Prod.fst).map (read.lookup ·) =
        (fields.map fun field => (read.lookup field.1).getD .nil).map some := by
      rw [List.map_map, List.map_map]
      refine List.map_congr_left fun field mem => ?_
      obtain ⟨value, found, -⟩ := present field mem
      simp only [Function.comp_apply, found, Option.getD_some]
    rw [slots] at filled
    show ((fillSlots _ (named read) ((fields.map Prod.fst).map fun _ => none)).bind fun slots =>
      slots.mapM id) = _
    rw [filled]
    exact mapM_id_map_some _
  · rw [List.map_map]
    refine List.map_congr_left fun field mem => ?_
    obtain ⟨value, found, alike⟩ := present field mem
    rw [Function.comp_apply, found, Option.getD_some, alike]

theorem recordFields?_of_normal {fields entries : List (String × Value)} {value : Value}
    (nodup : (fields.map Prod.fst).Nodup) (perm : entries.Perm fields)
    (same : value.normal = (Value.map (named entries)).normal) :
    ∃ values, recordFields? (fields.map Prod.fst) value = some values ∧
      values.map Value.normal = fields.map fun field => field.2.normal := by
  obtain ⟨found, rfl, alike⟩ := Value.exists_of_normal_map same
  obtain ⟨read, rfl, normals⟩ := exists_named alike
  refine recordFields?_of_perm nodup ?_
  rw [normals]
  exact perm.map normalField

/-- The fields of a read, in their order. -/
def ReadRequest.fields (r : ReadRequest) : List (String × Value) :=
  [("file_id", Packable.toValue r.fileId), ("offset", Packable.toValue r.offset),
    ("length", Packable.toValue r.length)]

/-- The fields of a lookup, in their order. -/
def Lookup.fields (r : Lookup) : List (String × Value) :=
  [("volume", Packable.toValue r.volume), ("inode", Packable.toValue r.inode)]

/-- The entries of a read may come in any order. -/
theorem ReadRequest.ofValue?_of_perm {r : ReadRequest} {entries : List (String × Value)}
    {value : Value} (perm : entries.Perm r.fields)
    (same : value.normal = (Value.map (named entries)).normal) :
    Packable.ofValue? value = some r := by
  have names : r.fields.map Prod.fst = ["file_id", "offset", "length"] := rfl
  obtain ⟨values, found, alike⟩ := recordFields?_of_normal (by rw [names]; decide) perm same
  obtain ⟨fileId, offset, length, rfl⟩ :=
    List.length_eq_three.1 (by simpa [fields] using congrArg List.length alike)
  obtain ⟨first, second, third⟩ : fileId.normal = (Packable.toValue r.fileId).normal ∧
      offset.normal = (Packable.toValue r.offset).normal ∧
      length.normal = (Packable.toValue r.length).normal := by
    simpa [fields] using alike
  have read : (Packable.ofValue? fileId : Option String) = some r.fileId :=
    Faithful.ofValue?_eq first
  have at' : (Packable.ofValue? offset : Option UInt64) = some r.offset :=
    Faithful.ofValue?_eq second
  have count : (Packable.ofValue? length : Option UInt32) = some r.length :=
    Faithful.ofValue?_eq third
  rw [names] at found
  unfold instPackableReadRequest
  simp only [found, read, at', count]
  rfl

/-- The entries of a lookup may come in any order. -/
theorem Lookup.ofValue?_of_perm {r : Lookup} {entries : List (String × Value)} {value : Value}
    (perm : entries.Perm r.fields)
    (same : value.normal = (Value.map (named entries)).normal) :
    Packable.ofValue? value = some r := by
  have names : r.fields.map Prod.fst = ["volume", "inode"] := rfl
  obtain ⟨values, found, alike⟩ := recordFields?_of_normal (by rw [names]; decide) perm same
  obtain ⟨volume, inode, rfl⟩ :=
    List.length_eq_two.1 (by simpa [fields] using congrArg List.length alike)
  obtain ⟨first, second⟩ : volume.normal = (Packable.toValue r.volume).normal ∧
      inode.normal = (Packable.toValue r.inode).normal := by
    simpa [fields] using alike
  have read : (Packable.ofValue? volume : Option String) = some r.volume :=
    Faithful.ofValue?_eq first
  have number : (Packable.ofValue? inode : Option UInt64) = some r.inode :=
    Faithful.ofValue?_eq second
  rw [names] at found
  unfold instPackableLookup
  simp only [found, read, number]
  rfl

instance : Faithful ReadRequest where
  ofValue?_eq {r _} same := ReadRequest.ofValue?_of_perm (.refl r.fields) same

instance : Faithful Lookup where
  ofValue?_eq {r _} same := Lookup.ofValue?_of_perm (.refl r.fields) same

end MessagePack

end RemoteCall
