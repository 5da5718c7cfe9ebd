import RemoteCall.Proofs.MessagePack.Packing
import RemoteCall.Proofs.Reply.Splitting

/-!
# Payloads come back

A payload is written in a shortest form of its value and decoded from it, and from every other
form. It makes no difference whether the bytes are decoded at once or were the body of a reply that
came in fragments, nor in which order the entries of a record stand. Only what is too long for the
format, with a size that four bytes do not hold, has no form.

How the serializer writes and reads is assumed, not shown. It is taken to write every value in the
shortest standard form of its kind, and a record as a map from its field names in field order. It is
taken to read every standard form, the longer ones included, down to the depth that it allows, and
the entries of a record in any order.
-/
namespace RemoteCall

/-- The body of a response is what its fragments carry behind the header. -/
theorem Carries.body_eq {response : Response} {header : ReplyHeader} {body : Bytes}
    (h : Carries response.fragments header body) : response.body = body := by
  obtain ⟨first, later, part, split, bytes, rest⟩ := h.exists_first
  have cut : response.fragments.map Buffer.bytes =
      (header.encode ++ part) :: later.map Buffer.bytes := by
    rw [split, List.map_cons, bytes]
  rw [Response.body, Fragment.flatten_chunks cut, rest]

namespace MessagePack

/-! ## Values that have a form -/

theorem exists_both {First Second : Bytes → Prop} :
    (∃ form, Both First Second form) ↔ (∃ form, First form) ∧ ∃ form, Second form := by
  constructor
  · rintro ⟨_, front, back, first, second, -⟩
    exact ⟨⟨front, first⟩, back, second⟩
  · rintro ⟨⟨front, first⟩, back, second⟩
    exact ⟨front ++ back, front, back, first, second, rfl⟩

theorem SizeMarkers.Writes.exists_form {markers : SizeMarkers} {write : Nat → Bytes}
    (writes : markers.Writes write) {size : Nat} :
    (∃ form, markers.Form size form) ↔ size < UInt32.size :=
  ⟨fun ⟨_, h⟩ => writes.small h, fun h => ⟨_, writes.form h⟩⟩

namespace Value

theorem exists_form_text {utf8 : Bytes} :
    (∃ form, (text utf8).Form form) ↔ utf8.length < UInt32.size := by
  rw [Form, exists_both, SizeMarkers.writes_text.exists_form]
  exact and_iff_left ⟨utf8, rfl⟩

theorem exists_form_unsigned (n : UInt64) : ∃ form, (unsigned n).Form form :=
  ⟨_, numberForm_encodeNat n.toNat_lt⟩

theorem exists_form_signed (n : Int64) : ∃ form, (signed n).Form form := by
  have low := n.le_toInt
  have high := n.toInt_lt
  exact ⟨_, numberForm_encodeInt (by omega) (by omega)⟩

theorem exists_itemsForm {items : List Value} :
    (∃ form, ItemsForm items form) ↔ ∀ item ∈ items, ∃ form, item.Form form := by
  induction items with
  | nil => exact iff_of_true ⟨[], rfl⟩ (List.forall_mem_nil _)
  | cons item items ih => rw [ItemsForm, exists_both, ih, List.forall_mem_cons]

theorem exists_entriesForm {entries : List (Value × Value)} :
    (∃ form, EntriesForm entries form) ↔
      ∀ entry ∈ entries, (∃ form, entry.1.Form form) ∧ ∃ form, entry.2.Form form := by
  induction entries with
  | nil => exact iff_of_true ⟨[], rfl⟩ (List.forall_mem_nil _)
  | cons entry entries ih =>
    rw [EntriesForm, exists_both, exists_both, ih, List.forall_mem_cons, and_assoc]

theorem exists_form_array {items : List Value} : (∃ form, (array items).Form form) ↔
    items.length < UInt32.size ∧ ∀ item ∈ items, ∃ form, item.Form form := by
  rw [Form, exists_both, SizeMarkers.writes_array.exists_form, exists_itemsForm]

theorem exists_form_map {entries : List (Value × Value)} : (∃ form, (map entries).Form form) ↔
    entries.length < UInt32.size ∧
      ∀ entry ∈ entries, (∃ form, entry.1.Form form) ∧ ∃ form, entry.2.Form form := by
  rw [Form, exists_both, SizeMarkers.writes_map.exists_form, exists_entriesForm]

theorem itemsNesting_eq_zero {items : List Value} (h : ∀ item ∈ items, item.nesting = 0) :
    itemsNesting items = 0 := by
  induction items with
  | nil => rfl
  | cons item items ih =>
    obtain ⟨first, later⟩ := List.forall_mem_cons.1 h
    rw [itemsNesting, first, ih later, Nat.max_self]

theorem entriesNesting_named {fields : List (String × Value)}
    (h : ∀ field ∈ fields, field.2.nesting = 0) : entriesNesting (named fields) = 0 := by
  induction fields with
  | nil => rfl
  | cons field fields ih =>
    obtain ⟨first, later⟩ := List.forall_mem_cons.1 h
    show max (max 0 field.2.nesting) (entriesNesting (named fields)) = 0
    rw [first, ih later, Nat.max_self, Nat.max_self]

end Value

/-- The format has a form for a typed value. -/
def HasForm {α : Type} [Packable α] (a : α) : Prop := ∃ form, (Packable.toValue a).Form form

/-! ## Decoding -/

section

variable {α : Type} [Packable α] {a : α}

/-- A form is decoded if its value is not nested too deeply and sides do not matter to its type. -/
theorem decode_of_form {value : Value} {form : Bytes} (h : value.Form form)
    (flat : value.nesting ≤ nestingLimit)
    (unpacks : ∀ read : Value, read.normal = value.normal → Packable.ofValue? read = some a) :
    decode form = .ok a := by
  obtain ⟨read, taken, same⟩ := Value.reads_of_form value h flat []
  rw [List.append_nil] at taken
  rw [decode, Value.decode?, taken, Option.map_some, Option.bind_some, unpacks read same]

/-- Bytes are decoded to a value, also when they come as the body of a reply in fragments. -/
structure Returns (form : Bytes) (a : α) : Prop where
  decoded : decode form = .ok a
  replied : ∀ {xid : UInt32} {limit : UInt32} {full : List Bytes} {last : Bytes}
      {schedule : List Fragment.Incident},
    Fragment.arrived schedule = full.flatMap (Fragment.mark false) ++ Fragment.mark true last →
    (∀ piece ∈ full ++ [last], Fragment.Admits limit piece.length) →
    (full ++ [last]).flatten = (ReplyHeader.mk xid 0).encode ++ form →
    ReplyHeader.size ≤ ((full ++ [last]).head (by simp)).length →
    ∀ pool : BufferPool, ∃ fragments,
      (Fragment.Receiver.after limit (schedule ++ [.read pool])).HasReturned fragments ∧
      ∀ (request : Request) (parsers : List ExceptionDecoder) (now : Instant), ∃ response,
        (request.complete (ReplyHeader.mk xid 0).status fragments parsers now).1 =
          request.notice (.response response) ∧
        decode response.body = .ok a

theorem returns_of_decode {form : Bytes} (h : decode form = .ok a) : Returns form a where
  decoded := h
  replied {xid _ _ _ _} arrives admits whole long pool := by
    obtain ⟨fragments, returned, carries⟩ := Carries.of_arrived arrives admits whole long pool
    refine ⟨fragments, returned, fun request parsers now => ?_⟩
    let response : Response := ⟨request.info, request.timings now, fragments⟩
    have carried : Carries response.fragments ⟨xid, 0⟩ form := carries
    exact ⟨response, rfl, by rw [carried.body_eq, h]⟩

/-- A typed value is written in a shortest form, its message states the size of it, and it is
returned from every form. -/
structure RoundTrips (a : α) : Prop where
  form : (Packable.toValue a).Form (encode a)
  shortest : ∀ other, (Packable.toValue a).Form other → (encode a).length ≤ other.length
  honest : ∀ tag, (message tag a).tag = tag ∧ (message tag a).size = (message tag a).bytes.length
  message : ∀ tag, Returns (message tag a).bytes a
  returns : ∀ form, (Packable.toValue a).Form form → Returns form a

theorem HasForm.roundTrips [Faithful α] (h : HasForm a)
    (flat : (Packable.toValue a).nesting ≤ nestingLimit) : RoundTrips a := by
  obtain ⟨form, stands⟩ := h
  obtain ⟨standard, shortest⟩ := stands.encode
  have returns (form : Bytes) (h : (Packable.toValue a).Form form) : Returns form a :=
    returns_of_decode (decode_of_form h flat fun read same => Faithful.ofValue?_eq same)
  exact ⟨standard, shortest, fun _ => ⟨rfl, rfl⟩, fun _ => returns _ standard, returns⟩

end

/-! ## The packed types -/

theorem hasForm_text {text : String} : HasForm text ↔ text.utf8ByteSize < UInt32.size := by
  rw [← Bytes.length_ofText]
  exact Value.exists_form_text

theorem exists_form_fields {fields : List (String × Value)} :
    (∃ form, (Value.map (named fields)).Form form) ↔ fields.length < UInt32.size ∧
      ∀ field ∈ fields, field.1.utf8ByteSize < UInt32.size ∧ ∃ form, field.2.Form form := by
  have key (name : String) :
      (∃ form, (Value.ofText name).Form form) ↔ name.utf8ByteSize < UInt32.size := hasForm_text
  rw [Value.exists_form_map, named, List.length_map, List.forall_mem_map]
  simp only [key]

/-- Whether a map has a form does not depend on the order of its entries. -/
theorem exists_form_of_perm {fields entries : List (String × Value)} (perm : entries.Perm fields)
    (h : ∃ form, (Value.map (named fields)).Form form) :
    ∃ form, (Value.map (named entries)).Form form := by
  rw [exists_form_fields] at h ⊢
  rw [perm.length_eq]
  exact ⟨h.1, fun entry mem => h.2 entry (perm.mem_iff.1 mem)⟩

theorem nesting_named_of_perm {fields entries : List (String × Value)} (perm : entries.Perm fields)
    (flat : ∀ field ∈ fields, field.2.nesting = 0) :
    (Value.map (named entries)).nesting ≤ nestingLimit := by
  rw [Value.nesting, Value.entriesNesting_named fun entry mem => flat entry (perm.mem_iff.1 mem)]
  decide

/-- A record that is read from its entries in any order comes back from each of their forms. -/
theorem returns_of_perm {α : Type} [Packable α] {r : α} {fields entries : List (String × Value)}
    (has : ∃ form, (Value.map (named fields)).Form form)
    (flat : ∀ field ∈ fields, field.2.nesting = 0) (perm : entries.Perm fields)
    (unpacks : ∀ value : Value, value.normal = (Value.map (named entries)).normal →
      Packable.ofValue? value = some r) :
    (∃ form, (Value.map (named entries)).Form form) ∧
      ∀ form, (Value.map (named entries)).Form form → Returns form r :=
  ⟨exists_form_of_perm perm has, fun _ stands =>
    returns_of_decode (decode_of_form stands (nesting_named_of_perm perm flat) unpacks)⟩

theorem ReadRequest.nesting_fields (r : ReadRequest) : ∀ field ∈ r.fields, field.2.nesting = 0 := by
  simp [fields, Packable.toValue, Value.ofText, Value.ofNat, Value.nesting]

theorem Lookup.nesting_fields (r : Lookup) : ∀ field ∈ r.fields, field.2.nesting = 0 := by
  simp [fields, Packable.toValue, Value.ofText, Value.nesting]

theorem ReadRequest.hasForm_iff (r : ReadRequest) :
    HasForm r ↔ r.fileId.utf8ByteSize < UInt32.size := by
  refine exists_form_fields.trans
    ⟨fun h => hasForm_text.1 (h.2 _ List.mem_cons_self).2, fun short => ?_⟩
  refine ⟨(by decide : 3 < UInt32.size), ?_⟩
  simp only [List.forall_mem_cons]
  exact ⟨⟨by decide, hasForm_text.2 short⟩, ⟨by decide, Value.exists_form_unsigned _⟩,
    ⟨by decide, Value.exists_form_unsigned _⟩, List.forall_mem_nil _⟩

theorem Lookup.hasForm_iff (r : Lookup) : HasForm r ↔ r.volume.utf8ByteSize < UInt32.size := by
  refine exists_form_fields.trans
    ⟨fun h => hasForm_text.1 (h.2 _ List.mem_cons_self).2, fun short => ?_⟩
  refine ⟨(by decide : 2 < UInt32.size), ?_⟩
  simp only [List.forall_mem_cons]
  exact ⟨⟨by decide, hasForm_text.2 short⟩, ⟨by decide, Value.exists_form_unsigned _⟩,
    List.forall_mem_nil _⟩

theorem hasForm_int32 (n : Option Int32) : HasForm n := by
  cases n with
  | none => exact ⟨_, rfl⟩
  | some n => exact Value.exists_form_signed _

theorem nesting_int32 (n : Option Int32) : (Packable.toValue n).nesting = 0 := by
  cases n <;> rfl

theorem hasForm_bytes_iff (bytes : Bytes) : HasForm bytes ↔ bytes.length < UInt32.size := by
  refine Value.exists_form_array.trans ?_
  rw [List.length_map]
  refine and_iff_left fun item mem => ?_
  obtain ⟨byte, -, rfl⟩ := List.mem_map.1 mem
  exact Value.exists_form_unsigned _

theorem nesting_bytes (bytes : Bytes) : (Packable.toValue bytes).nesting ≤ nestingLimit := by
  have flat : Value.itemsNesting (bytes.map Packable.toValue) = 0 := by
    refine Value.itemsNesting_eq_zero fun item mem => ?_
    obtain ⟨byte, -, rfl⟩ := List.mem_map.1 mem
    rfl
  show Value.itemsNesting (bytes.map Packable.toValue) + 1 ≤ nestingLimit
  rw [flat]
  decide

/-- With a serializer that writes the shortest standard forms and reads every standard form: every
read and every lookup whose text the format has a form for, every optional number and every byte
string that is not too long comes back from its message, from any other form and from a reply in
fragments. A read or a lookup also comes back from a map with its entries in any order. -/
theorem payload_round_trip :
    (∀ r : ReadRequest, (HasForm r ↔ r.fileId.utf8ByteSize < UInt32.size) ∧ (HasForm r →
      RoundTrips r ∧ ∀ entries : List (String × Value), entries.Perm r.fields →
        (∃ form, (Value.map (named entries)).Form form) ∧
        ∀ form, (Value.map (named entries)).Form form → Returns form r)) ∧
    (∀ r : Lookup, (HasForm r ↔ r.volume.utf8ByteSize < UInt32.size) ∧ (HasForm r →
      RoundTrips r ∧ ∀ entries : List (String × Value), entries.Perm r.fields →
        (∃ form, (Value.map (named entries)).Form form) ∧
        ∀ form, (Value.map (named entries)).Form form → Returns form r)) ∧
    (∀ n : Option Int32, HasForm n ∧ RoundTrips n) ∧
    ∀ bytes : Bytes, (HasForm bytes ↔ bytes.length < UInt32.size) ∧
      (HasForm bytes → RoundTrips bytes) := by
  refine ⟨fun r => ⟨r.hasForm_iff, fun has => ⟨?_, fun entries perm => ?_⟩⟩,
    fun r => ⟨r.hasForm_iff, fun has => ⟨?_, fun entries perm => ?_⟩⟩,
    fun n => ⟨hasForm_int32 n, ?_⟩, fun bytes => ⟨hasForm_bytes_iff bytes, fun has => ?_⟩⟩
  · exact has.roundTrips (nesting_named_of_perm (.refl r.fields) r.nesting_fields)
  · exact returns_of_perm has r.nesting_fields perm fun value same =>
      ReadRequest.ofValue?_of_perm perm same
  · exact has.roundTrips (nesting_named_of_perm (.refl r.fields) r.nesting_fields)
  · exact returns_of_perm has r.nesting_fields perm fun value same =>
      Lookup.ofValue?_of_perm perm same
  · exact (hasForm_int32 n).roundTrips ((nesting_int32 n).le.trans (Nat.zero_le _))
  · exact has.roundTrips (nesting_bytes bytes)

/-- A read of a file. -/
def sampleRead : ReadRequest := ⟨"abc:1", 4096, 128⟩

/-- The start of a reply with it: the header and four bytes. -/
def sampleStart : Bytes := (ReplyHeader.mk 7 0).encode ++ (message 1234 sampleRead).bytes.take 4

def sampleRest : Bytes := (message 1234 sampleRead).bytes.drop 4

/-- A read comes back from its message, from a reply of two fragments and from its entries in the
opposite order. -/
theorem payload_round_trip_reversed :
    HasForm sampleRead ∧ decode (message 1234 sampleRead).bytes = .ok sampleRead ∧
      (∃ fragments, (Fragment.Receiver.after 1024
          [.arrive (Fragment.mark false sampleStart ++ Fragment.mark true sampleRest),
            .read {}]).HasReturned fragments ∧
        ∀ request : Request, ∃ response,
          (request.complete (ReplyHeader.mk 7 0).status fragments [] 0).1 =
            request.notice (.response response) ∧
          decode response.body = .ok sampleRead) ∧
      sampleRead.fields.reverse.Perm sampleRead.fields ∧
      decode (Value.map (named sampleRead.fields.reverse)).encode = .ok sampleRead := by
  have has : HasForm sampleRead := (payload_round_trip.1 sampleRead).1.2 (by decide)
  obtain ⟨trips, ordered⟩ := (payload_round_trip.1 sampleRead).2 has
  have reversed := List.reverse_perm sampleRead.fields
  obtain ⟨⟨form, stands⟩, returns⟩ := ordered _ reversed
  refine ⟨has, (trips.message 1234).decoded, ?_, reversed, (returns _ stands.encode.1).decoded⟩
  have arrives : Fragment.arrived
      [.arrive (Fragment.mark false sampleStart ++ Fragment.mark true sampleRest)] =
      [sampleStart].flatMap (Fragment.mark false) ++ Fragment.mark true sampleRest := by
    simp [Fragment.arrived, Fragment.Incident.bytes]
  have start : sampleStart.length = 12 := by decide +kernel
  have rest : sampleRest.length = 30 := by decide +kernel
  have admits : ∀ piece ∈ [sampleStart] ++ [sampleRest], Fragment.Admits 1024 piece.length := by
    intro piece mem
    rcases List.mem_pair.1 mem with rfl | rfl
    · rw [start]
      exact ⟨by decide, by decide⟩
    · rw [rest]
      exact ⟨by decide, by decide⟩
  have whole : ([sampleStart] ++ [sampleRest]).flatten =
      (ReplyHeader.mk 7 0).encode ++ (message 1234 sampleRead).bytes := by
    simp [sampleStart, sampleRest]
  obtain ⟨fragments, returned, listener⟩ :=
    (trips.message 1234).replied arrives admits whole (start.ge.trans' (by decide)) {}
  exact ⟨fragments, returned, fun request => listener request [] 0⟩

end MessagePack

end RemoteCall
