import RemoteCall.Failure
import RemoteCall.Message
import RemoteCall.MessagePack.Reader
import RemoteCall.MessagePack.Writer

/-!
# Packing typed values

A packable type is written as a MessagePack value and read back from one. A record is written as a
map from field names to values, in field order. It is read from a map in any order, in which a field
may also be named by its position and unknown names are passed over, or from an array of exactly its
fields.
-/
namespace RemoteCall.MessagePack

class Packable (α : Type) where
  toValue : α → Value
  ofValue? : Value → Option α

/-- What a map key says of a record: a field, a name that is none of its fields, or no name. -/
inductive FieldKey where
  | field (index : Nat)
  | unknown
  | invalid
  deriving DecidableEq, Repr

namespace FieldKey

/-- The field of this name. -/
def named (names : List String) (key : Bytes) : FieldKey :=
  match (names.map Bytes.ofText).idxOf? key with
  | some index => .field index
  | none => .unknown

/-- Names may be texts or bytes; a position is an unsigned number. -/
def ofValue (names : List String) : Value → FieldKey
  | .text utf8 => named names utf8
  | .binary bytes => named names bytes
  | .unsigned n => if n.toNat < names.length then .field n.toNat else .unknown
  | _ => .invalid

end FieldKey

/-- Put the entries of a map into the slots of a record; no slot may be filled twice. -/
def fillSlots (names : List String) :
    List (Value × Value) → List (Option Value) → Option (List (Option Value))
  | [], slots => some slots
  | (key, value) :: rest, slots =>
      match FieldKey.ofValue names key with
      | .invalid => none
      | .unknown => fillSlots names rest slots
      | .field index =>
          match slots[index]? with
          | some none => fillSlots names rest (slots.set index (some value))
          | _ => none

/-- The fields of a record in their order. -/
def recordFields? (names : List String) : Value → Option (List Value)
  | .array items => if items.length = names.length then some items else none
  | .map entries => do
      let slots ← fillSlots names entries (names.map fun _ => none)
      slots.mapM id
  | _ => none

/-- A record as a map from its field names. -/
def recordValue (fields : List (String × Value)) : Value :=
  .map (fields.map fun (name, value) => (.ofText name, value))

instance : Packable Value where
  toValue value := value
  ofValue? value := if value.isPlain then some value else none

instance : Packable String where
  toValue := .ofText
  ofValue? := Value.string?

instance : Packable Bool where
  toValue := .bool
  ofValue?
    | .bool b => some b
    | _ => none

instance : Packable UInt64 where
  toValue n := .unsigned n
  ofValue? value := (value.below? UInt64.size).map UInt64.ofNat

instance : Packable UInt32 where
  toValue n := .ofNat n.toNat
  ofValue? value := (value.below? UInt32.size).map UInt32.ofNat

instance : Packable UInt8 where
  toValue n := .ofNat n.toNat
  ofValue? value := (value.below? UInt8.size).map UInt8.ofNat

instance : Packable Int32 where
  toValue n := .ofInt n.toInt
  ofValue? value :=
    match value.int? with
    | some n => if -2147483648 ≤ n ∧ n < 2147483648 then some (Int32.ofInt n) else none
    | none => none

instance (α : Type) [Packable α] : Packable (Option α) where
  toValue
    | none => .nil
    | some a => Packable.toValue a
  ofValue?
    | .nil => some none
    | value => (Packable.ofValue? value).map some

/-- Bytes are written as an array of numbers and read from one, or from binary data. -/
instance : Packable Bytes where
  toValue bytes := .array (bytes.map Packable.toValue)
  ofValue?
    | .array items => items.mapM Packable.ofValue?
    | .binary bytes => some bytes
    | _ => none

/-- The arguments of a lookup. -/
structure Lookup where
  volume : String
  inode : UInt64
  deriving DecidableEq, Repr

instance : Packable Lookup where
  toValue r :=
    recordValue [("volume", Packable.toValue r.volume), ("inode", Packable.toValue r.inode)]
  ofValue? value :=
    match recordFields? ["volume", "inode"] value with
    | some [volume, inode] => do
        return ⟨← Packable.ofValue? volume, ← Packable.ofValue? inode⟩
    | _ => none

/-- The arguments of a read. -/
structure ReadRequest where
  fileId : String
  offset : UInt64
  length : UInt32
  deriving DecidableEq, Repr

instance : Packable ReadRequest where
  toValue r :=
    recordValue [("file_id", Packable.toValue r.fileId), ("offset", Packable.toValue r.offset),
      ("length", Packable.toValue r.length)]
  ofValue? value :=
    match recordFields? ["file_id", "offset", "length"] value with
    | some [fileId, offset, length] => do
        return ⟨← Packable.ofValue? fileId, ← Packable.ofValue? offset, ← Packable.ofValue? length⟩
    | _ => none

/-- The written form of a packable value. -/
def encode {α : Type} [Packable α] (a : α) : Bytes := (Packable.toValue a).encode

/-- Read a packable value from the front of a byte string. -/
def decode {α : Type} [Packable α] (bytes : Bytes) : Except Failure α :=
  match (Value.decode? bytes).bind Packable.ofValue? with
  | some a => .ok a
  | none => .error .decoding

/-- A packable value as the message of a call. -/
def message {α : Type} [Packable α] (tag : UInt32) (a : α) : Message :=
  Message.ofBytes (encode a) tag

end RemoteCall.MessagePack
