import RemoteCall.MessagePack.Value

/-!
# Reading MessagePack

A reader takes one value from the front of a byte string and leaves the rest. It accepts every form
of the format, also longer ones than needed, refuses the marker that is never used, and refuses
arrays, maps and extensions nested more deeply than it is allowed to go.
-/
namespace RemoteCall.MessagePack

/-- The first `size` bytes and the rest, if there are that many. -/
def takeBytes (size : Nat) (bytes : Bytes) : Option (Bytes × Bytes) :=
  let front := bytes.take size
  if front.length = size then some (front, bytes.drop size) else none

/-- The number in the first `width` bytes. -/
def takeNat (width : Nat) (bytes : Bytes) : Option (Nat × Bytes) :=
  (takeBytes width bytes).map fun (front, rest) => (Bytes.value front, rest)

/-- The number whose two's complement stands in the first `width` bytes. -/
def takeInt (width : Nat) (bytes : Bytes) : Option (Int × Bytes) :=
  (takeNat width bytes).map fun (n, rest) =>
    (if 2 * n < Bytes.capacity width then (n : Int) else (n : Int) - Bytes.capacity width, rest)

/-- Where the size of a value stands: in the marker, or in so many bytes behind it. -/
inductive SizeForm where
  | within (size : Nat)
  | behind (width : Nat)
  deriving DecidableEq, Repr

def SizeForm.take (bytes : Bytes) : SizeForm → Option (Nat × Bytes)
  | within size => some (size, bytes)
  | behind width => takeNat width bytes

/-- The kinds of marker. -/
inductive Marker where
  | unused
  | nil
  | bool (b : Bool)
  | natural (form : SizeForm)
  | negative (n : Int)
  | integer (width : Nat)
  | float32
  | float64
  | text (form : SizeForm)
  | binary (form : SizeForm)
  | array (form : SizeForm)
  | map (form : SizeForm)
  | extension (form : SizeForm)
  deriving DecidableEq, Repr

namespace Marker

/-- The markers from `0xc0` to `0xdf`. -/
def middle : List Marker :=
  [nil, unused, bool false, bool true,
    binary (.behind 1), binary (.behind 2), binary (.behind 4),
    extension (.behind 1), extension (.behind 2), extension (.behind 4),
    float32, float64,
    natural (.behind 1), natural (.behind 2), natural (.behind 4), natural (.behind 8),
    integer 1, integer 2, integer 4, integer 8,
    extension (.within 1), extension (.within 2), extension (.within 4), extension (.within 8),
    extension (.within 16),
    text (.behind 1), text (.behind 2), text (.behind 4),
    array (.behind 2), array (.behind 4),
    map (.behind 2), map (.behind 4)]

def ofByte (byte : UInt8) : Marker :=
  let m := byte.toNat
  if m < 0x80 then natural (.within m)
  else if m < 0x90 then map (.within (m - 0x80))
  else if m < 0xa0 then array (.within (m - 0x90))
  else if m < 0xc0 then text (.within (m - 0xa0))
  else if m < 0xe0 then middle.getD (m - 0xc0) unused
  else negative ((m : Int) - 256)

end Marker

/-- What a marker announces: a value without parts, or how many parts follow. -/
inductive Head where
  | leaf (value : Value)
  | array (size : Nat)
  | map (size : Nat)
  | extension (size : Nat)

/-- Read what belongs to a marker alone. -/
def Head.takeFor (rest : Bytes) : Marker → Option (Head × Bytes)
  | .unused => none
  | .nil => some (leaf .nil, rest)
  | .bool b => some (leaf (.bool b), rest)
  | .natural form => (form.take rest).map fun (n, rest) => (leaf (.ofNat n), rest)
  | .negative n => some (leaf (.ofInt n), rest)
  | .integer width => (takeInt width rest).map fun (n, rest) => (leaf (.ofInt n), rest)
  | .float32 => (takeNat 4 rest).map fun (n, rest) => (leaf (.float32 (UInt32.ofNat n)), rest)
  | .float64 => (takeNat 8 rest).map fun (n, rest) => (leaf (.float64 (UInt64.ofNat n)), rest)
  | .text form => do
      let (size, rest) ← form.take rest
      let (utf8, rest) ← takeBytes size rest
      return (leaf (.text utf8), rest)
  | .binary form => do
      let (size, rest) ← form.take rest
      let (bytes, rest) ← takeBytes size rest
      return (leaf (.binary bytes), rest)
  | .array form => (form.take rest).map fun (size, rest) => (array size, rest)
  | .map form => (form.take rest).map fun (size, rest) => (map size, rest)
  | .extension form => (form.take rest).map fun (size, rest) => (extension size, rest)

/-- Read the marker at the front and what belongs to it alone. -/
def Head.take : Bytes → Option (Head × Bytes)
  | [] => none
  | marker :: rest => takeFor rest (Marker.ofByte marker)

/-- Take `count` things in a row, `done` being those before them in reverse. -/
def takeMany {α : Type} (takeOne : Bytes → Option (α × Bytes)) :
    Nat → Bytes → List α → Option (List α × Bytes)
  | 0, bytes, done => some (done.reverse, bytes)
  | count + 1, bytes, done =>
      match takeOne bytes with
      | none => none
      | some (a, rest) => takeMany takeOne count rest (a :: done)

/-- Take a key and the value that follows it. -/
def takeEntry (takeOne : Bytes → Option (Value × Bytes)) (bytes : Bytes) :
    Option ((Value × Value) × Bytes) := do
  let (key, rest) ← takeOne bytes
  let (value, rest) ← takeOne rest
  return ((key, value), rest)

/-- The kind of an extension and its bytes. -/
def takeExtension (size : Nat) (bytes : Bytes) : Option (Value × Bytes) :=
  match bytes with
  | [] => none
  | kind :: rest =>
      (takeBytes size rest).map fun (content, rest) => (.extension kind content, rest)

/-- Take a value with at most `depth` levels of nesting from the front. -/
def Value.take (depth : Nat) (bytes : Bytes) : Option (Value × Bytes) :=
  match Head.take bytes with
  | none => none
  | some (.leaf value, rest) => some (value, rest)
  | some (.array size, rest) =>
      match depth with
      | 0 => none
      | depth + 1 =>
          (takeMany (Value.take depth) size rest []).map fun (items, rest) => (.array items, rest)
  | some (.map size, rest) =>
      match depth with
      | 0 => none
      | depth + 1 =>
          (takeMany (takeEntry (Value.take depth)) size rest []).map fun (entries, rest) =>
            (.map entries, rest)
  | some (.extension size, rest) => if depth = 0 then none else takeExtension size rest

/-- The deepest nesting that is read. -/
def nestingLimit : Nat := 1023

/-- The value at the front; what follows it is ignored. -/
def Value.decode? (bytes : Bytes) : Option Value := (Value.take nestingLimit bytes).map Prod.fst

end RemoteCall.MessagePack
