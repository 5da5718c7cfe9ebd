import RemoteCall.MessagePack.Value

/-!
# Writing MessagePack

Every value is written in its shortest form: the marker says the kind and, for small sizes, the
size; otherwise the size follows in one, two, four or eight bytes, most significant first. Numbers
that are not negative are written in the unsigned forms.
-/
namespace RemoteCall.MessagePack

/-- A marker and a number behind it in `width` bytes. -/
def marked (marker : UInt8) (width n : Nat) : Bytes := marker :: Bytes.bigEndian width n

def encodeNat (n : Nat) : Bytes :=
  if n < 128 then [UInt8.ofNat n]
  else if n < UInt8.size then marked 0xcc 1 n
  else if n < UInt16.size then marked 0xcd 2 n
  else if n < UInt32.size then marked 0xce 4 n
  else marked 0xcf 8 n

/-- A negative number as its two's complement in the narrowest form that holds it. -/
def encodeNegative (n : Int) : Bytes :=
  if -32 ≤ n then [UInt8.ofNat (n + UInt8.size).toNat]
  else if -128 ≤ n then marked 0xd0 1 (n + UInt8.size).toNat
  else if -32768 ≤ n then marked 0xd1 2 (n + UInt16.size).toNat
  else if -2147483648 ≤ n then marked 0xd2 4 (n + UInt32.size).toNat
  else marked 0xd3 8 (n + UInt64.size).toNat

def encodeInt (n : Int) : Bytes := if 0 ≤ n then encodeNat n.toNat else encodeNegative n

/-- The marker of a text of `size` bytes. -/
def textMarker (size : Nat) : Bytes :=
  if size < 32 then [UInt8.ofNat (0xa0 + size)]
  else if size < UInt8.size then marked 0xd9 1 size
  else if size < UInt16.size then marked 0xda 2 size
  else marked 0xdb 4 size

def binaryMarker (size : Nat) : Bytes :=
  if size < UInt8.size then marked 0xc4 1 size
  else if size < UInt16.size then marked 0xc5 2 size
  else marked 0xc6 4 size

def arrayMarker (size : Nat) : Bytes :=
  if size < 16 then [UInt8.ofNat (0x90 + size)]
  else if size < UInt16.size then marked 0xdc 2 size
  else marked 0xdd 4 size

def mapMarker (size : Nat) : Bytes :=
  if size < 16 then [UInt8.ofNat (0x80 + size)]
  else if size < UInt16.size then marked 0xde 2 size
  else marked 0xdf 4 size

def extensionMarker (size : Nat) : Bytes :=
  if size = 1 then [0xd4]
  else if size = 2 then [0xd5]
  else if size = 4 then [0xd6]
  else if size = 8 then [0xd7]
  else if size = 16 then [0xd8]
  else if size < UInt8.size then marked 0xc7 1 size
  else if size < UInt16.size then marked 0xc8 2 size
  else marked 0xc9 4 size

namespace Value

mutual

/-- The written form of a value, in front of `rest`. -/
def encodeBefore (value : Value) (rest : Bytes) : Bytes :=
  match value with
  | nil => 0xc0 :: rest
  | bool b => (if b then 0xc3 else 0xc2) :: rest
  | unsigned n => encodeNat n.toNat ++ rest
  | signed n => encodeInt n.toInt ++ rest
  | float32 bits => marked 0xca 4 bits.toNat ++ rest
  | float64 bits => marked 0xcb 8 bits.toNat ++ rest
  | text utf8 => textMarker utf8.length ++ (utf8 ++ rest)
  | binary bytes => binaryMarker bytes.length ++ (bytes ++ rest)
  | array items => arrayMarker items.length ++ encodeItemsBefore items rest
  | map entries => mapMarker entries.length ++ encodeEntriesBefore entries rest
  | extension kind bytes => extensionMarker bytes.length ++ (kind :: (bytes ++ rest))

def encodeItemsBefore : List Value → Bytes → Bytes
  | [], rest => rest
  | item :: items, rest => item.encodeBefore (encodeItemsBefore items rest)

def encodeEntriesBefore : List (Value × Value) → Bytes → Bytes
  | [], rest => rest
  | (key, value) :: entries, rest =>
      key.encodeBefore (value.encodeBefore (encodeEntriesBefore entries rest))

end

def encode (value : Value) : Bytes := value.encodeBefore []

end Value

end RemoteCall.MessagePack
