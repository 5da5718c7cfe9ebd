import RemoteCall.Bytes

/-!
# MessagePack values

A value as the format knows it. Integers keep the side they are on: those written as unsigned and
those written as signed. Floats are kept as their bits and texts as their bytes, which a peer may
have sent as ill-formed UTF-8. Extensions can be skipped but stand for nothing here.
-/
namespace RemoteCall.MessagePack

inductive Value where
  | nil
  | bool (b : Bool)
  | unsigned (n : UInt64)
  | signed (n : Int64)
  | float32 (bits : UInt32)
  | float64 (bits : UInt64)
  | text (utf8 : Bytes)
  | binary (bytes : Bytes)
  | array (items : List Value)
  | map (entries : List (Value × Value))
  | extension (kind : UInt8) (bytes : Bytes)
  deriving Repr, Inhabited

namespace Value

def ofText (text : String) : Value := .text (Bytes.ofText text)

def ofNat (n : Nat) : Value := .unsigned (UInt64.ofNat n)

/-- A signed integer; one that is not negative is on the unsigned side when it is written. -/
def ofInt (n : Int) : Value := .signed (Int64.ofInt n)

/-- The number that an integer stands for. -/
def int? : Value → Option Int
  | unsigned n => some n.toNat
  | signed n => some n.toInt
  | _ => none

/-- An integer from zero up to and without `bound`. -/
def below? (bound : Nat) (value : Value) : Option Nat :=
  match value.int? with
  | some n => if 0 ≤ n ∧ n < bound then some n.toNat else none
  | none => none

/-- The text of a text or binary value that is well-formed UTF-8. -/
def string? : Value → Option String
  | text utf8 => Bytes.toText? utf8
  | binary bytes => Bytes.toText? bytes
  | _ => none

mutual

/-- No extension occurs in the value. -/
def isPlain : Value → Bool
  | extension _ _ => false
  | array items => itemsPlain items
  | map entries => entriesPlain entries
  | _ => true

def itemsPlain : List Value → Bool
  | [] => true
  | item :: rest => item.isPlain && itemsPlain rest

def entriesPlain : List (Value × Value) → Bool
  | [] => true
  | (key, value) :: rest => key.isPlain && value.isPlain && entriesPlain rest

end

end Value

end RemoteCall.MessagePack
