/-!
# Socket addresses

An address is an IPv4 or IPv6 host and a port. The text form writes IPv4 hosts as four decimal
numbers and IPv6 hosts in brackets, as hexadecimal groups in which the longest run of at least two
zero groups is left out; hosts that embed an IPv4 address end in its decimal form.
-/
namespace RemoteCall

inductive Host where
  | v4 (a b c d : UInt8)
  | v6 (groups : List UInt16) (scope : UInt32)
  deriving DecidableEq, Repr

structure Address where
  host : Host
  port : UInt16
  deriving DecidableEq, Repr

namespace Text

/-- The pieces between the separators. -/
def splitOn (separator : Char) : List Char → List (List Char)
  | [] => [[]]
  | c :: rest =>
      if c = separator then [] :: splitOn separator rest
      else
        match splitOn separator rest with
        | [] => [[c]]
        | piece :: pieces => (c :: piece) :: pieces

def digit? (c : Char) : Option Nat :=
  if '0' ≤ c ∧ c ≤ '9' then some (c.toNat - 48)
  else if 'a' ≤ c ∧ c ≤ 'f' then some (c.toNat - 87)
  else if 'A' ≤ c ∧ c ≤ 'F' then some (c.toNat - 55)
  else none

/-- The number that the digits denote in a base, if there is at least one and all are digits. -/
def number? (base : Nat) (digits : List Char) : Option Nat :=
  if digits.isEmpty then none
  else
    digits.foldl (fun sum c => do
      let n ← sum
      let d ← digit? c
      if d < base then some (n * base + d) else none) (some 0)

/-- A number below `bound`. -/
def below? (base bound : Nat) (digits : List Char) : Option Nat := do
  let n ← number? base digits
  if n < bound then some n else none

/-- Lower-case hexadecimal without leading zeros. -/
def hexNumber (n : Nat) : String := String.ofList (Nat.toDigits 16 n)

end Text

namespace Host

/-- The host that stands for every address. -/
def isUnspecified : Host → Bool
  | v4 a b c d => a == 0 && b == 0 && c == 0 && d == 0
  | v6 groups _ => groups.all (· == 0)

private def dotted (a b c d : Nat) : String :=
  toString a ++ "." ++ toString b ++ "." ++ toString c ++ "." ++ toString d

/-- The first longest run of zero groups, as its start and length. -/
def longestZeroRun (groups : List UInt16) : Nat × Nat :=
  let step := fun (state : (Nat × Nat) × Nat × Nat) (group : UInt16) =>
    let (best, run, position) := state
    let run := if group = 0 then run + 1 else 0
    (if best.2 < run then (position + 1 - run, run) else best, run, position + 1)
  (groups.foldl step ((0, 0), 0, 0)).1

private def joinGroups (groups : List UInt16) : String :=
  String.intercalate ":" (groups.map fun g => Text.hexNumber g.toNat)

private def groupsText (groups : List UInt16) : String :=
  match groups with
  | [0, 0, 0, 0, 0, 0xffff, high, low] =>
      "::ffff:" ++ dotted (high.toNat / 256) (high.toNat % 256) (low.toNat / 256) (low.toNat % 256)
  | _ =>
      let (start, length) := longestZeroRun groups
      if length < 2 then joinGroups groups
      else joinGroups (groups.take start) ++ "::" ++ joinGroups (groups.drop (start + length))

def text : Host → String
  | v4 a b c d => dotted a.toNat b.toNat c.toNat d.toNat
  | v6 groups scope =>
      "[" ++ groupsText groups ++ (if scope = 0 then "" else "%" ++ toString scope.toNat) ++ "]"

/-- A decimal byte without superfluous zeros in front. -/
def octet? (digits : List Char) : Option UInt8 := do
  if digits.length > 1 ∧ digits.head? = some '0' then none
  let n ← Text.below? 10 UInt8.size digits
  return UInt8.ofNat n

def v4? (text : List Char) : Option (UInt8 × UInt8 × UInt8 × UInt8) :=
  match (Text.splitOn '.' text).map octet? with
  | [some a, some b, some c, some d] => some (a, b, c, d)
  | _ => none

private def group? (digits : List Char) : Option (List UInt16) :=
  if digits.length ≤ 4 then (Text.number? 16 digits).map fun n => [UInt16.ofNat n]
  else none

private def lastGroup? (digits : List Char) : Option (List UInt16) :=
  match v4? digits with
  | some (a, b, c, d) =>
      some [UInt16.ofNat (a.toNat * 256 + b.toNat), UInt16.ofNat (c.toNat * 256 + d.toNat)]
  | none => group? digits

/-- Groups between colons; the last may be an IPv4 address where that is allowed. -/
private def groups? (endsInV4 : Bool) : List (List Char) → Option (List UInt16)
  | [] => some []
  | [digits] => if endsInV4 then lastGroup? digits else group? digits
  | digits :: rest => do
      let first ← group? digits
      let others ← groups? endsInV4 rest
      return first ++ others

/-- The text before the first double colon and the text behind it. -/
private def splitAtGap : List Char → Option (List Char × List Char)
  | ':' :: ':' :: rest => some ([], rest)
  | c :: rest => (splitAtGap rest).map fun (before, behind) => (c :: before, behind)
  | [] => none

private def colonPieces (text : List Char) : List (List Char) :=
  if text.isEmpty then [] else Text.splitOn ':' text

/-- Eight groups, or fewer with one gap that stands for the zero groups left out. -/
def v6? (text : List Char) : Option (List UInt16) :=
  match splitAtGap text with
  | none => do
      let groups ← groups? true (colonPieces text)
      if groups.length = 8 then some groups else none
  | some (before, behind) => do
      let front ← groups? false (colonPieces before)
      let back ← groups? true (colonPieces behind)
      if front.length + back.length < 8 then
        some (front ++ List.replicate (8 - front.length - back.length) 0 ++ back)
      else none

private def bracketed? (text : List Char) : Option Host :=
  match Text.splitOn '%' text with
  | [groups] => (v6? groups).map fun groups => v6 groups 0
  | [groups, scope] => do
      let groups ← v6? groups
      let scope ← Text.below? 10 UInt32.size scope
      return v6 groups (UInt32.ofNat scope)
  | _ => none

end Host

namespace Address

def text (address : Address) : String :=
  address.host.text ++ ":" ++ toString address.port.toNat

private def port? (digits : List Char) : Option UInt16 :=
  (Text.below? 10 UInt16.size digits).map UInt16.ofNat

/-- Read the text form of an address. -/
def parse? (source : String) : Option Address :=
  match source.toList with
  | '[' :: rest =>
      let inside := rest.takeWhile (· != ']')
      match rest.dropWhile (· != ']') with
      | ']' :: ':' :: digits => do
          let host ← Host.bracketed? inside
          let port ← port? digits
          return ⟨host, port⟩
      | _ => none
  | chars =>
      match Text.splitOn ':' chars with
      | [host, digits] => do
          let (a, b, c, d) ← Host.v4? host
          let port ← port? digits
          return ⟨.v4 a b c d, port⟩
      | _ => none

/-- The endpoint as messages name it: its text if it can be connected to. -/
def describe : Option Address → String
  | some address =>
      if address.host.isUnspecified || address.port == 0 then "unknown" else address.text
  | none => "unknown"

/-- The name of the destination in messages. -/
def endpoint (address : Address) : String := describe (some address)

end Address

end RemoteCall
