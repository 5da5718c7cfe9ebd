import RemoteCall.Settings
import RemoteCall.JsonText

/-!
# Reading settings from JSON

Settings are an object whose members may come in any order, or an array of values in field order;
what is missing keeps its default. A member that occurs twice is refused and an unknown one is
passed over. The fault that comes first in the text decides.
-/
namespace RemoteCall.Settings

open JsonText

/-- A field: its name and how its value is read into settings. -/
structure Field where
  name : String
  take : Settings → Bytes → Scanned Settings

private def takeWord64 (put : Settings → UInt64 → Settings) (settings : Settings) (bytes : Bytes) :
    Scanned Settings :=
  (takeNatural UInt64.size bytes).map fun (n, rest) => (put settings (UInt64.ofNat n), rest)

private def takeWord32 (put : Settings → UInt32 → Settings) (settings : Settings) (bytes : Bytes) :
    Scanned Settings :=
  (takeNatural UInt32.size bytes).map fun (n, rest) => (put settings (UInt32.ofNat n), rest)

private def takeFlag (put : Settings → Bool → Settings) (settings : Settings) (bytes : Bytes) :
    Scanned Settings :=
  (takeBool bytes).map fun (b, rest) => (put settings b, rest)

/-- The fields in their order. -/
def fields : List Field :=
  [⟨"request_timeout_ms", takeWord64 fun s n => { s with requestTimeoutMs := n }⟩,
    ⟨"connection_timeout_ms", takeWord64 fun s n => { s with connectionTimeoutMs := n }⟩,
    ⟨"tick_ms", takeWord64 fun s n => { s with tickMs := n }⟩,
    ⟨"max_reconnect_attempts", takeWord32 fun s n => { s with maxReconnectAttempts := n }⟩,
    ⟨"reconnect_backoff_ms", takeWord64 fun s n => { s with reconnectBackoffMs := n }⟩,
    ⟨"max_fragment_size", takeWord32 fun s n => { s with maxFragmentSize := n }⟩,
    ⟨"recv_buffer_size", takeWord32 fun s n => { s with recvBufferSize := n }⟩,
    ⟨"tcp_nodelay", takeFlag fun s b => { s with tcpNodelay := b }⟩,
    ⟨"enable_statistics", takeFlag fun s b => { s with enableStatistics := b }⟩]

/-- The colon behind a key. -/
def takeColon (bytes : Bytes) : Except SettingsFault Bytes :=
  match skipBlank bytes with
  | [] => .error .truncated
  | b :: rest => if b = 0x3a then .ok rest else .error .malformed

/-- Whether another member follows, and the text at its key, or behind the object. -/
def takeMemberStart (first : Bool) (bytes : Bytes) : Scanned Bool :=
  match skipBlank bytes with
  | [] => .error .truncated
  | b :: rest =>
      if b = 0x7d then .ok (false, rest)
      else if first then if b = quote then .ok (true, rest) else .error .malformed
      else if b ≠ 0x2c then .error .malformed
      else
        match skipBlank rest with
        | [] => .error .truncated
        | c :: rest => if c = quote then .ok (true, rest) else .error .malformed

/-- The value of the member named `key`, `seen` being the names already met. -/
def takeMember (key : String) (seen : List String) (settings : Settings) (bytes : Bytes) :
    Except SettingsFault (Settings × Bytes) :=
  match fields.find? (·.name == key) with
  | none => do
      let rest ← takeColon bytes
      let rest ← skipValue rest
      return (settings, rest)
  | some field =>
      if seen.contains key then .error .mistyped
      else do
        let rest ← takeColon bytes
        field.take settings (skipBlank rest)

/-- The members of an object. Every member takes a byte, so that `rounds` need not exceed the
number of bytes. -/
def takeMembers : Nat → Bool → List String → Settings → Bytes → Scanned Settings
  | 0, _, _, _, _ => .error .truncated
  | rounds + 1, first, seen, settings, bytes =>
      match takeMemberStart first bytes with
      | .error fault => .error fault
      | .ok (false, rest) => .ok (settings, rest)
      | .ok (true, rest) =>
          match takeString rest [] with
          | .error fault => .error fault
          | .ok (key, rest) =>
              let key := (Bytes.toText? key).getD ""
              match takeMember key seen settings rest with
              | .error fault => .error fault
              | .ok (settings, rest) => takeMembers rounds false (key :: seen) settings rest

/-- Whether another element follows, and the text at it, or at the bracket that ends the array. -/
def takeElementStart (first : Bool) (bytes : Bytes) : Scanned Bool :=
  match skipBlank bytes with
  | [] => .error .truncated
  | b :: rest =>
      if b = 0x5d then .ok (false, b :: rest)
      else if first then .ok (true, b :: rest)
      else if b ≠ 0x2c then .error .malformed
      else
        match skipBlank rest with
        | [] => .error .truncated
        | c :: rest => if c = 0x5d then .error .malformed else .ok (true, c :: rest)

/-- The elements of an array, one for each field until the array ends. -/
def takeElements : List Field → Bool → Settings → Bytes → Scanned Settings
  | [], _, settings, bytes => .ok (settings, bytes)
  | field :: later, first, settings, bytes =>
      match takeElementStart first bytes with
      | .error fault => .error fault
      | .ok (false, rest) => .ok (settings, rest)
      | .ok (true, rest) =>
          match field.take settings rest with
          | .error fault => .error fault
          | .ok (settings, rest) => takeElements later false settings rest

/-- The bracket that ends an array. -/
def takeArrayEnd (bytes : Bytes) : Except SettingsFault Bytes :=
  match skipBlank bytes with
  | [] => .error .truncated
  | b :: rest => if b = 0x5d then .ok rest else .error .malformed

/-- Settings at the front of a text. -/
def take (bytes : Bytes) : Except SettingsFault (Settings × Bytes) :=
  match skipBlank bytes with
  | [] => .error .truncated
  | b :: rest =>
      if b = 0x5b then do
        let (settings, rest) ← takeElements fields true {} rest
        let rest ← takeArrayEnd rest
        return (settings, rest)
      else if b = 0x7b then takeMembers (rest.length + 1) true [] {} rest
      else .error (mismatch (b :: rest))

/-- Read settings from a JSON text, which must hold nothing else. -/
def ofJson (text : String) : Except Failure Settings :=
  match take (Bytes.ofText text) with
  | .error fault => .error (.settings fault)
  | .ok (settings, rest) =>
      if (skipBlank rest).isEmpty then .ok settings else .error (.settings .malformed)

end RemoteCall.Settings
