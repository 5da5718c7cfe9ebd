import RemoteCall.CallHeader
import Mathlib.Tactic

/-!
# Call headers are read back

A reader that takes the record of a call apart word by word, as the reference for the encoding.
Byte strings are counted: a word gives the length, and zeros fill them up to whole words. What was
encoded is read back, absent credentials as an empty string of flavor zero, and what follows the
header is left as it is. Hence two calls with the same record are the same call.
-/
namespace RemoteCall

/-! ## The reader -/

/-- Take a word off the front. -/
def takeWord? (bytes : Bytes) : Option (UInt32 × Bytes) :=
  if bytes.length < 4 then none else some (Bytes.toWord (bytes.take 4), bytes.drop 4)

/-- A counted byte string and what fills it up. -/
structure CountedBytes where
  content : Bytes
  padding : Bytes
  deriving DecidableEq, Repr

/-- Take a counted byte string off the front. The padding is as long as it takes to come to a
multiple of four. -/
def takeCounted? (bytes : Bytes) : Option (CountedBytes × Bytes) := do
  let (length, bytes) ← takeWord? bytes
  let size := length.toNat
  let gap := (4 - size % 4) % 4
  if bytes.length < size + gap then none
  else
    return (⟨bytes.take size, (bytes.drop size).take gap⟩, bytes.drop (size + gap))

/-- What a reader finds in the record of a call. -/
structure CallRecord where
  xid : UInt32
  messageType : UInt32
  protocolVersion : UInt32
  program : UInt32
  version : UInt32
  procedure : UInt32
  flavor : UInt32
  credentials : CountedBytes
  verifierFlavor : UInt32
  verifier : CountedBytes
  payload : Bytes
  deriving DecidableEq, Repr

/-- Read the record of a call. -/
def CallRecord.read? (bytes : Bytes) : Option CallRecord := do
  let (xid, bytes) ← takeWord? bytes
  let (messageType, bytes) ← takeWord? bytes
  let (protocolVersion, bytes) ← takeWord? bytes
  let (program, bytes) ← takeWord? bytes
  let (version, bytes) ← takeWord? bytes
  let (procedure, bytes) ← takeWord? bytes
  let (flavor, bytes) ← takeWord? bytes
  let (credentials, bytes) ← takeCounted? bytes
  let (verifierFlavor, bytes) ← takeWord? bytes
  let (verifier, payload) ← takeCounted? bytes
  return { xid, messageType, protocolVersion, program, version, procedure, flavor, credentials,
           verifierFlavor, verifier, payload }

@[simp] theorem takeWord?_ofWord_append (word : UInt32) (rest : Bytes) :
    takeWord? (Bytes.ofWord word ++ rest) = some (word, rest) := by
  have there : ¬ (Bytes.ofWord word ++ rest).length < 4 := by simp
  have first : (Bytes.ofWord word ++ rest).take 4 = Bytes.ofWord word :=
    List.take_left' (Bytes.length_ofWord word)
  have later : (Bytes.ofWord word ++ rest).drop 4 = rest :=
    List.drop_left' (Bytes.length_ofWord word)
  rw [takeWord?, if_neg there, first, later, Bytes.toWord_ofWord]

/-- A byte string that was counted and filled up with as many bytes as are missing. -/
theorem takeCounted?_append {content padding : Bytes} (fits : content.length < UInt32.size)
    (gap : padding.length = (4 - content.length % 4) % 4) (rest : Bytes) :
    takeCounted? (Bytes.ofWord (UInt32.ofNat content.length) ++ (content ++ (padding ++ rest))) =
      some (⟨content, padding⟩, rest) := by
  have count : (UInt32.ofNat content.length).toNat = content.length :=
    UInt32.toNat_ofNat_of_lt' fits
  have there : ¬ (content ++ (padding ++ rest)).length < content.length + padding.length := by
    simp only [List.length_append]
    omega
  have after : (content ++ (padding ++ rest)).drop (content.length + padding.length) = rest := by
    rw [← List.append_assoc]
    exact List.drop_left' List.length_append
  unfold takeCounted?
  rw [takeWord?_ofWord_append]
  simp only [Option.bind_eq_bind, Option.bind_some, count, ← gap, if_neg there, after,
    List.take_left, List.drop_left]
  rfl

namespace CallHeader

/-! ## Sizes -/

/-- What is missing to whole words, in two ways. -/
theorem paddedSize_sub (size : Nat) : paddedSize size - size = (4 - size % 4) % 4 := by
  unfold paddedSize
  omega

theorem paddedSize_sub_lt (size : Nat) : paddedSize size - size < 4 := by
  rw [paddedSize_sub]
  exact Nat.mod_lt _ (by decide)

/-- A header is a whole number of words. -/
theorem dvd_encodedSize (credentials : Option Message) : 4 ∣ encodedSize credentials := by
  cases credentials with
  | none => exact Nat.dvd_of_mod_eq_zero rfl
  | some message => exact (Nat.dvd_add_right (by decide)).2 (Nat.dvd_mul_left 4 _)

/-- Rounding up in 64-bit words: three is added and the two lowest bits are cleared. -/
def paddedWord (size : UInt64) : UInt64 := (size + 3) &&& ~~~3

/-- The number of bytes of a header, counted in 64-bit words. -/
def encodedWord (credentials : Option Message) : UInt64 :=
  6 * 4 + 8 + (credentials.map fun message => paddedWord (UInt64.ofNat message.size)).getD 0 + 8

/-- Clearing the two lowest bits of a word rounds it down to a multiple of four. -/
theorem toNat_clear_low (word : UInt64) : (word &&& ~~~3).toNat = word.toNat / 4 * 4 := by
  have mask : (~~~3 : UInt64).toNat = 2 ^ 64 - (3 + 1) := by decide
  have shifted : word.toNat / 4 * 4 = word.toNat >>> 2 <<< 2 := by
    rw [Nat.shiftRight_eq_div_pow, Nat.shiftLeft_eq]
  rw [UInt64.toNat_and, mask, shifted]
  refine Nat.eq_of_testBit_eq fun bit => ?_
  have low : Nat.testBit 3 bit = decide (bit < 2) := Nat.testBit_two_pow_sub_one 2 bit
  rw [Nat.testBit_and, Nat.testBit_two_pow_sub_succ (by decide), low, Nat.testBit_shiftLeft,
    Nat.testBit_shiftRight]
  by_cases inside : bit < 2
  · simp [inside, Nat.not_le.2 inside]
  · have above : 2 ≤ bit := Nat.not_lt.1 inside
    by_cases high : bit < 64
    · simp [inside, above, high, Nat.add_sub_cancel' above]
    · have wide : word.toNat < 2 ^ bit :=
        word.toNat_lt.trans_le (Nat.pow_le_pow_right (by decide) (Nat.not_lt.1 high))
      simp [above, Nat.testBit_lt_two_pow wide, Nat.add_sub_cancel' above]

/-- Where adding three does not overflow the words give the padded size. -/
theorem toNat_paddedWord {size : Nat} (fits : size + 3 < UInt64.size) :
    (paddedWord (UInt64.ofNat size)).toNat = paddedSize size := by
  have exact : (UInt64.ofNat size + 3).toNat = size + 3 := by
    have own : (UInt64.ofNat size).toNat = size := UInt64.toNat_ofNat_of_lt' (by omega)
    rw [UInt64.toNat_add, own]
    exact Nat.mod_eq_of_lt fits
  rw [paddedWord, toNat_clear_low, exact, paddedSize]

/-- Where nothing overflows the words give the size of the header. -/
theorem toNat_encodedWord {credentials : Option Message}
    (fits : ∀ message ∈ credentials, message.size + 3 < UInt64.size)
    (total : encodedSize credentials < UInt64.size) :
    (encodedWord credentials).toNat = encodedSize credentials := by
  cases credentials with
  | none => rfl
  | some message =>
    have body : (paddedWord (UInt64.ofNat message.size)).toNat = paddedSize message.size :=
      toNat_paddedWord (fits message rfl)
    have total : 40 + paddedSize message.size < 2 ^ 64 := total
    show (6 * 4 + 8 + paddedWord (UInt64.ofNat message.size) + 8).toNat =
      40 + paddedSize message.size
    have fixed : (6 * 4 + 8 : UInt64).toNat = 32 := rfl
    have last : (8 : UInt64).toNat = 8 := rfl
    rw [UInt64.toNat_add, UInt64.toNat_add, fixed, body, last]
    omega

/-! ## What is encoded -/

/-- Absent credentials are written like an empty message of flavor zero. -/
theorem encodeCredentials_getD (credentials : Option Message) :
    encodeCredentials (some (credentials.getD .empty)) = encodeCredentials credentials := by
  cases credentials <;> rfl

theorem encodedSize_getD (credentials : Option Message) :
    encodedSize (some (credentials.getD .empty)) = encodedSize credentials := by
  cases credentials <;> rfl

/-- Absent credentials are as honest as an empty message. -/
theorem honest_getD {credentials : Option Message}
    (honest : ∀ message ∈ credentials, message.Honest) : (credentials.getD .empty).Honest := by
  cases credentials with
  | none => rfl
  | some message => exact honest message rfl

/-- The credentials as they follow the six words of a call. -/
def credentialBytes (message : Message) : Bytes :=
  Bytes.ofWord message.tag ++ Bytes.ofWord (UInt32.ofNat message.size) ++ message.bytes ++
    List.replicate (paddedSize message.size - message.size) 0

theorem encode_of_small (call : CallHeader) {credentials : Option Message}
    (small : (credentials.getD .empty).size < UInt32.size) :
    call.encode credentials = .ok (Bytes.ofWord call.xid ++ Bytes.ofWord callType ++
      Bytes.ofWord protocolVersion ++ Bytes.ofWord call.program ++ Bytes.ofWord call.version ++
      Bytes.ofWord call.procedure ++ credentialBytes (credentials.getD .empty) ++
      Bytes.ofWord noAuthentication ++ Bytes.ofWord 0) := by
  have written : encodeCredentials credentials =
      .ok (credentialBytes (credentials.getD .empty)) := by
    rw [← encodeCredentials_getD]
    exact if_neg (Nat.not_le.2 small)
  rw [encode, written]
  rfl

theorem encode_of_large (call : CallHeader) {credentials : Option Message}
    (large : UInt32.size ≤ (credentials.getD .empty).size) :
    call.encode credentials = .error (.requestTooLarge ("credentials of " ++
      toString (credentials.getD .empty).size ++ " bytes exceed the opaque length limit")) := by
  have refused := encodeCredentials_getD credentials
  rw [encodeCredentials, if_pos large] at refused
  rw [encode, ← refused]
  rfl

/-- The header of a call with honest credentials has the size that was computed for it. -/
theorem length_encode {call : CallHeader} {credentials : Option Message} {header : Bytes}
    (honest : (credentials.getD .empty).Honest)
    (encoded : call.encode credentials = .ok header) :
    header.length = encodedSize credentials := by
  by_cases small : (credentials.getD .empty).size < UInt32.size
  · rw [encode_of_small call small, Except.ok.injEq] at encoded
    have counted : (credentials.getD .empty).size = (credentials.getD .empty).bytes.length := honest
    have filled := le_paddedSize (credentials.getD .empty).size
    rw [← encoded, ← encodedSize_getD]
    simp only [credentialBytes, encodedSize, List.length_append, Bytes.length_ofWord,
      List.length_replicate]
    omega
  · rw [encode_of_large call (Nat.not_lt.1 small)] at encoded
    cases encoded

/-- What is read of a call: its words, the credentials filled up with zeros, an empty verifier, and
the payload that follows the header. -/
def asRead (call : CallHeader) (message : Message) (payload : Bytes) : CallRecord :=
  { xid := call.xid
    messageType := 0
    protocolVersion := 2
    program := call.program
    version := call.version
    procedure := call.procedure
    flavor := message.tag
    credentials := ⟨message.bytes, List.replicate (paddedSize message.size - message.size) 0⟩
    verifierFlavor := 0
    verifier := ⟨[], []⟩
    payload := payload }

/-- The reader finds what was encoded, whatever follows. -/
theorem read?_encode_append {call : CallHeader} {credentials : Option Message} {header : Bytes}
    (honest : (credentials.getD .empty).Honest)
    (encoded : call.encode credentials = .ok header) (payload : Bytes) :
    CallRecord.read? (header ++ payload) =
      some (call.asRead (credentials.getD .empty) payload) := by
  generalize counted : credentials.getD .empty = message at honest
  have size : message.size = message.bytes.length := honest
  by_cases small : message.size < UInt32.size
  · rw [encode_of_small call (by rw [counted]; exact small), counted, Except.ok.injEq] at encoded
    have body : takeCounted? (Bytes.ofWord (UInt32.ofNat message.size) ++ (message.bytes ++
        (List.replicate (paddedSize message.size - message.size) 0 ++
          (Bytes.ofWord noAuthentication ++ (Bytes.ofWord 0 ++ payload))))) =
        some (⟨message.bytes, List.replicate (paddedSize message.size - message.size) 0⟩,
          Bytes.ofWord noAuthentication ++ (Bytes.ofWord 0 ++ payload)) := by
      rw [size]
      refine takeCounted?_append (size ▸ small) ?_ _
      rw [List.length_replicate, paddedSize_sub]
    have verifier : takeCounted? (Bytes.ofWord 0 ++ payload) = some (⟨[], []⟩, payload) :=
      @takeCounted?_append [] [] (by decide) rfl payload
    rw [← encoded]
    simp only [credentialBytes, List.append_assoc, CallRecord.read?, takeWord?_ofWord_append, body,
      verifier, Option.bind_eq_bind, Option.bind_some]
    rfl
  · rw [encode_of_large call (by rw [counted]; exact Nat.not_lt.1 small)] at encoded
    cases encoded

/-- Two calls with the same record are the same, since the reader finds one call in it. -/
theorem encode_append_inj {call other : CallHeader} {credentials others : Option Message}
    {payload payload' header header' : Bytes} (honest : (credentials.getD .empty).Honest)
    (honest' : (others.getD .empty).Honest) (encoded : call.encode credentials = .ok header)
    (encoded' : other.encode others = .ok header') (same : header ++ payload = header' ++ payload') :
    other = call ∧ (others.getD .empty).tag = (credentials.getD .empty).tag ∧
      (others.getD .empty).bytes = (credentials.getD .empty).bytes ∧ payload' = payload := by
  have read := read?_encode_append honest encoded payload
  rw [same, read?_encode_append honest' encoded' payload', Option.some.injEq] at read
  obtain ⟨xid, -, -, program, version, procedure, tag, counted, -, -, rest⟩ :=
    (CallRecord.mk.injEq ..).mp read
  refine ⟨?_, tag, congrArg CountedBytes.content counted, rest⟩
  cases other
  cases call
  exact (CallHeader.mk.injEq ..).mpr ⟨xid, program, version, procedure⟩

/-- The header of a call, with absent credentials taken as an empty message of flavor zero. As long
as the credentials are below `2 ^ 32` bytes no size overflows 64 bits, the header is appended to
what the buffer holds, it has as many bytes as were computed for it, which are whole words, and a
reader of the header with any payload behind it finds the words of the call, the credentials with
less than four zeros to fill them up, no verifier, and that payload. Hence two calls with the same
record are the same. Longer credentials are refused, and the buffer stays as it was. -/
theorem call_header_reads_back (call : CallHeader) (credentials : Option Message)
    (honest : ∀ message ∈ credentials, message.Honest) (buffer payload : Bytes) :
    let message := credentials.getD .empty
    (message.size < 2 ^ 32 →
      message.size + 3 < 2 ^ 64 ∧ encodedSize credentials < 2 ^ 64 ∧
      (paddedWord (UInt64.ofNat message.size)).toNat = paddedSize message.size ∧
      (encodedWord credentials).toNat = encodedSize credentials ∧
      ∃ header gap, call.encodeOnto buffer credentials = (.ok (), buffer ++ header) ∧
        header.length = encodedSize credentials ∧ 4 ∣ header.length ∧ gap < 4 ∧
        CallRecord.read? (header ++ payload) = some
          { xid := call.xid, messageType := 0, protocolVersion := 2, program := call.program
            version := call.version, procedure := call.procedure, flavor := message.tag
            credentials := ⟨message.bytes, List.replicate gap 0⟩
            verifierFlavor := 0, verifier := ⟨[], []⟩, payload := payload }) ∧
    (2 ^ 32 ≤ message.size → call.encodeOnto buffer credentials = (.error (.requestTooLarge
      ("credentials of " ++ toString message.size ++ " bytes exceed the opaque length limit")),
        buffer)) ∧
    ∀ (other : CallHeader) (others : Option Message) (payload' header header' : Bytes),
      (∀ message ∈ others, message.Honest) → call.encode credentials = .ok header →
        other.encode others = .ok header' → header ++ payload = header' ++ payload' →
          other = call ∧ (others.getD .empty).tag = message.tag ∧
            (others.getD .empty).bytes = message.bytes ∧ payload' = payload := by
  intro message
  refine ⟨fun small => ?_, fun large => ?_, fun other others payload' header header' honest' =>
    encode_append_inj (honest_getD honest) (honest_getD honest')⟩
  · have small : message.size < UInt32.size := small
    have total : encodedSize credentials < 2 ^ 64 := by
      have filled := paddedSize_sub_lt message.size
      have size : encodedSize credentials = 40 + paddedSize message.size :=
        (encodedSize_getD credentials).symm
      have word : UInt32.size = 4294967296 := rfl
      omega
    have fits : message.size + 3 < UInt64.size := Nat.add_lt_add_right small 3 |>.trans (by decide)
    have encoded := encode_of_small call small
    refine ⟨fits, total, toNat_paddedWord fits, toNat_encodedWord (fun given mem => ?_) total,
      _, _, ?_, length_encode (honest_getD honest) encoded, ?_, paddedSize_sub_lt message.size,
      read?_encode_append (honest_getD honest) encoded payload⟩
    · cases mem
      exact fits
    · rw [encodeOnto, encoded]
    · rw [length_encode (honest_getD honest) encoded]
      exact dvd_encodedSize credentials
  · rw [encodeOnto, encode_of_large call large]

/-- A call with five bytes of credentials, three short of whole words, and a payload of one byte. -/
theorem call_header_reads_back_five_bytes :
    let credentials := some (Message.ofBytes [97, 98, 99, 100, 101] 9)
    ((∀ message ∈ credentials, message.Honest) ∧ 5 < 2 ^ 32) ∧
      ∃ header gap, (CallHeader.mk 1 2 3 4).encodeOnto [7] credentials = (.ok (), [7] ++ header) ∧
        header.length = 48 ∧ 4 ∣ header.length ∧ gap < 4 ∧
        (CallRecord.read? (header ++ [255])).map CallRecord.credentials =
          some ⟨[97, 98, 99, 100, 101], List.replicate gap 0⟩ := by
  intro credentials
  have honest : ∀ message ∈ credentials, message.Honest := by
    intro message mem
    rw [← Option.mem_some_iff.1 mem]
    exact Message.honest_ofBytes _ _
  obtain ⟨-, -, -, -, header, gap, encoded, length, whole, short, read⟩ :=
    (call_header_reads_back ⟨1, 2, 3, 4⟩ credentials honest [7] [255]).1 (by decide)
  exact ⟨⟨honest, by decide⟩, header, gap, encoded, length, whole, short, by rw [read]; rfl⟩

end CallHeader

end RemoteCall
