import RemoteCall.Bytes
import RemoteCall.Double
import RemoteCall.Failure

/-!
# Scanning JSON text

Scanners work on the UTF-8 form of a text. Each takes something from the front and gives the rest,
or says why it cannot: the text is malformed there, or it ended too early.
-/
namespace RemoteCall.JsonText

abbrev Scanned (α : Type) := Except SettingsFault (α × Bytes)

def quote : UInt8 := 0x22

def backslash : UInt8 := 0x5c

def isBlank (b : UInt8) : Bool := b == 0x20 || b == 0x0a || b == 0x09 || b == 0x0d

def skipBlank (bytes : Bytes) : Bytes := bytes.dropWhile isBlank

def isDigit (b : UInt8) : Bool := 0x30 ≤ b && b ≤ 0x39

def digitValue (b : UInt8) : Nat := b.toNat - 48

/-- Take the bytes of a keyword. -/
def keyword : Bytes → Bytes → Except SettingsFault Bytes
  | [], bytes => .ok bytes
  | _ :: _, [] => .error .truncated
  | expected :: later, b :: rest => if b = expected then keyword later rest else .error .malformed

/-! ## Strings -/

def hexValue? (b : UInt8) : Option Nat :=
  if isDigit b then some (digitValue b)
  else if 0x61 ≤ b ∧ b ≤ 0x66 then some (b.toNat - 87)
  else if 0x41 ≤ b ∧ b ≤ 0x46 then some (b.toNat - 55)
  else none

/-- Take the four digits of a hexadecimal escape. -/
def takeHex : Bytes → Scanned Nat
  | a :: b :: c :: d :: rest =>
      match hexValue? a, hexValue? b, hexValue? c, hexValue? d with
      | some a, some b, some c, some d => .ok (((a * 16 + b) * 16 + c) * 16 + d, rest)
      | _, _, _, _ => .error .malformed
  | _ => .error .truncated

theorem takeHex_length {bytes rest : Bytes} {n : Nat} (h : takeHex bytes = .ok (n, rest)) :
    rest.length < bytes.length := by
  unfold takeHex at h
  split at h
  · split at h
    · simp only [Except.ok.injEq, Prod.mk.injEq] at h
      rw [← h.2]
      simp only [List.length_cons]
      omega
    · simp at h
  · simp at h

/-- The byte that a one-letter escape stands for. -/
def simpleEscape? (b : UInt8) : Option UInt8 :=
  if b = 0x22 ∨ b = 0x5c ∨ b = 0x2f then some b
  else if b = 0x62 then some 0x08
  else if b = 0x66 then some 0x0c
  else if b = 0x6e then some 0x0a
  else if b = 0x72 then some 0x0d
  else if b = 0x74 then some 0x09
  else none

def utf8 (codePoint : Nat) : Bytes := Bytes.ofText (String.singleton (Char.ofNat codePoint))

/-- The second half of a surrogate pair, which has to follow as another escape. -/
def takeLowSurrogate (high : Nat) (bytes : Bytes) : Scanned Bytes :=
  match bytes with
  | [] => .error .truncated
  | b :: rest =>
      if b ≠ backslash then .error .malformed
      else
        match rest with
        | [] => .error .truncated
        | u :: rest =>
            if u ≠ 0x75 then .error .malformed
            else
              match takeHex rest with
              | .error fault => .error fault
              | .ok (low, rest) =>
                  if low < 0xdc00 ∨ 0xdfff < low then .error .malformed
                  else .ok (utf8 ((high - 0xd800) * 1024 + (low - 0xdc00) + 0x10000), rest)

/-- What an escape stands for, given the text behind the backslash. Surrogates come in pairs. -/
def takeEscape (bytes : Bytes) : Scanned Bytes :=
  match bytes with
  | [] => .error .truncated
  | b :: rest =>
      match simpleEscape? b with
      | some c => .ok ([c], rest)
      | none =>
          if b ≠ 0x75 then .error .malformed
          else
            match takeHex rest with
            | .error fault => .error fault
            | .ok (n, rest) =>
                if 0xdc00 ≤ n ∧ n ≤ 0xdfff then .error .malformed
                else if 0xd800 ≤ n ∧ n ≤ 0xdbff then takeLowSurrogate n rest
                else .ok (utf8 n, rest)

/-- Pass over an escape without asking whether surrogates are paired. -/
def skipEscape (bytes : Bytes) : Except SettingsFault Bytes :=
  match bytes with
  | [] => .error .truncated
  | b :: rest =>
      if (simpleEscape? b).isSome then .ok rest
      else if b ≠ 0x75 then .error .malformed
      else (takeHex rest).map Prod.snd

theorem takeLowSurrogate_length {high : Nat} {bytes text rest : Bytes}
    (h : takeLowSurrogate high bytes = .ok (text, rest)) : rest.length < bytes.length := by
  unfold takeLowSurrogate at h
  repeat' split at h
  all_goals try simp at h
  rename_i _ _ _ _ _ _ _ _ later hhex _
  have := takeHex_length hhex
  rw [← h.2]
  simp only [List.length_cons]
  omega

theorem takeEscape_length {bytes text rest : Bytes} (h : takeEscape bytes = .ok (text, rest)) :
    rest.length < bytes.length := by
  unfold takeEscape at h
  repeat' split at h
  all_goals try simp at h
  · rw [← h.2]; simp
  · rename_i hhex _ _
    have := takeHex_length hhex
    have := takeLowSurrogate_length h
    simp only [List.length_cons]
    omega
  · rename_i hhex _ _
    have := takeHex_length hhex
    rw [← h.2]
    simp only [List.length_cons]
    omega

theorem skipEscape_length {bytes rest : Bytes} (h : skipEscape bytes = .ok rest) :
    rest.length < bytes.length := by
  unfold skipEscape at h
  split at h
  · simp at h
  · split at h
    · simp only [Except.ok.injEq] at h
      rw [← h]; simp
    · split at h
      · simp at h
      · cases hhex : takeHex _ with
        | error fault => rw [hhex] at h; simp [Except.map] at h
        | ok pair =>
          rw [hhex] at h
          obtain ⟨n, later⟩ := pair
          have := takeHex_length hhex
          simp only [Except.map, Except.ok.injEq] at h
          rw [← h]
          simp only [List.length_cons]
          omega

/-- The content of a string up to its closing quote, `done` being what came before in reverse. -/
def takeString (bytes done : Bytes) : Scanned Bytes :=
  match bytes with
  | [] => .error .truncated
  | b :: rest =>
      if b = quote then .ok (done.reverse, rest)
      else if b = backslash then
        match _h : takeEscape rest with
        | .error fault => .error fault
        | .ok (text, later) => takeString later (text.reverse ++ done)
      else if b < 0x20 then .error .malformed
      else takeString rest (b :: done)
termination_by bytes.length
decreasing_by
  · have := takeEscape_length _h
    simp only [List.length_cons]
    omega
  · simp

/-- Pass over a string up to its closing quote. -/
def skipString (bytes : Bytes) : Except SettingsFault Bytes :=
  match bytes with
  | [] => .error .truncated
  | b :: rest =>
      if b = quote then .ok rest
      else if b = backslash then
        match _h : skipEscape rest with
        | .error fault => .error fault
        | .ok later => skipString later
      else if b < 0x20 then .error .malformed
      else skipString rest
termination_by bytes.length
decreasing_by
  · have := skipEscape_length _h
    simp only [List.length_cons]
    omega
  · simp

/-! ## Numbers -/

/-- A number: a natural one that fits in 64 bits, or any other. -/
inductive Number where
  | natural (n : Nat)
  | other
  deriving DecidableEq, Repr

/-- Append digits to a number as long as it stays below `2 ^ 64`, and give the digits left. -/
def gather (n : Nat) : Bytes → Nat × Bytes
  | [] => (n, [])
  | d :: later =>
      let next := n * 10 + digitValue d
      if next < UInt64.size then gather next later else (n, d :: later)

/-- A significand times a power of ten is fine unless it is too large for a double. -/
def checkScaled (significand : Nat) (exponent : Int) : Except SettingsFault Unit :=
  if significand = 0 ∨ exponent < 0 then .ok ()
  else if 308 < exponent then .error .malformed
  else if Double.scaledOverflows significand exponent.toNat then .error .malformed
  else .ok ()

/-- The largest exponent that is kept exactly. -/
def exponentLimit : Nat := 2147483647

/-- The exponent behind its letter. -/
def takeExponent (significand : Nat) (start : Int) (bytes : Bytes) : Except SettingsFault Bytes := do
  let (positive, bytes) :=
    match bytes with
    | 0x2b :: rest => (true, rest)
    | 0x2d :: rest => (false, rest)
    | _ => (true, bytes)
  match bytes with
  | [] => .error .truncated
  | b :: _ =>
      if !isDigit b then .error .malformed
      else
        let digits := bytes.takeWhile isDigit
        let rest := bytes.dropWhile isDigit
        let exponent := digits.foldl (fun n d => n * 10 + digitValue d) 0
        if exponentLimit < exponent then
          if significand ≠ 0 ∧ positive then .error .malformed else .ok rest
        else
          checkScaled significand (if positive then start + exponent else start - exponent)
          return rest

/-- What may follow the digits of a number that is not whole: an exponent, or nothing. -/
def takeTail (significand : Nat) (exponent : Int) (bytes : Bytes) : Except SettingsFault Bytes :=
  match bytes with
  | b :: rest =>
      if b = 0x65 ∨ b = 0x45 then takeExponent significand exponent rest
      else (checkScaled significand exponent).map fun _ => bytes
  | [] => (checkScaled significand exponent).map fun _ => bytes

/-- The digits behind a decimal point. Digits that the significand cannot take are passed over. -/
def takeFraction (significand : Nat) (start : Int) (bytes : Bytes) : Except SettingsFault Bytes :=
  let digits := bytes.takeWhile isDigit
  let rest := bytes.dropWhile isDigit
  if digits.isEmpty then .error (if rest.isEmpty then .truncated else .malformed)
  else
    let (significand, left) := gather significand digits
    takeTail significand (start - (digits.length - left.length)) rest

/-- The number whose digits stand at the front. -/
def takeNumber (bytes : Bytes) : Scanned Number :=
  match bytes with
  | [] => .error .truncated
  | b :: later =>
      if !isDigit b then .error .malformed
      else
        let digits := if b = 0x30 then [b] else bytes.takeWhile isDigit
        let rest := if b = 0x30 then later else bytes.dropWhile isDigit
        let (significand, left) := gather 0 digits
        let other := Except.map fun rest => (Number.other, rest)
        match rest with
        | [] =>
            if left.isEmpty then .ok (.natural significand, rest)
            else other (takeTail significand left.length rest)
        | c :: after =>
            if b = 0x30 ∧ isDigit c then .error .malformed
            else if c = 0x2e then other (takeFraction significand left.length after)
            else if left.isEmpty ∧ c ≠ 0x65 ∧ c ≠ 0x45 then .ok (.natural significand, rest)
            else other (takeTail significand left.length rest)

/-- Pass over at least one digit; without one the text is malformed. -/
def skipDigits (bytes : Bytes) : Except SettingsFault Bytes :=
  match bytes with
  | [] => .error .malformed
  | b :: rest => if isDigit b then .ok (rest.dropWhile isDigit) else .error .malformed

def skipExponent (bytes : Bytes) : Except SettingsFault Bytes :=
  match bytes with
  | 0x2b :: rest => skipDigits rest
  | 0x2d :: rest => skipDigits rest
  | _ => skipDigits bytes

/-- Pass over an exponent if there is one. -/
def skipTail (bytes : Bytes) : Except SettingsFault Bytes :=
  match bytes with
  | b :: rest => if b = 0x65 ∨ b = 0x45 then skipExponent rest else .ok bytes
  | [] => .ok bytes

/-- Pass over a number. One that ends too early is malformed, and no number is too large. -/
def skipNumber (bytes : Bytes) : Except SettingsFault Bytes :=
  match bytes with
  | [] => .error .malformed
  | b :: later =>
      if !isDigit b then .error .malformed
      else
        match if b = 0x30 then later else later.dropWhile isDigit with
        | [] => .ok []
        | c :: rest =>
            if b = 0x30 ∧ isDigit c then .error .malformed
            else if c = 0x2e then (skipDigits rest).bind skipTail
            else skipTail (c :: rest)

/-! ## Values -/

/-- What encloses a value: a list or an object. -/
inductive Frame where
  | list
  | object
  deriving DecidableEq, Repr

def Frame.close : Frame → UInt8
  | list => 0x5d
  | object => 0x7d

/-- Pass over a value at the front that encloses no other, or open a frame. -/
def skipToken (bytes : Bytes) : Except SettingsFault (Option Frame × Bytes) :=
  let token := Except.map fun rest => ((none : Option Frame), rest)
  match bytes with
  | [] => .error .truncated
  | b :: rest =>
      if b = 0x6e then token (keyword [0x75, 0x6c, 0x6c] rest)
      else if b = 0x74 then token (keyword [0x72, 0x75, 0x65] rest)
      else if b = 0x66 then token (keyword [0x61, 0x6c, 0x73, 0x65] rest)
      else if b = 0x2d then token (skipNumber rest)
      else if isDigit b then token (skipNumber bytes)
      else if b = quote then token (skipString rest)
      else if b = 0x5b then .ok (some .list, rest)
      else if b = 0x7b then .ok (some .object, rest)
      else .error .malformed

/-- Close the frames that end here. The answer is the frames in which another value follows, and
none are left if the outermost has ended. A comma may come only after a value. -/
def closeFrames : List Frame → Bool → Bytes → Except SettingsFault (List Frame × Bytes)
  | [], _, bytes => .ok ([], bytes)
  | frame :: outer, afterValue, bytes =>
      match skipBlank bytes with
      | [] => .error .truncated
      | b :: rest =>
          if b = 0x2c ∧ afterValue then .ok (frame :: outer, rest)
          else if b = frame.close then closeFrames outer true rest
          else if afterValue then .error .malformed
          else .ok (frame :: outer, b :: rest)

/-- Pass over the key and the colon that an object has in front of every value. -/
def skipKey (bytes : Bytes) : Except SettingsFault Bytes :=
  match skipBlank bytes with
  | [] => .error .truncated
  | b :: rest =>
      if b ≠ quote then .error .malformed
      else
        match skipString rest with
        | .error fault => .error fault
        | .ok rest =>
            match skipBlank rest with
            | [] => .error .truncated
            | c :: rest => if c = 0x3a then .ok rest else .error .malformed

/-- Pass over a value inside `frames`, then over what follows until all frames are closed. Every
round takes a byte, so that `rounds` need not exceed their number. -/
def skipWithin : Nat → List Frame → Bytes → Except SettingsFault Bytes
  | 0, _, _ => .error .truncated
  | rounds + 1, frames, bytes =>
      match skipToken (skipBlank bytes) with
      | .error fault => .error fault
      | .ok (opened, rest) =>
          match closeFrames (opened.toList ++ frames) opened.isNone rest with
          | .error fault => .error fault
          | .ok ([], rest) => .ok rest
          | .ok (.list :: outer, rest) => skipWithin rounds (.list :: outer) rest
          | .ok (.object :: outer, rest) =>
              match skipKey rest with
              | .error fault => .error fault
              | .ok rest => skipWithin rounds (.object :: outer) rest

/-- Pass over a value. -/
def skipValue (bytes : Bytes) : Except SettingsFault Bytes :=
  skipWithin (bytes.length + 1) [] bytes

/-- What is wrong with a value that is not of the wanted type. A value that encloses others is
judged by its first byte. -/
def mismatch (bytes : Bytes) : SettingsFault :=
  let read := fun {α : Type} (scanned : Except SettingsFault α) =>
    match scanned with
    | .ok _ => SettingsFault.mistyped
    | .error fault => fault
  match bytes with
  | [] => .truncated
  | b :: rest =>
      if b = 0x6e then read (keyword [0x75, 0x6c, 0x6c] rest)
      else if b = 0x74 then read (keyword [0x72, 0x75, 0x65] rest)
      else if b = 0x66 then read (keyword [0x61, 0x6c, 0x73, 0x65] rest)
      else if b = 0x2d then read (takeNumber rest)
      else if isDigit b then read (takeNumber bytes)
      else if b = quote then read (takeString rest [])
      else if b = 0x5b ∨ b = 0x7b then .mistyped
      else .malformed

/-- A natural number below `bound`. -/
def takeNatural (bound : Nat) (bytes : Bytes) : Scanned Nat :=
  match bytes with
  | [] => .error .truncated
  | b :: _ =>
      if !isDigit b then .error (mismatch bytes)
      else
        match takeNumber bytes with
        | .error fault => .error fault
        | .ok (.natural n, rest) => if n < bound then .ok (n, rest) else .error .mistyped
        | .ok (.other, _) => .error .mistyped

def takeBool (bytes : Bytes) : Scanned Bool :=
  match bytes with
  | [] => .error .truncated
  | b :: rest =>
      if b = 0x74 then (keyword [0x72, 0x75, 0x65] rest).map fun rest => (true, rest)
      else if b = 0x66 then (keyword [0x61, 0x6c, 0x73, 0x65] rest).map fun rest => (false, rest)
      else .error (mismatch bytes)

end RemoteCall.JsonText
