import RemoteCall.Bytes
import RemoteCall.Failure

/-!
# Fragment headers

A record travels as fragments. Each is announced by one 32-bit word: the top bit marks the last
fragment of the record, the other 31 bits give the length of the body that follows.
-/
namespace RemoteCall.Fragment

/-- The number of bytes of a header on the wire. -/
def headerSize : Nat := 4

/-- The weight of the top bit, one more than the largest length. -/
def lastFlag : UInt32 := 0x80000000

/-- The largest length that a header can carry. -/
def longestBody : UInt32 := 0x7fffffff

/-- The largest fragment that is accepted unless the settings say otherwise: one gigabyte. -/
def defaultLimit : UInt32 := 1073741824

@[ext]
structure Header where
  length : UInt32
  isLast : Bool
  deriving DecidableEq, Repr

namespace Header

/-- The header of a body of `length` bytes, if the length fits in 31 bits. -/
def ofLength (length : UInt32) (isLast : Bool) : Except Failure Header :=
  if longestBody < length then
    .error (.invalidResponse
      ("fragment length " ++ toString length.toNat ++ " exceeds the 31-bit maximum"))
  else .ok ⟨length, isLast⟩

/-- The header of a record that is one fragment. -/
def single (length : UInt32) : Except Failure Header := ofLength length true

def word (header : Header) : UInt32 :=
  header.length % lastFlag + if header.isLast then lastFlag else 0

def ofWord (word : UInt32) : Header := ⟨word % lastFlag, decide (lastFlag ≤ word)⟩

def encode (header : Header) : Bytes := Bytes.ofWord header.word

/-- The header in the first four bytes; absent if there are fewer. -/
def decode? (bytes : Bytes) : Option Header :=
  if bytes.length < headerSize then none
  else some (ofWord (Bytes.toWord (bytes.take headerSize)))

@[simp] theorem length_encode (header : Header) : header.encode.length = headerSize := by
  simp [encode, headerSize]

theorem toNat_word (header : Header) :
    header.word.toNat = header.length.toNat % 2147483648 + if header.isLast then 2147483648 else 0 := by
  obtain ⟨length, isLast⟩ := header
  cases isLast <;>
    simp only [word, lastFlag, UInt32.toNat_add, UInt32.toNat_mod, UInt32.reduceToNat,
      Bool.false_eq_true, if_true, if_false] <;> omega

theorem toNat_length_ofWord (word : UInt32) :
    (ofWord word).length.toNat = word.toNat % 2147483648 := by
  simp only [ofWord, lastFlag, UInt32.toNat_mod, UInt32.reduceToNat]

theorem isLast_ofWord (word : UInt32) :
    (ofWord word).isLast = decide (2147483648 ≤ word.toNat) := by
  simp only [ofWord, lastFlag, UInt32.le_iff_toNat_le, UInt32.reduceToNat]

/-- Every header is read back from its word if its length fits in 31 bits. -/
theorem ofWord_word (header : Header) (h : header.length ≤ longestBody) :
    ofWord header.word = header := by
  have hl : header.length.toNat ≤ 2147483647 := h
  have hw := header.toNat_word
  have hlength : (ofWord header.word).length = header.length := by
    apply UInt32.toNat_inj.1
    rw [toNat_length_ofWord, hw]
    split <;> omega
  have hlast : (ofWord header.word).isLast = header.isLast := by
    rw [isLast_ofWord, hw]
    cases header.isLast with
    | false => exact decide_eq_false (by rw [if_neg Bool.false_ne_true]; omega)
    | true => exact decide_eq_true (by rw [if_pos rfl]; omega)
  exact Header.ext hlength hlast

/-- Every word is the word of the header read from it. -/
theorem word_ofWord (word : UInt32) : (ofWord word).word = word := by
  have hw : word.toNat < 4294967296 := word.toNat_lt
  apply UInt32.toNat_inj.1
  rw [toNat_word, toNat_length_ofWord, isLast_ofWord]
  by_cases hlast : 2147483648 ≤ word.toNat
  · rw [decide_eq_true hlast, if_pos rfl]
    omega
  · rw [decide_eq_false hlast, if_neg Bool.false_ne_true]
    omega

/-- A header that was read has a length that fits in 31 bits. -/
theorem length_ofWord_le (word : UInt32) : (ofWord word).length ≤ longestBody := by
  have h := toNat_length_ofWord word
  show (ofWord word).length.toNat ≤ 2147483647
  omega

/-- Four bytes are the header read from them. -/
theorem encode_ofWord_toWord (bytes : Bytes) (h : bytes.length = headerSize) :
    (ofWord (Bytes.toWord bytes)).encode = bytes := by
  rw [encode, word_ofWord]
  exact Bytes.ofWord_toWord bytes h

/-- What is said of a body longer than the receiver accepts. -/
def overLimit (length limit : UInt32) : Failure :=
  .invalidResponse
    ("fragment size " ++ toString length.toNat ++ " exceeds maximum " ++ toString limit.toNat)

def checkLimit (header : Header) (limit : UInt32) : Except Failure Unit :=
  if limit < header.length then .error (overLimit header.length limit) else .ok ()

end Header

end RemoteCall.Fragment
