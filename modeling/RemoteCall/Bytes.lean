/-!
# Byte strings and big-endian numbers

A number is written in a fixed number of bytes, most significant first. Writing drops what does
not fit, and reading back what was written gives the number modulo the width.
-/
namespace RemoteCall

abbrev Bytes := List UInt8

namespace Bytes

/-- How many numbers can be written in `width` bytes. -/
def capacity : Nat → Nat
  | 0 => 1
  | width + 1 => capacity width * 256

theorem capacity_pos (width : Nat) : 0 < capacity width := by
  induction width with
  | zero => exact Nat.one_pos
  | succ width ih => exact Nat.mul_pos ih (by decide)

/-- The low `width` bytes of `n`, most significant first. -/
def bigEndian : Nat → Nat → Bytes
  | 0, _ => []
  | width + 1, n => UInt8.ofNat (n / capacity width) :: bigEndian width n

/-- The number that a big-endian byte string denotes. -/
def value (bytes : Bytes) : Nat := bytes.foldl (fun n b => n * 256 + b.toNat) 0

@[simp] theorem length_bigEndian (width n : Nat) : (bigEndian width n).length = width := by
  induction width with
  | zero => rfl
  | succ width ih => simp [bigEndian, ih]

theorem foldl_value (bytes : Bytes) (start : Nat) :
    bytes.foldl (fun n b => n * 256 + b.toNat) start
      = start * capacity bytes.length + value bytes := by
  induction bytes generalizing start with
  | nil => simp [value, capacity]
  | cons b rest ih =>
    simp only [List.foldl_cons, value, List.length_cons]
    rw [ih, ih (0 * 256 + b.toNat), capacity]
    have : start * (capacity rest.length * 256) = start * 256 * capacity rest.length := by
      rw [Nat.mul_comm (capacity rest.length), Nat.mul_assoc]
    simp only [this, Nat.add_mul]
    omega

@[simp] theorem value_nil : value [] = 0 := rfl

theorem value_cons (b : UInt8) (rest : Bytes) :
    value (b :: rest) = b.toNat * capacity rest.length + value rest := by
  rw [value, List.foldl_cons, foldl_value]
  simp

theorem value_lt (bytes : Bytes) : value bytes < capacity bytes.length := by
  induction bytes with
  | nil => simp [capacity]
  | cons b rest ih =>
    have hb : b.toNat < 256 := b.toNat_lt
    rw [value_cons, List.length_cons, capacity, Nat.mul_comm _ 256]
    have : b.toNat * capacity rest.length ≤ 255 * capacity rest.length :=
      Nat.mul_le_mul_right _ (by omega)
    omega

/-- Reading back a written number gives it modulo the width. -/
@[simp] theorem value_bigEndian (width n : Nat) :
    value (bigEndian width n) = n % capacity width := by
  induction width with
  | zero => simp [bigEndian, capacity, Nat.mod_one]
  | succ width ih =>
    rw [bigEndian, value_cons, ih, length_bigEndian, capacity, Nat.mod_mul]
    simp only [UInt8.toNat_ofNat', Nat.reducePow]
    rw [Nat.mul_comm, Nat.add_comm]

/-- Only the number modulo the width is written. -/
theorem bigEndian_add_mul (width n k : Nat) :
    bigEndian width (n + k * capacity width) = bigEndian width n := by
  induction width generalizing k with
  | zero => rfl
  | succ width ih =>
    have hmul : k * capacity (width + 1) = k * 256 * capacity width := by
      rw [capacity, Nat.mul_comm (capacity width), Nat.mul_assoc]
    have hdiv : (n + k * 256 * capacity width) / capacity width = n / capacity width + k * 256 :=
      Nat.add_mul_div_right n (k * 256) (capacity_pos width)
    have hbyte : UInt8.ofNat (n / capacity width + k * 256) = UInt8.ofNat (n / capacity width) := by
      apply UInt8.toNat_inj.1
      simp only [UInt8.toNat_ofNat', Nat.reducePow]
      omega
    rw [bigEndian, bigEndian, hmul, hdiv, hbyte, ih (k * 256)]

/-- Bytes are written back from the number that they denote. -/
theorem bigEndian_value (bytes : Bytes) : bigEndian bytes.length (value bytes) = bytes := by
  induction bytes with
  | nil => rfl
  | cons b rest ih =>
    have hlt := value_lt rest
    have hdiv : (value rest + b.toNat * capacity rest.length) / capacity rest.length = b.toNat := by
      rw [Nat.add_mul_div_right _ _ (capacity_pos _), Nat.div_eq_of_lt hlt, Nat.zero_add]
    rw [value_cons, Nat.add_comm, List.length_cons, bigEndian, hdiv, bigEndian_add_mul, ih,
      UInt8.ofNat_toNat]

/-- The four bytes of a word. -/
def ofWord (word : UInt32) : Bytes := bigEndian 4 word.toNat

/-- The word that four bytes denote. -/
def toWord (bytes : Bytes) : UInt32 := UInt32.ofNat (value bytes)

@[simp] theorem length_ofWord (word : UInt32) : (ofWord word).length = 4 := by simp [ofWord]

@[simp] theorem toWord_ofWord (word : UInt32) : toWord (ofWord word) = word := by
  apply UInt32.toNat_inj.1
  have : word.toNat < 4294967296 := word.toNat_lt
  simp only [toWord, ofWord, value_bigEndian, capacity, UInt32.toNat_ofNat']
  omega

/-- Four bytes are the bytes of the word that they denote. -/
theorem ofWord_toWord (bytes : Bytes) (h : bytes.length = 4) : ofWord (toWord bytes) = bytes := by
  have hlt : value bytes < 4294967296 := by
    have hlt := value_lt bytes
    rw [h] at hlt
    exact hlt
  have hvalue : (toWord bytes).toNat = value bytes := by
    simp only [toWord, UInt32.toNat_ofNat']
    omega
  rw [ofWord, hvalue, ← h]
  exact bigEndian_value bytes

private def hexDigit (n : Nat) : Char :=
  if n < 10 then Char.ofNat (48 + n) else Char.ofNat (87 + n)

/-- Lower-case hexadecimal text, two digits a byte. -/
def hex (bytes : Bytes) : String :=
  bytes.foldl (fun text b => (text.push (hexDigit (b.toNat / 16))).push (hexDigit (b.toNat % 16))) ""

/-- The UTF-8 form of a text. -/
def ofText (text : String) : Bytes := text.toUTF8.data.toList

/-- The text whose UTF-8 form this is, if it is well-formed UTF-8. -/
def toText? (bytes : Bytes) : Option String := String.fromUTF8? ⟨bytes.toArray⟩

end Bytes

end RemoteCall
