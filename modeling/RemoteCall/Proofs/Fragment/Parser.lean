import RemoteCall.Fragment.Header
import Mathlib.Tactic

/-!
# The record grammar

A parser that has a stream before it all at once, as the reference for reassembly. A record is a
list of fragments, the last of which carries the flag; a fragment is a four-byte header and as many
bytes as it announces. Nothing follows a header that announces more than the limit.
-/
namespace RemoteCall.Fragment

/-- What stands at the start of a stream. -/
inductive Parsed where
  | record (bodies : List Bytes) (rest : Bytes)
  | overLimit (length : UInt32)
  | incomplete
  deriving DecidableEq, Repr

namespace Parsed

/-- Put the body of a fragment in front of a record. -/
def cons (body : Bytes) : Parsed → Parsed
  | record bodies rest => record (body :: bodies) rest
  | overLimit length => overLimit length
  | incomplete => incomplete

/-- Put several bodies in front of a record. -/
def prepend (bodies : List Bytes) (parsed : Parsed) : Parsed := bodies.foldr cons parsed

theorem exists_of_cons_eq_record {body rest : Bytes} {bodies : List Bytes} {parsed : Parsed}
    (h : parsed.cons body = record bodies rest) :
    ∃ later, parsed = record later rest ∧ bodies = body :: later := by
  cases parsed with
  | record later rest' =>
    cases h
    exact ⟨later, rfl, rfl⟩
  | overLimit length => cases h
  | incomplete => cases h

@[simp] theorem prepend_record (first bodies : List Bytes) (rest : Bytes) :
    (record bodies rest).prepend first = record (first ++ bodies) rest := by
  induction first with
  | nil => rfl
  | cons body later ih => rw [prepend, List.foldr_cons, ← prepend, ih, cons, List.cons_append]

@[simp] theorem prepend_overLimit (first : List Bytes) (length : UInt32) :
    (overLimit length).prepend first = overLimit length := by
  induction first with
  | nil => rfl
  | cons body later ih => rw [prepend, List.foldr_cons, ← prepend, ih, cons]

@[simp] theorem prepend_incomplete (first : List Bytes) :
    incomplete.prepend first = incomplete := by
  induction first with
  | nil => rfl
  | cons body later ih => rw [prepend, List.foldr_cons, ← prepend, ih, cons]

end Parsed

/-- Parse the record at the start of a stream. -/
def parseRecord (limit : UInt32) : Bytes → Parsed
  | a :: b :: c :: d :: rest =>
      let header := Header.ofWord (Bytes.toWord [a, b, c, d])
      if limit < header.length then .overLimit header.length
      else if rest.length < header.length.toNat then .incomplete
      else if header.isLast then
        .record [rest.take header.length.toNat] (rest.drop header.length.toNat)
      else
        (parseRecord limit (rest.drop header.length.toNat)).cons (rest.take header.length.toNat)
  | _ => .incomplete
termination_by stream => stream.length
decreasing_by
  simp only [List.length_drop, List.length_cons]
  omega

theorem parseRecord_of_short {limit : UInt32} {stream : Bytes}
    (h : stream.length < headerSize) : parseRecord limit stream = .incomplete := by
  match stream, h with
  | [], _ => rw [parseRecord]; simp
  | [a], _ => rw [parseRecord]; simp
  | [a, b], _ => rw [parseRecord]; simp
  | [a, b, c], _ => rw [parseRecord]; simp

section

variable {limit : UInt32} {header : Header} {body rest : Bytes}

theorem parseRecord_encode (fits : header.length ≤ longestBody) :
    parseRecord limit (header.encode ++ rest) =
      if limit < header.length then .overLimit header.length
      else if rest.length < header.length.toNat then .incomplete
      else if header.isLast then
        .record [rest.take header.length.toNat] (rest.drop header.length.toNat)
      else
        (parseRecord limit (rest.drop header.length.toNat)).cons
          (rest.take header.length.toNat) := by
  obtain ⟨a, b, c, d, four⟩ : ∃ a b c d, header.encode = [a, b, c, d] := ⟨_, _, _, _, rfl⟩
  have read : Header.ofWord (Bytes.toWord [a, b, c, d]) = header := by
    rw [← four, Header.encode, Bytes.toWord_ofWord, Header.ofWord_word header fits]
  rw [four]
  show parseRecord limit (a :: b :: c :: d :: rest) = _
  rw [parseRecord, read]

/-- A header that announces too much is refused before its body is there. -/
theorem parseRecord_of_overLimit (fits : header.length ≤ longestBody)
    (exceeds : limit < header.length) :
    parseRecord limit (header.encode ++ rest) = .overLimit header.length := by
  rw [parseRecord_encode fits, if_pos exceeds]

theorem parseRecord_of_partial (fits : header.length ≤ longestBody)
    (within : header.length ≤ limit) (short : rest.length < header.length.toNat) :
    parseRecord limit (header.encode ++ rest) = .incomplete := by
  rw [parseRecord_encode fits, if_neg (UInt32.not_lt.2 within), if_pos short]

/-- A fragment whose body is there. -/
theorem parseRecord_of_body (fits : header.length ≤ longestBody)
    (within : header.length ≤ limit) (full : body.length = header.length.toNat) :
    parseRecord limit (header.encode ++ (body ++ rest)) =
      if header.isLast then .record [body] rest else (parseRecord limit rest).cons body := by
  have there : ¬ (body ++ rest).length < header.length.toNat := by
    rw [List.length_append]
    omega
  rw [parseRecord_encode fits, if_neg (UInt32.not_lt.2 within), if_neg there, ← full,
    List.take_left, List.drop_left]

end

/-- A stream whose first fragment is there. -/
theorem stream_eq_encode {a b c d : UInt8} {tail : Bytes} {header : Header}
    (read : header = Header.ofWord (Bytes.toWord [a, b, c, d]))
    (full : ¬ tail.length < header.length.toNat) :
    a :: b :: c :: d :: tail = header.encode ++ tail.take header.length.toNat ++
        tail.drop header.length.toNat ∧
      (tail.take header.length.toNat).length = header.length.toNat ∧
      header.length ≤ longestBody := by
  have four : header.encode = [a, b, c, d] := by
    rw [read]
    exact Header.encode_ofWord_toWord _ rfl
  refine ⟨?_, ?_, ?_⟩
  · rw [four, List.append_assoc, List.take_append_drop]
    rfl
  · rw [List.length_take]
    omega
  · rw [read]
    exact Header.length_ofWord_le _

/-- A record that was parsed is all that stands before the rest. -/
theorem exists_of_parseRecord {limit : UInt32} {stream rest : Bytes} {bodies : List Bytes}
    (h : parseRecord limit stream = .record bodies rest) :
    ∃ wire, stream = wire ++ rest ∧ headerSize ≤ wire.length ∧
      ∀ more, parseRecord limit (wire ++ more) = .record bodies more := by
  fun_induction parseRecord limit stream generalizing bodies rest with
  | case1 a b c d tail header => cases h
  | case2 a b c d tail header within => cases h
  | case3 a b c d tail header within full =>
    rename_i last
    obtain ⟨split, length, fits⟩ := stream_eq_encode rfl full
    cases h
    refine ⟨_, split, ?_, fun more => ?_⟩
    · rw [List.length_append, Header.length_encode]
      exact Nat.le_add_right _ _
    · rw [List.append_assoc, parseRecord_of_body fits (UInt32.not_lt.1 within) length, if_pos last]
  | case4 a b c d tail header within full last =>
    rename_i ih
    obtain ⟨split, length, fits⟩ := stream_eq_encode rfl full
    obtain ⟨later, parsed, rfl⟩ := Parsed.exists_of_cons_eq_record h
    obtain ⟨wire, hwire, -, hparse⟩ := ih parsed
    rw [hwire, ← List.append_assoc] at split
    refine ⟨_, split, ?_, fun others => ?_⟩
    · rw [List.length_append, List.length_append, Header.length_encode, Nat.add_assoc]
      exact Nat.le_add_right _ _
    · rw [List.append_assoc, List.append_assoc,
        parseRecord_of_body fits (UInt32.not_lt.1 within) length, if_neg last, hparse]
      rfl
  | case5 stream short => cases h

theorem length_of_parseRecord {limit : UInt32} {stream rest : Bytes} {bodies : List Bytes}
    (h : parseRecord limit stream = .record bodies rest) : rest.length < stream.length := by
  obtain ⟨wire, rfl, hsize, -⟩ := exists_of_parseRecord h
  have : 0 < headerSize := by decide
  rw [List.length_append]
  omega

/-- All records of a stream, what follows them, and the length for which it is refused, if it is. -/
structure Parse where
  records : List (List Bytes)
  rest : Bytes
  refused : Option UInt32
  deriving DecidableEq, Repr

/-- Put records in front of others. -/
def Parse.prepend (records : List (List Bytes)) (parse : Parse) : Parse :=
  { parse with records := records ++ parse.records }

/-- Parse the records of a stream, as far as they are there and within the limit. -/
def parseStream (limit : UInt32) (stream : Bytes) : Parse :=
  match _h : parseRecord limit stream with
  | .record bodies rest => (parseStream limit rest).prepend [bodies]
  | .overLimit length => ⟨[], stream, some length⟩
  | .incomplete => ⟨[], stream, none⟩
termination_by stream.length
decreasing_by exact length_of_parseRecord _h

section

variable {limit : UInt32} {stream rest : Bytes} {bodies : List Bytes}

theorem parseStream_of_record (h : parseRecord limit stream = .record bodies rest) :
    parseStream limit stream = (parseStream limit rest).prepend [bodies] := by
  rw [parseStream]
  split
  · rename_i h'
    cases h.symm.trans h'
    rfl
  · rename_i h'
    cases h.symm.trans h'
  · rename_i h'
    cases h.symm.trans h'

theorem parseStream_of_overLimit {length : UInt32}
    (h : parseRecord limit stream = .overLimit length) :
    parseStream limit stream = ⟨[], stream, some length⟩ := by
  rw [parseStream]
  split
  · rename_i h'
    cases h.symm.trans h'
  · rename_i h'
    cases h.symm.trans h'
    rfl
  · rename_i h'
    cases h.symm.trans h'

theorem parseStream_of_incomplete (h : parseRecord limit stream = .incomplete) :
    parseStream limit stream = ⟨[], stream, none⟩ := by
  rw [parseStream]
  split
  · rename_i h'
    cases h.symm.trans h'
  · rename_i h'
    cases h.symm.trans h'
  · rfl

/-- What follows complete records is parsed for itself. -/
theorem parseStream_append {done : Bytes} {records : List (List Bytes)}
    (h : parseStream limit done = ⟨records, [], none⟩) (more : Bytes) :
    parseStream limit (done ++ more) = (parseStream limit more).prepend records := by
  induction records generalizing done with
  | nil =>
    cases parsed : parseRecord limit done with
    | record bodies rest =>
      rw [parseStream_of_record parsed] at h
      simp [Parse.prepend] at h
    | overLimit length =>
      rw [parseStream_of_overLimit parsed] at h
      simp at h
    | incomplete =>
      rw [parseStream_of_incomplete parsed] at h
      have empty : done = [] := congrArg Parse.rest h
      rw [empty]
      rfl
  | cons first later ih =>
    cases parsed : parseRecord limit done with
    | record bodies rest =>
      rw [parseStream_of_record parsed] at h
      simp only [Parse.prepend, List.singleton_append, Parse.mk.injEq, List.cons.injEq] at h
      obtain ⟨⟨rfl, records⟩, hrest, refused⟩ := h
      obtain ⟨wire, rfl, -, following⟩ := exists_of_parseRecord parsed
      have tail : parseStream limit rest = ⟨later, [], none⟩ := by
        rw [← records, ← hrest, ← refused]
      rw [List.append_assoc, parseStream_of_record (following (rest ++ more)), ih tail]
      rfl
    | overLimit length =>
      rw [parseStream_of_overLimit parsed] at h
      simp at h
    | incomplete =>
      rw [parseStream_of_incomplete parsed] at h
      simp at h

theorem parseStream_nil : parseStream limit [] = ⟨[], [], none⟩ :=
  parseStream_of_incomplete (parseRecord_of_short (by decide))

/-- One more complete record. -/
theorem parseStream_concat {done wire : Bytes} {records : List (List Bytes)}
    (h : parseStream limit done = ⟨records, [], none⟩)
    (one : ∀ more, parseRecord limit (wire ++ more) = .record bodies more) :
    parseStream limit (done ++ wire) = ⟨records ++ [bodies], [], none⟩ := by
  have alone : parseStream limit wire = ⟨[bodies], [], none⟩ := by
    have parsed := one []
    rw [List.append_nil] at parsed
    rw [parseStream_of_record parsed, parseStream_nil]
    rfl
  rw [parseStream_append h, alone]
  rfl

end

end RemoteCall.Fragment
