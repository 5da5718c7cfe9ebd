import RemoteCall.Fragment.Header

/-!
# Splitting a record into fragments

A record body is cut into pieces of at most the wanted length, all of that length but the last.
Each piece follows its header, and the last header carries the flag. An empty body is one empty
last fragment.
-/
namespace RemoteCall.Fragment

/-- The body in pieces of `size` bytes, in reverse order and before `done`; the piece that
comes first in the answer is the only one that may be shorter. -/
def piecesOnto (size : Nat) (body : Bytes) (done : List Bytes) : List Bytes :=
  if _h : 0 < size ∧ body.drop size ≠ [] then
    piecesOnto size (body.drop size) (body.take size :: done)
  else body :: done
termination_by body.length
decreasing_by
  have : ¬ body.length ≤ size := fun hle => _h.2 (List.drop_eq_nil_of_le hle)
  simp only [List.length_drop]
  omega

/-- The pieces of a body, in order. -/
def pieces (size : Nat) (body : Bytes) : List Bytes := (piecesOnto size body []).reverse

theorem flatten_piecesOnto (size : Nat) (body : Bytes) (done : List Bytes) :
    (piecesOnto size body done).reverse.flatten = done.reverse.flatten ++ body := by
  fun_induction piecesOnto size body done with
  | case1 body done h ih => simp [ih, List.flatten_append]
  | case2 body done h => simp [List.flatten_append]

/-- The pieces put together are the body. -/
@[simp] theorem flatten_pieces (size : Nat) (body : Bytes) : (pieces size body).flatten = body := by
  simp [pieces, flatten_piecesOnto]

/-- The length of a piece, within what a header can carry. -/
def pieceSize (wanted : Nat) : Nat := max 1 (min wanted longestBody.toNat)

theorem pieceSize_pos (wanted : Nat) : 0 < pieceSize wanted := Nat.le_max_left _ _

theorem pieceSize_le (wanted : Nat) : pieceSize wanted ≤ longestBody.toNat :=
  Nat.max_le.2 ⟨by decide, Nat.min_le_right _ _⟩

private def markedOnto (pieces : List Bytes) (isLast : Bool) (wire : Bytes) : Bytes :=
  match pieces with
  | [] => wire
  | piece :: earlier =>
      markedOnto earlier false
        ((Header.mk (UInt32.ofNat piece.length) isLast).encode ++ (piece ++ wire))

/-- The wire form of a record body, in fragments of at most `wanted` bytes. -/
def encode (body : Bytes) (wanted : Nat) : Bytes :=
  markedOnto (piecesOnto (pieceSize wanted) body []) true []

/-- A piece behind its header. -/
def mark (isLast : Bool) (piece : Bytes) : Bytes :=
  (Header.mk (UInt32.ofNat piece.length) isLast).encode ++ piece

private theorem markedOnto_false (pieces : List Bytes) (wire : Bytes) :
    markedOnto pieces false wire = pieces.reverse.flatMap (mark false) ++ wire := by
  induction pieces generalizing wire with
  | nil => rfl
  | cons piece earlier ih =>
    rw [markedOnto, ih, List.reverse_cons, List.flatMap_append, List.append_assoc]
    simp [mark]

/-- The wire form is that of the pieces one after the other, the last of them with the flag. -/
theorem encode_of_pieces {body last : Bytes} {wanted : Nat} {earlier : List Bytes}
    (h : pieces (pieceSize wanted) body = earlier ++ [last]) :
    encode body wanted = earlier.flatMap (mark false) ++ mark true last := by
  have onto : piecesOnto (pieceSize wanted) body [] = last :: earlier.reverse := by
    rw [← List.reverse_reverse (piecesOnto _ _ _)]
    show (pieces (pieceSize wanted) body).reverse = _
    rw [h, List.reverse_concat]
  rw [encode, onto, markedOnto, markedOnto_false, List.reverse_reverse, List.append_nil, mark]

end RemoteCall.Fragment
