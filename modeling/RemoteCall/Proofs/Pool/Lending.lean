import RemoteCall.BufferPool
import RemoteCall.Fragment.Assembler
import Mathlib.Tactic

/-!
# Lending of buffers

Whoever borrows from a pool holds a collection of buffers, told apart by their serial numbers. A
trade is any number of single loans and returns, where only what is held can be returned. It keeps
the counts of the pool in step with what is held. If no serial number stands for two buffers at
first, then it never does, so a buffer that is returned is held by nobody any more.
-/
namespace RemoteCall

theorem perm_cons_eraseP {α : Type} {p : α → Bool} {list : List α} {a : α}
    (found : list.find? p = some a) : list.Perm (a :: list.eraseP p) := by
  induction list with
  | nil => cases found
  | cons first later ih =>
    by_cases matching : p first = true
    · rw [List.find?_cons_of_pos matching] at found
      cases found
      rw [List.eraseP_cons_of_pos matching]
    · rw [List.find?_cons_of_neg matching] at found
      rw [List.eraseP_cons_of_neg matching]
      exact ((ih found).cons first).trans (.swap a first _)

/-- The serial numbers of buffers. -/
def serials (buffers : List Buffer) : Multiset Nat := ↑(buffers.map Buffer.serial)

@[simp] theorem serials_nil : serials [] = 0 := rfl

@[simp] theorem serials_cons (buffer : Buffer) (later : List Buffer) :
    serials (buffer :: later) = buffer.serial ::ₘ serials later := rfl

@[simp] theorem serials_append (first second : List Buffer) :
    serials (first ++ second) = serials first + serials second := by
  simp [serials]

@[simp] theorem serials_reverse (buffers : List Buffer) :
    serials buffers.reverse = serials buffers := by
  simp [serials]

@[simp] theorem card_serials (buffers : List Buffer) : (serials buffers).card = buffers.length := by
  simp [serials]

namespace BufferPool

/-- Loans and returns lead from a pool and what is held of it to another pool and what is held then.
`P` holds before each of them. -/
inductive TradedWhile (P : BufferPool → Multiset Nat → Prop) (pool : BufferPool)
    (held : Multiset Nat) : BufferPool → Multiset Nat → Prop where
  | refl : TradedWhile P pool held pool held
  | acquire {now : BufferPool} {holding : Multiset Nat}
      (earlier : TradedWhile P pool held now holding) (holds : P now holding) (size : Nat) :
      TradedWhile P pool held (now.acquire size).2 ((now.acquire size).1.serial ::ₘ holding)
  | release {now : BufferPool} {holding : Multiset Nat} (buffer : Buffer)
      (earlier : TradedWhile P pool held now (buffer.serial ::ₘ holding))
      (holds : P now (buffer.serial ::ₘ holding)) :
      TradedWhile P pool held (now.release buffer) holding

/-- Any loans and returns. -/
abbrev Traded : BufferPool → Multiset Nat → BufferPool → Multiset Nat → Prop :=
  TradedWhile fun _ _ => True

section

variable {P : BufferPool → Multiset Nat → Prop} {pool middle next : BufferPool}
  {held holding last : Multiset Nat}

theorem TradedWhile.trans (first : TradedWhile P pool held middle holding)
    (second : TradedWhile P middle holding next last) : TradedWhile P pool held next last := by
  induction second with
  | refl => exact first
  | acquire _ holds size ih => exact ih.acquire holds size
  | release buffer _ holds ih => exact ih.release buffer holds

/-- What somebody else holds does not matter. -/
theorem Traded.add (traded : Traded pool held next last) (others : Multiset Nat) :
    Traded pool (held + others) next (last + others) := by
  induction traded with
  | refl => exact .refl
  | acquire _ _ size ih =>
    rw [Multiset.cons_add]
    exact TradedWhile.acquire ih trivial size
  | release buffer _ _ ih =>
    rw [Multiset.cons_add] at ih
    exact TradedWhile.release buffer ih trivial

/-- Buffers that are held go back one by one. -/
theorem traded_releaseAll (pool : BufferPool) (buffers : List Buffer) (held : Multiset Nat) :
    Traded pool (serials buffers + held) (pool.releaseAll buffers) held := by
  induction buffers generalizing pool with
  | nil =>
    rw [serials_nil, zero_add]
    exact .refl
  | cons buffer later ih =>
    rw [serials_cons, Multiset.cons_add]
    have first : Traded pool (buffer.serial ::ₘ (serials later + held)) (pool.release buffer)
        (serials later + held) := TradedWhile.refl.release buffer trivial
    exact first.trans (ih (pool.release buffer))

/-- The counts of a pool move with what is held of it. -/
theorem Traded.balance (traded : Traded pool held next last) :
    next.acquired + pool.released + held.card = pool.acquired + next.released + last.card := by
  induction traded with
  | refl => rfl
  | acquire _ _ size ih =>
    rw [acquired_acquire, released_acquire, Multiset.card_cons]
    omega
  | release buffer _ _ ih =>
    rw [Multiset.card_cons] at ih
    rw [acquired_release, released_release]
    omega

end

/-! ## Each buffer in one place -/

/-- No serial number stands for two buffers among those held and those kept, nor for one that is
still to be made. -/
structure Sole (pool : BufferPool) (held : Multiset Nat) : Prop where
  nodup : (held + serials pool.free).Nodup
  made : ∀ serial ∈ held + serials pool.free, serial < pool.created

/-- A pool before anything is borrowed from it. -/
abbrev Tidy (pool : BufferPool) : Prop := pool.Sole 0

/-- A buffer that is held is not kept by the pool. -/
theorem Sole.not_mem_free {pool : BufferPool} {held : Multiset Nat} (h : pool.Sole held)
    {buffer : Buffer} (kept : buffer ∈ pool.free) : buffer.serial ∉ held := fun mem =>
  Multiset.disjoint_left.1 (Multiset.nodup_add.1 h.nodup).2.2 mem (List.mem_map_of_mem kept)

theorem serials_eq_of_find? {p : Buffer → Bool} {buffers : List Buffer} {buffer : Buffer}
    (found : buffers.find? p = some buffer) :
    serials buffers = buffer.serial ::ₘ serials (buffers.eraseP p) :=
  Multiset.coe_eq_coe.2 ((perm_cons_eraseP found).map Buffer.serial)

/-- The serial number of a buffer that is about to be made stands for no other buffer. -/
theorem Sole.make {pool : BufferPool} {held : Multiset Nat} (h : pool.Sole held) :
    Sole { pool with created := pool.created + 1 } (pool.created ::ₘ held) := by
  have new : pool.created ∉ held + serials pool.free := fun mem =>
    absurd (h.made _ mem) (lt_irrefl _)
  constructor
  · rw [Multiset.cons_add, Multiset.nodup_cons]
    exact ⟨new, h.nodup⟩
  · rw [Multiset.cons_add]
    intro serial mem
    rcases Multiset.mem_cons.1 mem with rfl | mem
    · exact Nat.lt_succ_self _
    · exact (h.made serial mem).trans (Nat.lt_succ_self _)

theorem Sole.acquire {pool : BufferPool} {held : Multiset Nat} (h : pool.Sole held) (size : Nat) :
    (pool.acquire size).2.Sole ((pool.acquire size).1.serial ::ₘ held) := by
  unfold BufferPool.acquire
  split
  · rename_i buffer found
    have same : buffer.serial ::ₘ held + serials (pool.free.eraseP (·.size == size)) =
        held + serials pool.free := by
      rw [serials_eq_of_find? found, Multiset.cons_add, Multiset.add_cons]
    exact ⟨by rw [same]; exact h.nodup, by rw [same]; exact h.made⟩
  · exact ⟨h.make.nodup, h.make.made⟩

theorem Sole.of_cons {pool : BufferPool} {serial : Nat} {held : Multiset Nat}
    (h : pool.Sole (serial ::ₘ held)) : pool.Sole held := by
  have nodup := h.nodup
  rw [Multiset.cons_add, Multiset.nodup_cons] at nodup
  refine ⟨nodup.2, fun serial mem => h.made serial ?_⟩
  rw [Multiset.cons_add]
  exact Multiset.mem_cons_of_mem mem

theorem Sole.release {pool : BufferPool} {held : Multiset Nat} {buffer : Buffer}
    (h : pool.Sole (buffer.serial ::ₘ held)) : (pool.release buffer).Sole held := by
  unfold BufferPool.release
  split
  · have same : held + serials (buffer :: pool.free) =
        buffer.serial ::ₘ held + serials pool.free := by
      rw [serials_cons, Multiset.cons_add, Multiset.add_cons]
    exact ⟨by rw [same]; exact h.nodup, by rw [same]; exact h.made⟩
  · exact ⟨h.of_cons.nodup, h.of_cons.made⟩

/-- Each buffer is in one place before every loan and every return, and in the end. -/
theorem Sole.traded {pool next : BufferPool} {held last : Multiset Nat} (h : pool.Sole held)
    (traded : Traded pool held next last) :
    TradedWhile Sole pool held next last ∧ next.Sole last := by
  induction traded with
  | refl => exact ⟨.refl, h⟩
  | acquire _ _ size ih => exact ⟨ih.1.acquire ih.2 size, ih.2.acquire size⟩
  | release buffer _ _ ih => exact ⟨ih.1.release buffer ih.2, ih.2.release⟩

end BufferPool

/-! ## Lending to an assembler -/

namespace Fragment

/-- The fragments that are handed out with a reading. -/
def Reading.lent : Reading → List Buffer
  | record fragments => fragments
  | _ => []

open BufferPool

namespace Assembler.Work

/-- The serial numbers of what the assembler holds. -/
def holding (work : Work) : Multiset Nat := serials work.assembler.held

/-- The fragments that are handed out with the answer to a step. -/
def lentWith (answer : Option Reading) : List Buffer := (answer.map Reading.lent).getD []

theorem held_of_header {assembler : Assembler} {header : Bytes}
    (phase : assembler.phase = .header header) : assembler.held = assembler.finished.reverse := by
  rw [held, arriving, phase]
  exact List.append_nil _

theorem held_of_body {assembler : Assembler} {arrival : Arrival}
    (phase : assembler.phase = .body arrival) :
    assembler.held = assembler.finished.reverse ++ [arrival.toBuffer] := by
  rw [held, arriving, phase]
  rfl

/-- A step that neither borrows nor hands out. -/
theorem traded_of_same {work next : Work} (pool : next.pool = work.pool)
    (same : next.holding = work.holding) :
    Traded work.pool work.holding next.pool (serials [] + next.holding) := by
  rw [pool, same, serials_nil, zero_add]
  exact .refl

/-- The buffer of a fragment is borrowed when its header is there. -/
theorem traded_openFragment {work : Work} {header : Bytes}
    (phase : work.assembler.phase = .header header) (bytes : Bytes) :
    Traded work.pool work.holding (work.openFragment bytes).2.pool
      (serials (lentWith (work.openFragment bytes).1) + (work.openFragment bytes).2.holding) := by
  unfold openFragment
  simp only
  split
  · exact traded_of_same rfl rfl
  · have borrowed : Traded work.pool work.holding _ _ :=
      TradedWhile.refl.acquire trivial
        (Header.ofWord (Bytes.toWord bytes)).length.toNat
    generalize work.pool.acquire (Header.ofWord (Bytes.toWord bytes)).length.toNat = lent
      at borrowed
    obtain ⟨buffer, pool⟩ := lent
    have after : (buffer.serial ::ₘ work.holding) = serials (lentWith none) +
        holding { work with
          assembler := { work.assembler with
            phase := .body (.start buffer (Header.ofWord (Bytes.toWord bytes)).isLast) }
          pool := pool } := by
      rw [holding, holding, held_of_header phase, held_of_body rfl, serials_append, serials_cons,
        Multiset.add_cons]
      exact (congrArg (buffer.serial ::ₘ ·) (add_zero _)).symm.trans (zero_add _).symm
    rw [after] at borrowed
    exact borrowed

theorem traded_fillHeader {work : Work} {header : Bytes}
    (phase : work.assembler.phase = .header header) :
    Traded work.pool work.holding (work.fillHeader header).2.pool
      (serials (lentWith (work.fillHeader header).1) + (work.fillHeader header).2.holding) := by
  unfold fillHeader
  split
  · rename_i bytes side _
    let filled : Work := { work with
      assembler := { work.assembler with
        phase := .header (header ++ bytes)
        received := work.assembler.received + bytes.length }
      side := side }
    have same : filled.holding = work.holding := by
      rw [holding, holding, held_of_header phase, held_of_header rfl]
    simp only
    split
    · exact traded_of_same rfl same
    · have phase : filled.assembler.phase = .header (header ++ bytes) := rfl
      have opened := traded_openFragment phase (header ++ bytes)
      rw [same] at opened
      exact opened
  · exact traded_of_same rfl rfl
  · exact traded_of_same rfl rfl
  · exact traded_of_same rfl rfl

/-- A fragment that is complete is kept, or handed out with those before it. -/
theorem traded_closeFragment {work : Work} {arrival : Arrival}
    (phase : work.assembler.phase = .body arrival) :
    Traded work.pool work.holding (work.closeFragment arrival).2.pool
      (serials (lentWith (work.closeFragment arrival).1) +
        (work.closeFragment arrival).2.holding) := by
  have before : work.holding = serials (arrival.toBuffer :: work.assembler.finished) := by
    rw [holding, held_of_body phase, serials_append, serials_reverse, add_comm]
    rfl
  unfold closeFragment
  simp only
  split
  · have handed : work.holding =
        serials (lentWith (some (.record (arrival.toBuffer :: work.assembler.finished).reverse))) +
          holding { work with
            assembler := { work.assembler with phase := .header [], finished := [] } } := by
      rw [before, holding, held_of_header rfl]
      exact (serials_reverse _).symm.trans (add_zero _).symm
    rw [handed]
    exact .refl
  · refine traded_of_same rfl ?_
    rw [before, holding, held_of_header rfl]
    exact serials_reverse _

theorem traded_fillBody {work : Work} {arrival : Arrival}
    (phase : work.assembler.phase = .body arrival) :
    Traded work.pool work.holding (work.fillBody arrival).2.pool
      (serials (lentWith (work.fillBody arrival).1) + (work.fillBody arrival).2.holding) := by
  unfold fillBody
  split
  · split
    · refine traded_of_same rfl ?_
      rw [holding, holding, held_of_body phase, held_of_body rfl, serials_append, serials_append]
      rfl
    · exact traded_of_same rfl rfl
    · exact traded_of_same rfl rfl
    · exact traded_of_same rfl rfl
  · exact traded_closeFragment phase

/-- What is held after a step was held before it, or was borrowed in it, but for what is handed
out. -/
theorem traded_step (work : Work) :
    Traded work.pool work.holding work.step.2.pool
      (serials (lentWith work.step.1) + work.step.2.holding) := by
  unfold step
  split
  · rename_i header phase
    exact traded_fillHeader phase
  · rename_i arrival phase
    exact traded_fillBody phase

/-- Reading until there is an answer borrows what the assembler holds then and what it has handed
out. -/
theorem traded_run (work : Work) :
    Traded work.pool work.holding work.run.2.pool
      (serials work.run.1.lent + work.run.2.holding) := by
  fun_induction run work with
  | case1 work reading next h =>
    have traded := work.traded_step
    rw [h] at traded
    exact traded
  | case2 work next h ih =>
    have traded := work.traded_step
    rw [h] at traded
    have first : Traded work.pool work.holding next.pool next.holding := by
      simpa [lentWith] using traded
    exact first.trans ih

end Assembler.Work

theorem Assembler.traded_of_read {assembler : Assembler} {pool : BufferPool} {side : Inbound}
    {reading : Reading} {work : Work} (read : assembler.read pool side = (reading, work)) :
    Traded pool (serials assembler.held) work.pool
      (serials reading.lent + serials work.assembler.held) := by
  have traded := Work.traded_run ⟨assembler, pool, side⟩
  rw [← Assembler.read, read] at traded
  exact traded

/-- Giving up the record under way gives back what is held of it. -/
theorem Assembler.traded_reset (assembler : Assembler) (pool : BufferPool)
    (others : Multiset Nat) :
    Traded pool (serials assembler.held + others) (assembler.reset pool).2 others :=
  traded_releaseAll pool assembler.held others

end Fragment

end RemoteCall
