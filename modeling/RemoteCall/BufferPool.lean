import RemoteCall.Bytes

/-!
# Pool of fragment buffers

The pool lends buffers of an exact size and keeps returned ones for the next borrower of that size,
the most recently returned first. It keeps a bounded number of each size, none that is empty and
none above a largest size. A buffer has a serial number for as long as it exists, and the pool
counts the buffers that were asked for and the buffers that were given back.
-/
namespace RemoteCall

/-- A buffer of `size` bytes: those in `stored`, then zeros. -/
structure Buffer where
  serial : Nat
  size : Nat
  stored : Bytes
  deriving DecidableEq, Repr

namespace Buffer

def bytes (buffer : Buffer) : Bytes :=
  buffer.stored.take buffer.size ++ List.replicate (buffer.size - buffer.stored.length) 0

@[simp] theorem length_bytes (buffer : Buffer) : buffer.bytes.length = buffer.size := by
  simp only [bytes, List.length_append, List.length_take, List.length_replicate]
  omega

/-- Put `new` over the first bytes; what does not fit is dropped. -/
def write (buffer : Buffer) (new : Bytes) : Buffer :=
  { buffer with stored := (new ++ buffer.stored.drop new.length).take buffer.size }

@[simp] theorem size_write (buffer : Buffer) (new : Bytes) : (buffer.write new).size = buffer.size :=
  rfl

/-- A buffer that is written all over holds what was written, whatever it held before. -/
theorem bytes_write (buffer : Buffer) (new : Bytes) (h : new.length = buffer.size) :
    (buffer.write new).bytes = new := by
  have stored : (buffer.write new).stored = new := by
    rw [write, ← h]
    exact List.take_left
  rw [bytes, stored, size_write, ← h, List.take_length, Nat.sub_self, List.replicate_zero,
    List.append_nil]

def debugText (buffer : Buffer) : String :=
  "PooledBuffer \x7b len: " ++ toString buffer.size ++ " \x7d"

end Buffer

structure BufferPool where
  maxPerClass : Nat := 16
  maxPooledSize : Nat := 1048576
  free : List Buffer := []
  acquired : Nat := 0
  released : Nat := 0
  created : Nat := 0
  deriving Repr

namespace BufferPool

/-- The kept buffers of one size, most recently returned first. -/
def freeOf (pool : BufferPool) (size : Nat) : List Buffer := pool.free.filter (·.size == size)

def pooledCount (pool : BufferPool) : Nat := pool.free.length

/-- Lend a buffer of exactly `size` bytes: a kept one, or else a new one of zeros. -/
def acquire (pool : BufferPool) (size : Nat) : Buffer × BufferPool :=
  match pool.free.find? (·.size == size) with
  | some buffer =>
      (buffer, { pool with free := pool.free.eraseP (·.size == size), acquired := pool.acquired + 1 })
  | none =>
      (⟨pool.created, size, []⟩,
        { pool with acquired := pool.acquired + 1, created := pool.created + 1 })

/-- Lend a buffer for each of several contents, filled with it. -/
def acquireFilled (pool : BufferPool) : List Bytes → List Buffer × BufferPool
  | [] => ([], pool)
  | content :: later =>
      let (buffer, pool) := pool.acquire content.length
      let (buffers, pool) := pool.acquireFilled later
      (buffer.write content :: buffers, pool)

/-- Whether a buffer of this size would be kept. -/
def hasRoom (pool : BufferPool) (size : Nat) : Bool :=
  size != 0 && size ≤ pool.maxPooledSize && (pool.freeOf size).length < pool.maxPerClass

/-- Take a buffer back, keeping it if there is room for its size. -/
def release (pool : BufferPool) (buffer : Buffer) : BufferPool :=
  if pool.hasRoom buffer.size then
    { pool with free := buffer :: pool.free, released := pool.released + 1 }
  else { pool with released := pool.released + 1 }

def releaseAll (pool : BufferPool) (buffers : List Buffer) : BufferPool :=
  buffers.foldl release pool

/-- Take in a buffer that was not lent by this pool. -/
def donate (pool : BufferPool) (size : Nat) : BufferPool :=
  release { pool with created := pool.created + 1 } ⟨pool.created, size, []⟩

@[simp] theorem size_acquire (pool : BufferPool) (size : Nat) : (pool.acquire size).1.size = size := by
  unfold acquire
  split
  · rename_i buffer h
    simpa using List.find?_some h
  · rfl

@[simp] theorem acquired_acquire (pool : BufferPool) (size : Nat) :
    (pool.acquire size).2.acquired = pool.acquired + 1 := by
  unfold acquire; split <;> rfl

@[simp] theorem released_acquire (pool : BufferPool) (size : Nat) :
    (pool.acquire size).2.released = pool.released := by
  unfold acquire; split <;> rfl

@[simp] theorem acquired_release (pool : BufferPool) (buffer : Buffer) :
    (pool.release buffer).acquired = pool.acquired := by
  unfold release; split <;> rfl

@[simp] theorem released_release (pool : BufferPool) (buffer : Buffer) :
    (pool.release buffer).released = pool.released + 1 := by
  unfold release; split <;> rfl

@[simp] theorem acquired_releaseAll (pool : BufferPool) (buffers : List Buffer) :
    (pool.releaseAll buffers).acquired = pool.acquired := by
  induction buffers generalizing pool with
  | nil => rfl
  | cons b rest ih => rw [releaseAll, List.foldl_cons]; exact (ih _).trans (by simp)

@[simp] theorem released_releaseAll (pool : BufferPool) (buffers : List Buffer) :
    (pool.releaseAll buffers).released = pool.released + buffers.length := by
  induction buffers generalizing pool with
  | nil => rfl
  | cons b rest ih =>
    rw [releaseAll, List.foldl_cons]
    refine (ih _).trans ?_
    simp only [released_release, List.length_cons]
    omega

def debugText (pool : BufferPool) : String :=
  "SizeClassPool \x7b pooled: " ++ toString pool.pooledCount ++ ", max_per_class: "
    ++ toString pool.maxPerClass ++ " \x7d"

end BufferPool

end RemoteCall
