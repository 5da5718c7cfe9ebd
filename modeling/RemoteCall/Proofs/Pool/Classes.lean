import RemoteCall.Proofs.Pool.Lending

/-!
# Size classes

The pool keeps all its buffers in one list. It comes to the same as a shelf for each size: a
borrower gets whatever lies on top of the shelf of the size that he asks for, and a buffer goes back
on the shelf of its own size. Below, buffers are borrowed, written over and returned in any order,
and buffers from elsewhere are given to the pool. Then each shelf has buffers of one size only, the
latest return on top, and never more than the limits allow.
-/
namespace RemoteCall

/-- Buffers on one shelf for each size, listed from the top. -/
abbrev Shelves := Nat → List Buffer

namespace Shelves

/-- Take what lies on top, whatever it is. -/
def take (shelves : Shelves) (size : Nat) : Option Buffer × Shelves :=
  match shelves size with
  | [] => (none, shelves)
  | top :: below => (some top, Function.update shelves size below)

/-- Put a buffer on the shelf of its size, unless it is empty, too large or one too many. -/
def put (shelves : Shelves) (maxPerClass maxPooledSize : Nat) (buffer : Buffer) : Shelves :=
  if buffer.size = 0 ∨ maxPooledSize < buffer.size then shelves
  else if (shelves buffer.size).length < maxPerClass then
    Function.update shelves buffer.size (buffer :: shelves buffer.size)
  else shelves

end Shelves

theorem filter_eraseP_self {α : Type} (p : α → Bool) (list : List α) :
    (list.eraseP p).filter p = (list.filter p).tail := by
  induction list with
  | nil => rfl
  | cons first later ih =>
    by_cases matching : p first = true
    · rw [List.eraseP_cons_of_pos matching, List.filter_cons_of_pos matching, List.tail_cons]
    · rw [List.eraseP_cons_of_neg matching, List.filter_cons_of_neg matching,
        List.filter_cons_of_neg matching, ih]

theorem filter_eraseP_of_disjoint {α : Type} {p q : α → Bool} (apart : ∀ a, p a → q a = false)
    (list : List α) : (list.eraseP p).filter q = list.filter q := by
  induction list with
  | nil => rfl
  | cons first later ih =>
    by_cases matching : p first = true
    · rw [List.eraseP_cons_of_pos matching,
        List.filter_cons_of_neg (ne_true_of_eq_false (apart first matching))]
    · rw [List.eraseP_cons_of_neg matching, List.filter_cons, List.filter_cons, ih]

theorem serials_modify (buffers : List Buffer) (place : Nat) {change : Buffer → Buffer}
    (same : ∀ buffer, (change buffer).serial = buffer.serial) :
    serials (buffers.modify place change) = serials buffers := by
  refine congrArg Multiset.ofList (List.ext_getElem? fun other => ?_)
  rw [List.getElem?_map, List.getElem?_map, List.getElem?_modify]
  cases buffers[other]? with
  | none => rfl
  | some buffer =>
    split
    · exact congrArg some (same buffer)
    · rfl

theorem serials_eq_of_getElem? {buffers : List Buffer} {place : Nat} {buffer : Buffer}
    (found : buffers[place]? = some buffer) :
    serials buffers = buffer.serial ::ₘ serials (buffers.eraseIdx place) := by
  obtain ⟨within, rfl⟩ := List.getElem?_eq_some_iff.1 found
  exact Multiset.coe_eq_coe.2 ((List.getElem_cons_eraseIdx_perm within).symm.map Buffer.serial)

namespace BufferPool

variable (pool : BufferPool) (size : Nat) (buffer : Buffer)

theorem free_acquire : (pool.acquire size).2.free = pool.free.eraseP (·.size == size) := by
  unfold acquire
  split
  · rfl
  · rename_i none
    exact (List.eraseP_of_forall_not (List.find?_eq_none.1 none)).symm

theorem fst_acquire :
    (pool.acquire size).1 = (pool.freeOf size).head?.getD ⟨pool.created, size, []⟩ := by
  rw [freeOf, List.head?_filter]
  unfold acquire
  split
  · rename_i found
    rw [found]
    rfl
  · rename_i none
    rw [none]
    rfl

theorem free_release :
    (pool.release buffer).free =
      if pool.hasRoom buffer.size then buffer :: pool.free else pool.free := by
  unfold release
  split <;> rfl

theorem mem_free_release {pool : BufferPool} {buffer other : Buffer}
    (kept : other ∈ (pool.release buffer).free) :
    (other = buffer ∧ pool.hasRoom buffer.size) ∨ other ∈ pool.free := by
  rw [free_release] at kept
  split at kept
  · rename_i room
    exact (List.mem_cons.1 kept).imp (fun same => ⟨same, room⟩) id
  · exact .inr kept

theorem limits_acquire :
    (pool.acquire size).2.maxPerClass = pool.maxPerClass ∧
      (pool.acquire size).2.maxPooledSize = pool.maxPooledSize := by
  unfold acquire
  split <;> exact ⟨rfl, rfl⟩

theorem limits_release :
    (pool.release buffer).maxPerClass = pool.maxPerClass ∧
      (pool.release buffer).maxPooledSize = pool.maxPooledSize := by
  unfold release
  split <;> exact ⟨rfl, rfl⟩

theorem hasRoom_iff :
    pool.hasRoom size = true ↔
      0 < size ∧ size ≤ pool.maxPooledSize ∧ (pool.freeOf size).length < pool.maxPerClass := by
  simp [hasRoom, Nat.pos_iff_ne_zero, and_assoc]

theorem size_of_mem_freeOf {pool : BufferPool} {size : Nat} {buffer : Buffer}
    (kept : buffer ∈ pool.freeOf size) : buffer.size = size := by
  simpa using (List.mem_filter.1 kept).2

theorem mem_free_of_mem_freeOf {pool : BufferPool} {size : Nat} {buffer : Buffer}
    (kept : buffer ∈ pool.freeOf size) : buffer ∈ pool.free :=
  (List.mem_filter.1 kept).1

/-- A loan takes the top off one shelf. -/
theorem freeOf_acquire :
    (pool.acquire size).2.freeOf = Function.update pool.freeOf size (pool.freeOf size).tail := by
  funext other
  rw [freeOf, free_acquire]
  by_cases same : other = size
  · rw [same, Function.update_self]
    exact filter_eraseP_self _ _
  · rw [Function.update_of_ne same]
    refine filter_eraseP_of_disjoint (fun kept matching => ?_) _
    rw [beq_iff_eq] at matching
    rw [matching]
    exact beq_false_of_ne (Ne.symm same)

/-- A return puts the buffer on the stack of its size or leaves all shelves alone. -/
theorem freeOf_release :
    (pool.release buffer).freeOf =
      if pool.hasRoom buffer.size then
        Function.update pool.freeOf buffer.size (buffer :: pool.freeOf buffer.size)
      else pool.freeOf := by
  funext other
  rw [freeOf, free_release]
  split
  · by_cases same : other = buffer.size
    · rw [same, Function.update_self]
      exact List.filter_cons_of_pos (beq_self_eq_true _)
    · rw [Function.update_of_ne same]
      refine List.filter_cons_of_neg ?_
      simpa using Ne.symm same
  · rfl

theorem length_freeOf_release_le (bounded : ∀ size, (pool.freeOf size).length ≤ pool.maxPerClass) :
    ((pool.release buffer).freeOf size).length ≤ pool.maxPerClass := by
  rw [freeOf_release]
  split
  · rename_i room
    obtain ⟨-, -, few⟩ := (pool.hasRoom_iff buffer.size).1 room
    by_cases same : size = buffer.size
    · rw [same, Function.update_self]
      exact few
    · rw [Function.update_of_ne same]
      exact bounded size
  · exact bounded size

theorem take_freeOf :
    Shelves.take pool.freeOf size = ((pool.freeOf size).head?, (pool.acquire size).2.freeOf) := by
  rw [freeOf_acquire]
  unfold Shelves.take
  split
  · rename_i empty
    have same : Function.update pool.freeOf size [] = pool.freeOf := by
      rw [← empty, Function.update_eq_self]
    rw [empty, List.tail_nil, same]
    rfl
  · rename_i top below found
    rw [found]
    rfl

theorem put_freeOf :
    Shelves.put pool.freeOf pool.maxPerClass pool.maxPooledSize buffer =
      (pool.release buffer).freeOf := by
  rw [freeOf_release]
  have room := pool.hasRoom_iff buffer.size
  unfold Shelves.put
  split
  · rename_i outside
    rw [if_neg]
    rw [room]
    omega
  · rename_i inside
    split
    · rename_i few
      rw [if_pos]
      rw [room]
      omega
    · rename_i full
      rw [if_neg]
      rw [room]
      omega

/-- There is one buffer less after a loan that came off a shelf. -/
theorem pooledCount_acquire :
    (pool.acquire size).2.pooledCount + (pool.freeOf size).head?.toList.length =
      pool.pooledCount := by
  rw [pooledCount, pooledCount, free_acquire, freeOf, List.head?_filter]
  cases found : pool.free.find? (·.size == size) with
  | none =>
    rw [List.eraseP_of_forall_not (List.find?_eq_none.1 found), Option.toList_none, List.length_nil,
      Nat.add_zero]
  | some buffer =>
    rw [(perm_cons_eraseP found).length_eq, List.length_cons, Option.toList_some,
      List.length_singleton]

/-- Every buffer is in one class, so the classes add up to the whole pool. -/
theorem pooledCount_eq_sum {pool : BufferPool}
    (sizes : ∀ buffer ∈ pool.free, 0 < buffer.size ∧ buffer.size ≤ pool.maxPooledSize) :
    pool.pooledCount = ∑ size ∈ Finset.Icc 1 pool.maxPooledSize, (pool.freeOf size).length := by
  let all : Multiset Nat := ↑(pool.free.map Buffer.size)
  have within : ∀ size ∈ all, size ∈ Finset.Icc 1 pool.maxPooledSize := by
    intro size mem
    obtain ⟨buffer, kept, rfl⟩ := List.mem_map.1 (Multiset.mem_coe.1 mem)
    exact Finset.mem_Icc.2 (sizes buffer kept)
  have count : ∀ size, all.count size = (pool.freeOf size).length := by
    intro size
    rw [Multiset.coe_count, List.count, List.countP_map, List.countP_eq_length_filter]
    rfl
  calc pool.pooledCount
      = all.card := by rw [Multiset.coe_card, List.length_map, pooledCount]
    _ = ∑ size ∈ Finset.Icc 1 pool.maxPooledSize, all.count size :=
        (Multiset.sum_count_eq_card within).symm
    _ = _ := Finset.sum_congr rfl fun size _ => count size

end BufferPool

/-! ## Borrowing and returning in any order -/

/-- A pool with the buffers that are held of it. Beside it the shelves go through the same. Returns
are numbered, and each serial number has the number of its last return. -/
structure Desk where
  pool : BufferPool
  shelves : Shelves := fun _ => []
  held : List Buffer := []
  returns : Nat := 0
  lastReturn : Nat → Nat := fun _ => 0
  /-- The returns that found room. -/
  kept : Nat := 0
  /-- The loans that came off a shelf. -/
  served : Nat := 0

namespace Desk

/-- What is done at a desk; a place is a position among the buffers that are held. -/
inductive Visit where
  | acquire (size : Nat)
  | write (place : Nat) (content : Bytes)
  | release (place : Nat)
  /-- A buffer from elsewhere is given to the pool. -/
  | donate (size : Nat)

def lend (desk : Desk) (size : Nat) : Desk :=
  { desk with
    pool := (desk.pool.acquire size).2
    shelves := (desk.shelves.take size).2
    held := (desk.pool.acquire size).1 :: desk.held
    served := desk.served + (desk.shelves.take size).1.toList.length }

/-- A buffer comes in, and this is the pool then. -/
def receive (desk : Desk) (buffer : Buffer) (pool : BufferPool) : Desk :=
  { desk with
    pool := pool
    shelves := desk.shelves.put pool.maxPerClass pool.maxPooledSize buffer
    returns := desk.returns + 1
    lastReturn := Function.update desk.lastReturn buffer.serial desk.returns
    kept := desk.kept + (desk.pool.hasRoom buffer.size).toNat }

def handle (desk : Desk) : Visit → Desk
  | .acquire size => desk.lend size
  | .write place content => { desk with held := desk.held.modify place (·.write content) }
  | .release place =>
      match desk.held[place]? with
      | some buffer =>
          { desk with held := desk.held.eraseIdx place }.receive buffer (desk.pool.release buffer)
      | none => desk
  | .donate size => desk.receive ⟨desk.pool.created, size, []⟩ (desk.pool.donate size)

/-- The shelves are the pool's own. They respect the limits, every buffer is in one place and later
returns come first. -/
structure Orderly (desk : Desk) : Prop where
  shelved : desk.shelves = desk.pool.freeOf
  bounded : ∀ size, (desk.pool.freeOf size).length ≤ desk.pool.maxPerClass
  sizes : ∀ buffer ∈ desk.pool.free, 0 < buffer.size ∧ buffer.size ≤ desk.pool.maxPooledSize
  sole : desk.pool.Sole (serials desk.held)
  latest : desk.pool.free.Pairwise fun first second =>
    desk.lastReturn second.serial < desk.lastReturn first.serial
  past : ∀ buffer ∈ desk.pool.free, desk.lastReturn buffer.serial < desk.returns
  counted : desk.pool.pooledCount + desk.served = desk.kept

variable {desk : Desk}

theorem Orderly.lend (h : desk.Orderly) (size : Nat) : (desk.lend size).Orderly := by
  have taken : desk.shelves.take size =
      ((desk.pool.freeOf size).head?, (desk.pool.acquire size).2.freeOf) := by
    rw [h.shelved, desk.pool.take_freeOf]
  have fewer : (desk.pool.acquire size).2.free.Sublist desk.pool.free := by
    rw [desk.pool.free_acquire]
    exact List.eraseP_sublist
  obtain ⟨perClass, pooledSize⟩ := desk.pool.limits_acquire size
  constructor
  · exact congrArg Prod.snd taken
  · intro other
    show ((desk.pool.acquire size).2.freeOf other).length ≤ (desk.pool.acquire size).2.maxPerClass
    rw [perClass]
    exact ((fewer.filter _).length_le).trans (h.bounded other)
  · intro buffer kept
    show 0 < buffer.size ∧ buffer.size ≤ (desk.pool.acquire size).2.maxPooledSize
    rw [pooledSize]
    exact h.sizes buffer (fewer.subset kept)
  · exact h.sole.acquire size
  · exact h.latest.sublist fewer
  · exact fun buffer kept => h.past buffer (fewer.subset kept)
  · show (desk.pool.acquire size).2.pooledCount +
      (desk.served + (desk.shelves.take size).1.toList.length) = desk.kept
    rw [taken, ← h.counted, ← desk.pool.pooledCount_acquire size, Nat.add_right_comm,
      ← Nat.add_assoc]

/-- A buffer that comes in was in no other place. -/
theorem Orderly.receive {buffer : Buffer} (h : desk.Orderly)
    (sole : desk.pool.Sole (buffer.serial ::ₘ serials desk.held)) :
    (desk.receive buffer (desk.pool.release buffer)).Orderly := by
  have elsewhere : ∀ other ∈ desk.pool.free, other.serial ≠ buffer.serial := fun other kept same =>
    sole.not_mem_free kept (same ▸ Multiset.mem_cons_self _ _)
  have before : ∀ other ∈ desk.pool.free,
      Function.update desk.lastReturn buffer.serial desk.returns other.serial =
        desk.lastReturn other.serial := fun other kept =>
    Function.update_of_ne (elsewhere other kept) _ _
  obtain ⟨perClass, pooledSize⟩ := desk.pool.limits_release buffer
  have shelved : desk.shelves.put (desk.pool.release buffer).maxPerClass
      (desk.pool.release buffer).maxPooledSize buffer = (desk.pool.release buffer).freeOf := by
    rw [perClass, pooledSize, h.shelved, desk.pool.put_freeOf]
  have free := desk.pool.free_release buffer
  constructor
  · exact shelved
  · intro size
    show ((desk.pool.release buffer).freeOf size).length ≤ (desk.pool.release buffer).maxPerClass
    rw [perClass]
    exact desk.pool.length_freeOf_release_le size buffer h.bounded
  · intro other kept
    show 0 < other.size ∧ other.size ≤ (desk.pool.release buffer).maxPooledSize
    rw [pooledSize]
    rcases BufferPool.mem_free_release kept with ⟨rfl, room⟩ | kept
    · obtain ⟨positive, small, -⟩ := (desk.pool.hasRoom_iff other.size).1 room
      exact ⟨positive, small⟩
    · exact h.sizes other kept
  · exact sole.release
  · have same : desk.pool.free.Pairwise fun first second =>
        Function.update desk.lastReturn buffer.serial desk.returns second.serial <
          Function.update desk.lastReturn buffer.serial desk.returns first.serial :=
      h.latest.imp_of_mem fun first second later => by
        rw [before _ first, before _ second]
        exact later
    show (desk.pool.release buffer).free.Pairwise _
    rw [free]
    split
    · refine List.pairwise_cons.2 ⟨fun other kept => ?_, same⟩
      show Function.update desk.lastReturn buffer.serial desk.returns other.serial <
        Function.update desk.lastReturn buffer.serial desk.returns buffer.serial
      rw [before other kept, Function.update_self]
      exact h.past other kept
    · exact same
  · intro other kept
    show Function.update desk.lastReturn buffer.serial desk.returns other.serial < desk.returns + 1
    rcases BufferPool.mem_free_release kept with ⟨rfl, -⟩ | kept
    · rw [Function.update_self]
      exact Nat.lt_succ_self _
    · rw [before other kept]
      exact (h.past other kept).trans (Nat.lt_succ_self _)
  · show (desk.pool.release buffer).free.length + desk.served =
      desk.kept + (desk.pool.hasRoom buffer.size).toNat
    rw [free, ← h.counted, BufferPool.pooledCount]
    cases desk.pool.hasRoom buffer.size with
    | false => rfl
    | true => exact Nat.add_right_comm _ _ _

theorem Orderly.handle (h : desk.Orderly) (visit : Visit) : (desk.handle visit).Orderly := by
  cases visit with
  | acquire size => exact h.lend size
  | write place content =>
    have same : serials (desk.held.modify place (·.write content)) = serials desk.held :=
      serials_modify _ place fun _ => rfl
    have sole : desk.pool.Sole (serials (desk.held.modify place (·.write content))) := by
      rw [same]
      exact h.sole
    exact { h with sole := sole }
  | release place =>
    show Orderly (match desk.held[place]? with | some buffer => _ | none => _)
    split
    · rename_i buffer found
      let without : Desk := { desk with held := desk.held.eraseIdx place }
      have sole : without.pool.Sole (buffer.serial ::ₘ serials without.held) := by
        show desk.pool.Sole (buffer.serial ::ₘ serials (desk.held.eraseIdx place))
        rw [← serials_eq_of_getElem? found]
        exact h.sole
      have orderly : without.Orderly := { h with sole := sole.of_cons }
      exact orderly.receive sole
    · exact h
  | donate size =>
    let made : Desk := { desk with pool := { desk.pool with created := desk.pool.created + 1 } }
    have sole := h.sole.make
    have orderly : made.Orderly := { h with sole := sole.of_cons }
    exact orderly.receive sole

theorem limits_handle (desk : Desk) (visit : Visit) :
    (desk.handle visit).pool.maxPerClass = desk.pool.maxPerClass ∧
      (desk.handle visit).pool.maxPooledSize = desk.pool.maxPooledSize := by
  cases visit with
  | acquire size => exact desk.pool.limits_acquire size
  | write place content => exact ⟨rfl, rfl⟩
  | release place =>
    simp only [handle]
    split
    · exact desk.pool.limits_release _
    · exact ⟨rfl, rfl⟩
  | donate size => exact BufferPool.limits_release _ _

/-- The limits stay, and all is in order after any visits. -/
theorem orderly_foldl (h : desk.Orderly) (visits : List Visit) :
    let after := visits.foldl handle desk
    after.Orderly ∧ after.pool.maxPerClass = desk.pool.maxPerClass ∧
      after.pool.maxPooledSize = desk.pool.maxPooledSize := by
  induction visits generalizing desk with
  | nil => exact ⟨h, rfl, rfl⟩
  | cons visit later ih =>
    obtain ⟨orderly, perClass, pooledSize⟩ := ih (h.handle visit)
    obtain ⟨perClass', pooledSize'⟩ := desk.limits_handle visit
    exact ⟨orderly, perClass.trans perClass', pooledSize.trans pooledSize'⟩

theorem orderly_new (maxPerClass maxPooledSize : Nat) :
    Orderly { pool := { maxPerClass := maxPerClass, maxPooledSize := maxPooledSize } } where
  shelved := rfl
  bounded _ := Nat.zero_le _
  sizes := List.forall_mem_nil _
  sole := ⟨Multiset.nodup_zero, fun _ mem => absurd mem (Multiset.notMem_zero _)⟩
  latest := .nil
  past := List.forall_mem_nil _
  counted := rfl

/-- A loan of this size is exactly of this size. The buffer is the latest return on its shelf, which
it leaves, and nobody else has it. -/
structure Lends (desk : Desk) (size : Nat) : Prop where
  exact : (desk.pool.acquire size).1.bytes.length = size
  reused : desk.shelves size ≠ [] → (desk.pool.acquire size).1 ∈ desk.shelves size
  latest : ∀ other ∈ desk.shelves size, other ≠ (desk.pool.acquire size).1 →
    desk.lastReturn other.serial < desk.lastReturn (desk.pool.acquire size).1.serial
  taken : (desk.pool.acquire size).2.freeOf =
    Function.update desk.shelves size (desk.shelves size).tail
  sole : ((desk.pool.acquire size).1.serial ::ₘ serials desk.held +
    serials (desk.pool.acquire size).2.free).Nodup

theorem Orderly.lends (h : desk.Orderly) (size : Nat) : desk.Lends size := by
  have lent := desk.pool.fst_acquire size
  have order : (desk.pool.freeOf size).Pairwise fun first second =>
      desk.lastReturn second.serial < desk.lastReturn first.serial :=
    h.latest.sublist List.filter_sublist
  constructor
  · rw [Buffer.length_bytes, BufferPool.size_acquire]
  · intro some
    rw [h.shelved] at some ⊢
    obtain ⟨top, below, found⟩ := List.exists_cons_of_ne_nil some
    rw [lent, found]
    exact List.mem_cons_self
  · intro other kept different
    rw [h.shelved] at kept
    cases found : desk.pool.freeOf size with
    | nil =>
      rw [found] at kept
      cases kept
    | cons top below =>
      rw [found, List.head?_cons, Option.getD_some] at lent
      rw [found] at kept order
      rw [lent] at different ⊢
      exact List.rel_of_pairwise_cons order ((List.mem_cons.1 kept).resolve_left different)
  · rw [h.shelved, desk.pool.freeOf_acquire]
  · exact (h.sole.acquire size).nodup

theorem Orderly.shelf (h : desk.Orderly) (size : Nat) :
    (∀ buffer ∈ desk.shelves size, buffer.bytes.length = size) ∧
      (desk.shelves size).length ≤ desk.pool.maxPerClass ∧
      (size = 0 ∨ desk.pool.maxPooledSize < size → desk.shelves size = []) := by
  rw [h.shelved]
  refine ⟨fun buffer kept => ?_, h.bounded size, fun outside => ?_⟩
  · rw [Buffer.length_bytes]
    exact BufferPool.size_of_mem_freeOf kept
  · refine List.eq_nil_iff_forall_not_mem.2 fun buffer kept => ?_
    have sizes := h.sizes buffer (BufferPool.mem_free_of_mem_freeOf kept)
    rw [BufferPool.size_of_mem_freeOf kept] at sizes
    omega

/-- Whatever limits a pool has and whatever is done with it, it is the same as the shelves. The shelf
of a size has buffers of exactly that size, within the limits. A loan gives the latest return of its
size, and nobody else has it then. A return goes on top of its own shelf if the limits allow it. No
other shelf changes. The pool has as many buffers as returns found room, less the loans that came
off a shelf. -/
theorem size_classes_exact (maxPerClass maxPooledSize : Nat) (visits : List Visit) :
    let desk : Desk := visits.foldl handle
      { pool := { maxPerClass := maxPerClass, maxPooledSize := maxPooledSize } }
    desk.pool.freeOf = desk.shelves ∧
    (∀ size,
      (∀ buffer ∈ desk.shelves size, buffer.bytes.length = size) ∧
      (desk.shelves size).length ≤ maxPerClass ∧
      (size = 0 ∨ maxPooledSize < size → desk.shelves size = []) ∧
      desk.Lends size) ∧
    (∀ buffer, (desk.pool.release buffer).freeOf =
      if 0 < buffer.size ∧ buffer.size ≤ maxPooledSize ∧
          (desk.shelves buffer.size).length < maxPerClass then
        Function.update desk.shelves buffer.size (buffer :: desk.shelves buffer.size)
      else desk.shelves) ∧
    desk.pool.pooledCount + desk.served = desk.kept ∧
    desk.pool.pooledCount =
      ∑ size ∈ Finset.Icc 1 maxPooledSize, (desk.shelves size).length := by
  intro desk
  obtain ⟨orderly, perClass, pooledSize⟩ :=
    orderly_foldl (orderly_new maxPerClass maxPooledSize) visits
  have perClass : desk.pool.maxPerClass = maxPerClass := perClass
  have pooledSize : desk.pool.maxPooledSize = maxPooledSize := pooledSize
  have orderly : desk.Orderly := orderly
  refine ⟨orderly.shelved.symm, fun size => ?_, fun buffer => ?_, orderly.counted, ?_⟩
  · obtain ⟨exact, bounded, empty⟩ := orderly.shelf size
    rw [perClass] at bounded
    rw [pooledSize] at empty
    exact ⟨exact, bounded, empty, orderly.lends size⟩
  · rw [desk.pool.freeOf_release, ← orderly.shelved]
    refine if_congr ?_ rfl rfl
    rw [desk.pool.hasRoom_iff, perClass, pooledSize, orderly.shelved]
  · have sum := BufferPool.pooledCount_eq_sum orderly.sizes
    rw [pooledSize, ← orderly.shelved] at sum
    exact sum

end Desk

end RemoteCall
