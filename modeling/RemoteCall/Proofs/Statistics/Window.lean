import Mathlib.Algebra.Order.BigOperators.Group.List
import Mathlib.Data.List.DropRight
import Mathlib.Tactic
import RemoteCall.Statistics

/-!
# The window of latest samples

A window holds the latest of the samples that were recorded, as many as it has room for. Its sum is
kept up to date as samples come and go, and it stays the sum of what the window holds, however many
have gone, as long as no samples that fit into a window exceed the largest duration together.
-/
namespace RemoteCall.LatencyWindow

/-- No samples in a row that fit into a window exceed the largest duration together. -/
def Fits (capacity : Nat) (samples : List Duration) : Prop :=
  ∀ block, block <:+: samples → block.length ≤ capacity → block.sum ≤ Duration.longest

section

variable {window : LatencyWindow} {capacity room : Nat} {past : List Duration} {sample : Duration}

theorem length_rtake {α : Type} (list : List α) (n : Nat) :
    (list.rtake n).length = min list.length n := by
  rw [List.rtake, List.length_drop]
  omega

theorem Fits.rtake_le (fits : Fits capacity past) :
    (past.rtake capacity).sum ≤ Duration.longest := by
  refine fits _ (List.drop_suffix _ _).isInfix ?_
  rw [length_rtake]
  exact Nat.min_le_right _ _

theorem Fits.earlier {later : List Duration} (fits : Fits capacity (past ++ later)) :
    Fits capacity past :=
  fun block within => fits block (within.trans (List.prefix_append past later).isInfix)

theorem fits_of_le {bound : Duration} (le : ∀ sample ∈ past, sample ≤ bound)
    (small : capacity * bound ≤ Duration.longest) : Fits capacity past := by
  intro block within short
  have sum : block.sum ≤ block.length * bound :=
    List.sum_le_card_nsmul block bound fun sample mem => le sample (within.subset mem)
  exact (sum.trans (Nat.mul_le_mul_right bound short)).trans small

/-! ## One sample -/

@[simp] theorem capacity_record (window : LatencyWindow) (sample : Duration) :
    (window.record sample).capacity = window.capacity := by
  unfold record makeRoom
  split
  · split <;> rfl
  · rfl

/-- A window with room for one more holds one sample less of the latest. -/
theorem samples_makeRoom (size : window.capacity = room + 1)
    (held : window.samples = past.rtake (room + 1)) :
    window.makeRoom.samples = past.rtake room := by
  have length := length_rtake past (room + 1)
  rw [← held] at length
  unfold makeRoom
  split
  · rename_i full
    split
    · rename_i empty
      rw [empty, size] at full
      cases full
    · rename_i oldest later nonempty
      have rest := congrArg List.tail (nonempty.symm.trans held)
      simp only [List.tail_cons, List.rtake, List.tail_drop] at rest ⊢
      rw [rest]
      congr 1
      omega
  · rw [held, List.rtake, List.rtake]
    congr 1
    omega

theorem sum_makeRoom (exact : window.sum = window.samples.sum) :
    window.makeRoom.sum = window.makeRoom.samples.sum := by
  unfold makeRoom
  split
  · split
    · exact exact
    · rename_i oldest later nonempty
      rw [nonempty, List.sum_cons] at exact
      simp only [exact, Nat.add_sub_cancel_left]
  · exact exact

theorem samples_record (size : window.capacity = room + 1)
    (held : window.samples = past.rtake (room + 1)) :
    (window.record sample).samples = (past ++ [sample]).rtake (room + 1) := by
  rw [List.rtake_concat_succ, ← samples_makeRoom size held]
  rfl

theorem sum_samples_record (exact : window.sum = window.samples.sum) :
    (window.record sample).samples.sum = window.makeRoom.sum + sample := by
  show (window.makeRoom.samples ++ [sample]).sum = _
  rw [sum_makeRoom exact, List.sum_append, List.sum_singleton]

/-- The sum stays exact as long as it is a duration. -/
theorem sum_record (exact : window.sum = window.samples.sum)
    (fits : (window.record sample).samples.sum ≤ Duration.longest) :
    (window.record sample).sum = (window.record sample).samples.sum := by
  rw [sum_samples_record exact] at fits ⊢
  exact Duration.add_of_le _ _ fits

/-! ## All samples -/

theorem capacity_foldl_record (samples : List Duration) (window : LatencyWindow) :
    (samples.foldl record window).capacity = window.capacity := by
  induction samples generalizing window with
  | nil => rfl
  | cons sample later ih => rw [List.foldl_cons, ih, capacity_record]

/-- A window holds the latest samples. -/
theorem samples_foldl_record (capacity : Nat) (samples : List Duration) :
    (samples.foldl record (ofCapacity capacity)).samples = samples.rtake (max capacity 1) := by
  obtain ⟨room, size⟩ := Nat.exists_eq_add_one.2
    (Nat.lt_of_lt_of_le Nat.one_pos (Nat.le_max_right capacity 1))
  rw [size]
  induction samples using List.reverseRecOn with
  | nil => exact (List.rtake_nil _).symm
  | append_singleton earlier sample ih =>
    rw [List.foldl_append, List.foldl_cons, List.foldl_nil]
    exact samples_record ((capacity_foldl_record earlier _).trans size) ih

/-- The sum of a window is exact, however many samples have come and gone. -/
theorem sum_foldl_record (capacity : Nat) {samples : List Duration}
    (fits : Fits (max capacity 1) samples) :
    (samples.foldl record (ofCapacity capacity)).sum = (samples.rtake (max capacity 1)).sum := by
  rw [← samples_foldl_record]
  induction samples using List.reverseRecOn with
  | nil => rfl
  | append_singleton earlier sample ih =>
    have small := fits.rtake_le
    rw [← samples_foldl_record] at small
    rw [List.foldl_append, List.foldl_cons, List.foldl_nil] at small ⊢
    exact sum_record (ih fits.earlier) small

/-- The divisor of an average is the number of samples, if that is a 32-bit word. -/
theorem toNat_divisor (small : window.samples.length < UInt32.size) :
    window.divisor.toNat = window.samples.length :=
  UInt32.toNat_ofNat_of_lt' small

theorem length_foldl_record (capacity : Nat) (samples : List Duration) :
    (samples.foldl record (ofCapacity capacity)).samples.length =
      min samples.length (max capacity 1) := by
  rw [samples_foldl_record, length_rtake]

theorem toNat_divisor_foldl_record {capacity : Nat} (small : capacity < UInt32.size)
    (samples : List Duration) :
    (samples.foldl record (ofCapacity capacity)).divisor.toNat =
      min samples.length (max capacity 1) := by
  have one : 1 < UInt32.size := by decide
  have length := length_foldl_record capacity samples
  rw [← length]
  exact toNat_divisor (by omega)

/-- A sample that comes next is added to the sum without being cut off. -/
theorem sum_makeRoom_add_le (capacity : Nat) {earlier : List Duration}
    (fits : Fits (max capacity 1) (earlier ++ [sample])) :
    (earlier.foldl record (ofCapacity capacity)).makeRoom.sum + sample ≤ Duration.longest := by
  have exact := sum_foldl_record capacity fits.earlier
  rw [← samples_foldl_record] at exact
  have latest := samples_foldl_record capacity (earlier ++ [sample])
  rw [List.foldl_concat] at latest
  rw [← sum_samples_record exact, latest]
  exact fits.rtake_le

/-- The average is that of the latest samples, and there is one as soon as there is a sample. -/
theorem average_foldl_record (capacity : Nat) {samples : List Duration}
    (fits : Fits (max capacity 1) samples) (small : capacity < UInt32.size := by decide) :
    (samples.foldl record (ofCapacity capacity)).average =
      if samples = [] then none
      else some ((samples.rtake (max capacity 1)).sum / min samples.length (max capacity 1)) := by
  have empty : (samples.foldl record (ofCapacity capacity)).samples.isEmpty = true ↔
      samples = [] := by
    rw [List.isEmpty_iff_length_eq_zero, length_foldl_record, ← List.length_eq_zero_iff]
    omega
  simp only [average, empty, sum_foldl_record capacity fits, toNat_divisor_foldl_record small]

/-! ## Exactness -/

/-- If samples in a row that fill a window, or all samples where they are fewer, do not exceed the
largest duration together, then no samples in a row that fit into a window do. -/
theorem fits_of_full (full : ∀ block, block <:+: past →
    block.length = min capacity past.length → block.sum ≤ Duration.longest) :
    Fits capacity past := by
  rintro block ⟨before, after, rfl⟩ short
  -- The block of full length that begins where this one does, or earlier if the samples end there.
  generalize samples : before ++ block ++ after = past at full
  generalize size : min capacity past.length = full' at full
  have long : before.length + block.length ≤ past.length := by
    rw [← samples, List.length_append, List.length_append]
    omega
  let start := min before.length (past.length - full')
  let whole := (past.drop start).take full'
  have within : whole <:+: past :=
    (List.take_prefix _ _).isInfix.trans (List.drop_suffix _ _).isInfix
  have length : whole.length = full' := by
    simp only [whole, start, List.length_take, List.length_drop]
    omega
  have part : (whole.drop (before.length - start)).take block.length = block := by
    have there : start + (before.length - start) = before.length := by omega
    have room : min block.length (full' - (before.length - start)) = block.length := by omega
    rw [List.drop_take, List.drop_drop, there, List.take_take, room, ← samples,
      List.append_assoc, List.drop_left, List.take_left]
  have sub : block.Sublist whole := by
    rw [← part]
    exact (List.take_sublist _ _).trans (List.drop_sublist _ _)
  exact (sub.sum_le_sum fun _ _ => Nat.zero_le _).trans (full whole within length)

/-- The sum and the average of a window are exact after each sample of a sequence, however long, if
samples in a row that fill the window are a duration together. Neither the subtraction of a sample
that goes nor the addition of one that comes is cut off, and the divisor is the number of samples. -/
theorem average_exact {capacity : Nat} (small : capacity < UInt32.size) {samples : List Duration}
    (full : ∀ block, block <:+: samples →
      block.length = min (max capacity 1) samples.length → block.sum ≤ Duration.longest)
    {recorded : List Duration} (begun : recorded <+: samples) :
    let window := recorded.foldl record (ofCapacity capacity)
    let held := min recorded.length (max capacity 1)
    window.samples.length = held ∧
    window.sum = (recorded.rtake held).sum ∧
    (∀ sample, recorded ++ [sample] <+: samples →
      (∀ oldest ∈ window.samples.head?, oldest ≤ window.sum) ∧
      window.makeRoom.sum + sample ≤ Duration.longest) ∧
    window.divisor.toNat = held ∧
    (window.average = none ↔ recorded = []) ∧
    (recorded ≠ [] →
      0 < held ∧ window.average = some ((recorded.rtake held).sum / held)) := by
  intro window held
  obtain ⟨later, rfl⟩ := begun
  have fits : Fits (max capacity 1) recorded := (fits_of_full full).earlier
  have length : window.samples.length = held := length_foldl_record capacity recorded
  have latest : recorded.rtake (max capacity 1) = recorded.rtake held := by
    rw [List.rtake, List.rtake]
    congr 1
    omega
  have sum : window.sum = (recorded.rtake held).sum := by
    rw [← latest]
    exact sum_foldl_record capacity fits
  have average := average_foldl_record capacity fits small
  rw [latest] at average
  refine ⟨length, sum, fun sample next => ⟨fun oldest first => ?_, ?_⟩,
    toNat_divisor_foldl_record small recorded, ?_, fun nonempty => ⟨?_, ?_⟩⟩
  · have exact : window.sum = window.samples.sum :=
      (sum_foldl_record capacity fits).trans (by rw [samples_foldl_record])
    rw [exact]
    exact List.le_sum_of_mem (List.mem_of_mem_head? first)
  · obtain ⟨rest, same⟩ := next
    rw [← same] at full
    exact sum_makeRoom_add_le capacity (fits_of_full full).earlier
  · rw [average]
    split <;> simp [*]
  · have pos := List.length_pos_iff.2 nonempty
    omega
  · rw [average, if_neg nonempty]

/-- A window for no sample is one for a single sample, of which the first may be as long as any. -/
theorem average_exact_longest : [Duration.longest, 5] <+: [Duration.longest, 5] ∧
    ([Duration.longest, 5].foldl record (ofCapacity 0)).average = some 5 := by
  have full (block : List Duration) (within : block <:+: [Duration.longest, 5])
      (length : block.length = 1) : block.sum ≤ Duration.longest := by
    obtain ⟨sample, rfl⟩ := List.length_eq_one_iff.1 length
    have mem : sample ∈ [Duration.longest, 5] := within.subset List.mem_cons_self
    rw [List.sum_singleton]
    rcases List.mem_pair.1 mem with rfl | rfl <;> decide
  have begun : [Duration.longest, 5] <+: [Duration.longest, 5] := List.prefix_rfl
  obtain ⟨-, -, -, -, -, exact⟩ := @average_exact 0 (by decide) _ full _ begun
  exact ⟨begun, (exact (by simp)).2⟩

end

end RemoteCall.LatencyWindow
