import Mathlib.Algebra.GroupWithZero.Nat
import NamedSql.Number.Power
import NamedSql.Statistics

/-!
What statistics say about the times that were added to them. Count, total and
the longest time are exact for any number of times. The average is the total
over the count, rounded down, as long as the count fits 32 bits; from there on
there is none, and zero stands for it.
-/

namespace NamedSql.Statistics

/-- The statistics of times, added one after the other. -/
def ofTimes (times : List Nat) : Statistics :=
  times.foldl add empty

/-- Statistics that agree with the times they are made of. -/
structure Exact (times : List Nat) (statistics : Statistics) : Prop where
  count_eq : statistics.count = times.length
  total_eq : statistics.total = times.sum
  le_longest : ∀ time ∈ times, time ≤ statistics.longest
  longest_reached :
      statistics.longest ∈ times ∨ times = [] ∧ statistics.longest = 0
  longest_le_total : statistics.longest ≤ statistics.total

theorem exact_empty : Exact [] empty :=
  ⟨rfl, rfl, nofun, .inr ⟨rfl, rfl⟩, Nat.le_refl 0⟩

/-- One more time keeps the statistics exact. -/
theorem Exact.add {times : List Nat} {statistics : Statistics}
    (h : Exact times statistics) (time : Nat) :
    Exact (times ++ [time]) (statistics.add time) := by
  have htotal : (statistics.add time).total = statistics.total + time := rfl
  have hlongest :
      (statistics.add time).longest = max statistics.longest time := rfl
  constructor
  case count_eq => simp [Statistics.add, h.count_eq]
  case total_eq => simp [htotal, h.total_eq]
  case le_longest =>
    intro found hmem
    rcases List.mem_append.mp hmem with hearlier | hlast
    · have hle := h.le_longest found hearlier
      omega
    · have heq := List.mem_singleton.mp hlast
      omega
  case longest_reached =>
    left
    rw [hlongest, List.mem_append, List.mem_singleton]
    rcases Nat.le_total time statistics.longest with hshorter | hlonger
    · rw [Nat.max_eq_left hshorter]
      rcases h.longest_reached with hmem | ⟨-, hzero⟩
      · exact .inl hmem
      · right
        omega
    · exact .inr (Nat.max_eq_right hlonger)
  case longest_le_total =>
    have hle := h.longest_le_total
    omega

theorem exact_foldl_add {earlier : List Nat} {statistics : Statistics}
    (h : Exact earlier statistics) (times : List Nat) :
    Exact (earlier ++ times) (times.foldl add statistics) := by
  induction times generalizing earlier statistics with
  | nil => simpa using h
  | cons time rest ih =>
      have hrest := ih (h.add time)
      rwa [List.append_assoc] at hrest

theorem exact_ofTimes (times : List Nat) : Exact times (ofTimes times) :=
  exact_foldl_add exact_empty times

theorem Exact.average_eq {times : List Nat} {statistics : Statistics}
    (h : Exact times statistics) :
    statistics.average = if times.length < averagedBelow then
      times.sum / times.length else 0 := by
  rw [average, h.count_eq, h.total_eq]

def nanosPerSecond : Nat := tenTo 9

/-- The whole seconds of a time, and the nanoseconds behind them. -/
def parts (time : Nat) : Nat × Nat :=
  (time / nanosPerSecond, time % nanosPerSecond)

/-- Divides the seconds, and carries what they leave into the nanoseconds. -/
def divideParts (count : Nat) : Nat × Nat → Nat × Nat
  | (seconds, nanos) =>
      (seconds / count, (seconds % count * nanosPerSecond + nanos) / count)

theorem parts_div (time count : Nat) :
    parts (time / count) = divideParts count (parts time) := by
  have hseconds :
      time / count / nanosPerSecond = time / nanosPerSecond / count := by
    rw [Nat.div_div_eq_div_mul, Nat.div_div_eq_div_mul, Nat.mul_comm]
  have hnanos : time / count % nanosPerSecond =
      (time / nanosPerSecond % count * nanosPerSecond + time % nanosPerSecond) /
        count := by
    rw [← Nat.mod_mul_right_div_self, Nat.mul_comm count, Nat.mod_mul,
      Nat.add_comm, Nat.mul_comm nanosPerSecond]
  exact Prod.ext hseconds hnanos

/-- Whatever times are added, the count is their number, the total their sum and
the longest time the greatest of them, which the total reaches. Up to a count of
32 bits the average is the total over the count, rounded down; the seconds and
nanoseconds of the total are divided with a carry. Beyond it the average is
zero. -/
theorem statistics_agree_with_times (times : List Nat) :
    let statistics := ofTimes times
    statistics.count = times.length ∧ statistics.total = times.sum ∧
      (∀ time ∈ times, time ≤ statistics.longest) ∧
      (statistics.longest ∈ times ∨ times = [] ∧ statistics.longest = 0) ∧
      statistics.longest ≤ statistics.total ∧
      statistics.average =
        (if times.length < averagedBelow then times.sum / times.length else 0) ∧
      (times.length < averagedBelow →
        parts statistics.average =
          divideParts times.length (parts times.sum)) := by
  have h := exact_ofTimes times
  refine ⟨h.count_eq, h.total_eq, h.le_longest, h.longest_reached,
    h.longest_le_total, h.average_eq, ?_⟩
  intro hfew
  rw [h.average_eq, if_pos hfew]
  exact parts_div times.sum times.length

/-- As many executions as 32 bits cannot count, of a second each, last a second
on average. -/
theorem average_vanishes_from_limit :
    let times := List.replicate averagedBelow nanosPerSecond
    times.sum / times.length = nanosPerSecond ∧
      (ofTimes times).average = 0 := by
  intro times
  have hlength : times.length = averagedBelow := List.length_replicate
  have hsum : times.sum = averagedBelow * nanosPerSecond := by
    rw [List.sum_replicate_nat]
  constructor
  · rw [hlength, hsum]
    exact Nat.mul_div_cancel_left _ (by decide)
  · rw [(exact_ofTimes times).average_eq, if_neg (by omega)]

end NamedSql.Statistics
