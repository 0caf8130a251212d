import HighBar.Library.OrderStatistic
import Mathlib.Algebra.Order.Floor.Semifield
import Mathlib.Data.List.Rotate
import Mathlib.Data.Rat.Floor

/-!
# The flush times

`Counters` keeps the last 1024 times that a flush took, in a ring, and `FrameFlushP99Us` gives their
99th percentile: the entry of a rank among them in ascending order. The rank is `0.99 * (n - 1)`,
which the comment rounds **up** and the code rounds **to the nearest**.

* `Holds.perm_lastSamples`: the snapshot of the ring has what was recorded last.
* `frameFlushP99Us_covers_iff`: the answer is one of the last times. That 99 in 100 of them are at
  most the answer holds for the counts of which the rounding loses nothing, and otherwise only if
  the times of the rank and of the next one are the same. A full ring is of the first kind, one of
  52 times is not.
-/

namespace HighBar.Grpc

open OrderStatistic List

/-- `kFlushBucketSize`. -/
def kFlushBucketSize : ℕ := 1024

/-- The flush times of `Counters`. -/
structure FlushSamples where
  samples : List ℕ
  head : ℕ
  filled : ℕ
deriving Repr, DecidableEq

namespace FlushSamples

/-- No sample yet. -/
def create : FlushSamples := ⟨List.replicate kFlushBucketSize 0, 0, 0⟩

/-- `RecordFrameFlushUs`. -/
def recordFrameFlushUs (s : FlushSamples) (us : ℕ) : FlushSamples where
  samples := s.samples.set s.head us
  head := (s.head + 1) % kFlushBucketSize
  filled := if s.filled < kFlushBucketSize then s.filled + 1 else s.filled

/-- The rank, with the code's arithmetic over the rationals; the cast to an integer truncates. -/
def p99Index (n : ℕ) : ℕ := ⌊(99 / 100 : ℚ) * (n - 1 : ℕ) + 1 / 2⌋₊

/-- `FrameFlushP99Us`. What `nth_element` puts at a rank is the entry of that rank. -/
def frameFlushP99Us (s : FlushSamples) : ℕ :=
  if s.filled = 0 then 0
  else
    let snap := s.samples.take s.filled
    (nth snap (p99Index snap.length)).getD 0

/-- The samples after these were recorded. -/
def recordAll (recorded : List ℕ) : FlushSamples := recorded.foldl recordFrameFlushUs create

/-- What was recorded last. -/
def lastSamples (recorded : List ℕ) : List ℕ := recorded.drop (recorded.length - kFlushBucketSize)

/-- At least 99 in 100 of the samples are at most the answer. -/
def Covers (samples : List ℕ) (answer : ℕ) : Prop :=
  99 * samples.length ≤ 100 * samples.countP (· ≤ answer)

instance (samples : List ℕ) (answer : ℕ) : Decidable (Covers samples answer) :=
  inferInstanceAs (Decidable (_ ≤ _))

/-! ### The ring -/

variable {s : FlushSamples} {recorded : List ℕ}

/-- The ring from its head on is the end of what was recorded, after the zeros of its start. -/
structure Holds (s : FlushSamples) (recorded : List ℕ) : Prop where
  length : s.samples.length = kFlushBucketSize
  head : s.head = recorded.length % kFlushBucketSize
  filled : s.filled = min recorded.length kFlushBucketSize
  rotated : s.samples.rotate s.head =
    (List.replicate kFlushBucketSize 0 ++ recorded).drop recorded.length

theorem holds_create : create.Holds [] where
  length := length_replicate
  head := rfl
  filled := rfl
  rotated := by
    show (List.replicate kFlushBucketSize 0).rotate 0 = _
    rw [rotate_zero, append_nil]
    rfl

/-- Writing at the head of a ring replaces the oldest entry by the newest. -/
theorem rotate_set_succ {l : List ℕ} {n : ℕ} (hn : n < l.length) (a : ℕ) :
    (l.set n a).rotate (n + 1) = (l.rotate n).tail ++ [a] := by
  obtain ⟨front, back, hl, rfl, hset⟩ := @exists_of_set _ n a l hn
  have hold : l.rotate front.length = l[front.length] :: back ++ front := by
    conv_lhs => rw [hl, rotate_append_length_eq]
  have hnew : (front ++ [a] ++ back).rotate (front ++ [a]).length = back ++ (front ++ [a]) :=
    rotate_append_length_eq _ _
  rw [length_append, append_assoc front] at hnew
  rw [hold, hset, cons_append, tail_cons, append_assoc]
  exact hnew

/-- **Recording keeps the ring.** -/
theorem Holds.record (h : s.Holds recorded) (us : ℕ) :
    (s.recordFrameFlushUs us).Holds (recorded ++ [us]) := by
  obtain ⟨hlength, hhead, hfilled, hrotated⟩ := h
  have hlt : s.head < s.samples.length := by
    rw [hhead, hlength]
    exact Nat.mod_lt _ (by decide)
  refine ⟨length_set.trans hlength, ?_, ?_, ?_⟩
  · show (s.head + 1) % kFlushBucketSize = _
    rw [hhead, Nat.mod_add_mod, length_append, length_singleton]
  · show (if s.filled < kFlushBucketSize then s.filled + 1 else s.filled) = _
    rw [hfilled, length_append, length_singleton]
    split <;> omega
  · show (s.samples.set s.head us).rotate ((s.head + 1) % kFlushBucketSize) = _
    have hmod := rotate_mod (s.samples.set s.head us) (s.head + 1)
    rw [length_set, hlength] at hmod
    rw [hmod, rotate_set_succ hlt, hrotated, tail_drop, ← append_assoc,
      length_append, length_singleton]
    refine (drop_append_of_le_length ?_).symm
    rw [length_append, length_replicate, Nat.add_comm]
    exact Nat.add_le_add_right (by decide) _

/-- The ring holds the last samples. -/
theorem holds_recordAll (recorded : List ℕ) : (recordAll recorded).Holds recorded := by
  induction recorded using List.reverseRecOn with
  | nil => exact holds_create
  | append_singleton recorded us ih =>
    rw [recordAll, foldl_append]
    exact ih.record us

/-- **The snapshot has the last samples**, in the order of the ring. -/
theorem Holds.perm_lastSamples (h : s.Holds recorded) :
    (s.samples.take s.filled).Perm (lastSamples recorded) := by
  obtain ⟨hlength, hhead, hfilled, hrotated⟩ := h
  rw [drop_append, length_replicate] at hrotated
  rcases Nat.lt_or_ge recorded.length kFlushBucketSize with hroom | hfull
  · -- from the head on there are only zeros
    rw [hhead, Nat.mod_eq_of_lt hroom, rotate_eq_drop_append_take (by omega)] at hrotated
    rw [hfilled, min_eq_left hroom.le]
    refine .of_eq (append_inj_right' hrotated ?_)
    rw [length_take, lastSamples, length_drop]
    omega
  · rw [drop_eq_nil_of_le (by simpa using hfull), nil_append] at hrotated
    rw [hfilled, min_eq_right hfull, take_of_length_le hlength.le]
    exact (rotate_perm ..).symm.trans (.of_eq hrotated)

/-! ### The percentile -/

/-- The index is `0.99 * (n - 1)`, rounded to the nearest. -/
theorem p99Index_eq (n : ℕ) : p99Index n = (99 * (n - 1) + 50) / 100 := by
  have hquotient : (99 / 100 : ℚ) * (n - 1 : ℕ) + 1 / 2 =
      ((99 * (n - 1) + 50 : ℕ) : ℚ) / (100 : ℕ) := by
    push_cast
    ring
  rw [p99Index, hquotient, Nat.floor_div_eq_div]

theorem p99Index_lt {n : ℕ} (hn : 0 < n) : p99Index n < n := by
  rw [p99Index_eq]
  omega

/-- How many samples are needed, by the hundreds and the rest of their number. -/
theorem covers_iff {samples : List ℕ} {answer : ℕ} : Covers samples answer ↔
    99 * (samples.length / 100) + samples.length % 100 ≤ samples.countP (· ≤ answer) := by
  have hdiv := Nat.div_add_mod samples.length 100
  have hmod := Nat.mod_lt samples.length (Nat.succ_pos 99)
  rw [Covers]
  constructor <;> intro h <;> omega

/-- The samples up to the rank are as many as are needed, or by the rounding one less. -/
theorem p99Index_add_one {n : ℕ} (hn : 0 < n) :
    p99Index n + 1 + (if n % 100 ≤ 51 then 0 else 1) = 99 * (n / 100) + n % 100 := by
  have hdiv := Nat.div_add_mod n 100
  split_ifs with h
  · have hindex : p99Index n = 99 * (n / 100) + n % 100 - 1 :=
      (p99Index_eq n).trans (Nat.div_eq_of_lt_le (by omega) (by omega))
    omega
  · have hindex : p99Index n = 99 * (n / 100) + n % 100 - 2 :=
      (p99Index_eq n).trans (Nat.div_eq_of_lt_le (by omega) (by omega))
    omega

/-- The percentile is the entry of the rank among the last samples. -/
theorem nth_lastSamples (hne : recorded ≠ []) :
    nth (lastSamples recorded) (p99Index (lastSamples recorded).length) =
      some (recordAll recorded).frameFlushP99Us := by
  have hholds := holds_recordAll recorded
  have hperm := hholds.perm_lastSamples
  have hpos : 0 < (recordAll recorded).filled := by
    rw [hholds.filled]
    exact lt_min (length_pos_of_ne_nil hne) (by decide)
  have hlength : 0 < ((recordAll recorded).samples.take (recordAll recorded).filled).length := by
    rw [length_take, hholds.length]
    exact lt_min hpos (by decide)
  obtain ⟨a, ha⟩ := isSome_nth (p99Index_lt hlength)
  have hanswer : (recordAll recorded).frameFlushP99Us = a := by
    rw [frameFlushP99Us, if_neg hpos.ne']
    exact congrArg (Option.getD · 0) ha
  rw [← nth_perm hperm, ← hperm.length_eq, ha, hanswer]

/-- **The percentile is one of the last samples.** It covers them for the counts of which the rank
loses nothing by its rounding, and otherwise exactly if the sample of the next rank is the same. -/
theorem frameFlushP99Us_covers_iff (hne : recorded ≠ []) :
    (recordAll recorded).frameFlushP99Us ∈ lastSamples recorded ∧
      (Covers (lastSamples recorded) (recordAll recorded).frameFlushP99Us ↔
        (lastSamples recorded).length % 100 ≤ 51 ∨
          nth (lastSamples recorded) (p99Index (lastSamples recorded).length) =
            nth (lastSamples recorded) (p99Index (lastSamples recorded).length + 1)) := by
  have hrank := nth_lastSamples hne
  have hneeded := p99Index_add_one (length_pos_of_mem (mem_of_nth hrank))
  refine ⟨mem_of_nth hrank, covers_iff.trans ?_⟩
  rw [← hneeded]
  split_ifs with hfew
  · exact iff_of_true (lt_countP_le hrank) (Or.inl hfew)
  · rw [if_neg hfew] at hneeded
    obtain ⟨b, hnext⟩ : ∃ b, nth (lastSamples recorded)
        (p99Index (lastSamples recorded).length + 1) = some b := isSome_nth (by omega)
    rw [or_iff_right hfew, hrank, hnext, Option.some_inj, ← succ_lt_countP_le_iff hrank hnext]
    exact Nat.succ_le_iff

/-- The times 0, 1, ..., 50 and 50 once more, of which the two highest ranks agree. -/
def repeatedTop : List ℕ := List.range 51 ++ [50]

theorem frameFlushP99Us_covers_iff_repeatedTop :
    repeatedTop ≠ [] ∧ (recordAll repeatedTop).frameFlushP99Us ∈ lastSamples repeatedTop ∧
      ¬(lastSamples repeatedTop).length % 100 ≤ 51 ∧
      Covers (lastSamples repeatedTop) (recordAll repeatedTop).frameFlushP99Us := by
  have hne : repeatedTop ≠ [] := by decide
  have hlast : lastSamples repeatedTop = repeatedTop := by decide
  have hindex : p99Index repeatedTop.length = 50 := p99Index_eq 52
  have hranks : nth repeatedTop 50 = nth repeatedTop 51 := by decide
  have h := frameFlushP99Us_covers_iff hne
  rw [hlast, hindex] at h
  rw [hlast]
  exact ⟨hne, h.1, by decide, h.2.2 (Or.inr hranks)⟩

/-- Of 52 different times the answer is the last but one, which covers 51. -/
theorem frameFlushP99Us_not_covers :
    (recordAll (List.range 52)).frameFlushP99Us = 50 ∧
      ¬Covers (lastSamples (List.range 52)) 50 := by
  have hindex : p99Index 52 = 50 := p99Index_eq 52
  have hlast : lastSamples (List.range 52) = List.range 52 := by decide
  have hentry : nth (List.range 52) 50 = some 50 := by decide
  have hrank := nth_lastSamples (show List.range 52 ≠ [] by decide)
  rw [hlast, length_range, hindex, hentry, Option.some_inj] at hrank
  exact ⟨hrank.symm, by decide⟩

end FlushSamples

end HighBar.Grpc
