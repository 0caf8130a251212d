import HighBar.Library.FixedWidth
import Mathlib.Data.List.Basic

/-!
# The resume-history ring

`RingBuffer` keeps the last `capacity` serialized updates keyed by `seq`. The representation is the
source's: a capacity-sized vector, the next write position `head`, the number of live entries
`filled`, and the highest pushed `headSeq`. The structure carries the bounds that make every index
valid, so no operation has to check them again.

## Two readings of the same object

* `newest j` reads the `j`-th newest entry through the ring index. `push` shifts it by one
  (`newest_push_zero`, `newest_push_succ`), and the copy loop of `getFromSeq` is a walk along it
  (`copyBackward_eq_map`).
* `contents` is the **abstract history**: the live entries, oldest first. It is what the ring is
  for, and `contents_push` says that a push appends to it and drops the oldest entry when full.

`getFromSeq` computes the oldest sequence number it still holds from `headSeq` and `filled` alone,
which is right only if the live entries are numbered without a gap. That assumption is `Dense`, and
`getFromSeq_of_dense` is the exact answer under it.
-/

namespace HighBar.Grpc

open List

/-- One ring slot. A default-constructed entry has a null payload. -/
structure RingEntry (β : Type*) where
  /-- The key of the entry. -/
  seq : ℕ
  /-- The serialized update; `none` is the null pointer of a slot never written. -/
  payload : Option β
deriving Repr, DecidableEq

/-- The ring. -/
structure RingBuffer (β : Type*) where
  /-- The fixed number of slots. -/
  capacity : ℕ
  /-- The slots, ring-indexed. -/
  entries : List (RingEntry β)
  /-- The next write position. -/
  head : ℕ
  /-- How many slots are live. -/
  filled : ℕ
  /-- The highest pushed key; zero before the first push. -/
  headSeq : ℕ
  /-- The constructor refuses an empty ring. -/
  capacity_pos : 0 < capacity
  length_entries : entries.length = capacity
  head_lt : head < capacity
  filled_le : filled ≤ capacity

namespace RingBuffer

variable {β : Type*}

/-- A fresh ring of positive capacity. -/
def empty (capacity : ℕ) (h : 0 < capacity) : RingBuffer β where
  capacity := capacity
  entries := List.replicate capacity ⟨0, none⟩
  head := 0
  filled := 0
  headSeq := 0
  capacity_pos := h
  length_entries := length_replicate
  head_lt := h
  filled_le := Nat.zero_le _

/-- The constructor, which throws on a zero capacity. -/
def create (capacity : ℕ) : Except String (RingBuffer β) :=
  if h : 0 < capacity then .ok (empty capacity h)
  else .error "RingBuffer capacity must be > 0"

/-- `RingBuffer::Push`. -/
def push (r : RingBuffer β) (seq : ℕ) (payload : β) : Except String (RingBuffer β) :=
  if r.headSeq ≠ 0 ∧ seq ≤ r.headSeq then
    .error "RingBuffer::Push: seq must be strictly increasing"
  else
    .ok
      { capacity := r.capacity
        entries := r.entries.set r.head ⟨seq, some payload⟩
        head := (r.head + 1) % r.capacity
        filled := if r.filled < r.capacity then r.filled + 1 else r.filled
        headSeq := seq
        capacity_pos := r.capacity_pos
        length_entries := by rw [length_set, r.length_entries]
        head_lt := Nat.mod_lt _ r.capacity_pos
        filled_le := by
          have := r.filled_le
          split <;> omega }

/-- Read a slot. The index is in range at every call, so the default is never taken. -/
def entryAt (r : RingBuffer β) (idx : ℕ) : RingEntry β :=
  (r.entries[idx]?).getD ⟨0, none⟩

/-- The copy loop of `GetFromSeq`: `count` slots backward from `idx`, newest first. -/
def copyBackward (r : RingBuffer β) : ℕ → ℕ → List (RingEntry β)
  | 0, _ => []
  | count + 1, idx =>
    r.entryAt idx :: r.copyBackward count ((idx + r.capacity - 1) % r.capacity)

/-- `RingBuffer::GetFromSeq`. -/
def getFromSeq (r : RingBuffer β) (fromSeq : ℕ) : Option (List (RingEntry β)) :=
  if r.filled = 0 then none
  else
    let tailSeq := wrapSub 64 r.headSeq (r.filled - 1)
    if wrapAdd 64 fromSeq 1 < tailSeq then none  -- too old
    else if r.headSeq < fromSeq then none  -- the client is ahead of the server
    else if fromSeq = r.headSeq then some []
    else
      let count := r.headSeq - fromSeq
      some (r.copyBackward count ((r.head + r.capacity - 1) % r.capacity)).reverse

/-- `RingBuffer::Size`. -/
def size (r : RingBuffer β) : ℕ := r.filled

/-! ### Reading the ring from its newest entry -/

/-- The `j`-th newest slot. -/
def newest (r : RingBuffer β) (j : ℕ) : RingEntry β :=
  r.entryAt ((r.head + r.capacity - 1 - j) % r.capacity)

variable {r r' : RingBuffer β} {payload : β} {seq : ℕ}

/-- What an accepted push returns, field by field. -/
theorem push_eq_ok (h : r.push seq payload = .ok r') :
    (r.headSeq = 0 ∨ r.headSeq < seq) ∧ r'.capacity = r.capacity ∧
      r'.entries = r.entries.set r.head ⟨seq, some payload⟩ ∧
      r'.head = (r.head + 1) % r.capacity ∧
      r'.filled = (if r.filled < r.capacity then r.filled + 1 else r.filled) ∧
      r'.headSeq = seq := by
  unfold push at h
  split at h
  · cases h
  · rename_i hguard
    cases h
    exact ⟨by omega, rfl, rfl, rfl, rfl, rfl⟩

/-- A push is accepted exactly when the key is new. -/
theorem exists_push_ok {r : RingBuffer β} (payload : β) (h : r.headSeq = 0 ∨ r.headSeq < seq) :
    ∃ r', r.push seq payload = .ok r' := by
  unfold push
  rw [if_neg (by omega)]
  exact ⟨_, rfl⟩

/-- The pushed entry is the newest. -/
theorem newest_push_zero (h : r.push seq payload = .ok r') : r'.newest 0 = ⟨seq, some payload⟩ := by
  obtain ⟨-, hcap, hent, hhead, -, -⟩ := push_eq_ok h
  have hlt := r.head_lt
  have hidx : ((r.head + 1) % r.capacity + r.capacity - 1 - 0) % r.capacity = r.head := by
    rcases Nat.lt_or_ge (r.head + 1) r.capacity with hlt' | hge
    · rw [Nat.mod_eq_of_lt hlt',
        show r.head + 1 + r.capacity - 1 - 0 = r.head + r.capacity by omega,
        Nat.add_mod_right, Nat.mod_eq_of_lt hlt]
    · have heq : r.head + 1 = r.capacity := by omega
      rw [heq, Nat.mod_self, Nat.mod_eq_of_lt (by omega)]
      omega
  rw [newest, entryAt, hhead, hcap, hidx, hent,
    getElem?_set_self (by rw [r.length_entries]; exact hlt), Option.getD_some]

/-- A push moves the other entries back by one. -/
theorem newest_push_succ {seq j : ℕ} (h : r.push seq payload = .ok r') (hj : j + 1 < r.capacity) :
    r'.newest (j + 1) = r.newest j := by
  obtain ⟨-, hcap, hent, hhead, -, -⟩ := push_eq_ok h
  have hlt := r.head_lt
  have hidx : ((r.head + 1) % r.capacity + r.capacity - 1 - (j + 1)) % r.capacity =
      (r.head + r.capacity - 1 - j) % r.capacity := by
    rcases Nat.lt_or_ge (r.head + 1) r.capacity with hlt' | hge
    · rw [Nat.mod_eq_of_lt hlt',
        show r.head + 1 + r.capacity - 1 - (j + 1) = r.head + r.capacity - 1 - j by omega]
    · have heq : r.head + 1 = r.capacity := by omega
      rw [heq, Nat.mod_self,
        show r.head + r.capacity - 1 - j = (0 + r.capacity - 1 - (j + 1)) + r.capacity by omega,
        Nat.add_mod_right]
  have hne : r.head ≠ (r.head + r.capacity - 1 - j) % r.capacity := by
    rcases Nat.lt_or_ge j r.head with hjh | hjh
    · rw [show r.head + r.capacity - 1 - j = (r.head - 1 - j) + r.capacity by omega,
        Nat.add_mod_right, Nat.mod_eq_of_lt (by omega)]
      omega
    · rw [Nat.mod_eq_of_lt (by omega)]
      omega
  rw [newest, newest, entryAt, entryAt, hhead, hcap, hidx, hent, getElem?_set_ne hne]

/-- **The copy loop walks the newest entries in order.** -/
theorem copyBackward_eq_map (r : RingBuffer β) (count j : ℕ) (h : j + count ≤ r.capacity) :
    r.copyBackward count ((r.head + r.capacity - 1 - j) % r.capacity) =
      (List.range' j count).map r.newest := by
  induction count generalizing j with
  | zero => rfl
  | succ count ih =>
    rw [copyBackward, range'_succ, map_cons]
    refine congrArg (r.newest j :: ·) ?_
    rcases count with - | count
    · rfl
    · -- one slot back from the `j`-th newest is the `(j + 1)`-st newest
      have hlt := r.head_lt
      have hidx : ((r.head + r.capacity - 1 - j) % r.capacity + r.capacity - 1) % r.capacity =
          (r.head + r.capacity - 1 - (j + 1)) % r.capacity := by
        rcases Nat.lt_or_ge j r.head with hjh | hjh
        · rw [show r.head + r.capacity - 1 - j = (r.head - 1 - j) + r.capacity by omega,
            Nat.add_mod_right, Nat.mod_eq_of_lt (show r.head - 1 - j < r.capacity by omega),
            show r.head - 1 - j + r.capacity - 1 = r.head + r.capacity - 1 - (j + 1) by omega]
        · rw [Nat.mod_eq_of_lt (show r.head + r.capacity - 1 - j < r.capacity by omega),
            show r.head + r.capacity - 1 - j + r.capacity - 1 =
              (r.head + r.capacity - 1 - (j + 1)) + r.capacity by omega, Nat.add_mod_right]
      rw [hidx, ih (j + 1) (by omega)]

/-! ### The abstract history -/

/-- The live entries, oldest first. -/
def contents (r : RingBuffer β) : List (RingEntry β) :=
  ((List.range' 0 r.filled).map r.newest).reverse

@[simp] theorem length_contents (r : RingBuffer β) : r.contents.length = r.filled := by
  simp [contents]

@[simp] theorem contents_empty (capacity : ℕ) (h : 0 < capacity) :
    (empty capacity h : RingBuffer β).contents = [] := rfl

/-- **A push appends, and drops the oldest entry of a full ring.** -/
theorem contents_push (h : r.push seq payload = .ok r') :
    r'.contents =
      (if r.filled < r.capacity then r.contents else r.contents.drop 1) ++
        [⟨seq, some payload⟩] := by
  obtain ⟨-, -, -, -, hfill, -⟩ := push_eq_ok h
  have hle := r.filled_le
  have hpos := r.capacity_pos
  -- the older part is the old walk, cut off at `n` entries
  have hshift : ∀ n, n < r.capacity →
      (List.range' 0 (n + 1)).map r'.newest =
        ⟨seq, some payload⟩ :: (List.range' 0 n).map r.newest := by
    intro n hn
    rw [range'_succ, map_cons, newest_push_zero h,
      range'_eq_map_range, range'_eq_map_range, map_map, map_map]
    refine congrArg _ (map_congr_left fun j hj ↦ ?_)
    have hjn : j < n := mem_range.1 hj
    show r'.newest (0 + 1 + j) = r.newest (0 + j)
    rw [show 0 + 1 + j = j + 1 by omega, show 0 + j = j by omega]
    exact newest_push_succ h (by omega)
  rcases Nat.lt_or_ge r.filled r.capacity with hlt | hge
  · rw [contents, hfill, if_pos hlt, if_pos hlt, hshift _ hlt, reverse_cons, contents]
  · have hfull : r.filled = r.capacity := by omega
    rw [contents, hfill, if_neg (by omega), if_neg (by omega),
      show r.filled = (r.filled - 1) + 1 by omega, hshift _ (by omega), reverse_cons,
      contents]
    refine congrArg (· ++ [(⟨seq, some payload⟩ : RingEntry β)]) ?_
    conv_rhs => rw [show r.filled = (r.filled - 1) + 1 by omega]
    rw [range'_concat, map_append, reverse_append]
    rfl

/-- The numbering that `getFromSeq` relies on: the live keys are consecutive up to `headSeq`. -/
structure Dense (r : RingBuffer β) : Prop where
  /-- Keys start at one, so there are no more live entries than keys. -/
  filled_le_headSeq : r.filled ≤ r.headSeq
  headSeq_lt : r.headSeq < 2 ^ 64
  /-- The live keys. -/
  seqs : r.contents.map RingEntry.seq = List.range' (r.headSeq + 1 - r.filled) r.filled

theorem dense_empty (capacity : ℕ) (h : 0 < capacity) :
    (empty capacity h : RingBuffer β).Dense :=
  ⟨Nat.le_refl _, Nat.two_pow_pos 64, rfl⟩

/-- Pushing the next key keeps the ring dense. -/
theorem Dense.push (hd : r.Dense) (h : r.push (r.headSeq + 1) payload = .ok r')
    (hlt : r.headSeq + 1 < 2 ^ 64) : r'.Dense := by
  obtain ⟨-, -, -, -, hfill, hseq⟩ := push_eq_ok h
  have hle := hd.filled_le_headSeq
  have hcap := r.filled_le
  have hpos := r.capacity_pos
  refine ⟨?_, hseq ▸ hlt, ?_⟩
  · rw [hfill, hseq]
    split <;> omega
  · rw [contents_push h, hfill, hseq]
    split
    · rw [map_append, hd.seqs, range'_concat]
      simp only [map_cons, map_nil]
      rw [show r.headSeq + 1 + 1 - (r.filled + 1) = r.headSeq + 1 - r.filled by omega,
        show r.headSeq + 1 - r.filled + 1 * r.filled = r.headSeq + 1 by omega]
    · rw [map_append, map_drop, hd.seqs]
      obtain ⟨n, hn⟩ : ∃ n, r.filled = n + 1 := ⟨r.filled - 1, by omega⟩
      rw [hn, range'_succ, drop_one, tail_cons, range'_concat]
      simp only [map_cons, map_nil]
      rw [show r.headSeq + 1 + 1 - (n + 1) = r.headSeq + 1 - (n + 1) + 1 by omega,
        show r.headSeq + 1 - (n + 1) + 1 + 1 * n = r.headSeq + 1 by omega]

/-- The last `count` entries, as the source copies them. -/
theorem copyBackward_reverse (r : RingBuffer β) {count : ℕ} (h : count ≤ r.filled) :
    (r.copyBackward count ((r.head + r.capacity - 1) % r.capacity)).reverse =
      r.contents.drop (r.filled - count) := by
  have hcap := r.filled_le
  have hwalk := r.copyBackward_eq_map count 0 (by omega)
  rw [Nat.sub_zero] at hwalk
  rw [hwalk, contents, drop_reverse, length_map, length_range',
    show r.filled - (r.filled - count) = count by omega, ← map_take,
    take_range'_of_length_ge h]

/-- **The exact answer of `getFromSeq` on a dense ring.** It answers exactly when `fromSeq` is at
most `filled` behind the head, not ahead of it, and not the largest word, whose increment wraps to
zero; then it returns precisely the part of the history after `fromSeq`. -/
theorem getFromSeq_of_dense {r : RingBuffer β} (hd : r.Dense) (fromSeq : ℕ) :
    r.getFromSeq fromSeq =
      if r.filled ≠ 0 ∧ fromSeq ≤ r.headSeq ∧ r.headSeq ≤ fromSeq + r.filled ∧
          fromSeq + 1 < 2 ^ 64 then
        some (r.contents.drop (fromSeq + r.filled - r.headSeq))
      else none := by
  have hle := hd.filled_le_headSeq
  have hlt := hd.headSeq_lt
  unfold getFromSeq
  by_cases h0 : r.filled = 0
  · rw [if_pos h0, if_neg (by omega)]
  rw [if_neg h0, wrapSub_of_le (by omega) hlt]
  by_cases hahead : r.headSeq < fromSeq
  · -- ahead of the head: rejected, whatever the wrapped increment is
    rw [if_neg (by omega : ¬ (r.filled ≠ 0 ∧ fromSeq ≤ r.headSeq ∧ _))]
    simp only [if_pos hahead, ite_self]
  by_cases htop : fromSeq + 1 = 2 ^ 64
  · simp only [wrapAdd_one_of_eq htop]
    rw [if_pos (by omega), if_neg (by omega)]
  simp only [wrapAdd_of_lt (show fromSeq + 1 < 2 ^ 64 by omega)]
  by_cases hold : fromSeq + 1 < r.headSeq - (r.filled - 1)
  · rw [if_pos hold, if_neg (by omega)]
  rw [if_neg hold, if_neg hahead]
  by_cases heq : fromSeq = r.headSeq
  · rw [if_pos heq, if_pos (by omega), heq,
      show r.headSeq + r.filled - r.headSeq = r.contents.length by rw [length_contents]; omega,
      drop_length]
  · rw [if_neg heq, if_pos (by omega),
      copyBackward_reverse r (show r.headSeq - fromSeq ≤ r.filled by omega),
      show r.filled - (r.headSeq - fromSeq) = fromSeq + r.filled - r.headSeq by omega]

/-- The keys replayed from a dense ring are exactly those after `fromSeq`. -/
theorem seqs_of_getFromSeq {r : RingBuffer β} (hd : r.Dense) {fromSeq : ℕ}
    {out : List (RingEntry β)} (h : r.getFromSeq fromSeq = some out) :
    fromSeq ≤ r.headSeq ∧
      out.map RingEntry.seq = List.range' (fromSeq + 1) (r.headSeq - fromSeq) ∧
      out <:+ r.contents := by
  rw [getFromSeq_of_dense hd] at h
  split at h
  · rename_i hc
    have hle := hd.filled_le_headSeq
    cases h
    refine ⟨hc.2.1, ?_, drop_suffix _ _⟩
    rw [map_drop, hd.seqs, drop_range']
    congr 1 <;> omega
  · cases h

end RingBuffer

end HighBar.Grpc
