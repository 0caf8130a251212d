import HighBar.Grpc.RingBuffer
import Mathlib.Data.List.DropRight

/-!
# What the ring replays after a run of pushes

`RingBuffer` describes one push. Here the ring is filled with **consecutive keys** from any positive
one on, as the gateway fills it, and asked for what follows an arbitrary word `fromSeq`.

* `contents_pushAll`: after any run the history is **the last `capacity` entries** of all that were
  pushed.
* `getFromSeqChecked_eq`: on a dense ring the source's unsigned subtractions do not wrap and its
  index is always that of a slot. `getFromSeqChecked` is the source with every subtraction and every
  slot access **tested**, so the statement is that no test fails.

The largest word has no successor, and `from_seq + 1` wraps to zero there. That goes unnoticed only
because the head is not the largest word itself.
-/

namespace HighBar.Grpc.RingBuffer

open List Option

variable {β : Type*}

/-! ### A run of pushes -/

/-- Push payloads under the keys `seq`, `seq + 1`, and so on. -/
def pushAll (r : RingBuffer β) (seq : ℕ) : List β → Except String (RingBuffer β)
  | [] => .ok r
  | payload :: payloads =>
    match r.push seq payload with
    | .error e => .error e
    | .ok r' => r'.pushAll (seq + 1) payloads

/-- The entries such a run writes, oldest first. -/
def pushedEntries (seq : ℕ) : List β → List (RingEntry β)
  | [] => []
  | payload :: payloads => ⟨seq, some payload⟩ :: pushedEntries (seq + 1) payloads

@[simp] theorem length_pushedEntries (seq : ℕ) (payloads : List β) :
    (pushedEntries seq payloads).length = payloads.length := by
  induction payloads generalizing seq with
  | nil => rfl
  | cons payload payloads ih => rw [pushedEntries, length_cons, ih, length_cons]

/-- The keys of a run rise, so its entries after a key are a suffix of it. -/
theorem filter_pushedEntries (seq fromSeq : ℕ) (payloads : List β) :
    (pushedEntries seq payloads).filter (fun entry ↦ decide (fromSeq < entry.seq)) =
      (pushedEntries seq payloads).drop (fromSeq + 1 - seq) := by
  induction payloads generalizing seq with
  | nil => rw [pushedEntries, filter_nil, drop_nil]
  | cons payload payloads ih =>
    rw [pushedEntries, filter_cons]
    by_cases hlt : fromSeq < seq
    · rw [if_pos (by simpa using hlt), ih (seq + 1), show fromSeq + 1 - (seq + 1) = 0 by omega,
        show fromSeq + 1 - seq = 0 by omega, drop_zero, drop_zero]
    · rw [if_neg (by simpa using hlt), ih (seq + 1),
        show fromSeq + 1 - seq = fromSeq + 1 - (seq + 1) + 1 by omega, drop_succ_cons]

/-- Cutting off old entries before an append changes nothing that is kept afterwards. -/
theorem rtake_rtake_append (l m : List (RingEntry β)) (n : ℕ) :
    (l.rtake n ++ m).rtake n = (l ++ m).rtake n := by
  rw [List.rtake, List.rtake, List.rtake, length_append, length_append, length_drop]
  rcases Nat.le_total l.length n with hle | hle
  · rw [show l.length - n = 0 by omega, drop_zero, Nat.sub_zero]
  · rw [drop_append, drop_append, length_drop, drop_drop]
    congr 2 <;> omega

theorem contents_push_eq_rtake {r r' : RingBuffer β} {seq : ℕ} {payload : β}
    (h : r.push seq payload = .ok r') :
    r'.contents = (r.contents ++ [(⟨seq, some payload⟩ : RingEntry β)]).rtake r.capacity := by
  have hle := r.filled_le
  have hpos := r.capacity_pos
  rw [contents_push h, List.rtake, length_append, length_contents, length_singleton]
  split_ifs with hroom
  · rw [show r.filled + 1 - r.capacity = 0 by omega, drop_zero]
  · rw [show r.filled + 1 - r.capacity = 1 by omega,
      drop_append_of_le_length (by rw [length_contents]; omega)]

/-- **After a run the history is the last `capacity` entries of all there were.** -/
theorem contents_pushAll {r r' : RingBuffer β} {seq : ℕ} {payloads : List β}
    (h : r.pushAll seq payloads = .ok r') :
    r'.capacity = r.capacity ∧
      r'.contents = (r.contents ++ pushedEntries seq payloads).rtake r.capacity := by
  induction payloads generalizing r seq with
  | nil =>
    obtain rfl := Except.ok.inj h
    refine ⟨rfl, ?_⟩
    rw [pushedEntries, append_nil, List.rtake, length_contents,
      Nat.sub_eq_zero_of_le r.filled_le, drop_zero]
  | cons payload payloads ih =>
    rw [pushAll] at h
    rcases hpush : r.push seq payload with e | r₁
    · rw [hpush] at h
      cases h
    · rw [hpush] at h
      obtain ⟨-, hcap, -⟩ := push_eq_ok hpush
      obtain ⟨hcap', hcontents⟩ := ih h
      refine ⟨hcap'.trans hcap, ?_⟩
      rw [hcontents, contents_push_eq_rtake hpush, hcap, rtake_rtake_append, pushedEntries,
        append_assoc, singleton_append]

/-- Consecutive keys are all accepted, and a dense ring stays dense. -/
theorem Dense.pushAll {r : RingBuffer β} (hd : r.Dense) (payloads : List β)
    (hlt : r.headSeq + payloads.length < 2 ^ 64) :
    ∃ r', r.pushAll (r.headSeq + 1) payloads = .ok r' ∧ r'.Dense ∧
      r'.headSeq = r.headSeq + payloads.length ∧
      r'.filled = min (r.filled + payloads.length) r.capacity := by
  induction payloads generalizing r with
  | nil =>
    have hle := r.filled_le
    exact ⟨r, rfl, hd, rfl, by rw [length_nil]; omega⟩
  | cons payload payloads ih =>
    rw [length_cons] at hlt
    obtain ⟨r₁, hpush⟩ := exists_push_ok payload (r := r) (Or.inr (Nat.lt_succ_self r.headSeq))
    obtain ⟨-, hcap, -, -, hfill, hseq⟩ := push_eq_ok hpush
    obtain ⟨r', hrun, hd', hhead, hfilled⟩ :=
      ih (hd.push hpush (by omega)) (by rw [hseq]; omega)
    refine ⟨r', ?_, hd', ?_, ?_⟩
    · rw [RingBuffer.pushAll, hpush]
      rw [hseq] at hrun
      exact hrun
    · rw [hhead, hseq, length_cons]
      omega
    · have hle := r.filled_le
      rw [hfilled, hfill, hcap, length_cons]
      split_ifs <;> omega

/-- The first key may be any positive one: the ring is dense from then on. -/
theorem dense_push_empty {capacity seq : ℕ} {h : 0 < capacity} {payload : β}
    {r : RingBuffer β} (hpush : (empty capacity h).push seq payload = .ok r) (hseq : 0 < seq)
    (hlt : seq < 2 ^ 64) : r.Dense ∧ r.headSeq = seq ∧ r.filled = 1 ∧ r.capacity = capacity := by
  obtain ⟨-, hcap, -, -, hfill, hhead⟩ := push_eq_ok hpush
  have hroom : (empty capacity h : RingBuffer β).filled <
      (empty capacity h : RingBuffer β).capacity := h
  have hfilled : r.filled = 1 := by
    rw [hfill, if_pos hroom]
    rfl
  have hcontents : r.contents = [⟨seq, some payload⟩] := by
    rw [contents_push hpush, if_pos hroom, contents_empty, nil_append]
  refine ⟨⟨by omega, by omega, ?_⟩, hhead, hfilled, hcap⟩
  rw [hcontents, hfilled, hhead]
  rfl

/-! ### The source with every subtraction and every index tested -/

/-- An unsigned subtraction, `none` where it would wrap. -/
def checkedSub (a b : ℕ) : Option ℕ := if b ≤ a then some (a - b) else none

theorem checkedSub_of_le {a b : ℕ} (h : b ≤ a) : checkedSub a b = some (a - b) := if_pos h

/-- The copy loop, `none` where a subtraction wraps or an index is not that of a slot. -/
def copyBackwardChecked (r : RingBuffer β) : ℕ → ℕ → Option (List (RingEntry β))
  | 0, _ => some []
  | count + 1, idx =>
    (r.entries[idx]?).bind fun entry ↦
      (checkedSub (idx + r.capacity) 1).bind fun next ↦
        (r.copyBackwardChecked count (next % r.capacity)).map fun rest ↦ entry :: rest

/-- `GetFromSeq`; the outer option says whether every test was passed. -/
def getFromSeqChecked (r : RingBuffer β) (fromSeq : ℕ) :
    Option (Option (List (RingEntry β))) :=
  if r.filled = 0 then some none
  else
    ((checkedSub r.filled 1).bind (checkedSub r.headSeq)).bind fun tailSeq ↦
      if wrapAdd 64 fromSeq 1 < tailSeq then some none
      else if r.headSeq < fromSeq then some none
      else if fromSeq = r.headSeq then some (some [])
      else
        (checkedSub r.headSeq fromSeq).bind fun count ↦
          (checkedSub (r.head + r.capacity) 1).bind fun idx ↦
            (r.copyBackwardChecked count (idx % r.capacity)).map fun out ↦ some out.reverse

/-- The index of the loop never leaves the ring. -/
theorem copyBackwardChecked_eq (r : RingBuffer β) (count : ℕ) {idx : ℕ} (h : idx < r.capacity) :
    r.copyBackwardChecked count idx = some (r.copyBackward count idx) := by
  induction count generalizing idx with
  | zero => rfl
  | succ count ih =>
    have hidx : idx < r.entries.length := by
      rw [r.length_entries]
      exact h
    have hpos := r.capacity_pos
    rw [copyBackwardChecked, getElem?_eq_getElem hidx, bind_some,
      checkedSub_of_le (show 1 ≤ idx + r.capacity by omega), bind_some,
      ih (Nat.mod_lt _ hpos), map_some, copyBackward, entryAt,
      getElem?_eq_getElem hidx, getD_some]

/-- **No subtraction of `GetFromSeq` wraps and no index leaves the ring**, on a dense one. -/
theorem getFromSeqChecked_eq {r : RingBuffer β} (hd : r.Dense) (fromSeq : ℕ) :
    r.getFromSeqChecked fromSeq = some (r.getFromSeq fromSeq) := by
  have hle := hd.filled_le_headSeq
  have hpos := r.capacity_pos
  rw [getFromSeqChecked, getFromSeq]
  by_cases hempty : r.filled = 0
  · rw [if_pos hempty, if_pos hempty]
  have holder : r.filled - 1 ≤ r.headSeq := by omega
  rw [if_neg hempty, if_neg hempty, checkedSub_of_le (show 1 ≤ r.filled by omega),
    bind_some, checkedSub_of_le holder, bind_some,
    wrapSub_of_le holder hd.headSeq_lt]
  dsimp only
  split_ifs with hold hahead heq
  · rfl
  · rfl
  · rfl
  · rw [checkedSub_of_le (show fromSeq ≤ r.headSeq by omega), bind_some,
      checkedSub_of_le (show 1 ≤ r.head + r.capacity by omega), bind_some,
      r.copyBackwardChecked_eq _ (Nat.mod_lt _ hpos), map_some]

/-! ### The exact answer -/

/-- **The ring replays exactly what it retains**, for every word a client can ask for. Each push of
the run writes to a slot, and no test of `getFromSeqChecked` fails. -/
theorem getFromSeq_after_run (capacity : ℕ) (hcapacity : 0 < capacity) (seq : ℕ) (hseq : 0 < seq)
    (payloads : List β) (hne : payloads ≠ []) (hlt : seq + payloads.length - 1 < 2 ^ 64 - 1) :
    (∀ n r, (empty capacity hcapacity).pushAll seq (payloads.take n) = .ok r →
      r.head < r.entries.length) ∧
    ∃ r : RingBuffer β, (empty capacity hcapacity).pushAll seq payloads = .ok r ∧
      r.headSeq = seq + payloads.length - 1 ∧
      ∀ fromSeq, fromSeq < 2 ^ 64 →
        (r.getFromSeq fromSeq = none ↔
          r.headSeq < fromSeq ∨ fromSeq + 1 < r.headSeq - min payloads.length capacity + 1) ∧
        (∀ out, r.getFromSeq fromSeq = some out →
          out = (pushedEntries seq payloads).filter fun entry ↦ decide (fromSeq < entry.seq)) ∧
        r.getFromSeqChecked fromSeq = some (r.getFromSeq fromSeq) := by
  refine ⟨fun _ r _ ↦ by rw [r.length_entries]; exact r.head_lt, ?_⟩
  obtain ⟨payload, rest, rfl⟩ := exists_cons_of_ne_nil hne
  rw [length_cons] at hlt
  obtain ⟨r₁, hpush⟩ := exists_push_ok payload (r := empty capacity hcapacity)
    (Or.inl rfl : _ ∨ _ < seq)
  obtain ⟨hd₁, hhead₁, hfilled₁, hcap₁⟩ := dense_push_empty hpush hseq (by omega)
  obtain ⟨r, hrun₁, hd, hhead, hfilled⟩ := hd₁.pushAll rest (by omega)
  have hrun : (empty capacity hcapacity).pushAll seq (payload :: rest) = .ok r := by
    rw [pushAll, hpush]
    rw [hhead₁] at hrun₁
    exact hrun₁
  obtain ⟨-, hcontents⟩ := contents_pushAll hrun
  rw [contents_empty, nil_append, List.rtake, length_pushedEntries] at hcontents
  rw [hhead₁] at hhead
  rw [hfilled₁, hcap₁] at hfilled
  refine ⟨r, hrun, by rw [hhead, length_cons]; omega, fun fromSeq hfrom ↦ ⟨?_, ?_,
    getFromSeqChecked_eq hd fromSeq⟩⟩
  · rw [getFromSeq_of_dense hd, length_cons]
    split_ifs with h
    · exact iff_of_false nofun (by omega)
    · exact iff_of_true rfl (by omega)
  · intro out hout
    rw [getFromSeq_of_dense hd] at hout
    split_ifs at hout with h
    cases hout
    rw [hcontents, drop_drop, filter_pushedEntries, length_cons]
    refine congrArg (fun n ↦ List.drop n (pushedEntries seq (payload :: rest))) ?_
    rw [show (empty capacity hcapacity : RingBuffer β).capacity = capacity from rfl]
    omega

/-- Three updates in a ring of two: the oldest is gone, the other two are replayed. -/
theorem getFromSeq_after_run_evicted :
    ∃ r : RingBuffer String, (empty 2 (by decide)).pushAll 5 ["a", "b", "c"] = .ok r ∧
      r.getFromSeq 4 = none ∧ r.getFromSeq 5 = some [⟨6, some "b"⟩, ⟨7, some "c"⟩] := by
  obtain ⟨-, r, hrun, hhead, hanswer⟩ := getFromSeq_after_run 2 (by decide) 5 (by decide)
    ["a", "b", "c"] (by decide) (by decide)
  refine ⟨r, hrun, (hanswer 4 (by decide)).1.2 (Or.inr (by rw [hhead]; decide)), ?_⟩
  rcases hout : r.getFromSeq 5 with - | out
  · have hnone := (hanswer 5 (by decide)).1.1 hout
    rw [hhead] at hnone
    exact absurd hnone (by decide)
  · rw [(hanswer 5 (by decide)).2.1 out hout]
    rfl

end HighBar.Grpc.RingBuffer
