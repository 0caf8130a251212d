import HighBar.Grpc.RingBufferReplay
import Mathlib.Data.List.Perm.Subperm

/-!
# What the ring replays when the keys have gaps

`Push` asks only that a key be greater than the last one; nothing makes the keys consecutive. Here
the ring is filled with **any keys it accepts** and asked for what follows an arbitrary word.

`History r pushed` ties a ring to everything that was ever pushed on it, and one push preserves it.
Over such a ring two numbers decide the answer of `getFromSeq`:

* `head - from`, the number of entries the copy loop takes from the end of the history, and
* the number of pushed keys after `from`.

The second is never larger (`countP_le_sub`), so **nothing that is retained is missing** from an
answer. They are equal exactly if every key after `from` was pushed (`forall_pushed_iff`); otherwise
the loop takes too many entries, and those are keys the client has already seen.

The guard of `Push` compares with the last key only when that key is not zero, so the key zero may
be pushed again and again; `Follows` is the order the guard really enforces.
-/

namespace HighBar.Grpc.RingBuffer

open List

variable {β : Type*}

/-! ### Runs of accepted pushes -/

/-- Push payloads under their own keys. -/
def pushEach (r : RingBuffer β) : List (ℕ × β) → Except String (RingBuffer β)
  | [] => .ok r
  | (seq, payload) :: pushes =>
    match r.push seq payload with
    | .error e => .error e
    | .ok r' => r'.pushEach pushes

/-- The entry a push writes. -/
def entryOf (p : ℕ × β) : RingEntry β := ⟨p.1, some p.2⟩

/-- The order that `Push` enforces between an entry and a later one. -/
def Follows (a b : RingEntry β) : Prop := a.seq < b.seq ∨ (a.seq = 0 ∧ b.seq = 0)

/-- **What a ring has been through**: the entries pushed so far, oldest first. -/
structure History (r : RingBuffer β) (pushed : List (RingEntry β)) : Prop where
  contents_eq : r.contents = pushed.rtake r.capacity
  follows : pushed.Pairwise Follows
  le_headSeq : ∀ entry ∈ pushed, entry.seq ≤ r.headSeq
  headSeq_lt : r.headSeq < 2 ^ 64

theorem history_empty (capacity : ℕ) (h : 0 < capacity) :
    (empty capacity h : RingBuffer β).History [] where
  contents_eq := by rw [contents_empty, List.rtake, drop_nil]
  follows := List.Pairwise.nil
  le_headSeq := fun _ hentry ↦ absurd hentry not_mem_nil
  headSeq_lt := Nat.two_pow_pos 64

/-- One push. -/
theorem History.push {r r' : RingBuffer β} {pushed : List (RingEntry β)} {p : ℕ × β}
    (hr : r.History pushed) (h : r.push p.1 p.2 = .ok r') (hlt : p.1 < 2 ^ 64) :
    r'.History (pushed ++ [entryOf p]) := by
  obtain ⟨hguard, hcap, -, -, -, hseq⟩ := push_eq_ok h
  refine ⟨?_, ?_, ?_, hseq ▸ hlt⟩
  · rw [contents_push_eq_rtake h, hr.contents_eq, hcap, rtake_rtake_append]
    rfl
  · refine pairwise_append.2 ⟨hr.follows, pairwise_singleton _ _, ?_⟩
    intro entry hentry last hlast
    obtain rfl := mem_singleton.1 hlast
    have hle := hr.le_headSeq entry hentry
    show entry.seq < p.1 ∨ (entry.seq = 0 ∧ p.1 = 0)
    omega
  · intro entry hentry
    rw [hseq]
    rcases mem_append.1 hentry with hold | hlast
    · have hle := hr.le_headSeq entry hold
      omega
    · rw [mem_singleton.1 hlast]
      exact Nat.le_refl _

/-- A run of pushes. -/
theorem History.pushEach {r r' : RingBuffer β} {pushed : List (RingEntry β)}
    {pushes : List (ℕ × β)} (hr : r.History pushed) (h : r.pushEach pushes = .ok r')
    (hlt : ∀ p ∈ pushes, p.1 < 2 ^ 64) :
    r'.History (pushed ++ pushes.map entryOf) ∧ r'.capacity = r.capacity := by
  induction pushes generalizing r pushed with
  | nil =>
    obtain rfl := Except.ok.inj h
    rw [map_nil, append_nil]
    exact ⟨hr, rfl⟩
  | cons p pushes ih =>
    rw [RingBuffer.pushEach] at h
    rcases hpush : r.push p.1 p.2 with e | r₁
    · rw [hpush] at h
      cases h
    · rw [hpush] at h
      obtain ⟨-, hcap, -⟩ := push_eq_ok hpush
      have hr₁ := hr.push hpush (hlt p mem_cons_self)
      obtain ⟨hr', hcap'⟩ := ih hr₁ h fun q hq ↦ hlt q (mem_cons_of_mem _ hq)
      rw [append_assoc, singleton_append] at hr'
      exact ⟨hr', hcap'.trans hcap⟩

/-! ### The keys after a given one -/

/-- Whether an entry is newer than what the client has. -/
def isAfter (fromSeq : ℕ) (entry : RingEntry β) : Bool := decide (fromSeq < entry.seq)

/-- In a list whose later elements keep a property, the elements that have it are the last ones. -/
theorem filter_eq_rtake {α : Type*} (p : α → Bool) {l : List α}
    (h : l.Pairwise fun a b ↦ p a = true → p b = true) : l.filter p = l.rtake (l.countP p) := by
  induction l with
  | nil => rfl
  | cons a l ih =>
    obtain ⟨ha, hl⟩ := pairwise_cons.1 h
    rcases hpa : p a with - | -
    · rw [filter_cons_of_neg (by rw [hpa]; decide), ih hl, countP_cons_of_neg (by
        rw [hpa]; decide), List.rtake, List.rtake, length_cons,
        Nat.succ_sub countP_le_length, drop_succ_cons]
    · have hall : ∀ b ∈ a :: l, p b = true :=
        forall_mem_cons.2 ⟨hpa, fun b hb ↦ ha b hb hpa⟩
      rw [filter_eq_self.2 hall, countP_eq_length.2 hall, List.rtake, Nat.sub_self,
        drop_zero]

namespace History

variable {r : RingBuffer β} {pushed : List (RingEntry β)}

section Kept

variable (hr : r.History pushed)
include hr

/-- The entries after a key are the last ones pushed. -/
theorem filter_isAfter (fromSeq : ℕ) :
    pushed.filter (isAfter fromSeq) = pushed.rtake (pushed.countP (isAfter fromSeq)) := by
  refine filter_eq_rtake _ (hr.follows.imp fun {a b} hab ha ↦ ?_)
  have hlt : fromSeq < a.seq := of_decide_eq_true ha
  refine decide_eq_true ?_
  rcases hab with hab | ⟨hab, -⟩ <;> omega

/-- Their keys rise strictly, since none of them is zero. -/
theorem pairwise_filter (fromSeq : ℕ) :
    (pushed.filter (isAfter fromSeq)).Pairwise fun a b ↦ a.seq < b.seq := by
  refine (hr.follows.filter _).imp_of_mem fun {a b} ha _ hab ↦ ?_
  have hlt : fromSeq < a.seq := of_decide_eq_true (mem_filter.1 ha).2
  rcases hab with hab | ⟨hzero, -⟩ <;> omega

theorem seqs_nodup (fromSeq : ℕ) : ((pushed.filter (isAfter fromSeq)).map RingEntry.seq).Nodup :=
  pairwise_map.2 ((hr.pairwise_filter fromSeq).imp fun hab ↦ Nat.ne_of_lt hab)

/-- Their keys lie between `fromSeq` and the head. -/
theorem seqs_subperm (fromSeq : ℕ) :
    ((pushed.filter (isAfter fromSeq)).map RingEntry.seq).Subperm
      (List.range' (fromSeq + 1) (r.headSeq - fromSeq)) := by
  refine subperm_of_subset (hr.seqs_nodup fromSeq) fun seq hseq ↦ ?_
  obtain ⟨entry, hentry, rfl⟩ := mem_map.1 hseq
  obtain ⟨hmem, hafter⟩ := mem_filter.1 hentry
  have hlt : fromSeq < entry.seq := of_decide_eq_true hafter
  have hle := hr.le_headSeq entry hmem
  exact mem_range'_1.2 ⟨by omega, by omega⟩

/-- There are at most as many keys after `fromSeq` as the copy loop takes. -/
theorem countP_le_sub (fromSeq : ℕ) : pushed.countP (isAfter fromSeq) ≤ r.headSeq - fromSeq := by
  have hle := (hr.seqs_subperm fromSeq).length_le
  rwa [length_map, length_range', ← countP_eq_length_filter] at hle

/-- **There are as many exactly if no key after `fromSeq` was left out.** -/
theorem forall_pushed_iff (fromSeq : ℕ) :
    (∀ seq, fromSeq < seq → seq ≤ r.headSeq → seq ∈ pushed.map RingEntry.seq) ↔
      pushed.countP (isAfter fromSeq) = r.headSeq - fromSeq := by
  refine ⟨fun hall ↦ Nat.le_antisymm (hr.countP_le_sub fromSeq) ?_, fun hcount seq hlt hle ↦ ?_⟩
  · -- all the keys of the interval occur among the entries after `fromSeq`
    have hsub : (List.range' (fromSeq + 1) (r.headSeq - fromSeq)).Subperm
        ((pushed.filter (isAfter fromSeq)).map RingEntry.seq) := by
      refine subperm_of_subset nodup_range' fun seq hseq ↦ ?_
      obtain ⟨hge, hlt⟩ := mem_range'_1.1 hseq
      obtain ⟨entry, hentry, rfl⟩ := mem_map.1 (hall seq (by omega) (by omega))
      exact mem_map_of_mem (mem_filter.2 ⟨hentry, decide_eq_true (by omega)⟩)
    have hle := hsub.length_le
    rwa [length_map, length_range', ← countP_eq_length_filter] at hle
  · have hperm := (hr.seqs_subperm fromSeq).perm_of_length_le (by
      rw [length_map, length_range', ← countP_eq_length_filter, hcount])
    have hseq := hperm.mem_iff.2 (mem_range'_1.2 ⟨hlt, by omega⟩)
    obtain ⟨entry, hentry, rfl⟩ := mem_map.1 hseq
    exact mem_map_of_mem (mem_filter.1 hentry).1

/-! ### The answer -/

theorem filled_eq : r.filled = min r.capacity pushed.length := by
  rw [← length_contents, hr.contents_eq, List.rtake, length_drop]
  omega

/-- **The answer for a key behind the head**: the last `head - from` entries, or none at all. -/
theorem getFromSeq_of_lt (hcap : r.capacity < 2 ^ 64) {fromSeq : ℕ} (hlt : fromSeq < r.headSeq) :
    r.getFromSeq fromSeq =
      if r.headSeq - fromSeq ≤ r.filled ∧ r.filled ≤ r.headSeq + 1 then
        some (pushed.rtake (r.headSeq - fromSeq))
      else none := by
  have hhead := hr.headSeq_lt
  have hfilled := r.filled_le
  have hnext : wrapAdd 64 fromSeq 1 = fromSeq + 1 := wrapAdd_of_lt (by omega)
  unfold getFromSeq
  by_cases h0 : r.filled = 0
  · rw [if_pos h0, if_neg (by omega)]
  rw [if_neg h0, hnext]
  by_cases hle : r.filled ≤ r.headSeq + 1
  · -- the oldest key is computed without wrapping
    rw [wrapSub_of_le (show r.filled - 1 ≤ r.headSeq by omega) hhead]
    by_cases hcount : r.headSeq - fromSeq ≤ r.filled
    · have hlen := hr.filled_eq
      simp only [if_neg (show ¬ fromSeq + 1 < r.headSeq - (r.filled - 1) by omega),
        if_neg (show ¬ r.headSeq < fromSeq by omega), if_neg (show ¬ fromSeq = r.headSeq by omega),
        if_pos (show _ ∧ _ from ⟨hcount, hle⟩)]
      rw [copyBackward_reverse r hcount, hr.contents_eq, List.rtake, List.rtake, drop_drop]
      refine congrArg some (congrArg (fun n ↦ List.drop n pushed) ?_)
      omega
    · simp only [if_pos (show fromSeq + 1 < r.headSeq - (r.filled - 1) by omega)]
      rw [if_neg (by omega)]
  · -- it wraps to a word above every key
    have htail : wrapSub 64 r.headSeq (r.filled - 1) = r.headSeq + (2 ^ 64 - (r.filled - 1)) := by
      rw [wrapSub, Nat.mod_eq_of_lt (show r.filled - 1 < 2 ^ 64 by omega),
        Nat.mod_eq_of_lt (by omega)]
    rw [htail, if_pos (by omega), if_neg (by omega)]

end Kept

/-- At the head there is nothing newer, and ahead of it there is no answer. -/
theorem getFromSeq_of_le (r : RingBuffer β) {fromSeq : ℕ} {out : List (RingEntry β)}
    (hle : r.headSeq ≤ fromSeq) (h : r.getFromSeq fromSeq = some out) :
    fromSeq = r.headSeq ∧ out = [] := by
  unfold getFromSeq at h
  dsimp only at h
  split_ifs at h with h0 hold hahead heq
  · exact ⟨heq, (Option.some.inj h).symm⟩
  · omega

end History

/-- **Replay soundness**: what is returned is newer than `fromSeq` and in strict order, and nothing
that is retained and newer is left out. -/
def SoundReplay (r : RingBuffer β) (fromSeq : ℕ) : Prop :=
  ∀ out, r.getFromSeq fromSeq = some out →
    (∀ entry ∈ out, fromSeq < entry.seq) ∧ (out.Pairwise fun a b ↦ a.seq < b.seq) ∧
      ∀ entry ∈ r.contents, fromSeq < entry.seq → entry ∈ out

/-- The resume points that the arithmetic of `getFromSeq` takes to be in range: behind the head by
at most the number of live entries, in a ring that has no more entries than there are keys. -/
def Answers (r : RingBuffer β) (fromSeq : ℕ) : Prop :=
  fromSeq < r.headSeq ∧ r.headSeq - fromSeq ≤ r.filled ∧ r.filled ≤ r.headSeq + 1

instance (r : RingBuffer β) (fromSeq : ℕ) : Decidable (r.Answers fromSeq) :=
  inferInstanceAs (Decidable (_ ∧ _ ∧ _))

/-- The last `n` entries are all newer than `fromSeq` only if there are `n` such entries. -/
theorem le_countP_of_rtake {pushed : List (RingEntry β)} {fromSeq n : ℕ} (hn : n ≤ pushed.length)
    (h : ∀ entry ∈ pushed.rtake n, fromSeq < entry.seq) : n ≤ pushed.countP (isAfter fromSeq) := by
  have hlen : (pushed.rtake n).length = n := by
    rw [List.rtake, length_drop]
    omega
  have hall : (pushed.rtake n).countP (isAfter fromSeq) = (pushed.rtake n).length :=
    countP_eq_length.2 fun entry hentry ↦ decide_eq_true (h entry hentry)
  rw [hlen] at hall
  calc n = (pushed.rtake n).countP (isAfter fromSeq) := hall.symm
    _ ≤ pushed.countP (isAfter fromSeq) := (drop_sublist _ _).countP_le

/-- **Where the arithmetic answers, the replay is sound exactly if no later key was left out.** -/
theorem History.soundReplay_iff {r : RingBuffer β} {pushed : List (RingEntry β)}
    (hr : r.History pushed) (hcap : r.capacity < 2 ^ 64) (fromSeq : ℕ) :
    r.SoundReplay fromSeq ↔ (r.Answers fromSeq →
      ∀ seq, fromSeq < seq → seq ≤ r.headSeq → seq ∈ pushed.map RingEntry.seq) := by
  have hmem : ∀ entry ∈ r.contents, entry ∈ pushed := by
    intro entry hentry
    rw [hr.contents_eq] at hentry
    exact mem_of_mem_drop hentry
  rw [hr.forall_pushed_iff]
  refine ⟨fun hsound hans ↦ ?_, fun hdense out hout ↦ ?_⟩
  · obtain ⟨hlt, hcount, hle⟩ := hans
    have hfilled := hr.filled_eq
    have hout := hr.getFromSeq_of_lt hcap hlt
    rw [if_pos ⟨hcount, hle⟩] at hout
    obtain ⟨hafter, -, -⟩ := hsound _ hout
    exact Nat.le_antisymm (hr.countP_le_sub fromSeq) (le_countP_of_rtake (by omega) hafter)
  · rcases Nat.lt_or_ge fromSeq r.headSeq with hlt | hge
    · rw [hr.getFromSeq_of_lt hcap hlt] at hout
      split_ifs at hout with hans
      cases hout
      -- the copied entries are exactly those after `fromSeq`
      rw [← hdense ⟨hlt, hans⟩, ← hr.filter_isAfter]
      refine ⟨fun entry hentry ↦ of_decide_eq_true (mem_filter.1 hentry).2,
        hr.pairwise_filter fromSeq, fun entry hentry hafter ↦ ?_⟩
      exact mem_filter.2 ⟨hmem entry hentry, decide_eq_true hafter⟩
    · obtain ⟨rfl, rfl⟩ := History.getFromSeq_of_le r hge hout
      refine ⟨fun entry hentry ↦ absurd hentry not_mem_nil, List.Pairwise.nil, ?_⟩
      intro entry hentry hafter
      exact absurd (hr.le_headSeq entry (hmem entry hentry)) (Nat.not_le.2 hafter)

/-- **The replay after any run of accepted pushes is sound exactly if no key after `fromSeq` was
skipped**, or the arithmetic does not answer. Capacity, keys and resume point are machine words. -/
theorem soundReplay_after_pushes_iff (capacity : ℕ) (hcapacity : 0 < capacity)
    (hword : capacity < 2 ^ 64) (pushes : List (ℕ × β)) (hkeys : ∀ p ∈ pushes, p.1 < 2 ^ 64)
    (r : RingBuffer β) (hrun : (empty capacity hcapacity).pushEach pushes = .ok r) (fromSeq : ℕ) :
    r.SoundReplay fromSeq ↔ (r.Answers fromSeq →
      ∀ seq, fromSeq < seq → seq ≤ r.headSeq → seq ∈ pushes.map Prod.fst) := by
  obtain ⟨hr, hcap⟩ := (history_empty capacity hcapacity).pushEach hrun hkeys
  rw [nil_append] at hr
  have hcap' : r.capacity < 2 ^ 64 := by
    rw [hcap]
    exact hword
  rw [hr.soundReplay_iff hcap', map_map]
  rfl

/-- Keys one and three: a client that has one is sent one again. -/
theorem skipped_key_resends :
    ∃ r : RingBuffer String, (empty 2 (by decide)).pushEach [(1, "a"), (3, "b")] = .ok r ∧
      r.getFromSeq 1 = some [⟨1, some "a"⟩, ⟨3, some "b"⟩] ∧ ¬ r.SoundReplay 1 := by
  refine ⟨_, rfl, by decide +kernel, fun hsound ↦ ?_⟩
  obtain ⟨hafter, -⟩ := hsound [⟨1, some "a"⟩, ⟨3, some "b"⟩] (by decide +kernel)
  exact absurd (hafter ⟨1, some "a"⟩ mem_cons_self) (by decide)

/-- The same ring asked from a point with no later gap. -/
theorem soundReplay_after_gap :
    ∃ r : RingBuffer String, (empty 2 (by decide)).pushEach [(1, "a"), (3, "b")] = .ok r ∧
      r.SoundReplay 2 := by
  refine ⟨_, rfl, (soundReplay_after_pushes_iff 2 (by decide) (by decide)
    [(1, "a"), (3, "b")] (by decide) _ rfl 2).2 fun _ seq hlt hle ↦ ?_⟩
  have hle' : seq ≤ 3 := hle
  obtain rfl : seq = 3 := by omega
  decide

end HighBar.Grpc.RingBuffer
