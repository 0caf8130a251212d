import HighBar.Library.ChainPrefix
import HighBar.Proto.State

/-!
# The sequence checkers of the clients

Both clients wrap `StreamState` in a loop that compares the `seq` of each update with the last one
and raises on a violation. The Python `consume` is a generator, the F# one calls a handler; either
way what a caller sees of a stream is the updates handed over and, possibly, the error that ended
it. That is `Consumed`.

The loop is a `ChainPrefix`: what is handed over is the longest prefix whose numbers **rise**, and
the error names the pair that does not (`consume_eq`). The rule the modules document is stricter:
the numbers are to be **consecutive**, and a gap is an error too. By `ChainPrefix.takeChain_eq_iff`
the loops meet that rule on exactly the streams whose first departure from it is a duplicate or a
regression.
-/

namespace HighBar.Client

open ChainPrefix Option

variable {π : Type*}

/-- What a caller sees of a finite stream. -/
structure Consumed (π : Type*) where
  /-- The updates yielded, or passed to the handler. -/
  yielded : List (StateUpdate π)
  /-- The text of the sequence error, if one was raised. -/
  raised : Option String
deriving Repr, DecidableEq

/-- The text of both sequence errors. -/
def seqRegression (seq lastSeq : ℕ) : String :=
  "seq regression: got " ++ toString seq ++ " after " ++ toString lastSeq

/-! ### The two loops -/

namespace Python

/-- The loop of `consume`, with `last_seq`. -/
def consumeLoop (lastSeq : Option ℕ) : List (StateUpdate π) → Consumed π
  | [] => ⟨[], none⟩
  | update :: updates =>
    match lastSeq.filter (fun last ↦ decide (update.seq ≤ last)) with
    | some last => ⟨[], some (seqRegression update.seq last)⟩
    | none =>
      let rest := consumeLoop (some update.seq) updates
      ⟨update :: rest.yielded, rest.raised⟩

/-- `consume`, drained. -/
def consume (updates : List (StateUpdate π)) : Consumed π := consumeLoop none updates

end Python

namespace FSharp

/-- What `StateStream.consume` leaves behind: the handler's calls and the count of snapshots. -/
structure Pumped (π : Type*) where
  consumed : Consumed π
  snapshotsSeen : ℕ
deriving Repr, DecidableEq

/-- The loop of `StateStream.consume`. -/
def consumeLoop (isSnapshot : π → Bool) (lastSeq : Option ℕ) (snapshotsSeen : ℕ) :
    List (StateUpdate π) → Pumped π
  | [] => ⟨⟨[], none⟩, snapshotsSeen⟩
  | upd :: upds =>
    match lastSeq.filter (fun prev ↦ decide (upd.seq ≤ prev)) with
    | some prev => ⟨⟨[], some (seqRegression upd.seq prev)⟩, snapshotsSeen⟩
    | none =>
      let seen := if isSnapshot upd.body then snapshotsSeen + 1 else snapshotsSeen
      let rest := consumeLoop isSnapshot (some upd.seq) seen upds
      ⟨⟨upd :: rest.consumed.yielded, rest.consumed.raised⟩, rest.snapshotsSeen⟩

/-- `StateStream.consume`. -/
def consume (isSnapshot : π → Bool) (updates : List (StateUpdate π)) : Pumped π :=
  consumeLoop isSnapshot none 0 updates

/-- Counting snapshots does not change what the handler sees. -/
theorem consumed_consumeLoop (isSnapshot : π → Bool) (updates : List (StateUpdate π))
    (lastSeq : Option ℕ) (snapshotsSeen : ℕ) :
    (consumeLoop isSnapshot lastSeq snapshotsSeen updates).consumed =
      Python.consumeLoop lastSeq updates := by
  induction updates generalizing lastSeq snapshotsSeen with
  | nil => rfl
  | cons upd upds ih =>
    rw [consumeLoop, Python.consumeLoop]
    rcases lastSeq.filter (fun prev ↦ decide (upd.seq ≤ prev)) with - | prev
    · dsimp only
      rw [ih]
    · rfl

/-- **The two ports agree**, errors included. -/
theorem consumed_consume (isSnapshot : π → Bool) (updates : List (StateUpdate π)) :
    (consume isSnapshot updates).consumed = Python.consume updates :=
  consumed_consumeLoop isSnapshot updates none 0

end FSharp

/-! ### The loop as a chain -/

/-- What the loops ask of two neighbours. -/
def Rises (a b : StateUpdate π) : Prop := a.seq < b.seq

instance : DecidableRel (Rises (π := π)) := fun a b ↦ inferInstanceAs (Decidable (a.seq < b.seq))

/-- What the documented rule asks of two neighbours. -/
def Succeeds (a b : StateUpdate π) : Prop := b.seq = a.seq + 1

instance : DecidableRel (Succeeds (π := π)) :=
  fun a b ↦ inferInstanceAs (Decidable (b.seq = a.seq + 1))

theorem Succeeds.rises {a b : StateUpdate π} (h : Succeeds a b) : Rises a b := by
  show a.seq < b.seq
  rw [show b.seq = a.seq + 1 from h]
  exact Nat.lt_succ_self _

variable (updates : List (StateUpdate π))

/-- The loop once an update has been handed over. -/
theorem consumeLoop_some (last : StateUpdate π) :
    Python.consumeLoop (some last.seq) updates =
      ⟨takeFrom Rises last updates,
        (breakFrom Rises last updates).map fun p ↦ seqRegression p.2.seq p.1.seq⟩ := by
  induction updates generalizing last with
  | nil => rfl
  | cons update updates ih =>
    rw [Python.consumeLoop, takeFrom, breakFrom]
    by_cases hrises : Rises last update
    · have hlt : last.seq < update.seq := hrises
      rw [filter_some_neg (by simpa using hlt), if_pos hrises, if_pos hrises]
      dsimp only
      rw [ih update]
    · have hle : update.seq ≤ last.seq := Nat.not_lt.1 hrises
      rw [filter_some_pos (by simpa using hle), if_neg hrises, if_neg hrises]
      rfl

/-- **What is handed over is the longest prefix whose numbers rise, and the error names the pair
that ends it.** -/
theorem consume_eq :
    Python.consume updates =
      ⟨takeChain Rises updates,
        (firstBreak Rises updates).map fun p ↦ seqRegression p.2.seq p.1.seq⟩ := by
  rcases updates with - | ⟨update, updates⟩
  · rfl
  · rw [Python.consume, Python.consumeLoop, filter_none]
    dsimp only
    rw [consumeLoop_some, takeChain, firstBreak]

/-! ### The documented rule -/

/-- Every update's number is its predecessor's plus one. -/
def GapFree (updates : List (StateUpdate π)) : Prop := updates.IsChain Succeeds

/-- The rule: a gap-free stream is handed over whole and nothing is raised; of any other, exactly
the longest gap-free prefix is handed over, and then the error is raised. -/
def ChecksSequence (out : Consumed π) (updates : List (StateUpdate π)) : Prop :=
  (out = ⟨updates, none⟩ ↔ GapFree updates) ∧
    (¬ GapFree updates →
      out.raised ≠ none ∧ out.yielded <+: updates ∧ GapFree out.yielded ∧
        ∀ q, q <+: updates → GapFree q → q <+: out.yielded)

/-- The first departure from the rule, if any, is a duplicate or a regression. -/
def FirstBreakRegresses (updates : List (StateUpdate π)) : Prop :=
  ∀ p ∈ firstBreak Succeeds updates, p.2.seq ≤ p.1.seq

theorem firstBreakRegresses_iff :
    FirstBreakRegresses updates ↔ takeChain Rises updates = takeChain Succeeds updates := by
  rw [takeChain_eq_iff fun _ _ h ↦ h.rises]
  exact forall₂_congr fun p _ ↦ Nat.not_lt.symm

/-- The client takes everything exactly if the numbers rise. -/
theorem consume_eq_whole_iff :
    Python.consume updates = ⟨updates, none⟩ ↔ takeChain Rises updates = updates := by
  rw [consume_eq, Consumed.mk.injEq, map_eq_none_iff, firstBreak_eq_none_iff,
    takeChain_eq_self_iff, and_self]

/-- **The Python loop meets the rule on exactly those streams.** -/
theorem checksSequence_consume_iff :
    ChecksSequence (Python.consume updates) updates ↔ FirstBreakRegresses updates := by
  rw [firstBreakRegresses_iff, ChecksSequence, consume_eq_whole_iff]
  refine ⟨fun ⟨hwhole, hbroken⟩ ↦ ?_, fun heq ↦ ⟨?_, fun hbroken ↦ ?_⟩⟩
  · by_cases hfree : GapFree updates
    · rw [hwhole.2 hfree, takeChain_eq_self_iff.2 hfree]
    · obtain ⟨-, hpre, hchain, hlongest⟩ := hbroken hfree
      rw [consume_eq] at hpre hchain hlongest
      have hle := hlongest _ (takeChain_isPrefix updates) (isChain_takeChain updates)
      have hge := isPrefix_takeChain hpre hchain
      exact hge.eq_of_length_le hle.length_le
  · rw [heq, takeChain_eq_self_iff]
    rfl
  · have hbreak : firstBreak Rises updates ≠ none := by
      intro hnone
      have hself := takeChain_eq_self_iff.2 (firstBreak_eq_none_iff.1 hnone)
      exact hbroken (takeChain_eq_self_iff.1 (heq.symm.trans hself))
    rw [consume_eq, heq]
    refine ⟨fun hnone ↦ hbreak (map_eq_none_iff.1 hnone), takeChain_isPrefix updates,
      isChain_takeChain updates, fun q hq hfree ↦ isPrefix_takeChain hq hfree⟩

/-- **Either client meets the documented rule on a stream exactly if the first departure from it
is a duplicate or a regression**: a gap is handed over without an error. -/
theorem clients_check_sequence_iff (isSnapshot : π → Bool) (updates : List (StateUpdate π)) :
    (ChecksSequence (Python.consume updates) updates ↔ FirstBreakRegresses updates) ∧
      (ChecksSequence (FSharp.consume isSnapshot updates).consumed updates ↔
        FirstBreakRegresses updates) := by
  rw [FSharp.consumed_consume]
  exact ⟨checksSequence_consume_iff updates, checksSequence_consume_iff updates⟩

/-- Numbers one and three: both clients hand over both and raise nothing. -/
theorem gap_is_handed_over :
    Python.consume [⟨1, 0, ()⟩, ⟨3, 0, ()⟩] = ⟨[⟨1, 0, ()⟩, ⟨3, 0, ()⟩], none⟩ ∧
      (FSharp.consume (fun _ ↦ false) [⟨1, 0, ()⟩, ⟨3, 0, ()⟩]).consumed =
        ⟨[⟨1, 0, ()⟩, ⟨3, 0, ()⟩], none⟩ ∧
      ¬ GapFree [(⟨1, 0, ()⟩ : StateUpdate Unit), ⟨3, 0, ()⟩] := by
  refine ⟨by decide, by decide, fun hfree ↦ ?_⟩
  obtain ⟨hsucc, -⟩ := List.isChain_cons_cons.1 hfree
  exact absurd (show (3 : ℕ) = 1 + 1 from hsucc) (by decide)

end HighBar.Client
