import HighBar.Coordinator.BatchValidation
import HighBar.Grpc.SubmitCommands
import HighBar.Library.Custody

/-!
# The coordinator's command relay

`SubmitCommands` calls put batches into the one queue `cmd_forward`, and `OpenCommandChannel` calls
take them from it and yield them to their plugin. Every call runs on its own thread, and between
any two of the following steps another thread may move: a call **validates** a batch, **tests**
whether a channel is active, and **puts** the batch; a channel **gets** a batch, **yields** it, and
when it ends **decrements** the number of active channels and then **clears** the queue, one batch
at a time.

## What an acknowledgement is worth

`CommandAck` is built when the stream of the call ends, from the number of batches the call has put.
By then a batch may be yielded, in the hands of a channel, or queued, and `Custody` says so call by
call. Three steps of the source break it.

* `clear` drops what is queued, whichever call it belongs to and whether or not another channel is
  active.
* `yield` of one channel may overtake another channel, which took an earlier batch.
* `finish` writes the number of batches into `last_accepted_batch_seq`.

`Faithful` says when they do not, each in the state before the step.
-/

namespace HighBar.Coordinator

open List

/-- A batch that was put, with the call that put it and its number in that call. -/
structure Forwarded where
  call : ℕ
  index : ℕ
  batch : RelayBatch

/-- How far a `SubmitCommands` call is. -/
inductive CallPhase where
  /-- At the head of the loop. -/
  | reading
  /-- The batch has passed `validate_command_batch`. -/
  | validated (batch : RelayBatch)
  /-- `has_active_command_channel` was true. -/
  | tested (batch : RelayBatch)
  /-- The call has returned. -/
  | returned (ack : Grpc.CommandAck)
  /-- The server has reported an error for the call. -/
  | aborted (error : String)

/-- A `SubmitCommands` call. -/
structure SubmitCall where
  /-- The local `n`. -/
  n : ℕ
  phase : CallPhase
  /-- The batches it has put, oldest first. -/
  accepted : List Forwarded

/-- How far an `OpenCommandChannel` call is. -/
inductive ChannelPhase where
  /-- In the loop, with nothing in hand. -/
  | serving
  /-- A batch was taken from the queue and is not yielded yet. -/
  | holding (item : Forwarded)
  /-- In `clear_forwarded_commands`. -/
  | clearing
  /-- The call is over. -/
  | ended

/-- The server has reported an error. -/
def CallPhase.isAborted : CallPhase → Bool
  | .aborted _ => true
  | .reading | .validated _ | .tested _ | .returned _ => false

/-- The batch a channel has in hand. -/
def ChannelPhase.held : ChannelPhase → List Forwarded
  | .holding item => [item]
  | .serving | .clearing | .ended => []

/-- The relay and the calls on it. -/
structure Relay where
  /-- `_active_cmd_channels`. -/
  activeCmdChannels : ℕ
  /-- `cmd_forward`. -/
  cmdForward : List Forwarded
  /-- Every `SubmitCommands` call. -/
  calls : List SubmitCall
  /-- Every `OpenCommandChannel` call. -/
  channels : List ChannelPhase
  /-- Every batch that was yielded to a plugin, oldest first. -/
  yielded : List Forwarded

/-- One step of one thread. -/
inductive RelayLabel where
  /-- A `SubmitCommands` call starts. -/
  | submitCommands
  /-- The next batch of the call arrives and is validated. -/
  | validate (call : ℕ) (batch : RelayBatch)
  /-- The test in `forward_command`. -/
  | test (call : ℕ)
  /-- The put in `forward_command`. -/
  | put (call : ℕ)
  /-- The request stream ends. -/
  | finish (call : ℕ)
  /-- The request stream breaks. -/
  | cancel (call : ℕ)
  /-- An `OpenCommandChannel` call starts. -/
  | activate
  /-- `cmd_forward.get` returns a batch. -/
  | get (channel : ℕ)
  /-- The batch in hand is yielded. -/
  | yield (channel : ℕ)
  /-- The channel ends: the decrement. -/
  | deactivate (channel : ℕ)
  /-- The channel ends: one `get_nowait` of the clearing loop. -/
  | clear (channel : ℕ)

namespace Relay

/-- What the channels have in hand. -/
def held (s : Relay) : List Forwarded := s.channels.flatMap ChannelPhase.held

/-- What the channels other than `d` have in hand. -/
def heldElsewhere (s : Relay) (d : ℕ) : List Forwarded :=
  (s.channels.eraseIdx d).flatMap ChannelPhase.held

/-- Continue a call. -/
def setCall (s : Relay) (c : ℕ) (call : SubmitCall) : Relay :=
  { s with calls := s.calls.set c call }

/-- Continue a channel. -/
def setChannel (s : Relay) (d : ℕ) (phase : ChannelPhase) : Relay :=
  { s with channels := s.channels.set d phase }

/-- The `CommandAck` of a call that has put `n` batches. -/
def commandAck (n : ℕ) : Grpc.CommandAck where
  lastAcceptedBatchSeq := n
  batchesAccepted := n
  batchesRejectedInvalid := 0
  batchesRejectedFull := 0
  results := []

/-- One step. -/
def step (s : Relay) : RelayLabel → Option Relay
  | .submitCommands => some { s with calls := s.calls ++ [⟨0, .reading, []⟩] }
  | .validate c batch =>
    match s.calls[c]? with
    | some ⟨n, .reading, accepted⟩ =>
      match validateCommandBatch batch with
      | some err => some (s.setCall c ⟨n, .aborted err, accepted⟩)
      | none => some (s.setCall c ⟨n, .validated batch, accepted⟩)
    | _ => none
  | .test c =>
    match s.calls[c]? with
    | some ⟨n, .validated batch, accepted⟩ =>
      if 0 < s.activeCmdChannels then some (s.setCall c ⟨n, .tested batch, accepted⟩)
      else some (s.setCall c ⟨n, .aborted "plugin command channel is not connected", accepted⟩)
    | _ => none
  | .put c =>
    match s.calls[c]? with
    | some ⟨n, .tested batch, accepted⟩ =>
      some { s.setCall c ⟨n + 1, .reading, accepted ++ [⟨c, n, batch⟩]⟩ with
        cmdForward := s.cmdForward ++ [⟨c, n, batch⟩] }
    | _ => none
  | .finish c =>
    match s.calls[c]? with
    | some ⟨n, .reading, accepted⟩ => some (s.setCall c ⟨n, .returned (commandAck n), accepted⟩)
    | _ => none
  | .cancel c =>
    match s.calls[c]? with
    | some ⟨n, .reading, accepted⟩ => some (s.setCall c ⟨n, .aborted "cancelled", accepted⟩)
    | _ => none
  | .activate =>
    some { s with
      activeCmdChannels := s.activeCmdChannels + 1
      channels := s.channels ++ [.serving] }
  | .get d =>
    match s.channels[d]?, s.cmdForward with
    | some .serving, item :: rest =>
      some { s.setChannel d (.holding item) with cmdForward := rest }
    | _, _ => none
  | .yield d =>
    match s.channels[d]? with
    | some (.holding item) => some { s.setChannel d .serving with yielded := s.yielded ++ [item] }
    | _ => none
  | .deactivate d =>
    match s.channels[d]? with
    -- the guard `if self._active_cmd_channels > 0` is truncated subtraction
    | some .serving =>
      some { s.setChannel d .clearing with activeCmdChannels := s.activeCmdChannels - 1 }
    | _ => none
  | .clear d =>
    match s.channels[d]?, s.cmdForward with
    | some .clearing, _ :: rest => some { s with cmdForward := rest }
    | some .clearing, [] => some (s.setChannel d .ended)
    | _, _ => none

/-- The relay from its start. -/
def machine : StepMachine Relay RelayLabel where
  init := ⟨0, [], [], [], []⟩
  step := step

variable {s t : Relay} {label : RelayLabel}

/-! ### What a step can do -/

/-- What a step does, with what it found. A call that only goes on from one phase to the next, and a
channel that changes with nothing in hand, are one case each. -/
inductive Moves (s : Relay) : RelayLabel → Relay → Prop
  | submitCommands : Moves s .submitCommands { s with calls := s.calls ++ [⟨0, .reading, []⟩] }
  | advance {label : RelayLabel} {c n : ℕ} {accepted : List Forwarded} {before after : CallPhase}
      (hcall : s.calls[c]? = some ⟨n, before, accepted⟩) (hbefore : before.isAborted = false)
      (hafter : ∀ ack, after ≠ .returned ack) :
      Moves s label (s.setCall c ⟨n, after, accepted⟩)
  | put {c n : ℕ} {accepted : List Forwarded} {batch : RelayBatch}
      (hcall : s.calls[c]? = some ⟨n, .tested batch, accepted⟩) :
      Moves s (.put c)
        { s.setCall c ⟨n + 1, .reading, accepted ++ [⟨c, n, batch⟩]⟩ with
          cmdForward := s.cmdForward ++ [⟨c, n, batch⟩] }
  | finish {c n : ℕ} {accepted : List Forwarded}
      (hcall : s.calls[c]? = some ⟨n, .reading, accepted⟩) :
      Moves s (.finish c) (s.setCall c ⟨n, .returned (commandAck n), accepted⟩)
  | channels {label : RelayLabel} {active : ℕ} {channels : List ChannelPhase}
      (hheld : s.held.Perm (channels.flatMap ChannelPhase.held)) :
      Moves s label { s with activeCmdChannels := active, channels := channels }
  | get {d : ℕ} {item : Forwarded} {rest : List Forwarded}
      (hserving : s.channels[d]? = some .serving) (hqueue : s.cmdForward = item :: rest) :
      Moves s (.get d) { s.setChannel d (.holding item) with cmdForward := rest }
  | yield {d : ℕ} {item : Forwarded} (hholding : s.channels[d]? = some (.holding item)) :
      Moves s (.yield d) { s.setChannel d .serving with yielded := s.yielded ++ [item] }
  | drop {d : ℕ} {item : Forwarded} {rest : List Forwarded} (hqueue : s.cmdForward = item :: rest) :
      Moves s (.clear d) { s with cmdForward := rest }

variable {d : ℕ} {c : ℕ} {call : SubmitCall} {item : Forwarded} {rest : List Forwarded}

/-- The channels, up to order: one of them and the others. -/
theorem held_perm {phase : ChannelPhase} (hphase : s.channels[d]? = some phase) :
    s.held.Perm (phase.held ++ s.heldElsewhere d) := by
  obtain ⟨hd, rfl⟩ := List.getElem?_eq_some_iff.1 hphase
  exact (getElem_cons_eraseIdx_perm hd).symm.flatMap_right _

/-- What is held after a channel has changed its phase. -/
theorem held_setChannel_perm {phase : ChannelPhase} (hphase : s.channels[d]? = some phase)
    (next : ChannelPhase) :
    (s.setChannel d next).held.Perm (next.held ++ s.heldElsewhere d) := by
  obtain ⟨hd, -⟩ := List.getElem?_eq_some_iff.1 hphase
  exact (set_perm_cons_eraseIdx hd next).flatMap_right _

/-- A channel that goes on with nothing in hand, before and after. -/
theorem held_setChannel_perm_self {before after : ChannelPhase}
    (hphase : s.channels[d]? = some before) (hbefore : before.held = [])
    (hafter : after.held = []) :
    s.held.Perm (s.setChannel d after).held := by
  have h := held_perm hphase
  have h' := held_setChannel_perm hphase after
  rw [hbefore] at h
  rw [hafter] at h'
  exact h.trans h'.symm

/-- Every step is one of the moves. -/
theorem moves_of_step (h : s.step label = some t) : Moves s label t := by
  cases label with
  | submitCommands =>
    cases h
    exact .submitCommands
  | validate c batch =>
    simp only [step] at h
    split at h
    · rename_i hcall
      split at h <;> obtain rfl := Option.some.inj h <;>
        exact .advance hcall rfl fun _ ↦ CallPhase.noConfusion
    · cases h
  | test c =>
    simp only [step] at h
    split at h
    · rename_i hcall
      split_ifs at h <;> obtain rfl := Option.some.inj h <;>
        exact .advance hcall rfl fun _ ↦ CallPhase.noConfusion
    · cases h
  | put c =>
    simp only [step] at h
    split at h
    · cases h
      exact .put ‹_›
    · cases h
  | finish c =>
    simp only [step] at h
    split at h
    · cases h
      exact .finish ‹_›
    · cases h
  | cancel c =>
    simp only [step] at h
    split at h
    · cases h
      exact .advance ‹_› rfl fun _ ↦ CallPhase.noConfusion
    · cases h
  | activate =>
    cases h
    refine .channels ?_
    rw [flatMap_append, flatMap_singleton, ChannelPhase.held, append_nil]
    exact .refl _
  | get d =>
    simp only [step] at h
    split at h
    · cases h
      exact .get ‹_› ‹_›
    · cases h
  | yield d =>
    simp only [step] at h
    split at h
    · cases h
      exact .yield ‹_›
    · cases h
  | deactivate d =>
    simp only [step] at h
    split at h
    · cases h
      exact .channels (held_setChannel_perm_self ‹_› rfl rfl)
    · cases h
  | clear d =>
    simp only [step] at h
    split at h
    · cases h
      exact .drop ‹_›
    · cases h
      exact .channels (held_setChannel_perm_self ‹_› rfl rfl)
    · cases h

/-! ### The trail of a call -/

/-- The batches of one call that were yielded. -/
def yieldedOf (s : Relay) (c : ℕ) : List Forwarded := s.yielded.filter fun item ↦ item.call = c

/-- The batches of one call that channels have in hand. -/
def heldOf (s : Relay) (c : ℕ) : List Forwarded := s.held.filter fun item ↦ item.call = c

/-- The batches of one call that are queued. -/
def queuedOf (s : Relay) (c : ℕ) : List Forwarded := s.cmdForward.filter fun item ↦ item.call = c

/-- The server has reported an error for the call. -/
def isAborted (s : Relay) (c : ℕ) : Bool := s.calls[c]?.any fun call ↦ call.phase.isAborted

/-- The `batch_seq` of the last batch, and zero if there is none. -/
def lastBatchSeq (accepted : List Forwarded) : ℕ :=
  (accepted.getLast?.map fun item ↦ item.batch.batchSeq).getD 0

/-- **When a step keeps the promise of the acknowledgement.** The stream of a call ends after a
batch whose `batch_seq` is the number of batches; a channel yields a batch while no other channel
has an earlier one of the same call in hand; a clearing loop finds the queue empty. What belongs to
a call for which an error was reported does not matter. -/
def Faithful (s : Relay) : RelayLabel → Prop
  | .finish c => ∀ call ∈ s.calls[c]?, call.n = lastBatchSeq call.accepted
  | .yield d =>
    ∀ phase ∈ s.channels[d]?, ∀ item ∈ phase.held, s.isAborted item.call = true ∨
      ∀ other ∈ s.heldElsewhere d, other.call = item.call → item.index < other.index
  | .clear _ => ∀ item ∈ s.cmdForward.head?, s.isAborted item.call = true
  | .submitCommands | .validate _ _ | .test _ | .put _ | .cancel _ | .activate | .get _
  | .deactivate _ => True

instance : ∀ (s : Relay) (label : RelayLabel), Decidable (s.Faithful label)
  | s, .finish c =>
    inferInstanceAs (Decidable (∀ call ∈ s.calls[c]?, call.n = lastBatchSeq call.accepted))
  | s, .yield d =>
    inferInstanceAs (Decidable (∀ phase ∈ s.channels[d]?, ∀ item ∈ phase.held,
      s.isAborted item.call = true ∨
        ∀ other ∈ s.heldElsewhere d, other.call = item.call → item.index < other.index))
  | s, .clear _ =>
    inferInstanceAs (Decidable (∀ item ∈ s.cmdForward.head?, s.isAborted item.call = true))
  | _, .submitCommands | _, .validate _ _ | _, .test _ | _, .put _ | _, .cancel _ | _, .activate
  | _, .get _ | _, .deactivate _ => inferInstanceAs (Decidable True)

/-- What holds of every call along a faithful run. -/
structure CallLedger (s : Relay) (c : ℕ) (call : SubmitCall) : Prop where
  counted : call.n = call.accepted.length
  ranked : call.accepted.Pairwise fun a b ↦ a.index < b.index
  below : ∀ item ∈ call.accepted, item.index < call.n
  custody : call.phase.isAborted = false →
    Custody call.accepted (s.yieldedOf c) (s.heldOf c) (s.queuedOf c)
  acked : ∀ ack, call.phase = .returned ack →
    ack = commandAck call.n ∧ call.n = lastBatchSeq call.accepted

/-- The invariant: every call's ledger, and no batch without its call. -/
structure Ledger (s : Relay) : Prop where
  known : ∀ item ∈ s.yielded ++ s.held ++ s.cmdForward, item.call < s.calls.length
  calls : ∀ c call, s.calls[c]? = some call → CallLedger s c call

theorem ledger_init : machine.init.Ledger :=
  ⟨forall_mem_nil _, fun _ _ h ↦ absurd h.symm (Option.some_ne_none _)⟩

/-- A ledger carries over to a state with the same trail. -/
theorem CallLedger.congr (h : CallLedger s c call) (hyielded : t.yieldedOf c = s.yieldedOf c)
    (hheld : (s.heldOf c).Perm (t.heldOf c)) (hqueued : t.queuedOf c = s.queuedOf c) :
    CallLedger t c call := by
  refine ⟨h.counted, h.ranked, h.below, fun hphase ↦ ?_, h.acked⟩
  rw [hyielded, hqueued]
  exact (h.custody hphase).perm hheld

/-- A call in the state after `setCall` is the new one or an old one. -/
theorem call_setCall {c c' : ℕ} {call call' : SubmitCall}
    (h : (s.setCall c call).calls[c']? = some call') :
    c' = c ∧ call' = call ∨ c' ≠ c ∧ s.calls[c']? = some call' := by
  change (s.calls.set c call)[c']? = some call' at h
  rcases eq_or_ne c' c with rfl | hne
  · have hlt : c' < s.calls.length := by
      have := (List.getElem?_eq_some_iff.1 h).1
      rwa [length_set] at this
    rw [getElem?_set_self hlt] at h
    exact .inl ⟨rfl, (Option.some.inj h).symm⟩
  · rw [getElem?_set_ne (Ne.symm hne)] at h
    exact .inr ⟨hne, h⟩

theorem isAborted_eq (hcall : s.calls[c]? = some call) :
    s.isAborted c = call.phase.isAborted := by
  rw [isAborted, hcall, Option.any_some]

/-- Only the custody of a ledger depends on the state. -/
theorem CallLedger.of_custody (h : CallLedger s c call) (hcustody : call.phase.isAborted = false →
      Custody call.accepted (t.yieldedOf c) (t.heldOf c) (t.queuedOf c)) : CallLedger t c call :=
  ⟨h.counted, h.ranked, h.below, hcustody, h.acked⟩

/-- No batch carries the number of a call that has not started. -/
theorem filter_call_eq_nil {items : List Forwarded} {n : ℕ} (h : ∀ item ∈ items, item.call < n) :
    items.filter (fun item ↦ item.call = n) = [] := by
  refine filter_eq_nil_iff.2 fun item hitem ↦ ?_
  rw [decide_eq_true_iff]
  exact (h item hitem).ne

theorem filter_cons_call (item : Forwarded) (rest : List Forwarded) :
    (item :: rest).filter (fun other ↦ other.call = item.call) =
      item :: rest.filter fun other ↦ other.call = item.call :=
  filter_cons_of_pos (decide_eq_true rfl)

/-- An item of another call does not count. -/
theorem filter_cons_ne (hne : c ≠ item.call) :
    (item :: rest).filter (fun other ↦ other.call = c) =
      rest.filter fun other ↦ other.call = c :=
  filter_cons_of_neg fun h ↦ hne (of_decide_eq_true h).symm

/-- A new call has accepted nothing. -/
theorem ledger_submitCommands (hs : s.Ledger) :
    Ledger { s with calls := s.calls ++ [⟨0, .reading, []⟩] } := by
  have hlength : (s.calls ++ [(⟨0, .reading, []⟩ : SubmitCall)]).length = s.calls.length + 1 := by
    rw [length_append, length_singleton]
  refine ⟨fun item hitem ↦ ?_, fun c call hcall ↦ ?_⟩
  · rw [hlength]
    exact (hs.known item hitem).trans (Nat.lt_succ_self _)
  · rcases lt_or_ge c s.calls.length with hlt | hge
    · rw [getElem?_append_left hlt] at hcall
      exact (hs.calls c call hcall).congr rfl (.refl _) rfl
    · have hc : c < s.calls.length + 1 := hlength ▸ (List.getElem?_eq_some_iff.1 hcall).1
      obtain rfl : c = s.calls.length := by omega
      rw [getElem?_concat_length] at hcall
      cases hcall
      -- a new call has put nothing, and nothing carries its number
      refine ⟨rfl, .nil, forall_mem_nil _, fun _ ↦ ?_, fun _ h ↦ CallPhase.noConfusion h⟩
      have hknown := hs.known
      simp only [forall_mem_append] at hknown
      show Custody [] (s.yielded.filter _) (s.held.filter _) (s.cmdForward.filter _)
      rw [filter_call_eq_nil hknown.1.1, filter_call_eq_nil hknown.1.2,
        filter_call_eq_nil hknown.2]
      exact Custody.nil

/-- The ledger of one call is replaced, and the trails of all calls stay. -/
theorem ledger_setCall (hs : s.Ledger) (hcall : CallLedger s c call) :
    (s.setCall c call).Ledger := by
  refine ⟨fun item hitem ↦ ?_, fun c' call' hcall' ↦ ?_⟩
  · rw [setCall, length_set]
    exact hs.known item hitem
  · rcases call_setCall hcall' with ⟨rfl, rfl⟩ | ⟨-, hold⟩
    · exact hcall.congr rfl (.refl _) rfl
    · exact (hs.calls c' call' hold).congr rfl (.refl _) rfl

/-- A batch that is put has been accepted, and is behind the others. -/
theorem ledger_put {c n : ℕ} {accepted : List Forwarded} {batch : RelayBatch} (hs : s.Ledger)
    (hcall : s.calls[c]? = some ⟨n, .tested batch, accepted⟩) :
    Ledger { s.setCall c ⟨n + 1, .reading, accepted ++ [⟨c, n, batch⟩]⟩ with
      cmdForward := s.cmdForward ++ [⟨c, n, batch⟩] } := by
  have hold := hs.calls c _ hcall
  have hlt : c < s.calls.length := (List.getElem?_eq_some_iff.1 hcall).1
  refine ⟨?_, fun c' call' hcall' ↦ ?_⟩
  · show ∀ item : Forwarded, item ∈ _ ++ (_ ++ [_]) → item.call < (s.calls.set c _).length
    rw [length_set, ← append_assoc]
    exact forall_mem_append.2 ⟨hs.known, forall_mem_singleton.2 hlt⟩
  · rcases call_setCall hcall' with ⟨rfl, rfl⟩ | ⟨hne, hother⟩
    · refine ⟨?_, ?_, ?_, fun _ ↦ ?_, fun _ h ↦ CallPhase.noConfusion h⟩
      · rw [length_append, length_singleton, ← hold.counted]
      · refine pairwise_append.2 ⟨hold.ranked, pairwise_singleton _ _, ?_⟩
        intro a ha b hb
        rw [mem_singleton.1 hb]
        exact hold.below a ha
      · refine forall_mem_append.2 ⟨fun item hitem ↦ ?_, ?_⟩
        · exact (hold.below item hitem).trans (Nat.lt_succ_self n)
        · exact forall_mem_singleton.2 (Nat.lt_succ_self n)
      · have hcustody := (hold.custody rfl).put ⟨c', n, batch⟩
        show Custody _ (s.yieldedOf c') (s.heldOf c') ((s.cmdForward ++ _).filter _)
        rwa [filter_append, filter_cons_call ⟨c', n, batch⟩ [], filter_nil]
    · refine (hs.calls c' call' hother).congr rfl (.refl _) ?_
      show (s.cmdForward ++ [(⟨c, n, batch⟩ : Forwarded)]).filter _ = _
      rw [filter_append, filter_cons_ne hne, filter_nil, append_nil]
      rfl

/-- Channels may come and go with what they hold. -/
theorem ledger_channels {active : ℕ} {channels : List ChannelPhase} (hs : s.Ledger)
    (hheld : s.held.Perm (channels.flatMap ChannelPhase.held)) :
    Ledger { s with activeCmdChannels := active, channels := channels } := by
  refine ⟨fun item hitem ↦ hs.known item ?_, fun c call hcall ↦ ?_⟩
  · have hperm := (hheld.append_left s.yielded).append_right s.cmdForward
    exact hperm.mem_iff.2 hitem
  · exact (hs.calls c call hcall).congr rfl (hheld.filter _) rfl

/-- A channel takes the batch at the front. -/
theorem ledger_get (hs : s.Ledger) (hserving : s.channels[d]? = some .serving)
    (hqueue : s.cmdForward = item :: rest) :
    Ledger { s.setChannel d (.holding item) with cmdForward := rest } := by
  -- one more in hand, and one less in the queue
  have hheld : (s.setChannel d (.holding item)).held.Perm (item :: s.held) :=
    (held_setChannel_perm hserving _).trans ((held_perm hserving).symm.cons item)
  refine ⟨fun other hother ↦ hs.known other ?_, fun c call hcall ↦ ?_⟩
  · rw [hqueue]
    have hperm : (s.yielded ++ s.held ++ item :: rest).Perm
        (s.yielded ++ (s.setChannel d (.holding item)).held ++ rest) := by
      rw [append_assoc, append_assoc]
      exact List.Perm.append_left _ (perm_middle.trans (hheld.symm.append_right rest))
    exact hperm.mem_iff.2 hother
  · have hold := hs.calls c call hcall
    refine hold.of_custody fun hphase ↦ ?_
    have hcustody := hold.custody hphase
    rw [queuedOf, hqueue] at hcustody
    have hhands := hheld.filter fun other ↦ other.call = c
    rcases eq_or_ne c item.call with rfl | hne
    · rw [filter_cons_call] at hcustody hhands
      exact hcustody.take hhands
    · rw [filter_cons_ne hne] at hcustody hhands
      exact hcustody.perm hhands.symm

/-- A channel yields the oldest batch of its call. -/
theorem ledger_yield (hs : s.Ledger) (hholding : s.channels[d]? = some (.holding item))
    (holdest : s.isAborted item.call = true ∨
      ∀ other ∈ s.heldElsewhere d, other.call = item.call → item.index < other.index) :
    Ledger { s.setChannel d .serving with yielded := s.yielded ++ [item] } := by
  have hbefore : s.held.Perm (item :: s.heldElsewhere d) := held_perm hholding
  have hafter : (s.setChannel d .serving).held.Perm (s.heldElsewhere d) :=
    held_setChannel_perm hholding _
  refine ⟨fun other hother ↦ hs.known other ?_, fun c call hcall ↦ ?_⟩
  · have hperm : (s.yielded ++ s.held ++ s.cmdForward).Perm
        (s.yielded ++ [item] ++ (s.setChannel d .serving).held ++ s.cmdForward) := by
      refine List.Perm.append_right _ ?_
      rw [append_assoc]
      exact List.Perm.append_left _ (hbefore.trans (hafter.symm.cons item))
    exact hperm.mem_iff.2 hother
  · have hold := hs.calls c call hcall
    refine hold.of_custody fun hphase ↦ ?_
    have hcustody := hold.custody hphase
    have hhands := hbefore.filter fun other ↦ other.call = c
    have hrest := hafter.filter fun other ↦ other.call = c
    show Custody _ ((s.yielded ++ [item]).filter _) _ (s.queuedOf c)
    rw [filter_append]
    rcases eq_or_ne c item.call with rfl | hne
    · rw [filter_cons_call] at hhands ⊢
      rcases holdest with haborted | holdest
      · rw [isAborted_eq (s := s) hcall, hphase] at haborted
        exact absurd haborted Bool.false_ne_true
      · refine (hcustody.handOver hold.ranked hhands fun other hother ↦ ?_).perm hrest.symm
        obtain ⟨hother, hsame⟩ := mem_filter.1 hother
        exact holdest other hother (of_decide_eq_true hsame)
    · rw [filter_cons_ne hne] at hhands ⊢
      rw [filter_nil, append_nil]
      exact hcustody.perm (hhands.trans hrest.symm)

/-- A batch of an aborted call may be dropped. -/
theorem ledger_drop (hs : s.Ledger) (hqueue : s.cmdForward = item :: rest)
    (haborted : s.isAborted item.call = true) :
    Ledger { s with cmdForward := rest } := by
  refine ⟨fun other hother ↦ hs.known other ?_, fun c call hcall ↦ ?_⟩
  · rw [hqueue]
    rcases mem_append.1 hother with hother | hother
    · exact mem_append_left _ hother
    · exact mem_append_right _ (mem_cons_of_mem item hother)
  · have hold := hs.calls c call hcall
    refine hold.of_custody fun hphase ↦ ?_
    have hcustody := hold.custody hphase
    rw [queuedOf, hqueue] at hcustody
    rcases eq_or_ne c item.call with rfl | hne
    · rw [isAborted_eq (s := s) hcall, hphase] at haborted
      exact absurd haborted Bool.false_ne_true
    · rwa [filter_cons_ne hne] at hcustody

/-- A faithful step keeps the ledger. -/
theorem ledger_of_step (s : Relay) (label : RelayLabel) (t : Relay) (hs : s.Ledger)
    (hfaithful : s.Faithful label) (h : s.step label = some t) : t.Ledger := by
  cases moves_of_step h with
  | submitCommands => exact ledger_submitCommands hs
  | advance hcall hbefore hafter =>
    have hold := hs.calls _ _ hcall
    exact ledger_setCall hs ⟨hold.counted, hold.ranked, hold.below, fun _ ↦ hold.custody hbefore,
      fun ack hack ↦ absurd hack (hafter ack)⟩
  | put hcall => exact ledger_put hs hcall
  | finish hcall =>
    have hold := hs.calls _ _ hcall
    refine ledger_setCall hs ⟨hold.counted, hold.ranked, hold.below, fun _ ↦ hold.custody rfl, ?_⟩
    rintro ack hack
    cases hack
    exact ⟨rfl, hfaithful ⟨_, .reading, _⟩ hcall⟩
  | channels hheld => exact ledger_channels hs hheld
  | get hserving hqueue => exact ledger_get hs hserving hqueue
  | yield hholding =>
    exact ledger_yield hs hholding (hfaithful _ hholding _ (mem_singleton_self _))
  | drop hqueue =>
    refine ledger_drop hs hqueue (hfaithful _ ?_)
    rw [hqueue]
    rfl

/-! ### Acknowledgements -/

/-- **What an acknowledgement promises.** It counts the batches the call has put and names the last
of them, and each of them is yielded exactly once and in order: what was yielded of the call is an
initial part of what it has put, and the rest is in hand or queued. -/
structure AckHonest (s : Relay) (c : ℕ) (call : SubmitCall) (ack : Grpc.CommandAck) : Prop where
  counted : ack.batchesAccepted = call.accepted.length
  last : ack.lastAcceptedBatchSeq = lastBatchSeq call.accepted
  custody : Custody call.accepted (s.yieldedOf c) (s.heldOf c) (s.queuedOf c)
  complete : s.heldOf c = [] → s.queuedOf c = [] → s.yieldedOf c = call.accepted

/-- **Along every faithful run, every acknowledgement is honest.** -/
theorem relay_ack_honest {labels : List RelayLabel}
    (hmeets : machine.Meets Faithful machine.init labels)
    (hrun : machine.exec machine.init labels = some s) {c : ℕ} {call : SubmitCall}
    {ack : Grpc.CommandAck} (hcall : s.calls[c]? = some call) (hack : call.phase = .returned ack) :
    AckHonest s c call ack := by
  have hledger := StepMachine.invariant_of_meets ledger_of_step ledger_init hmeets hrun
  have hold := hledger.calls c call hcall
  obtain ⟨rfl, hlast⟩ := hold.acked ack hack
  have hcustody := hold.custody (by rw [hack]; rfl)
  refine ⟨hold.counted, hlast, hcustody, fun hheld hqueued ↦ ?_⟩
  rw [hheld, hqueued] at hcustody
  exact hcustody.eq_of_nil

/-- A batch of one stop order. -/
def stopBatch (batchSeq : ℕ) : RelayBatch := ⟨batchSeq, [some ("stop", [])]⟩

/-- Two calls and two channels: the second batch of the first call is in the hands of a channel
while the other one yields the first, the second call is refused, and the channels leave an empty
queue. -/
def twoChannels : List RelayLabel :=
  [.activate, .activate, .submitCommands, .submitCommands,
    .validate 0 (stopBatch 1), .test 0, .put 0, .get 0,
    .validate 0 (stopBatch 2), .test 0, .put 0, .get 1, .validate 1 (stopBatch 0),
    .yield 0, .finish 0, .yield 1, .deactivate 0, .clear 0, .deactivate 1, .clear 1]

theorem relay_ack_honest_twoChannels :
    ∃ s call ack, machine.Meets Faithful machine.init twoChannels ∧
      machine.exec machine.init twoChannels = some s ∧ s.calls[0]? = some call ∧
      call.phase = .returned ack ∧ call.accepted.map (fun item ↦ item.batch.batchSeq) = [1, 2] ∧
      AckHonest s 0 call ack :=
  have hmeets : machine.Meets Faithful machine.init twoChannels := by decide
  ⟨_, _, _, hmeets, rfl, rfl, rfl, rfl, relay_ack_honest hmeets rfl rfl rfl⟩

/-- One batch, numbered 7, is put and acknowledged, and then the only channel leaves. -/
def channelLeaves : List RelayLabel :=
  [.activate, .submitCommands, .validate 0 (stopBatch 7), .test 0, .put 0, .finish 0,
    .deactivate 0, .clear 0, .clear 0]

/-- The acknowledgement names the wrong number, and the batch it counts is gone. -/
theorem acknowledged_batch_lost :
    ∃ s call ack, machine.exec machine.init channelLeaves = some s ∧ s.calls[0]? = some call ∧
      call.phase = .returned ack ∧ ack.batchesAccepted = 1 ∧
      ack.lastAcceptedBatchSeq ≠ lastBatchSeq call.accepted ∧
      ¬ Custody call.accepted (s.yieldedOf 0) (s.heldOf 0) (s.queuedOf 0) := by
  refine ⟨_, _, _, rfl, rfl, rfl, rfl, by decide, fun hcustody ↦ ?_⟩
  exact cons_ne_nil _ _ (Custody.eq_of_nil hcustody).symm

end Relay

end HighBar.Coordinator
