import HighBar.Grpc.SessionSlots

/-!
# One client, one stream after another

A client that submits each batch on a stream of its own opens the next stream **after it has the
final status of the one before**. It has that status as soon as the server has called `Finish`; the
server deletes the call object, and gives the AI's seat back, only when its worker handles the
completion of that `Finish`. The completion queue orders the two tags, of the `Finish` and of the
next call, as it likes.

So the next call may look for the seat while the call before still holds it, and is then refused
with `ALREADY_EXISTS` though the client did everything in order (`next_stream_collides`).

`submissions_accepted_iff` says when it is not: **exactly if no call of the client looks for the
seat while another one waits for the completion of its `Finish`**. The reason is that nobody else
can hold the seat: the client has at most one call between the announcement and the `Finish`
(`Sequential`).
-/

namespace HighBar.Grpc

open List Option

/-- The server has called `Finish` for the call. -/
def SubmitPhase.finished : SubmitPhase → Bool
  | .finishing _ | .deleted => true
  | .created | .claiming | .reading => false

/-- The service, and one client of `SubmitCommands`. -/
structure OneShot where
  server : Sessions
  /-- The client has opened a stream that no worker has taken yet. -/
  announced : Bool
  /-- The call object of the latest stream that was taken. -/
  current : Option ℕ
  /-- The final statuses sent to the client, in order. -/
  statuses : List SubmitEnd
deriving Repr, DecidableEq

/-- One step. -/
inductive OneShotLabel where
  /-- The client opens its next stream. -/
  | openStream
  /-- A worker moves a call. -/
  | serve (i : ℕ) (action : SessionAction)
deriving Repr, DecidableEq

namespace OneShot

/-- The client can have the final status of its latest stream. -/
def observed (s : OneShot) : Bool :=
  match s.current with
  | none => true
  | some i =>
    match s.server.calls[i]? with
    | some (.submitCommands phase) => phase.finished
    | _ => false

/-- The final status that is sent when the call with the number `i` has come to its `Finish`. -/
def sent (server : Sessions) (i : ℕ) : List SubmitEnd :=
  match server.calls[i]? with
  | some (.submitCommands (.finishing how)) => [how]
  | _ => []

/-- What the client may make the server do: a new stream has to be announced, and there is no other
AI client, so no `Hello` comes from one. -/
def allows (s : OneShot) : SessionAction → Bool
  | .acceptSubmit _ => s.announced
  | .acceptHello _ isAi => !isAi
  | _ => true

/-- The action takes an announced stream. -/
def takes : SessionAction → Bool
  | .acceptSubmit _ => true
  | _ => false

/-- One step. -/
def step (s : OneShot) : OneShotLabel → Option OneShot
  | .openStream =>
    if !s.announced && s.observed then some { s with announced := true } else none
  | .serve i action =>
    if s.allows action then
      (s.server.step (i, action)).map fun server ↦
        { server := server
          announced := s.announced && !takes action
          current := if takes action then some i else s.current
          statuses := s.statuses ++ sent server i }
    else none

/-- A service after `Bind`, and a client that has opened nothing. -/
def machine : StepMachine OneShot OneShotLabel where
  init := ⟨Sessions.machine.init, false, none, []⟩
  step := step

variable {s t : OneShot} {label : OneShotLabel}

/-! ### What a step of the server can do to the client's calls -/

/-- A stream of the client between its announcement and its `Finish`. -/
def active : SessionCall → Bool
  | .submitCommands .claiming | .submitCommands .reading => true
  | _ => false

/-- A `Hello` of an AI that looks for the seat. -/
def looking : SessionCall → Bool
  | .hello .claiming | .hello .claimed => true
  | _ => false

/-- A stream whose `Finish` has been called and not completed, and which still holds the seat. -/
def awaitsFinish : SessionCall → Bool
  | .submitCommands (.finishing how) => how.claimed
  | _ => false

variable {slots slots' : SessionSlots} {action : SessionAction} {call call' : SessionCall}

/-- Only an announced stream is taken. -/
theorem announced_of_takes (hallows : s.allows action = true) (htakes : takes action = true) :
    s.announced = true := by
  unfold takes at htakes
  split at htakes
  · exact hallows
  · cases htakes

/-- Only the announcement of a stream makes a call active. -/
theorem active_of_step (hstep : call.step slots action = some (slots', call'))
    (hactive : active call' = true) : active call = true ∨ takes action = true := by
  obtain ⟨phase, phase', rfl, rfl, -⟩ | ⟨phase, phase', rfl, rfl, -⟩ |
    ⟨phase, phase', rfl, rfl, hphase⟩ := SessionCall.step_cases hstep
  · cases hactive
  · cases hactive
  · obtain _ | _ | _ | _ | _ := SubmitPhase.steps_of_step hphase
    · cases hactive
    · exact Or.inr rfl
    · exact Or.inl rfl
    · exact Or.inl rfl
    · cases hactive

/-- Only an AI's `Hello` makes a call look for the seat. -/
theorem looking_of_step (hstep : call.step slots action = some (slots', call'))
    (hallows : s.allows action = true) (hlooking : looking call' = true) :
    looking call = true := by
  obtain ⟨phase, phase', rfl, rfl, hphase⟩ | ⟨phase, phase', rfl, rfl, -⟩ |
    ⟨phase, phase', rfl, rfl, -⟩ := SessionCall.step_cases hstep
  · unfold HelloPhase.step at hphase
    split at hphase
    · cases hphase
      cases hlooking
    · cases hphase
      rename_i schemaMatches isAi
      obtain rfl : isAi = false := Bool.not_eq_true' isAi ▸ hallows
      rcases schemaMatches with - | - <;> cases hlooking
    · obtain ⟨⟨slots₂, result⟩, -, heq⟩ := map_eq_some_iff.1 hphase
      rcases result with reservation | - | - <;> obtain ⟨⟩ := heq <;> cases hlooking
    · obtain ⟨rfl, rfl⟩ := Prod.mk.inj (Option.some.inj hphase)
      cases hlooking
    · exact rfl
    · exact rfl
    · cases hphase
      cases hlooking
    · cases hphase
  · cases hlooking
  · cases hlooking

/-- A call that looks for the seat is refused exactly if it is taken. -/
theorem claim_of_step (hstep : call.step slots .claim = some (slots', call')) :
    looking call = true ∨
      call = .submitCommands .claiming ∧
        call' = .submitCommands
          (if slots.aiSlotTaken then .finishing .aiSlotAlreadyClaimed else .reading) := by
  obtain ⟨phase, phase', rfl, rfl, hphase⟩ | ⟨phase, phase', rfl, rfl, hphase⟩ |
    ⟨phase, phase', rfl, rfl, hphase⟩ := SessionCall.step_cases hstep
  · rcases phase with _ | (_ | _) | _ | _ | _ | _ | _
    case claiming => exact Or.inl rfl
    all_goals cases hphase
  · rcases phase with _ | (_ | _) | _ | _ | _ | _
    all_goals cases hphase
  · obtain _ | _ | _ | _ | _ := SubmitPhase.steps_of_step hphase
    refine Or.inr ⟨rfl, ?_⟩
    rw [SessionSlots.tryClaimAiSlot]
    rcases slots.aiSlotTaken with - | - <;> rfl

/-- No other step refuses a stream for want of the seat. -/
theorem ne_alreadyClaimed_of_step (hstep : call.step slots action = some (slots', call'))
    (haction : action ≠ .claim) : call' ≠ .submitCommands (.finishing .aiSlotAlreadyClaimed) := by
  obtain ⟨phase, phase', rfl, rfl, -⟩ | ⟨phase, phase', rfl, rfl, -⟩ |
    ⟨phase, phase', rfl, rfl, hphase⟩ := SessionCall.step_cases hstep
  · exact nofun
  · exact nofun
  · obtain _ | wired | _ | _ | _ := SubmitPhase.steps_of_step hphase
    · exact nofun
    · rcases wired with - | - <;> exact nofun
    · exact absurd rfl haction
    · exact nofun
    · exact nofun

/-! ### The client has one stream at a time -/

/-- What a run of one sequential client keeps. -/
structure Sequential (s : OneShot) : Prop where
  counted : s.server.Counted
  not_looking : ∀ call ∈ s.server.calls, looking call = false
  /-- An active stream is the latest one, and the client is waiting for it. -/
  active_current : ∀ i call, s.server.calls[i]? = some call → active call = true →
    s.current = some i ∧ s.announced = false

theorem sequential_init : machine.init.Sequential where
  counted := ⟨rfl, by decide, rfl⟩
  not_looking := by decide
  active_current := by
    intro i call hcall hactive
    have hnone : ∀ call ∈ machine.init.server.calls, active call = false := by decide
    rw [hnone call (mem_of_getElem? hcall)] at hactive
    cases hactive

/-- A client that has the final status of its latest stream has no active stream. -/
theorem Sequential.not_active (h : s.Sequential) (hobserved : s.observed = true) {i : ℕ}
    {call : SessionCall} (hcall : s.server.calls[i]? = some call) : active call = false := by
  by_contra hactive
  rw [Bool.not_eq_false] at hactive
  obtain ⟨hcurrent, -⟩ := h.active_current i call hcall hactive
  rw [observed, hcurrent] at hobserved
  simp only [hcall] at hobserved
  rcases call with _ | _ | phase
  · cases hactive
  · cases hactive
  · rcases phase with _ | _ | _ | _ | _
    case claiming => cases hobserved
    case reading => cases hobserved
    all_goals cases hactive

/-- What a step of the server leaves in the table. -/
theorem getElem?_of_step {i j : ℕ} {calls new : List SessionCall}
    (hcall : (calls.set i call' ++ new)[j]? = some call) :
    (j = i ∧ call = call') ∨ (j ≠ i ∧ calls[j]? = some call) ∨ call ∈ new := by
  rw [getElem?_append] at hcall
  split_ifs at hcall with hlt
  · rcases eq_or_ne i j with rfl | hne
    · rw [length_set] at hlt
      rw [getElem?_set_self hlt] at hcall
      exact Or.inl ⟨rfl, (Option.some.inj hcall).symm⟩
    · rw [getElem?_set_ne hne] at hcall
      exact Or.inr (Or.inl ⟨hne.symm, hcall⟩)
  · exact Or.inr (Or.inr (mem_of_getElem? hcall))

/-- Every step keeps it so. -/
theorem Sequential.step (h : s.Sequential) (hstep : s.step label = some t) : t.Sequential := by
  rcases label with _ | ⟨i, action⟩
  · obtain ⟨hopen, ⟨⟩⟩ := ite_none_right_eq_some.1 hstep
    rw [Bool.and_eq_true] at hopen
    refine ⟨h.counted, h.not_looking, fun i call hcall hactive ↦ ?_⟩
    rw [h.not_active hopen.2 hcall] at hactive
    cases hactive
  · obtain ⟨hallows, hserve⟩ := ite_none_right_eq_some.1 hstep
    obtain ⟨server, hserver, rfl⟩ := map_eq_some_iff.1 hserve
    obtain ⟨call, call', hcall, hmove, hcalls⟩ := Sessions.step_eq_some hserver
    have hfresh : ∀ call ∈ SessionCall.replacement action,
        looking call = false ∧ active call = false := by
      intro call hmem
      rcases SessionCall.mem_replacement hmem with rfl | rfl | rfl <;> exact ⟨rfl, rfl⟩
    refine ⟨h.counted.step hserver, fun other hmem ↦ ?_, fun j other hother hactive ↦ ?_⟩
    · obtain ⟨j, hj⟩ := getElem?_of_mem hmem
      rw [hcalls] at hj
      rcases getElem?_of_step hj with ⟨-, rfl⟩ | ⟨-, hold⟩ | hnew
      · by_contra hlooking
        have hbefore := looking_of_step hmove hallows (eq_true_of_ne_false hlooking)
        rw [h.not_looking call (mem_of_getElem? hcall)] at hbefore
        cases hbefore
      · exact h.not_looking other (mem_of_getElem? hold)
      · exact (hfresh other hnew).1
    · rw [hcalls] at hother
      rcases htakes : takes action with - | -
      · -- the step takes no announced stream, so an active call was active before
        have hbefore : s.current = some j ∧ s.announced = false := by
          rcases getElem?_of_step hother with ⟨rfl, rfl⟩ | ⟨-, hold⟩ | hnew
          · have hwas := (active_of_step hmove hactive).resolve_right (by rw [htakes]; exact nofun)
            exact h.active_current j call hcall hwas
          · exact h.active_current j other hold hactive
          · rw [(hfresh other hnew).2] at hactive
            cases hactive
        simpa using hbefore
      · -- the stream it takes was announced, so no other is active
        have hannounced : s.announced = true := announced_of_takes hallows htakes
        rcases getElem?_of_step hother with ⟨rfl, -⟩ | ⟨-, hold⟩ | hnew
        · exact ⟨rfl, by simp⟩
        · rw [(h.active_current j other hold hactive).2] at hannounced
          cases hannounced
        · rw [(hfresh other hnew).2] at hactive
          cases hactive

/-! ### When a stream is refused -/

/-- The condition on a step: no call of the client looks for the seat while another one waits for
the completion of its `Finish`. -/
def Settled (s : OneShot) : OneShotLabel → Prop
  | .serve _ .claim => ∀ call ∈ s.server.calls, awaitsFinish call = false
  | _ => True

instance (s : OneShot) : (label : OneShotLabel) → Decidable (s.Settled label)
  | .serve _ .claim =>
    inferInstanceAs (Decidable (∀ call ∈ s.server.calls, awaitsFinish call = false))
  | .openStream | .serve _ .cancelled | .serve _ (.acceptHello _ _) | .serve _ .acceptStream =>
    inferInstanceAs (Decidable True)
  | .serve _ (.acceptSubmit _) | .serve _ .load | .serve _ (.compareExchange _) =>
    inferInstanceAs (Decidable True)
  | .serve _ .release | .serve _ (.checkHandles _) | .serve _ .finishStream =>
    inferInstanceAs (Decidable True)
  | .serve _ (.finishSubmit _) | .serve _ .delete => inferInstanceAs (Decidable True)

/-- The seat is taken for a stream that looks for it exactly if another one has not been deleted. -/
theorem Sequential.aiSlotTaken_iff (h : s.Sequential) {i : ℕ}
    (hclaiming : s.server.calls[i]? = some (.submitCommands .claiming)) :
    s.server.slots.aiSlotTaken = true ↔ ∃ call ∈ s.server.calls, awaitsFinish call = true := by
  rw [h.counted.aiSlotTaken_iff]
  refine exists_congr fun call ↦ and_congr_right fun hmem ↦ ?_
  have hnot := h.not_looking call hmem
  obtain ⟨j, hj⟩ := getElem?_of_mem hmem
  have hcurrent := (h.active_current i _ hclaiming rfl).1
  rcases call with phase | phase | phase
  · rcases phase with _ | _ | _ | _ | _ | _ | _
    case claimed => cases hnot
    all_goals exact iff_of_false nofun nofun
  · rcases phase with _ | _ | _ | _ | how | _
    case finishing => rcases how <;> exact iff_of_false nofun nofun
    all_goals exact iff_of_false nofun nofun
  · rcases phase with _ | _ | _ | how | _
    case reading =>
      -- two active streams would both be the client's latest
      have hsame := Option.some.inj (hcurrent.symm.trans (h.active_current j _ hj rfl).1)
      rw [hsame, hj] at hclaiming
      cases hclaiming
    case finishing =>
      rcases how with _ | _ | _
      case finished => exact iff_of_true rfl rfl
      all_goals exact iff_of_false nofun nofun
    all_goals exact iff_of_false nofun nofun

/-- No stream of the client has been refused for want of the seat. -/
def NeverRefused (s : OneShot) : Prop := .aiSlotAlreadyClaimed ∉ s.statuses

/-- What a step sends is the final status of its call, if it has one now. -/
theorem sent_of_step {server server' : Sessions} {i : ℕ} (hcall : server.calls[i]? = some call)
    (hcalls : server'.calls = server.calls.set i call' ++ SessionCall.replacement action)
    (how : SubmitEnd) : how ∈ sent server' i ↔ call' = .submitCommands (.finishing how) := by
  obtain ⟨hlt, -⟩ := List.getElem?_eq_some_iff.1 hcall
  have hnow : server'.calls[i]? = some call' := by
    rw [hcalls, getElem?_append_left (by rwa [length_set]), getElem?_set_self hlt]
  rw [sent, hnow]
  rcases call' with _ | _ | (_ | _ | _ | _ | _)
  case submitCommands.finishing how' => simp [eq_comm]
  all_goals exact iff_of_false not_mem_nil nofun

/-- A step refuses a stream exactly if it breaks the condition. -/
theorem neverRefused_step (h : s.Sequential) (hstep : s.step label = some t) :
    t.NeverRefused ↔ s.NeverRefused ∧ s.Settled label := by
  rcases label with _ | ⟨i, action⟩
  · obtain ⟨-, ⟨⟩⟩ := ite_none_right_eq_some.1 hstep
    exact (and_iff_left trivial).symm
  · obtain ⟨-, hserve⟩ := ite_none_right_eq_some.1 hstep
    obtain ⟨server, hserver, rfl⟩ := map_eq_some_iff.1 hserve
    obtain ⟨call, call', hcall, hmove, hcalls⟩ := Sessions.step_eq_some hserver
    have hsent := sent_of_step hcall hcalls .aiSlotAlreadyClaimed
    rw [NeverRefused, mem_append, not_or, hsent]
    refine and_congr_right fun _ ↦ ?_
    by_cases hclaim : action = .claim
    · subst hclaim
      rcases claim_of_step hmove with hlooking | ⟨rfl, rfl⟩
      · rw [h.not_looking call (mem_of_getElem? hcall)] at hlooking
        cases hlooking
      · have htaken := h.aiSlotTaken_iff hcall
        have hsettled : s.Settled (.serve i .claim) ↔ ¬s.server.slots.aiSlotTaken = true := by
          rw [htaken, not_exists]
          exact forall_congr' fun call ↦ by
            rw [not_and, Bool.not_eq_true]
        rw [hsettled]
        rcases s.server.slots.aiSlotTaken with - | -
        · exact iff_of_true nofun Bool.false_ne_true
        · exact iff_of_false (fun hne ↦ hne rfl) fun hne ↦ hne rfl
    · have hsettled : s.Settled (.serve i action) := by
        unfold Settled
        split
        · rename_i heq
          exact absurd (OneShotLabel.serve.inj heq).2 hclaim
        · trivial
      exact iff_of_true (ne_alreadyClaimed_of_step hmove hclaim) hsettled

/-- **The streams of a sequential client are never refused for want of the seat exactly if none of
them looks for it before the completion of the `Finish` of every earlier one has been handled.** -/
theorem submissions_accepted_iff {labels : List OneShotLabel}
    (hrun : machine.exec machine.init labels = some s) :
    s.NeverRefused ↔ machine.Meets Settled machine.init labels :=
  (StepMachine.invariant_iff_meets_of (I := NeverRefused) (J := Sequential)
    (fun _ _ _ h hstep ↦ h.step hstep) (fun _ _ _ h hstep ↦ neverRefused_step h hstep)
    sequential_init hrun).trans (and_iff_right not_mem_nil)

/-- A stream that ends without a batch. -/
def emptyAck : SubmitFinish := .ok ⟨0, 0, 0, 0, []⟩

/-- Two streams; the first is deleted before the second looks for the seat. -/
def deletedInTime : List OneShotLabel :=
  [.openStream, .serve 2 (.acceptSubmit true), .serve 2 .claim, .serve 2 (.finishSubmit emptyAck),
    .openStream, .serve 3 (.acceptSubmit true), .serve 2 .delete, .serve 3 .claim,
    .serve 3 (.finishSubmit emptyAck)]

theorem submissions_accepted_iff_deletedInTime :
    ∃ s, machine.exec machine.init deletedInTime = some s ∧
      s.statuses = [.finished emptyAck, .finished emptyAck] ∧ s.NeverRefused := by
  have hmeets : machine.Meets Settled machine.init deletedInTime := by decide
  exact ⟨_, rfl, rfl, (submissions_accepted_iff rfl).2 hmeets⟩

/-- Two streams; the second looks for the seat first. -/
def deletedTooLate : List OneShotLabel :=
  [.openStream, .serve 2 (.acceptSubmit true), .serve 2 .claim, .serve 2 (.finishSubmit emptyAck),
    .openStream, .serve 3 (.acceptSubmit true), .serve 3 .claim, .serve 2 .delete]

/-- **The second stream of a client that waited for the first is refused.** -/
theorem next_stream_collides :
    ∃ s, machine.exec machine.init deletedTooLate = some s ∧
      s.statuses = [.finished emptyAck, .aiSlotAlreadyClaimed] :=
  ⟨_, rfl, rfl⟩

end OneShot

end HighBar.Grpc
