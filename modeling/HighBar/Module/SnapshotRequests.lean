import HighBar.Module.GatewayEmission

/-!
# Forced snapshots

`RequestSnapshot` promises a frame: it reads `CurrentFrame()`, and only then sets the flag that
`Pump` exchanges. A tick stores its frame, and only then pumps. The four steps are not synchronised,
so a call may read in one tick and set the flag in another, or do both between the store and the
pump of one tick.

## What always holds

The first `Pump` after a flag was set emits, and all requests since the `Pump` before share that one
emission (`Coalesced`).

The model of the gateway stores and pumps in one step, and its results about emissions and their
numbers are about that step. `exec_gateway_pump` connects the two models: the step is the two steps
of this machine with nothing between them, and emits on the frame that is recorded here.

## What depends on the interleaving

Number the ticks. After `n` of them have stored their frame, `CurrentFrame() + 1` is the frame of
the tick after those; after `m` have pumped, the next emission is that of the tick after those. So
the promise is kept **exactly if `n = m`**: as many ticks had stored when the call read as had
pumped when it set the flag (`Request.Timely`). It is broken both ways: a call that runs between the
store and the pump of a tick is served by that tick, one frame early, and a call that is overtaken
by a pump is served late. Frames are `uint32`, so the two numbers are compared modulo `2 ^ 32`; and
before the first tick `CurrentFrame()` is 0, whatever the frame of that tick.
-/

namespace HighBar.Module

open Grpc List Option

/-! ### The call -/

/-- How a `RequestSnapshot` call is finished. -/
inductive SnapshotStatus where
  | ok
  | unavailable (message : String)
  | failedPrecondition (message : String)
deriving Repr, DecidableEq

/-- The reply of a `RequestSnapshot` call. -/
structure RequestSnapshotReply where
  status : SnapshotStatus
  scheduledFrame : ℕ := 0
deriving Repr, DecidableEq

/-- The tests before the frame is read: the reply of a call they turn away. The argument is the
state of the gateway, `none` while the service has no handle on it. -/
def snapshotGate : Option GatewayState → Option RequestSnapshotReply
  | none => some { status := .unavailable "RequestSnapshot handle not yet wired" }
  | some .healthy => none
  | some .disabling => some { status := .failedPrecondition "gateway state=disabling" }
  | some .disabled => some { status := .failedPrecondition "gateway state=disabled" }

/-- A call. -/
abbrev CallId := ℕ

/-- How far a call is. -/
inductive CallPhase where
  /-- Past the tests. -/
  | passed
  /-- It has computed its `scheduled`, when `stores` ticks had stored their frame. -/
  | scheduled (frame stores : ℕ)
  | replied (reply : RequestSnapshotReply)
deriving Repr, DecidableEq

/-- A call that has set the flag. -/
structure SnapshotRequest where
  id : CallId
  scheduledFrame : ℕ
  /-- How many ticks had stored their frame when the call read it. -/
  storesAtRead : ℕ
  /-- How many ticks had pumped when it set the flag. -/
  pumpsAtSet : ℕ
deriving Repr, DecidableEq

/-- A `Pump`: its frame, what it decided, and the requests since the one before. An emission carries
the frame of its `Pump`. -/
structure Pumped where
  frame : ℕ
  result : SnapshotPumpResult
  requests : List SnapshotRequest
deriving Repr, DecidableEq

/-- How far the engine thread is in a tick. -/
inductive PumpStage where
  | idle
  /-- The queues are drained. -/
  | drained
  /-- The frame is stored. -/
  | stored
deriving Repr, DecidableEq

/-- The calls, the tick and what they share. -/
structure SnapshotRequests where
  state : GatewayState
  engine : PumpStage
  /-- `FrameForWire` in this tick, or in the next one between ticks. -/
  frame : ℕ
  /-- `current_frame_`. -/
  currentFrame : ℕ
  snapshotTick : SnapshotTick
  calls : CallId → Option CallPhase
  /-- How many ticks have stored their frame. -/
  stores : ℕ
  /-- The requests since the last `Pump`. -/
  waiting : List SnapshotRequest
  pumps : List Pumped

/-- One atomic step. -/
inductive SnapshotLabel where
  /-- A call passes the tests, or is turned away. -/
  | start (id : CallId)
  | readFrame (id : CallId)
  | setFlag (id : CallId)
  | drainQueues
  | storeFrame
  | pump (ownUnitsCount : ℕ)
  /-- A fault, which may end the tick. -/
  | fault (endsTick : Bool)
deriving Repr, DecidableEq

namespace SnapshotRequests

/-- A call moves on. -/
def setCall (s : SnapshotRequests) (id : CallId) (phase : CallPhase) : SnapshotRequests :=
  { s with calls := Function.update s.calls id (some phase) }

/-- The call sets the flag and is answered. -/
def setFlag (s : SnapshotRequests) (id : CallId) (scheduled stores : ℕ) : SnapshotRequests :=
  ({ s with
    snapshotTick := { s.snapshotTick with pendingRequest := true }
    waiting := s.waiting ++ [⟨id, scheduled, stores, s.pumps.length⟩] } :
    SnapshotRequests).setCall id (.replied ⟨.ok, scheduled⟩)

/-- The tick pumps. -/
def pump (s : SnapshotRequests) (ownUnitsCount : ℕ) : SnapshotRequests :=
  let pumped := s.snapshotTick.pump s.frame ownUnitsCount
  { s with
    engine := .idle
    frame := wrapAdd 32 s.frame 1
    snapshotTick := pumped.2
    waiting := []
    pumps := s.pumps ++ [⟨s.frame, pumped.1, s.waiting⟩] }

/-- One step. -/
def step (s : SnapshotRequests) : SnapshotLabel → Option SnapshotRequests
  | .start id =>
    match s.calls id with
    | none => some (s.setCall id (((snapshotGate (some s.state)).map .replied).getD .passed))
    | some _ => none
  | .readFrame id =>
    match s.calls id with
    | some .passed => some (s.setCall id (.scheduled (wrapAdd 32 s.currentFrame 1) s.stores))
    | _ => none
  | .setFlag id =>
    match s.calls id with
    | some (.scheduled frame stores) => some (s.setFlag id frame stores)
    | _ => none
  | .drainQueues =>
    if s.engine = .idle ∧ s.state = .healthy then some { s with engine := .drained } else none
  | .storeFrame =>
    if s.engine = .drained then
      some { s with engine := .stored, currentFrame := s.frame, stores := s.stores + 1 }
    else none
  | .pump ownUnitsCount => if s.engine = .stored then some (s.pump ownUnitsCount) else none
  | .fault endsTick =>
    some { s with state := .disabled, engine := if endsTick then .idle else s.engine }

/-- The machine, from a gateway whose first tick will have the frame `first`. -/
def machine (cfg : SnapshotTickConfig) (first : ℕ) :
    StepMachine SnapshotRequests SnapshotLabel where
  init :=
    { state := .healthy
      engine := .idle
      frame := first % 2 ^ 32
      currentFrame := 0
      snapshotTick := .configure cfg
      calls := fun _ ↦ none
      stores := 0
      waiting := []
      pumps := [] }
  step := step

variable {s t : SnapshotRequests} {label : SnapshotLabel} {id : CallId} {first : ℕ}

/-- A step, inverted. -/
inductive Steps (s : SnapshotRequests) : SnapshotLabel → SnapshotRequests → Prop
  | turnedAway {id : CallId} {reply : RequestSnapshotReply} (hcall : s.calls id = none)
      (hgate : snapshotGate (some s.state) = some reply) :
    Steps s (.start id) (s.setCall id (.replied reply))
  | passed {id : CallId} (hcall : s.calls id = none) (hgate : snapshotGate (some s.state) = none) :
    Steps s (.start id) (s.setCall id .passed)
  | readFrame {id : CallId} (hcall : s.calls id = some .passed) :
    Steps s (.readFrame id) (s.setCall id (.scheduled (wrapAdd 32 s.currentFrame 1) s.stores))
  | setFlag {id : CallId} {frame stores : ℕ} (hcall : s.calls id = some (.scheduled frame stores)) :
    Steps s (.setFlag id) (s.setFlag id frame stores)
  | drainQueues (hengine : s.engine = .idle) (hstate : s.state = .healthy) :
    Steps s .drainQueues { s with engine := .drained }
  | storeFrame (hengine : s.engine = .drained) :
    Steps s .storeFrame
      { s with engine := .stored, currentFrame := s.frame, stores := s.stores + 1 }
  | pump {ownUnitsCount : ℕ} (hengine : s.engine = .stored) :
    Steps s (.pump ownUnitsCount) (s.pump ownUnitsCount)
  | fault {endsTick : Bool} :
    Steps s (.fault endsTick)
      { s with state := .disabled, engine := if endsTick then .idle else s.engine }

/-- **One step, inverted.** -/
theorem steps_of_step (hstep : s.step label = some t) : Steps s label t := by
  cases label with
  | start id =>
    simp only [step] at hstep
    split at hstep
    · rename_i hcall
      rcases hgate : snapshotGate (some s.state) with - | reply
      · rw [hgate] at hstep
        cases hstep
        exact .passed hcall hgate
      · rw [hgate] at hstep
        cases hstep
        exact .turnedAway hcall hgate
    · cases hstep
  | readFrame id =>
    simp only [step] at hstep
    split at hstep
    · rename_i hcall
      cases hstep
      exact .readFrame hcall
    · cases hstep
  | setFlag id =>
    simp only [step] at hstep
    split at hstep
    · rename_i hcall
      cases hstep
      exact .setFlag hcall
    · cases hstep
  | drainQueues =>
    obtain ⟨⟨hengine, hstate⟩, ht⟩ := ite_none_right_eq_some.1 hstep
    cases ht
    exact .drainQueues hengine hstate
  | storeFrame =>
    obtain ⟨hengine, ht⟩ := ite_none_right_eq_some.1 hstep
    cases ht
    exact .storeFrame hengine
  | pump ownUnitsCount =>
    obtain ⟨hengine, ht⟩ := ite_none_right_eq_some.1 hstep
    cases ht
    exact .pump hengine
  | fault endsTick =>
    cases hstep
    exact .fault

theorem setCall_calls_self (s : SnapshotRequests) (id : CallId) (phase : CallPhase) :
    (s.setCall id phase).calls id = some phase := Function.update_self ..

theorem setCall_calls_of_ne (s : SnapshotRequests) {i : CallId} (h : i ≠ id) (phase : CallPhase) :
    (s.setCall id phase).calls i = s.calls i := Function.update_of_ne h ..

/-- The scheduler of the gateway does the two steps in one: it leaves the same frame and the same
flag, and emits exactly if the `Pump` recorded here does, on its frame. -/
theorem exec_gateway_pump (cfg : SnapshotTickConfig) {g : Gateway} (fault : Option EmitFault)
    (hframe : s.frame = g.frameForWire) (htick : s.snapshotTick = g.snapshotTick)
    (hengine : s.engine = .drained) :
    ∃ t result,
      (machine cfg first).exec s [.storeFrame, .pump g.teamUnits.length] = some t ∧
        t.currentFrame = (g.pump fault).currentFrame ∧
        t.snapshotTick = (g.pump fault).snapshotTick ∧
        t.pumps = s.pumps ++ [⟨g.frameForWire, result, s.waiting⟩] ∧
        result.emit = g.snapshotDue := by
  have hpumped : g.pumped.SameWork (g.pump fault) := by
    rw [Gateway.pump]
    split_ifs
    · exact Gateway.sameWork_emit
    · rfl
  have hcurrent : (g.pump fault).currentFrame = g.pumped.currentFrame := by rw [hpumped]
  have hsnapshot : (g.pump fault).snapshotTick = g.pumped.snapshotTick := by rw [hpumped]
  have hstore : (machine cfg first).step s .storeFrame =
      some { s with engine := .stored, currentFrame := s.frame, stores := s.stores + 1 } :=
    if_pos hengine
  refine ⟨_, (g.snapshotTick.pump g.frameForWire g.teamUnits.length).1,
    ((machine cfg first).exec_cons ..).trans (congrArg (Option.bind · _) hstore), ?_, ?_, ?_, ?_⟩
  · rw [hcurrent]
    exact hframe
  · rw [hsnapshot, pump, htick, hframe]
    rfl
  · rw [pump, htick, hframe]
  · exact SnapshotTick.emit_pump ..

/-! ### Every request has its emission -/

/-- The requests so far, in the order in which they set the flag. -/
def requests (s : SnapshotRequests) : List SnapshotRequest :=
  s.pumps.flatMap Pumped.requests ++ s.waiting

/-- **Requests are coalesced, and none is lost**: the successful calls are the requests, each in one
`Pump` or waiting for the next; a `Pump` emits by force exactly if there was a request since the one
before. -/
structure Coalesced (s : SnapshotRequests) : Prop where
  calls : ∀ id frame, s.calls id = some (.replied ⟨.ok, frame⟩) ↔
    ∃ r ∈ s.requests, r.id = id ∧ r.scheduledFrame = frame
  nodup : (s.requests.map SnapshotRequest.id).Nodup
  forced : ∀ p ∈ s.pumps, p.result.forced = true ↔ p.requests ≠ []
  emit : ∀ p ∈ s.pumps, p.requests ≠ [] → p.result.emit = true

/-- The flag is set exactly while a request waits. -/
structure Flagged (s : SnapshotRequests) : Prop extends Coalesced s where
  flag : s.snapshotTick.pendingRequest = true ↔ s.waiting ≠ []

/-- A call that was not answered yet, and still is not answered with success. -/
theorem Flagged.setCall {phase : CallPhase} (hs : s.Flagged)
    (hold : ∀ frame, s.calls id ≠ some (.replied ⟨.ok, frame⟩))
    (hnew : ∀ frame, phase ≠ .replied ⟨.ok, frame⟩) : (s.setCall id phase).Flagged := by
  refine ⟨⟨fun i frame ↦ ?_, hs.nodup, hs.forced, hs.emit⟩, hs.flag⟩
  rcases eq_or_ne i id with rfl | hne
  · rw [setCall_calls_self]
    refine iff_of_false (fun h ↦ hnew frame (Option.some.inj h)) fun h ↦ ?_
    exact hold frame ((hs.calls i frame).2 h)
  · rw [setCall_calls_of_ne s hne]
    exact hs.calls i frame

theorem requests_setFlag (s : SnapshotRequests) (id : CallId) (frame stores : ℕ) :
    (s.setFlag id frame stores).requests = s.requests ++ [⟨id, frame, stores, s.pumps.length⟩] :=
  (append_assoc ..).symm

theorem requests_pump (s : SnapshotRequests) (ownUnitsCount : ℕ) :
    (s.pump ownUnitsCount).requests = s.requests := by
  simp only [requests, pump, flatMap_append, flatMap_cons, flatMap_nil,
    append_nil]

/-- A call that sets the flag joins the requests that wait. -/
theorem Flagged.setFlag {frame stores : ℕ} (hs : s.Flagged)
    (hcall : s.calls id = some (.scheduled frame stores)) :
    (s.setFlag id frame stores).Flagged := by
  have hnew : id ∉ s.requests.map SnapshotRequest.id := fun hmem ↦ by
    obtain ⟨r, hr, hid⟩ := mem_map.1 hmem
    have hreplied := (hs.calls id r.scheduledFrame).2 ⟨r, hr, hid, rfl⟩
    rw [hcall] at hreplied
    exact CallPhase.noConfusion (Option.some.inj hreplied)
  refine ⟨⟨fun i f ↦ ?_, ?_, hs.forced, hs.emit⟩, ?_⟩
  · rw [requests_setFlag]
    rcases eq_or_ne i id with rfl | hne
    · rw [SnapshotRequests.setFlag, setCall_calls_self]
      constructor
      · rintro h
        cases h
        exact ⟨_, mem_append_right _ (mem_singleton_self _), rfl, rfl⟩
      · rintro ⟨r, hr, hid, rfl⟩
        rcases mem_append.1 hr with hold | hlast
        · exact absurd (mem_map.2 ⟨r, hold, hid⟩) hnew
        · rw [mem_singleton.1 hlast]
    · rw [SnapshotRequests.setFlag, setCall_calls_of_ne _ hne]
      refine (hs.calls i f).trans ⟨?_, ?_⟩
      · rintro ⟨r, hr, h⟩
        exact ⟨r, mem_append_left _ hr, h⟩
      · rintro ⟨r, hr, hid, h⟩
        rcases mem_append.1 hr with hold | hlast
        · exact ⟨r, hold, hid, h⟩
        · rw [mem_singleton.1 hlast] at hid
          exact absurd hid.symm hne
  · rw [requests_setFlag, map_append]
    refine nodup_append.2 ⟨hs.nodup, pairwise_singleton _ _, ?_⟩
    rintro i hi _ hlast rfl
    rw [mem_singleton.1 hlast] at hi
    exact hnew hi
  · exact iff_of_true rfl (append_ne_nil_of_right_ne_nil _ (cons_ne_nil _ _))

/-- A `Pump` serves the requests that wait. -/
theorem Flagged.pump (hs : s.Flagged) (ownUnitsCount : ℕ) : (s.pump ownUnitsCount).Flagged := by
  have hserved : (s.snapshotTick.pump s.frame ownUnitsCount).1.forced = true ↔ s.waiting ≠ [] := by
    rw [SnapshotTick.forced_pump]
    exact hs.flag
  refine ⟨⟨fun i frame ↦ ?_, ?_, ?_, ?_⟩, ?_⟩
  · rw [requests_pump]
    exact hs.calls i frame
  · rw [requests_pump]
    exact hs.nodup
  · exact forall_mem_append.2 ⟨hs.forced, forall_mem_singleton.2 hserved⟩
  · refine forall_mem_append.2 ⟨hs.emit, forall_mem_singleton.2 fun hrequests ↦ ?_⟩
    show (s.snapshotTick.pump s.frame ownUnitsCount).1.emit = true
    rw [SnapshotTick.emit_pump, SnapshotTick.due, hs.flag.2 hrequests, Bool.true_or]
  · refine iff_of_false ?_ fun h ↦ h rfl
    show ¬(s.snapshotTick.pump s.frame ownUnitsCount).2.pendingRequest = true
    rw [SnapshotTick.pendingRequest_pump]
    exact Bool.false_ne_true

/-- No call is turned away with success. -/
theorem ne_ok_of_snapshotGate {state : Option GatewayState} {reply : RequestSnapshotReply}
    (h : snapshotGate state = some reply) : reply.status ≠ .ok := by
  rcases state with - | (- | - | -)
  all_goals
    cases h
    try exact SnapshotStatus.noConfusion

/-- The flag stands for the requests not yet pumped. -/
theorem flagged_step (hs : s.Flagged) (hstep : s.step label = some t) : t.Flagged := by
  cases steps_of_step hstep with
  | turnedAway hcall hgate =>
    refine hs.setCall (by rw [hcall]; exact fun _ ↦ nofun) fun frame h ↦ ?_
    exact ne_ok_of_snapshotGate hgate (by rw [CallPhase.replied.inj h])
  | passed hcall | readFrame hcall =>
    exact hs.setCall (by rw [hcall]; exact fun _ ↦ nofun) fun _ ↦ nofun
  | setFlag hcall => exact hs.setFlag hcall
  | pump => exact hs.pump _
  | drainQueues | storeFrame | fault => exact ⟨⟨hs.calls, hs.nodup, hs.forced, hs.emit⟩, hs.flag⟩

/-! ### The frame a request is served on -/

/-- The frame of the tick after the first `n`. -/
def tickFrame (first n : ℕ) : ℕ := (first + n) % 2 ^ 32

/-- `CurrentFrame()` after `n` ticks have stored theirs. -/
def storedFrame (first : ℕ) : ℕ → ℕ
  | 0 => 0
  | n + 1 => tickFrame first n

/-- The frames wrap around. -/
theorem wrapAdd_tickFrame (first n : ℕ) :
    wrapAdd 32 (tickFrame first n) 1 = tickFrame first (n + 1) := by
  rw [wrapAdd, tickFrame, tickFrame, Nat.mod_add_mod, Nat.add_assoc]

/-- The ticks are numbered, and with them what the calls have read and were promised. -/
structure Numbered (first : ℕ) (s : SnapshotRequests) : Prop where
  frame : s.frame = tickFrame first s.pumps.length
  /-- Within a tick, and between the ticks of a healthy run, stores and pumps keep step. -/
  stores : s.state = .healthy ∨ s.engine ≠ .idle →
    s.stores = s.pumps.length + if s.engine = .stored then 1 else 0
  currentFrame : s.currentFrame = storedFrame first s.stores
  scheduled : ∀ id frame stores, s.calls id = some (.scheduled frame stores) →
    frame = wrapAdd 32 (storedFrame first stores) 1
  promised : ∀ r ∈ s.requests, r.scheduledFrame = wrapAdd 32 (storedFrame first r.storesAtRead) 1
  waiting : ∀ r ∈ s.waiting, r.pumpsAtSet = s.pumps.length
  served : ∀ p ∈ s.pumps, ∀ r ∈ p.requests, p.frame = tickFrame first r.pumpsAtSet

/-- A call moves on, with what it was promised if it has just been. -/
theorem Numbered.setCall {phase : CallPhase} (hs : s.Numbered first)
    (hnew : ∀ frame stores, phase = .scheduled frame stores →
      frame = wrapAdd 32 (storedFrame first stores) 1) : (s.setCall id phase).Numbered first := by
  refine ⟨hs.frame, hs.stores, hs.currentFrame, fun i frame stores h ↦ ?_, hs.promised, hs.waiting,
    hs.served⟩
  rcases eq_or_ne i id with rfl | hne
  · rw [setCall_calls_self] at h
    exact hnew frame stores (Option.some.inj h)
  · rw [setCall_calls_of_ne s hne] at h
    exact hs.scheduled i frame stores h

theorem Numbered.setFlag {frame stores : ℕ} (hs : s.Numbered first)
    (hcall : s.calls id = some (.scheduled frame stores)) :
    (s.setFlag id frame stores).Numbered first := by
  refine Numbered.setCall (s := { s with snapshotTick := _, waiting := _ })
    ⟨hs.frame, hs.stores, hs.currentFrame, hs.scheduled, ?_, ?_, hs.served⟩ fun _ _ ↦ nofun
  · rw [requests, ← append_assoc]
    exact forall_mem_append.2
      ⟨hs.promised, forall_mem_singleton.2 (hs.scheduled id frame stores hcall)⟩
  · exact forall_mem_append.2 ⟨hs.waiting, forall_mem_singleton.2 rfl⟩

theorem Numbered.pump (hs : s.Numbered first) (hengine : s.engine = .stored) (ownUnitsCount : ℕ) :
    (s.pump ownUnitsCount).Numbered first := by
  have hlength : (s.pump ownUnitsCount).pumps.length = s.pumps.length + 1 :=
    length_append
  refine ⟨?_, fun _ ↦ ?_, hs.currentFrame, hs.scheduled, fun r hr ↦ ?_,
    fun r hr ↦ absurd hr not_mem_nil, fun p hp r hr ↦ ?_⟩
  · show wrapAdd 32 s.frame 1 = _
    rw [hlength, hs.frame, wrapAdd_tickFrame]
  · show s.stores = _
    have hstores := hs.stores (Or.inr (by rw [hengine]; exact PumpStage.noConfusion))
    rw [if_pos hengine] at hstores
    rw [hlength, hstores]
    rfl
  · rw [requests_pump] at hr
    exact hs.promised r hr
  · rcases mem_append.1 hp with hold | hlast
    · exact hs.served p hold r hr
    · rw [mem_singleton.1 hlast] at hr ⊢
      show s.frame = _
      rw [hs.frame, hs.waiting r hr]

/-- The frames and stores are numbered by the ticks. -/
theorem numbered_step (hs : s.Numbered first) (hstep : s.step label = some t) :
    t.Numbered first := by
  cases steps_of_step hstep with
  | turnedAway | passed => exact hs.setCall fun _ _ ↦ nofun
  | readFrame =>
    refine hs.setCall fun frame stores h ↦ ?_
    obtain ⟨rfl, rfl⟩ := CallPhase.scheduled.inj h
    rw [hs.currentFrame]
  | setFlag hcall => exact hs.setFlag hcall
  | pump hengine => exact hs.pump hengine _
  | drainQueues hengine hstate =>
    refine ⟨hs.frame, fun _ ↦ ?_, hs.currentFrame, hs.scheduled, hs.promised, hs.waiting, hs.served⟩
    have hstores := hs.stores (Or.inl hstate)
    rw [hengine] at hstores
    exact hstores
  | storeFrame hengine =>
    have hstores := hs.stores (Or.inr (by rw [hengine]; exact PumpStage.noConfusion))
    rw [hengine] at hstores
    refine ⟨hs.frame, fun _ ↦ ?_, ?_, hs.scheduled, hs.promised, hs.waiting, hs.served⟩
    · exact congrArg (· + 1) hstores
    · show s.frame = tickFrame first s.stores
      rw [hs.frame, hstores]
      rfl
  | @fault endsTick =>
    refine ⟨hs.frame, fun h ↦ ?_, hs.currentFrame, hs.scheduled, hs.promised, hs.waiting, hs.served⟩
    have hgoes : endsTick = false := by
      rcases h with h | h
      · cases h
      · exact Bool.eq_false_iff.2 fun hends ↦ h (if_pos hends)
    subst hgoes
    rcases h with h | h
    · cases h
    · exact hs.stores (Or.inr h)

/-! ### The promised frame -/

end SnapshotRequests

/-- **The request is timely**: as many ticks had stored their frame when the call read it as had
pumped when it set the flag. A call that reads before any tick is promised frame 1. -/
def SnapshotRequest.Timely (first : ℕ) (r : SnapshotRequest) : Prop :=
  r.storesAtRead = 0 ∧ (first + r.pumpsAtSet) % 2 ^ 32 = 1 ∨
    r.storesAtRead ≠ 0 ∧ r.storesAtRead % 2 ^ 32 = r.pumpsAtSet % 2 ^ 32

instance (first : ℕ) (r : SnapshotRequest) : Decidable (r.Timely first) :=
  inferInstanceAs (Decidable (_ ∨ _))

namespace SnapshotRequests

variable {s t : SnapshotRequests} {label : SnapshotLabel} {id : CallId} {first : ℕ}

/-- The promise against the frame of the `Pump` that serves it. -/
theorem timely_iff (first : ℕ) (r : SnapshotRequest) :
    wrapAdd 32 (storedFrame first r.storesAtRead) 1 = tickFrame first r.pumpsAtSet ↔
      r.Timely first := by
  rw [SnapshotRequest.Timely]
  rcases r.storesAtRead with - | n
  · rw [storedFrame, tickFrame, wrapAdd]
    omega
  · rw [storedFrame, wrapAdd_tickFrame, tickFrame, tickFrame]
    omega

theorem flagged_init (cfg : SnapshotTickConfig) (first : ℕ) : (machine cfg first).init.Flagged where
  calls := fun _ _ ↦ iff_of_false (fun h ↦ some_ne_none _ h.symm) fun ⟨_, hr, _⟩ ↦
    absurd hr not_mem_nil
  nodup := nodup_nil
  forced := fun _ hp ↦ absurd hp not_mem_nil
  emit := fun _ hp ↦ absurd hp not_mem_nil
  flag := iff_of_false Bool.false_ne_true fun h ↦ h rfl

theorem numbered_init (cfg : SnapshotTickConfig) (first : ℕ) :
    (machine cfg first).init.Numbered first where
  frame := rfl
  stores := fun _ ↦ rfl
  currentFrame := rfl
  scheduled := fun _ _ _ h ↦ absurd h.symm (some_ne_none _)
  promised := fun _ hr ↦ absurd hr not_mem_nil
  waiting := fun _ hr ↦ absurd hr not_mem_nil
  served := fun _ hp ↦ absurd hp not_mem_nil

/-- **Forced snapshots.** In every run of any interleaving the requests between two `Pump`s cause
one emission, at the second of them, and **a request is served on the promised frame exactly if it
is timely**. -/
theorem promised_frame_iff (cfg : SnapshotTickConfig) (first : ℕ) (labels : List SnapshotLabel)
    (hrun : (machine cfg first).exec (machine cfg first).init labels = some t) :
    t.Coalesced ∧ ∀ p ∈ t.pumps, ∀ r ∈ p.requests, r.scheduledFrame = p.frame ↔ r.Timely first := by
  have hflagged : t.Flagged := StepMachine.invariant_of_exec (I := Flagged)
    (fun _ _ _ hs h ↦ flagged_step hs h) (flagged_init cfg first) hrun
  have hnumbered : t.Numbered first := StepMachine.invariant_of_exec (I := Numbered first)
    (fun _ _ _ hs h ↦ numbered_step hs h) (numbered_init cfg first) hrun
  refine ⟨hflagged.toCoalesced, fun p hp r hr ↦ ?_⟩
  have hmem : r ∈ t.requests := mem_append_left _ (mem_flatMap.2 ⟨p, hp, hr⟩)
  rw [hnumbered.promised r hmem, hnumbered.served p hp r hr]
  exact timely_iff first r

/-- Two calls between the first tick and the second, which serves both. -/
def betweenTicks : List SnapshotLabel :=
  [.drainQueues, .storeFrame, .pump 0, .start 0, .start 1, .readFrame 0, .readFrame 1, .setFlag 1,
    .drainQueues, .setFlag 0, .storeFrame, .pump 0]

theorem promised_frame_iff_betweenTicks :
    ∃ t, (machine {} 7).exec (machine {} 7).init betweenTicks = some t ∧
      ⟨8, ⟨true, 30, true⟩, [⟨1, 8, 1, 1⟩, ⟨0, 8, 1, 1⟩]⟩ ∈ t.pumps ∧ t.Coalesced ∧
      ∀ p ∈ t.pumps, ∀ r ∈ p.requests, r.scheduledFrame = p.frame ↔ r.Timely 7 :=
  ⟨_, rfl, by decide, promised_frame_iff {} 7 betweenTicks rfl⟩

/-- **Served one frame early**: a call that reads after the store and sets the flag before the pump
of frame 8 is promised frame 9 and served on frame 8. -/
theorem served_early :
    ∃ t, (machine {} 7).exec (machine {} 7).init
        [.drainQueues, .storeFrame, .pump 0, .drainQueues, .storeFrame, .start 0, .readFrame 0,
          .setFlag 0, .pump 0] = some t ∧
      t.calls 0 = some (.replied ⟨.ok, 9⟩) ∧
      ∃ p ∈ t.pumps, p.frame = 8 ∧ p.result.emit = true ∧
        ∃ r ∈ p.requests, r.id = 0 ∧ r.scheduledFrame ≠ p.frame :=
  ⟨_, rfl, rfl, by decide⟩

end SnapshotRequests

end HighBar.Module
