import HighBar.Grpc.DeltaBus
import HighBar.Grpc.RingBuffer
import HighBar.Library.StepMachine
import HighBar.Proto.State

/-!
# StreamState: the engine thread, the ring, the bus and the pumps

The system behind the `StreamState` call as one step machine. The engine thread publishes updates;
any number of pumps, one per open stream, replay history or stamp a snapshot and then forward what
their slot delivers. A label names the thread that moves, and each step is one critical section or
one thread-local action.

## The engine thread

`publish` is `seq := seq + 1` (engine-thread local) together with the locked `RingBuffer::Push`; a
push that throws abandons the update. Then `collect` takes the live slots under the bus mutex, and
`tryPush`, followed by `evictSlow` when refused, visits them one at a time; `published` returns.

## A pump

`subscribe` is the locked registration. Afterwards `pump` performs the pump thread's next action:
read the ring, stamp a snapshot with the ring head, write one message, test `stop_`, or pop the
slot. What the pump thread cannot decide itself (whether the write completed, what the snapshot
contains) comes with the label.

## Everyone else

`evict`, `unregister`, `clear`, `release` and `stop` are the steps that shutdown, a fault or the
destructor of the call take on a slot, at any moment.
-/

namespace HighBar.Grpc

/-- Where the engine thread is inside a publish. -/
inductive EnginePhase (β : Type*) where
  | idle
  /-- In the ring, not yet on the bus. -/
  | pushed (payload : β)
  /-- Slots still to be tried. -/
  | fanout (payload : β) (live : List SlotId)
  /-- `id` refused the payload and is about to be evicted. -/
  | evicting (payload : β) (id : SlotId) (live : List SlotId)
deriving Repr, DecidableEq

/-- The status a stream is finished with. -/
inductive StreamStatus where
  | ok
  /-- `CANCELLED`, "client disconnected or Write failed". -/
  | cancelled
  /-- `INTERNAL`, "ring entry deserialize failed". -/
  | ringEntryDeserializeFailed
  /-- `INTERNAL`, "live payload deserialize failed". -/
  | livePayloadDeserializeFailed
  /-- `RESOURCE_EXHAUSTED`, "slow consumer evicted". -/
  | slowConsumerEvicted
  /-- `UNAVAILABLE`, "gateway disabled". -/
  | gatewayDisabled
deriving Repr, DecidableEq

/-- Where a pump thread is inside `PumpLoop`. -/
inductive PumpPhase (π β : Type*) where
  /-- The call has not subscribed. -/
  | created
  /-- Subscribed; the ring has not been read. -/
  | subscribed
  /-- Nothing to replay; the snapshot has not been stamped. -/
  | snapshotting
  | writingSnapshot (update : StateUpdate π)
  /-- Ring entries still to be written. -/
  | replaying (rest : List (RingEntry β))
  /-- At the `stop_` test of the live loop. -/
  | live
  /-- Inside `BlockingPop`. -/
  | popping
  | writingLive (update : StateUpdate π)
  | finished (status : StreamStatus)
deriving Repr, DecidableEq

/-- The pump of one stream. -/
structure Pump (π β : Type*) where
  /-- `resume_from_seq` of the request. -/
  resumeFromSeq : ℕ
  lastSentSeq : ℕ
  phase : PumpPhase π β
  stop : Bool
  /-- The replay branch was taken. -/
  replayed : Bool
  /-- Every message handed to the client, oldest first. -/
  written : List (StateUpdate π)
deriving Repr, DecidableEq

/-- A call that has not subscribed. -/
def Pump.create {π β : Type*} : Pump π β :=
  { resumeFromSeq := 0, lastSentSeq := 0, phase := .created, stop := false, replayed := false
    written := [] }

/-- A call that has just subscribed; `last_sent_seq` starts at the requested position. -/
def Pump.start {π β : Type*} (resumeFromSeq : ℕ) : Pump π β :=
  { resumeFromSeq := resumeFromSeq, lastSentSeq := resumeFromSeq, phase := .subscribed
    stop := false, replayed := false, written := [] }

/-- What the environment decides for one pump action. -/
structure PumpEnv (π : Type*) where
  /-- The write completed. -/
  writeOk : Bool
  /-- The frame and the contents of a fresh snapshot. -/
  frame : ℕ
  body : π
deriving Repr, DecidableEq

/-- The whole system. -/
structure StreamSystem (π β : Type*) where
  /-- The engine thread's `seq_`. -/
  seq : ℕ
  ring : RingBuffer β
  bus : DeltaBus β
  engine : EnginePhase β
  /-- One pump per slot address. -/
  pumps : SlotId → Pump π β

/-- One atomic step of one thread. -/
inductive StreamLabel (π : Type*) where
  | publish (frame : ℕ) (body : π)
  | collect
  | tryPush
  | evictSlow
  | published
  | subscribe (id : SlotId) (resumeFromSeq : ℕ)
  | pump (id : SlotId) (env : PumpEnv π)
  | evict (id : SlotId) (reason : EvictionReason)
  | unregister (id : SlotId)
  | clear
  | release (id : SlotId)
  | stop (id : SlotId)
deriving Repr, DecidableEq

namespace Pump

variable {π β : Type*}

/-- `WriteAndWait`: the message is handed to the writer, and a failed completion ends the
stream. -/
def write (p : Pump π β) (env : PumpEnv π) (update : StateUpdate π) (next : PumpPhase π β) :
    Pump π β :=
  if env.writeOk then
    { p with
      written := p.written ++ [update]
      lastSentSeq := update.seq
      phase := next }
  else { p with written := p.written ++ [update], phase := .finished .cancelled }

/-- The status chosen when the slot has nothing more to deliver. -/
def evictedStatus : EvictionReason → StreamStatus
  | .kSlowConsumer => .slowConsumerEvicted
  | .kFault => .gatewayDisabled
  | .kNone | .kCanceled => .ok

/-- What the live loop does with a popped payload: an update already sent is dropped. -/
def receive (codec : UpdateCodec π β) (p : Pump π β) (payload : β) : Pump π β :=
  match codec.parse payload with
  | none => { p with phase := .finished .livePayloadDeserializeFailed }
  | some update =>
    if update.seq ≤ p.lastSentSeq then { p with phase := .live }
    else { p with phase := .writingLive update }

end Pump

namespace StreamSystem

variable {π β : Type*} (codec : UpdateCodec π β)

/-- Replace one pump. -/
def setPump (s : StreamSystem π β) (id : SlotId) (p : Pump π β) : StreamSystem π β :=
  { s with pumps := Function.update s.pumps id p }

/-- The pump thread's next action. -/
def pumpStep (s : StreamSystem π β) (id : SlotId) (env : PumpEnv π) :
    Option (StreamSystem π β) :=
  let p := s.pumps id
  match p.phase with
  | .created => none
  | .subscribed =>
    -- `resume_from_seq_ > 0 ? ring_->GetFromSeq(resume_from_seq_) : nullopt`
    if p.resumeFromSeq = 0 then some (s.setPump id { p with phase := .snapshotting })
    else
      match s.ring.getFromSeq p.resumeFromSeq with
      | none => some (s.setPump id { p with phase := .snapshotting })
      | some entries =>
        some (s.setPump id { p with phase := .replaying entries, replayed := true })
  | .snapshotting =>
    some (s.setPump id { p with phase := .writingSnapshot ⟨s.ring.headSeq, env.frame, env.body⟩ })
  | .writingSnapshot update => some (s.setPump id (p.write env update .live))
  | .replaying [] => some (s.setPump id { p with phase := .live })
  | .replaying (entry :: rest) =>
    match entry.payload.bind codec.parse with
    | none => some (s.setPump id { p with phase := .finished .ringEntryDeserializeFailed })
    | some update => some (s.setPump id (p.write env update (.replaying rest)))
  | .live =>
    if p.stop then some (s.setPump id { p with phase := .finished .ok })
    else some (s.setPump id { p with phase := .popping })
  | .popping =>
    match s.bus.heap id with
    | none => none
    | some slot =>
      if slot.awake then
        match slot.popFront.1 with
        | none =>
          some (s.setPump id { p with phase := .finished (Pump.evictedStatus slot.eviction) })
        | some payload =>
          some ({ s with bus := s.bus.setSlot id slot.popFront.2 }.setPump id
            (p.receive codec payload))
      else none
  | .writingLive update => some (s.setPump id (p.write env update .live))
  | .finished _ => none

/-- One step of the system. -/
def step (slotCapacity : ℕ) (s : StreamSystem π β) : StreamLabel π → Option (StreamSystem π β)
  | .publish frame body =>
    match s.engine with
    | .idle =>
      let seq := wrapAdd 64 s.seq 1
      let payload := codec.serialize ⟨seq, frame, body⟩
      match s.ring.push seq payload with
      | .ok ring => some { s with seq := seq, ring := ring, engine := .pushed payload }
      | .error _ => some { s with seq := seq }
    | _ => none
  | .collect =>
    match s.engine with
    | .pushed payload =>
      some { s with bus := s.bus.collect.2, engine := .fanout payload s.bus.collect.1 }
    | _ => none
  | .tryPush =>
    match s.engine with
    | .fanout payload (id :: live) =>
      some { s with
        bus := (s.bus.tryPushTo id payload).2
        engine :=
          if (s.bus.tryPushTo id payload).1 then .fanout payload live
          else .evicting payload id live }
    | _ => none
  | .evictSlow =>
    match s.engine with
    | .evicting payload id live =>
      some { s with bus := s.bus.evictSlow id, engine := .fanout payload live }
    | _ => none
  | .published =>
    match s.engine with
    | .fanout _ [] => some { s with engine := .idle }
    | _ => none
  | .subscribe id resumeFromSeq =>
    match s.bus.heap id with
    | none =>
      some ({ s with bus := s.bus.subscribe id slotCapacity }.setPump id
        (Pump.start resumeFromSeq))
    | some _ => none
  | .pump id env => s.pumpStep codec id env
  | .evict id reason =>
    if reason = .kNone then none else some { s with bus := s.bus.evictSlot id reason }
  | .unregister id => some { s with bus := s.bus.unregister id }
  | .clear => some { s with bus := s.bus.clear.2 }
  | .release id => some { s with bus := s.bus.release id }
  | .stop id => some (s.setPump id { s.pumps id with stop := true })

/-- The system at start-up: an empty ring, no subscriber, nothing published. -/
def create (ringCapacity : ℕ) (h : 0 < ringCapacity) : StreamSystem π β where
  seq := 0
  ring := RingBuffer.empty ringCapacity h
  bus := DeltaBus.create none
  engine := .idle
  pumps := fun _ ↦ Pump.create

/-- The machine of the whole system. -/
def machine (ringCapacity : ℕ) (h : 0 < ringCapacity) (slotCapacity : ℕ) :
    StepMachine (StreamSystem π β) (StreamLabel π) where
  init := create ringCapacity h
  step := step codec slotCapacity

end StreamSystem

end HighBar.Grpc
