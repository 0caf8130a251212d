import HighBar.Grpc.StreamState

/-!
# StreamState delivers a gap-free sequence

The safety argument for the stream machine: along **every** interleaving, what a pump has written is
a run of consecutive sequence numbers, and it starts right after the requested position whenever the
replay branch was taken.

## The invariant

Three facts tie the threads together.

* The ring is dense (`RingBuffer.Dense`) and each entry's payload carries the entry's key.
* A slot's queue is a run of consecutive numbers starting at some `a`, and while the slot is open
  its next payload is known from the engine thread's position (`Expects`). A slot that refused a
  payload is the only exception, and it is evicted before anything else can be offered to it.
* The start `a` of the queue is never beyond what the pump will want next. Before the ring is read
  that is `head + 1`; during a replay it is one past the last entry; afterwards it is
  `lastSentSeq + 1`. Registration **before** the ring read is what makes the first of these true.

`step_inv` shows that one step keeps all three, `inv_of_reachable` that every reachable state
satisfies them, and `written_of_inv` reads off the delivery guarantee.
-/

namespace HighBar.Grpc

open List Option

variable {π β : Type*} {codec : UpdateCodec π β}

/-! ### Numbered queues -/

/-- The payloads of `q` carry the numbers `a`, `a + 1`, and so on. -/
def Numbered (codec : UpdateCodec π β) (q : List β) (a : ℕ) : Prop :=
  q.map codec.seqOf = (List.range' a q.length).map some

theorem numbered_nil (a : ℕ) : Numbered codec [] a := rfl

variable {p : Pump π β} {payload : β} {update : StateUpdate π} {env : PumpEnv π}

/-- The next payload continues the numbers. -/
theorem Numbered.concat {q : List β} {a : ℕ} (h : Numbered codec q a)
    (hp : codec.seqOf payload = some (a + q.length)) : Numbered codec (q ++ [payload]) a := by
  rw [Numbered, map_append, h, length_append, length_singleton,
    range'_concat, map_append, Nat.one_mul]
  simp only [map_cons, map_nil, hp]

theorem Numbered.head_tail {q : List β} {a : ℕ} (h : Numbered codec (payload :: q) a) :
    codec.seqOf payload = some a ∧ Numbered codec q (a + 1) := by
  rw [Numbered, map_cons, length_cons, range'_succ, map_cons] at h
  exact ⟨(List.cons.inj h).1, (List.cons.inj h).2⟩

/-! ### The invariant -/

/-- What an open slot `i` is offered next: the number `n`, as far as the engine thread's position
decides it. A slot that is neither registered nor collected is offered nothing, and neither is a
slot about to be evicted. -/
def Expects (engine : EnginePhase β) (slots : List SlotId) (head : ℕ) (i : SlotId) (n : ℕ) : Prop :=
  match engine with
  | .idle => i ∈ slots → n = head + 1
  | .pushed _ => i ∈ slots → n = head
  | .fanout _ live => (i ∈ live → n = head) ∧ (i ∉ live → i ∈ slots → n = head + 1)
  | .evicting _ id live =>
    i ≠ id → (i ∈ live → n = head) ∧ (i ∉ live → i ∈ slots → n = head + 1)

/-- Forgetting registrations only weakens what is expected. -/
theorem Expects.mono {engine : EnginePhase β} {slots slots' : List SlotId} {head n : ℕ} {i : SlotId}
    (h : Expects engine slots head i n) (hsub : i ∈ slots' → i ∈ slots) :
    Expects engine slots' head i n := by
  cases engine with
  | idle | pushed => exact fun hi ↦ h (hsub hi)
  | fanout => exact ⟨h.1, fun hl hi ↦ h.2 hl (hsub hi)⟩
  | evicting => exact fun hne ↦ ⟨(h hne).1, fun hl hi ↦ (h hne).2 hl (hsub hi)⟩

/-- The payload in flight carries the ring head, and each collected slot is tried once. -/
def EngineOk (codec : UpdateCodec π β) (engine : EnginePhase β)
    (heap : SlotId → Option (SubscriberSlot β)) (head : ℕ) : Prop :=
  match engine with
  | .idle => True
  | .pushed payload => codec.seqOf payload = some head
  | .fanout payload live =>
    codec.seqOf payload = some head ∧ live.Nodup ∧ ∀ i ∈ live, (heap i).isSome
  | .evicting payload id live =>
    codec.seqOf payload = some head ∧ (id :: live).Nodup ∧ ∀ i ∈ id :: live, (heap i).isSome

/-- What the engine thread relies on is kept while no slot goes. -/
theorem EngineOk.mono {engine : EnginePhase β} {heap heap' : SlotId → Option (SubscriberSlot β)}
    {head : ℕ} (h : EngineOk codec engine heap head)
    (hheap : ∀ i, (heap i).isSome → (heap' i).isSome) : EngineOk codec engine heap' head := by
  cases engine with
  | idle => trivial
  | pushed => exact h
  | fanout | evicting => exact ⟨h.1, h.2.1, fun i hi ↦ hheap i (h.2.2 i hi)⟩

/-- The messages written so far are consecutive, and a replay started right after the requested
position. -/
def Pump.Delivered (p : Pump π β) : Prop :=
  ∃ first, p.written.map StateUpdate.seq = List.range' first p.written.length ∧
    (p.replayed = true → first = p.resumeFromSeq + 1)

/-- `Delivered`, with `lastSentSeq` where the live loop expects it. -/
def Pump.Sent (p : Pump π β) : Prop :=
  ∃ first, p.written.map StateUpdate.seq = List.range' first p.written.length ∧
    (p.replayed = true → first = p.resumeFromSeq + 1) ∧
    p.lastSentSeq + 1 = first + p.written.length

theorem Pump.Sent.delivered (h : p.Sent) : p.Delivered := by
  obtain ⟨first, hseqs, hreplay, -⟩ := h
  exact ⟨first, hseqs, hreplay⟩

/-- Where the queue may start, phase by phase, for a queue that starts at `a`. -/
def PhaseOk (codec : UpdateCodec π β) (head a : ℕ) (p : Pump π β) : Prop :=
  match p.phase with
  | .created => False
  | .subscribed | .snapshotting =>
    p.written = [] ∧ p.replayed = false ∧ p.lastSentSeq = p.resumeFromSeq ∧ a ≤ head + 1
  | .writingSnapshot update => p.written = [] ∧ p.replayed = false ∧ a ≤ update.seq + 1
  | .replaying rest =>
    p.Sent ∧
      rest.map (fun e ↦ e.payload.bind codec.seqOf) =
        (List.range' (p.lastSentSeq + 1) rest.length).map some ∧
      a ≤ p.lastSentSeq + rest.length + 1
  | .live | .popping => p.Sent ∧ a ≤ p.lastSentSeq + 1
  | .writingLive update =>
    p.Sent ∧ update.seq = p.lastSentSeq + 1 ∧ a ≤ update.seq + 1
  | .finished _ => p.Delivered

theorem PhaseOk.mono {head head' a : ℕ} (h : PhaseOk codec head a p) (hle : head ≤ head') :
    PhaseOk codec head' a p := by
  unfold PhaseOk at h ⊢
  split at h
  · exact h
  · exact ⟨h.1, h.2.1, h.2.2.1, by omega⟩
  · exact ⟨h.1, h.2.1, h.2.2.1, by omega⟩
  all_goals exact h

/-- Everything known about pump `i` and its slot. -/
def PumpOk (codec : UpdateCodec π β) (engine : EnginePhase β) (slots : List SlotId) (head : ℕ)
    (cell : Option (SubscriberSlot β)) (p : Pump π β) (i : SlotId) : Prop :=
  match cell with
  | none => p.phase = .created ∧ p.written = []
  | some slot =>
    ∃ a, Numbered codec slot.queue a ∧
      (slot.eviction = .kNone → Expects engine slots head i (a + slot.queue.length)) ∧
      PhaseOk codec head a p

/-- **The invariant of the stream machine.** -/
structure StreamSystem.Inv (codec : UpdateCodec π β) (s : StreamSystem π β) : Prop where
  dense : s.ring.Dense
  /-- The counter is the ring head until it has wrapped, and then no push is accepted again. -/
  seq : s.seq = s.ring.headSeq ∨ s.ring.headSeq + 1 = 2 ^ 64
  entries : ∀ e ∈ s.ring.contents, e.payload.bind codec.seqOf = some e.seq
  engine : EngineOk codec s.engine s.bus.heap s.ring.headSeq
  slots_nodup : s.bus.slots.Nodup
  slots_heap : ∀ i ∈ s.bus.slots, (s.bus.heap i).isSome
  pumps : ∀ i, PumpOk codec s.engine s.bus.slots s.ring.headSeq (s.bus.heap i) (s.pumps i) i

/-- `PumpOk` carries over when the slot is unchanged and the expectation is. -/
theorem PumpOk.imp {engine engine' : EnginePhase β} {slots slots' : List SlotId} {head head' : ℕ}
    {cell : Option (SubscriberSlot β)} {i : SlotId} (h : PumpOk codec engine slots head cell p i)
    (hle : head ≤ head') (hexp : ∀ slot, cell = some slot → slot.eviction = .kNone → ∀ n,
      Expects engine slots head i n → Expects engine' slots' head' i n) :
    PumpOk codec engine' slots' head' cell p i := by
  rcases cell with - | slot
  · exact h
  · obtain ⟨a, hq, he, hp⟩ := h
    exact ⟨a, hq, fun hopen ↦ hexp slot rfl hopen _ (he hopen), hp.mono hle⟩

/-- Closing a slot keeps `PumpOk`. -/
theorem PumpOk.evict {engine : EnginePhase β} {slots : List SlotId} {head : ℕ}
    {cell : Option (SubscriberSlot β)} {i : SlotId} (h : PumpOk codec engine slots head cell p i)
    (reason : EvictionReason) :
    PumpOk codec engine slots head (cell.map fun s ↦ s.evict reason) p i := by
  rcases cell with - | slot
  · exact h
  · obtain ⟨a, hq, he, hp⟩ := h
    refine ⟨a, ?_, fun hopen ↦ ?_, hp⟩
    · rw [SubscriberSlot.evict_queue]
      exact hq
    · rw [SubscriberSlot.evict_queue]
      exact he (SubscriberSlot.eviction_of_evict_eq_none hopen)

namespace StreamSystem

variable {slotCapacity : ℕ} {s t : StreamSystem π β}

/-! ### The initial state -/

theorem inv_create (ringCapacity : ℕ) (h : 0 < ringCapacity) :
    (create ringCapacity h : StreamSystem π β).Inv codec where
  dense := RingBuffer.dense_empty ringCapacity h
  seq := Or.inl rfl
  entries := by
    intro e he
    rw [create, RingBuffer.contents_empty] at he
    cases he
  engine := trivial
  slots_nodup := nodup_nil
  slots_heap := by
    intro i hi
    cases hi
  pumps := fun _ ↦ ⟨rfl, rfl⟩

/-! ### Engine steps -/

section Publishing

variable (hs : s.Inv codec)
include hs

/-- Publishing: an accepted push moves the head to what every registered slot expects. -/
theorem inv_publish {frame : ℕ} {body : π}
    (h : step codec slotCapacity s (.publish frame body) = some t) : t.Inv codec := by
  simp only [step] at h
  split at h
  swap
  · cases h
  rename_i hidle
  split at h
  · rename_i ring hpush
    cases h
    have hnext : wrapAdd 64 s.seq 1 = s.ring.headSeq + 1 ∧ s.ring.headSeq + 1 < 2 ^ 64 := by
      -- a wrapped counter can no longer exceed the head, so the push would have been refused
      have hacc := (RingBuffer.push_eq_ok hpush).1
      have hlt := wrapAdd_lt 64 s.seq 1
      rcases hs.seq with heq | htop
      · by_cases hmax : s.seq + 1 = 2 ^ 64
        · rw [wrapAdd_one_of_eq hmax] at hacc
          omega
        · have := hs.dense.headSeq_lt
          rw [wrapAdd_of_lt (by omega)]
          omega
      · omega
    rw [hnext.1] at hpush
    obtain ⟨-, -, -, -, -, hhead⟩ := RingBuffer.push_eq_ok hpush
    refine
      { dense := hs.dense.push hpush hnext.2
        seq := Or.inl (by rw [hnext.1, hhead])
        entries := ?_
        engine := ?_
        slots_nodup := hs.slots_nodup
        slots_heap := hs.slots_heap
        pumps := ?_ }
    · intro e he
      rw [RingBuffer.contents_push hpush] at he
      rcases mem_append.1 he with hold | hnew
      · refine hs.entries e ?_
        split at hold
        · exact hold
        · exact mem_of_mem_drop hold
      · rw [mem_singleton.1 hnew]
        exact codec.seqOf_serialize _
    · show codec.seqOf _ = _
      rw [codec.seqOf_serialize, hnext.1, hhead]
    · intro i
      refine (hs.pumps i).imp (by rw [hhead]; omega) fun slot _ _ n hexp ↦ ?_
      rw [hidle] at hexp
      intro hi
      rw [hhead]
      exact hexp hi
  · rename_i hpush
    cases h
    have htop : s.ring.headSeq + 1 = 2 ^ 64 := by
      by_contra hne
      have hlt := hs.dense.headSeq_lt
      rcases hs.seq with heq | htop
      · have hnext : wrapAdd 64 s.seq 1 = s.ring.headSeq + 1 := by
          rw [wrapAdd_of_lt (by omega), heq]
        obtain ⟨ring, hring⟩ := RingBuffer.exists_push_ok
          (codec.serialize ⟨wrapAdd 64 s.seq 1, frame, body⟩)
          (show s.ring.headSeq = 0 ∨ s.ring.headSeq < wrapAdd 64 s.seq 1 by omega)
        rw [hpush] at hring
        cases hring
      · exact hne htop
    exact { hs with seq := Or.inr htop }

/-- Collecting: what is registered and open is collected. -/
theorem inv_collect (h : step codec slotCapacity s .collect = some t) : t.Inv codec := by
  simp only [step] at h
  split at h
  swap
  · cases h
  rename_i payload hpushed
  cases h
  have heng := hs.engine
  rw [hpushed] at heng
  refine
    { hs with
      engine := ⟨heng, hs.slots_nodup.filter _, fun i hi ↦ ?_⟩
      slots_nodup := hs.slots_nodup.sublist (DeltaBus.collect_slots_sublist _)
      slots_heap := fun i hi ↦
        hs.slots_heap i ((DeltaBus.collect_slots_sublist _).subset hi)
      pumps := fun i ↦ ?_ }
  · exact hs.slots_heap i (DeltaBus.mem_collect hi).1
  · refine (hs.pumps i).imp (Nat.le_refl _) fun slot hcell hopen n hexp ↦ ?_
    rw [hpushed] at hexp
    refine ⟨fun hlive ↦ hexp (DeltaBus.mem_collect hlive).1, fun hnot hi ↦ ?_⟩
    obtain ⟨hmem, hlock⟩ := mem_filter.1 hi
    have hheld : s.bus.released i = false := by
      rcases hrel : s.bus.released i with - | -
      · rfl
      · simp [DeltaBus.lock, hrel] at hlock
    exact absurd (DeltaBus.mem_collect_of_open hmem hheld hcell hopen) hnot

/-- Trying one slot: an accepted payload is the expected one; a refused one marks the slot. -/
theorem inv_tryPush (h : step codec slotCapacity s .tryPush = some t) : t.Inv codec := by
  simp only [step] at h
  split at h
  swap
  · cases h
  rename_i payload id live hfan
  cases h
  have heng := hs.engine
  rw [hfan] at heng
  obtain ⟨hpay, hnodup, hheap⟩ := heng
  obtain ⟨slot, hslot⟩ := isSome_iff_exists.1 (hheap id (mem_cons_self ..))
  obtain ⟨hres, hcell⟩ := DeltaBus.tryPushTo_of_heap payload hslot
  have hkeep : ∀ i, (s.bus.heap i).isSome → ((s.bus.tryPushTo id payload).2.heap i).isSome := by
    intro i hi
    rcases eq_or_ne i id with rfl | hne
    · rw [hcell]
      rfl
    · rw [DeltaBus.tryPushTo_heap_of_ne _ payload hne]
      exact hi
  have hfan_pumps : ∀ i, PumpOk codec (.fanout payload (id :: live)) s.bus.slots s.ring.headSeq
      (s.bus.heap i) (s.pumps i) i := fun i ↦ hfan ▸ hs.pumps i
  -- the other slots expect the same as before
  have hother : ∀ i, i ≠ id → ∀ engine' : EnginePhase β,
      (engine' = .fanout payload live ∨ engine' = .evicting payload id live) →
      PumpOk codec engine' s.bus.slots s.ring.headSeq
        ((s.bus.tryPushTo id payload).2.heap i) (s.pumps i) i := by
    intro i hne engine' heng'
    rw [DeltaBus.tryPushTo_heap_of_ne _ payload hne]
    refine (hfan_pumps i).imp (Nat.le_refl _) fun _ _ _ n hexp ↦ ?_
    have hsame : (i ∈ live → n = s.ring.headSeq) ∧
        (i ∉ live → i ∈ s.bus.slots → n = s.ring.headSeq + 1) :=
      ⟨fun hi ↦ hexp.1 (mem_cons_of_mem _ hi), fun hi ↦ hexp.2 fun hc ↦
        (mem_cons.1 hc).elim hne hi⟩
    rcases heng' with rfl | rfl
    · exact hsame
    · exact fun _ ↦ hsame
  obtain ⟨a, hq, hexp, hphase⟩ : ∃ a, Numbered codec slot.queue a ∧
      (slot.eviction = .kNone →
        Expects (.fanout payload (id :: live)) s.bus.slots s.ring.headSeq id
          (a + slot.queue.length)) ∧
      PhaseOk codec s.ring.headSeq a (s.pumps id) := by
    have := hfan_pumps id
    rwa [hslot] at this
  refine
    { hs with
      engine := ?_
      slots_nodup := by
        rw [DeltaBus.tryPushTo_slots]
        exact hs.slots_nodup
      slots_heap := fun i hi ↦ hkeep i (hs.slots_heap i (by rwa [DeltaBus.tryPushTo_slots] at hi))
      pumps := fun i ↦ ?_ }
  · show EngineOk codec (if (s.bus.tryPushTo id payload).1 then _ else _) _ _
    split
    · exact ⟨hpay, (nodup_cons.1 hnodup).2, fun i hi ↦
        hkeep i (hheap i (mem_cons_of_mem _ hi))⟩
    · exact ⟨hpay, hnodup, fun i hi ↦ hkeep i (hheap i hi)⟩
  · show PumpOk codec (if (s.bus.tryPushTo id payload).1 then _ else _)
      (s.bus.tryPushTo id payload).2.slots _ _ _ _
    rw [DeltaBus.tryPushTo_slots]
    rcases eq_or_ne i id with rfl | hne
    · rw [hres, hcell]
      rcases hok : (slot.tryPush payload).1 with - | -
      · obtain ⟨hqueue, hev⟩ := SubscriberSlot.tryPush_false hok
        exact ⟨a, by rw [hqueue]; exact hq, fun _ hne ↦ absurd rfl hne, hphase⟩
      · obtain ⟨hopen, hqueue, -⟩ := SubscriberSlot.tryPush_true hok
        have hn := (hexp hopen).1 (mem_cons_self ..)
        refine ⟨a, ?_, fun _ ↦ ⟨fun hi ↦ ?_, fun _ _ ↦ ?_⟩, hphase⟩
        · rw [hqueue]
          exact hq.concat (by rw [hpay, hn])
        · exact absurd hi (nodup_cons.1 hnodup).1
        · rw [hqueue, length_append, length_singleton, ← Nat.add_assoc, hn]
    · split
      · exact hother i hne _ (Or.inl rfl)
      · exact hother i hne _ (Or.inr rfl)

omit hs in
/-- An eviction leaves the slot where it is. -/
theorem isSome_evictSlot (bus : DeltaBus β) (id : SlotId) (reason : EvictionReason) {i : SlotId}
    (hi : (bus.heap i).isSome) : ((bus.evictSlot id reason).heap i).isSome := by
  rw [DeltaBus.evictSlot_heap]
  split
  · rwa [isSome_map]
  · exact hi

/-- Evicting the slot that refused: it is closed, so nothing is expected of it. -/
theorem inv_evictSlow (h : step codec slotCapacity s .evictSlow = some t) : t.Inv codec := by
  simp only [step] at h
  split at h
  swap
  · cases h
  rename_i payload id live hev
  cases h
  have heng := hs.engine
  rw [hev] at heng
  obtain ⟨hpay, hnodup, hheap⟩ := heng
  have hkeep : ∀ i, (s.bus.heap i).isSome → ((s.bus.evictSlow id).heap i).isSome := by
    intro i hi
    rw [DeltaBus.evictSlow_heap]
    exact isSome_evictSlot _ _ _ hi
  refine
    { hs with
      engine := ⟨hpay, (nodup_cons.1 hnodup).2, fun i hi ↦
        hkeep i (hheap i (mem_cons_of_mem _ hi))⟩
      slots_nodup := by
        rw [DeltaBus.evictSlow_slots]
        exact hs.slots_nodup
      slots_heap := fun i hi ↦ hkeep i (hs.slots_heap i (by rwa [DeltaBus.evictSlow_slots] at hi))
      pumps := fun i ↦ ?_ }
  have hpump := hs.pumps i
  rw [hev] at hpump
  show PumpOk codec _ (s.bus.evictSlow id).slots _ _ _ _
  rw [DeltaBus.evictSlow_slots, DeltaBus.evictSlow_heap, DeltaBus.evictSlot_heap]
  split
  · rename_i heq
    refine (hpump.evict .kSlowConsumer).imp (Nat.le_refl _) fun slot hcell hopen ↦ ?_
    obtain ⟨slot₀, -, rfl⟩ := map_eq_some_iff.1 hcell
    exact absurd hopen (SubscriberSlot.evict_eviction_ne_none slot₀ (by decide))
  · rename_i hne
    exact hpump.imp (Nat.le_refl _) fun _ _ _ n hexp ↦ hexp hne

/-- Returning from a publish. -/
theorem inv_published (h : step codec slotCapacity s .published = some t) : t.Inv codec := by
  simp only [step] at h
  split at h
  swap
  · cases h
  rename_i payload hfan
  cases h
  refine { hs with engine := trivial, pumps := fun i ↦ ?_ }
  refine (hs.pumps i).imp (Nat.le_refl _) fun _ _ _ n hexp ↦ ?_
  rw [hfan] at hexp
  exact hexp.2 (not_mem_nil)

/-! ### Registration and shutdown steps -/

/-- Subscribing: a fresh slot is empty, and starts no later than the number after the head. -/
theorem inv_subscribe {id : SlotId} {resumeFromSeq : ℕ}
    (h : step codec slotCapacity s (.subscribe id resumeFromSeq) = some t) : t.Inv codec := by
  simp only [step] at h
  split at h
  swap
  · cases h
  rename_i hfresh
  cases h
  have hnotin : id ∉ s.bus.slots := by
    intro hmem
    have := hs.slots_heap id hmem
    rw [hfresh] at this
    cases this
  have hkeep : ∀ i, (s.bus.heap i).isSome →
      ((s.bus.subscribe id slotCapacity).heap i).isSome := by
    intro i hi
    rcases eq_or_ne i id with rfl | hne
    · rw [DeltaBus.subscribe_heap_self]
      rfl
    · rw [DeltaBus.subscribe_heap_of_ne _ _ hne]
      exact hi
  refine
    { hs with
      engine := hs.engine.mono hkeep
      slots_nodup := nodup_append.2 ⟨hs.slots_nodup, pairwise_singleton _ _, ?_⟩
      slots_heap := fun i hi ↦ ?_
      pumps := fun i ↦ ?_ }
  · intro a ha b hb
    rw [mem_singleton.1 hb]
    exact fun heq ↦ hnotin (heq ▸ ha)
  · rcases mem_append.1 hi with hold | hnew
    · exact hkeep i (hs.slots_heap i hold)
    · rw [mem_singleton.1 hnew,
        show (setPump _ _ _).bus = s.bus.subscribe id slotCapacity from rfl,
        DeltaBus.subscribe_heap_self]
      rfl
  · show PumpOk codec s.engine (s.bus.slots ++ [id]) s.ring.headSeq
      ((s.bus.subscribe id slotCapacity).heap i) (Function.update s.pumps id _ i) i
    rcases eq_or_ne i id with rfl | hne
    · rw [DeltaBus.subscribe_heap_self, Function.update_self]
      -- the first payload offered is the head or the one after it
      obtain ⟨n, hn, hle⟩ : ∃ n, Expects s.engine (s.bus.slots ++ [i]) s.ring.headSeq i n ∧
          n ≤ s.ring.headSeq + 1 := by
        have heng := hs.engine
        rcases heq : s.engine with - | - | ⟨p, live⟩ | ⟨p, q, live⟩
        · exact ⟨s.ring.headSeq + 1, fun _ ↦ rfl, Nat.le_refl _⟩
        · exact ⟨s.ring.headSeq, fun _ ↦ rfl, Nat.le_succ _⟩
        · rw [heq] at heng
          refine ⟨s.ring.headSeq + 1, ⟨fun hi ↦ ?_, fun _ _ ↦ rfl⟩, Nat.le_refl _⟩
          have := heng.2.2 i hi
          rw [hfresh] at this
          cases this
        · rw [heq] at heng
          refine ⟨s.ring.headSeq + 1, fun _ ↦ ⟨fun hi ↦ ?_, fun _ _ ↦ rfl⟩, Nat.le_refl _⟩
          have := heng.2.2 i (mem_cons_of_mem _ hi)
          rw [hfresh] at this
          cases this
      exact ⟨n, numbered_nil n, fun _ ↦ hn, rfl, rfl, rfl, hle⟩
    · rw [DeltaBus.subscribe_heap_of_ne _ _ hne, Function.update_of_ne hne]
      refine (hs.pumps i).imp (Nat.le_refl _) fun _ _ _ n hexp ↦ hexp.mono fun hi ↦ ?_
      exact (mem_append.1 hi).resolve_right fun hc ↦ hne (mem_singleton.1 hc)

/-- Shrinking the registry keeps the invariant. -/
theorem inv_of_slots_sublist {bus : DeltaBus β} (hsub : bus.slots.Sublist s.bus.slots)
    (hheap : bus.heap = s.bus.heap) : ({ s with bus := bus } : StreamSystem π β).Inv codec where
  dense := hs.dense
  seq := hs.seq
  entries := hs.entries
  engine := hs.engine.mono fun i hi ↦ by rw [hheap]; exact hi
  slots_nodup := hs.slots_nodup.sublist hsub
  slots_heap := fun i hi ↦ by
    show (bus.heap i).isSome
    rw [hheap]
    exact hs.slots_heap i (hsub.subset hi)
  pumps := fun i ↦ by
    show PumpOk codec s.engine bus.slots s.ring.headSeq (bus.heap i) (s.pumps i) i
    rw [hheap]
    exact (hs.pumps i).imp (Nat.le_refl _) fun _ _ _ n hexp ↦ hexp.mono fun hi ↦ hsub.subset hi

/-- Evicting one slot keeps the invariant. -/
theorem inv_evict {id : SlotId} {reason : EvictionReason} :
    ({ s with bus := s.bus.evictSlot id reason } : StreamSystem π β).Inv codec := by
  refine
    { hs with
      engine := hs.engine.mono fun i ↦ isSome_evictSlot _ _ _
      slots_nodup := by
        rw [DeltaBus.evictSlot_slots]
        exact hs.slots_nodup
      slots_heap := fun i hi ↦
        isSome_evictSlot _ _ _ (hs.slots_heap i (by rwa [DeltaBus.evictSlot_slots] at hi))
      pumps := fun i ↦ ?_ }
  show PumpOk codec s.engine (s.bus.evictSlot id reason).slots _ _ _ _
  rw [DeltaBus.evictSlot_slots, DeltaBus.evictSlot_heap]
  split
  · exact (hs.pumps i).evict reason
  · exact hs.pumps i

/-! ### Pump steps -/

/-- Replacing one pump keeps the invariant when the new pump fits its slot. -/
theorem inv_setPump {id : SlotId}
    (hp : PumpOk codec s.engine s.bus.slots s.ring.headSeq (s.bus.heap id) p id) :
    (s.setPump id p).Inv codec := by
  refine { hs with pumps := fun i ↦ ?_ }
  show PumpOk codec s.engine s.bus.slots s.ring.headSeq (s.bus.heap i)
    (Function.update s.pumps id p i) i
  rcases eq_or_ne i id with rfl | hne
  · rw [Function.update_self]
    exact hp
  · rw [Function.update_of_ne hne]
    exact hs.pumps i

end Publishing

/-- Writing the expected message extends the consecutive run. -/
theorem sent_append (h : p.Sent) (hseq : update.seq = p.lastSentSeq + 1) :
    ∃ first, (p.written ++ [update]).map StateUpdate.seq =
        List.range' first (p.written ++ [update]).length ∧
      (p.replayed = true → first = p.resumeFromSeq + 1) ∧
      update.seq + 1 = first + (p.written ++ [update]).length := by
  obtain ⟨first, hseqs, hreplay, hlast⟩ := h
  refine ⟨first, ?_, hreplay, ?_⟩
  · rw [map_append, hseqs, length_append, length_singleton, range'_concat,
      Nat.one_mul]
    simp only [map_cons, map_nil, hseq, hlast]
  · rw [length_append, length_singleton]
    omega

/-- A write that follows a sent run leaves a sent run, or a delivered one when it failed. -/
theorem phaseOk_write {next : PumpPhase π β} {head a : ℕ} (h : p.Sent)
    (hseq : update.seq = p.lastSentSeq + 1)
    (hnext : (p.write env update next).phase = next → (p.write env update next).Sent →
      (p.write env update next).lastSentSeq = update.seq →
      PhaseOk codec head a (p.write env update next)) :
    PhaseOk codec head a (p.write env update next) := by
  obtain ⟨first, hseqs, hreplay, hlast⟩ := sent_append h hseq
  unfold Pump.write at hnext ⊢
  split
  · rename_i hok
    rw [if_pos hok] at hnext
    exact hnext rfl ⟨first, hseqs, hreplay, hlast⟩ rfl
  · exact ⟨first, hseqs, hreplay⟩

/-- A granted replay starts right after the requested position and ends at the ring head, so it
meets the queue. -/
theorem phaseOk_replaying {entries : List (RingEntry β)} {a : ℕ} (hs : s.Inv codec)
    (hw : p.written = []) (hl : p.lastSentSeq = p.resumeFromSeq) (ha : a ≤ s.ring.headSeq + 1)
    (hget : s.ring.getFromSeq p.resumeFromSeq = some entries) :
    PhaseOk codec s.ring.headSeq a { p with phase := .replaying entries, replayed := true } := by
  obtain ⟨hle, hseqs, hsuf⟩ := RingBuffer.seqs_of_getFromSeq hs.dense hget
  have hlen : entries.length = s.ring.headSeq - p.resumeFromSeq := by
    simpa using congrArg List.length hseqs
  refine ⟨⟨p.resumeFromSeq + 1, ?_, fun _ ↦ rfl, ?_⟩, ?_, ?_⟩
  · simp only [hw, map_nil, length_nil, range'_zero]
  · simp only [hw, hl, length_nil, Nat.add_zero]
  · rw [hl, hlen, ← hseqs, List.map_map]
    exact map_congr_left fun e he ↦ hs.entries e (hsuf.subset he)
  · simp only [hl, hlen]
    omega

/-- The snapshot opens the run. -/
theorem phaseOk_write_snapshot {head a : ℕ} (hw : p.written = []) (hr : p.replayed = false)
    (ha : a ≤ update.seq + 1) :
    PhaseOk codec head a (p.write env update .live) := by
  have hreplay : p.replayed = true → update.seq = p.resumeFromSeq + 1 := by simp [hr]
  unfold Pump.write
  split
  · exact ⟨⟨update.seq, by simp [hw], hreplay, by simp [hw]⟩, ha⟩
  · exact ⟨update.seq, by simp [hw], hreplay⟩

/-- Writing a replayed entry. -/
theorem phaseOk_write_replay {entry : RingEntry β} {rest : List (RingEntry β)} {head a : ℕ}
    (h : PhaseOk codec head a { p with phase := .replaying (entry :: rest) })
    (hparse : entry.payload.bind codec.parse = some update) :
    PhaseOk codec head a (p.write env update (.replaying rest)) := by
  obtain ⟨hsent, hseqs, ha⟩ := h
  simp only [map_cons, length_cons, range'_succ] at hseqs ha
  obtain ⟨hentry, hrest⟩ := List.cons.inj hseqs
  have hseq : update.seq = p.lastSentSeq + 1 := by
    obtain ⟨payload, hpay, hpp⟩ := bind_eq_some_iff.1 hparse
    rw [hpay, bind_some, UpdateCodec.seqOf, hpp, map_some] at hentry
    exact Option.some.inj hentry
  refine phaseOk_write hsent hseq fun hnext hsent' hlast ↦ ?_
  unfold PhaseOk
  rw [hnext]
  refine ⟨hsent', ?_, ?_⟩
  · rw [hlast, hseq]
    exact hrest
  · rw [hlast, hseq]
    omega

/-- A popped payload is the next one wanted, or an older one to drop. -/
theorem phaseOk_receive {head a : ℕ} (hsent : p.Sent) (ha : a ≤ p.lastSentSeq + 1)
    (hseq : codec.seqOf payload = some a) :
    PhaseOk codec head (a + 1) (p.receive codec payload) := by
  obtain ⟨update, hparse, hupd⟩ := codec.parse_of_seqOf hseq
  unfold Pump.receive
  rw [hparse]
  simp only
  split
  · rename_i hold
    exact ⟨hsent, show a + 1 ≤ p.lastSentSeq + 1 by omega⟩
  · exact ⟨hsent, show update.seq = p.lastSentSeq + 1 by omega, by omega⟩

/-- Popping one payload. -/
theorem inv_popFront {id : SlotId} {slot : SubscriberSlot β} {a : ℕ} (hs : s.Inv codec)
    (hcell : s.bus.heap id = some slot) (hq : Numbered codec slot.queue a)
    (hexp : slot.eviction = .kNone →
      Expects s.engine s.bus.slots s.ring.headSeq id (a + slot.queue.length))
    (hsent : (s.pumps id).Sent) (ha : a ≤ (s.pumps id).lastSentSeq + 1)
    (hpop : slot.popFront.1 = some payload) :
    (({ s with bus := s.bus.setSlot id slot.popFront.2 } : StreamSystem π β).setPump id
      ((s.pumps id).receive codec payload)).Inv codec := by
  obtain ⟨hqueue, hev⟩ := SubscriberSlot.popFront_some hpop
  rw [hqueue] at hq
  obtain ⟨hseq, hrest⟩ := hq.head_tail
  have hkeep : ∀ i, (s.bus.heap i).isSome →
      ((s.bus.setSlot id slot.popFront.2).heap i).isSome := by
    intro i hi
    rcases eq_or_ne i id with rfl | hne
    · rw [DeltaBus.setSlot_heap_self]
      rfl
    · rw [DeltaBus.setSlot_heap_of_ne _ _ hne]
      exact hi
  refine
    { hs with
      engine := hs.engine.mono hkeep
      slots_nodup := hs.slots_nodup
      slots_heap := fun i hi ↦ hkeep i (hs.slots_heap i hi)
      pumps := fun i ↦ ?_ }
  show PumpOk codec s.engine s.bus.slots s.ring.headSeq
    ((s.bus.setSlot id slot.popFront.2).heap i) (Function.update s.pumps id _ i) i
  rcases eq_or_ne i id with rfl | hne
  · rw [DeltaBus.setSlot_heap_self, Function.update_self]
    refine ⟨a + 1, hrest, fun hopen ↦ ?_, phaseOk_receive hsent ha hseq⟩
    have hold := hexp (hev ▸ hopen)
    rw [hqueue, length_cons] at hold
    rwa [Nat.add_right_comm, Nat.add_assoc]
  · rw [DeltaBus.setSlot_heap_of_ne _ _ hne, Function.update_of_ne hne]
    exact hs.pumps i

/-- One pump action keeps the invariant. -/
theorem inv_pumpStep {id : SlotId} (hs : s.Inv codec) (h : s.pumpStep codec id env = some t) :
    t.Inv codec := by
  have hpump := hs.pumps id
  rcases hcell : s.bus.heap id with - | slot
  · -- a call that never subscribed has no pump thread
    rw [hcell] at hpump
    simp only [pumpStep, hpump.1] at h
    cases h
  rw [hcell] at hpump
  obtain ⟨a, hq, hexp, hphase⟩ := hpump
  have hput : ∀ {p : Pump π β}, PhaseOk codec s.ring.headSeq a p → (s.setPump id p).Inv codec :=
    fun hp ↦ inv_setPump hs (by rw [hcell]; exact ⟨a, hq, hexp, hp⟩)
  unfold PhaseOk at hphase
  unfold pumpStep at h
  rcases hph : (s.pumps id).phase with - | - | - | update | rest | - | - | update | status
  all_goals simp only [hph] at h hphase
  case subscribed =>
    obtain ⟨hw, hr, hl, ha⟩ := hphase
    split at h
    · cases h
      exact hput ⟨hw, hr, hl, ha⟩
    · split at h
      · cases h
        exact hput ⟨hw, hr, hl, ha⟩
      · rename_i entries hget
        cases h
        exact hput (phaseOk_replaying hs hw hl ha hget)
  case snapshotting =>
    obtain ⟨hw, hr, -, ha⟩ := hphase
    cases h
    exact hput ⟨hw, hr, ha⟩
  case writingSnapshot =>
    obtain ⟨hw, hr, ha⟩ := hphase
    cases h
    exact hput (phaseOk_write_snapshot hw hr ha)
  case replaying =>
    rcases rest with - | ⟨entry, rest⟩
    · cases h
      exact hput ⟨hphase.1, hphase.2.2⟩
    · simp only at h
      split at h
      · cases h
        exact hput hphase.1.delivered
      · rename_i hparse
        cases h
        exact hput (phaseOk_write_replay (p := s.pumps id) hphase hparse)
  case live =>
    split at h
    · cases h
      exact hput hphase.1.delivered
    · cases h
      exact hput hphase
  case popping =>
    rw [hcell] at h
    simp only at h
    split at h
    swap
    · cases h
    split at h
    · cases h
      exact hput hphase.1.delivered
    · rename_i payload hpop
      cases h
      exact inv_popFront hs hcell hq hexp hphase.1 hphase.2 hpop
  case writingLive =>
    obtain ⟨hsent, hseq, ha⟩ := hphase
    cases h
    refine hput (phaseOk_write hsent hseq fun hnext hsent' hlast ↦ ?_)
    unfold PhaseOk
    rw [hnext]
    exact ⟨hsent', by rw [hlast]; exact ha⟩
  case finished => cases h

/-! ### Runs -/

/-- **One step keeps the invariant.** -/
theorem step_inv {label : StreamLabel π} (hs : s.Inv codec)
    (h : step codec slotCapacity s label = some t) : t.Inv codec := by
  cases label with
  | publish => exact inv_publish hs h
  | collect => exact inv_collect hs h
  | tryPush => exact inv_tryPush hs h
  | evictSlow => exact inv_evictSlow hs h
  | published => exact inv_published hs h
  | subscribe => exact inv_subscribe hs h
  | pump => exact inv_pumpStep hs h
  | evict id reason =>
    simp only [step] at h
    split at h
    · cases h
    · cases h
      exact inv_evict hs
  | unregister id =>
    cases h
    exact inv_of_slots_sublist hs filter_sublist rfl
  | clear =>
    cases h
    exact inv_of_slots_sublist hs (nil_sublist _) rfl
  | release id =>
    cases h
    exact inv_of_slots_sublist hs (List.Sublist.refl _) rfl
  | stop id =>
    cases h
    refine inv_setPump hs ?_
    have hp := hs.pumps id
    rcases hcell : s.bus.heap id with - | slot
    · rwa [hcell] at hp
    · rw [hcell] at hp
      obtain ⟨a, hq, hexp, hphase⟩ := hp
      exact ⟨a, hq, hexp, hphase⟩

/-- **Every reachable state satisfies the invariant.** -/
theorem inv_of_reachable {ringCapacity : ℕ} {hcap : 0 < ringCapacity}
    (hs : (machine codec ringCapacity hcap slotCapacity).Reachable s) : s.Inv codec :=
  StepMachine.invariant_of_reachable (I := StreamSystem.Inv codec) (inv_create ringCapacity hcap)
    (fun _ _ _ hI hstep ↦ step_inv hI hstep) hs

/-- In every phase what was written is consecutive. -/
theorem delivered_of_phaseOk {head a : ℕ} (h : PhaseOk codec head a p) :
    p.Delivered := by
  have hnil : p.written = [] → p.replayed = false → p.Delivered := fun hw hr ↦
    ⟨0, by simp [hw], by simp [hr]⟩
  unfold PhaseOk at h
  split at h
  · exact h.elim
  · exact hnil h.1 h.2.1
  · exact hnil h.1 h.2.1
  · exact hnil h.1 h.2.1
  · exact h.1.delivered
  · exact h.1.delivered
  · exact h.1.delivered
  · exact h.1.delivered
  · exact h

/-- What a pump has written is a consecutive run. -/
theorem delivered_of_inv (hs : s.Inv codec) (i : SlotId) : (s.pumps i).Delivered := by
  have hp := hs.pumps i
  rcases hcell : s.bus.heap i with - | slot
  · rw [hcell] at hp
    exact ⟨(s.pumps i).resumeFromSeq + 1, by simp [hp.2], fun _ ↦ rfl⟩
  · rw [hcell] at hp
    obtain ⟨a, -, -, hphase⟩ := hp
    exact delivered_of_phaseOk hphase

/-- **The stream is gap-free.** In every state of every run, what each pump has written is strictly
increasing, each message follows its predecessor by exactly one, and a replayed stream starts right
after the requested position. -/
theorem written_gap_free {ringCapacity : ℕ} {hcap : 0 < ringCapacity}
    (hs : (machine codec ringCapacity hcap slotCapacity).Reachable s) (i : SlotId) :
    ((s.pumps i).written.map StateUpdate.seq).Pairwise (· < ·) ∧
    ((s.pumps i).written.map StateUpdate.seq).IsChain (fun a b ↦ b = a + 1) ∧
    ((s.pumps i).replayed = true → ∀ update ∈ (s.pumps i).written.head?,
      update.seq = (s.pumps i).resumeFromSeq + 1) := by
  obtain ⟨first, hseqs, hreplay⟩ := delivered_of_inv (inv_of_reachable hs) i
  refine ⟨?_, ?_, fun hr update hu ↦ ?_⟩
  · rw [hseqs]
    exact pairwise_lt_range'
  · rw [hseqs]
    exact isChain_range' ..
  · rcases hw : (s.pumps i).written with - | ⟨u, rest⟩
    · rw [hw] at hu
      cases hu
    · rw [hw] at hu hseqs
      cases hu
      rw [map_cons, length_cons, range'_succ] at hseqs
      rw [(List.cons.inj hseqs).1, hreplay hr]

/-- A client that resumes from 1 while 3 is being published: it subscribes between the ring push and
the fan-out, so 3 reaches it twice, and 4 arrives live. -/
def resumeDuringPublish : List (StreamLabel Unit) :=
  let env : PumpEnv Unit := ⟨true, 0, ()⟩
  [.publish 0 (), .collect, .published, .publish 0 (), .collect, .published,
    .publish 0 (), .subscribe 0 1, .collect, .pump 0 env, .tryPush, .published,
    .pump 0 env, .pump 0 env, .pump 0 env, .pump 0 env, .pump 0 env,
    .publish 0 (), .collect, .tryPush, .published, .pump 0 env, .pump 0 env, .pump 0 env]

theorem written_gap_free_resumeDuringPublish :
    ∃ s, (machine (⟨id, some, fun _ ↦ rfl⟩ : UpdateCodec Unit (StateUpdate Unit)) 3 (by decide)
        8).Reachable s ∧
      (s.pumps 0).replayed = true ∧ (s.pumps 0).written.map StateUpdate.seq = [2, 3, 4] ∧
      ((s.pumps 0).written.map StateUpdate.seq).IsChain (fun a b ↦ b = a + 1) := by
  have hs : (machine (⟨id, some, fun _ ↦ rfl⟩ : UpdateCodec Unit (StateUpdate Unit)) 3 (by decide)
      8).Reachable _ := ⟨resumeDuringPublish, rfl⟩
  exact ⟨_, hs, rfl, rfl, (written_gap_free hs 0).2.1⟩

end StreamSystem

end HighBar.Grpc
