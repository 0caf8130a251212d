import HighBar.Library.StepMachine

/-!
# Reading several cells one by one

A reader loads the cells of a memory **one after the other**, while others write to them. Each load
and each write is atomic, the whole is not: what the reader ends up with is a *collect*, and the
question is whether it is a *snapshot*, that is, whether there was one moment at which the memory
held all the values that were loaded.

## When a collect is a snapshot

A write to a cell that is still to be loaded does no harm by itself, since the reader will see the
new value. Nor does a write to a cell that was already loaded, since the values loaded so far did
hold together before it. What breaks the snapshot is **the second kind followed by the first**: the
old value of one cell and the new value of another were never there at the same time.

So a run is `Orderly` if no write changes a cell that is still to be loaded once a cell that was
loaded has changed. The invariant (`Held`) keeps a moment at which the memory held the values loaded
so far *and the current values of the cells to come*: as long as nothing loaded has changed, this is
the present moment, and from then on it is the last moment before.
-/

/-- A reader, and the memory it reads. -/
structure Collect (κ ν : Type*) where
  memory : κ → ν
  /-- The cells still to be loaded, in the order they will be. -/
  pending : List κ
  /-- What was loaded, in the order it was. -/
  loaded : List (κ × ν)
  /-- The memory at each moment since the reader started, oldest first. -/
  moments : List (κ → ν)
  /-- A cell has changed since it was loaded. -/
  overwritten : Bool

/-- A step of a writer or of the reader. -/
inductive CollectLabel (α : Type*) where
  | write (action : α)
  | load
deriving Repr, DecidableEq

namespace Collect

open List Option

variable {κ ν α : Type*}

section Machine

variable [DecidableEq ν] (apply : α → (κ → ν) → κ → ν)

/-- A cell that was loaded has changed, before this write or by it. -/
def overwritesAt (s : Collect κ ν) (action : α) : Bool :=
  s.overwritten || s.loaded.any fun entry ↦ apply action s.memory entry.1 ≠ s.memory entry.1

/-- One step; the run ends with the last load. -/
def step (s : Collect κ ν) : CollectLabel α → Option (Collect κ ν)
  | .write action =>
    if s.pending.isEmpty then none
    else
      some
        { s with
          memory := apply action s.memory
          moments := s.moments ++ [apply action s.memory]
          overwritten := s.overwritesAt apply action }
  | .load =>
    match s.pending with
    | [] => none
    | key :: rest =>
      some { s with pending := rest, loaded := s.loaded ++ [(key, s.memory key)] }

/-- A reader about to load `keys`. -/
def machine (keys : List κ) (memory : κ → ν) :
    StepMachine (Collect κ ν) (CollectLabel α) where
  init := ⟨memory, keys, [], [memory], false⟩
  step := step apply

/-- No cell to come changes once a loaded one has. -/
def Orderly (s : Collect κ ν) : CollectLabel α → Prop
  | .write action =>
    s.overwritesAt apply action = true → ∀ key ∈ s.pending, apply action s.memory key = s.memory key
  | .load => True

instance (s : Collect κ ν) : ∀ label, Decidable (s.Orderly apply label)
  | .write action => inferInstanceAs (Decidable (s.overwritesAt apply action = true →
      ∀ key ∈ s.pending, apply action s.memory key = s.memory key))
  | .load => inferInstanceAs (Decidable True)

end Machine

/-- **A snapshot**: the memory held all the loaded values at one moment. -/
def Snapshot (s : Collect κ ν) : Prop :=
  ∃ moment ∈ s.moments, ∀ entry ∈ s.loaded, moment entry.1 = entry.2

instance [DecidableEq ν] (s : Collect κ ν) : Decidable s.Snapshot :=
  inferInstanceAs (Decidable (∃ moment ∈ s.moments, ∀ entry ∈ s.loaded, moment entry.1 = entry.2))

/-- There was a moment with the values loaded so far and the present values of the cells to come,
and it is the present one unless a loaded cell has changed. -/
structure Held (s : Collect κ ν) : Prop where
  moment : ∃ moment ∈ s.moments, (∀ entry ∈ s.loaded, moment entry.1 = entry.2) ∧
    ∀ key ∈ s.pending, moment key = s.memory key
  current : s.overwritten = false → ∀ entry ∈ s.loaded, s.memory entry.1 = entry.2

/-- What was collected is a snapshot of the memory. -/
theorem Held.snapshot {s : Collect κ ν} (hs : s.Held) : s.Snapshot := by
  obtain ⟨moment, hmem, hloaded, -⟩ := hs.moment
  exact ⟨moment, hmem, hloaded⟩

variable [DecidableEq ν] {apply : α → (κ → ν) → κ → ν} {s t : Collect κ ν} {keys : List κ}
  {memory : κ → ν}

theorem held_init : (machine apply keys memory).init.Held where
  moment := ⟨memory, mem_singleton_self _, by simp [machine], fun _ _ ↦ rfl⟩
  current := by simp [machine]

/-- Reading the next key keeps the invariant. -/
theorem Held.load (hs : s.Held) (hstep : s.step apply .load = some t) : t.Held := by
  simp only [step] at hstep
  split at hstep
  · cases hstep
  rename_i key rest hpending
  cases hstep
  obtain ⟨moment, hmem, hloaded, hahead⟩ := hs.moment
  rw [hpending] at hahead
  refine ⟨⟨moment, hmem, ?_, fun k hk ↦ hahead k (mem_cons_of_mem _ hk)⟩, fun hkept ↦ ?_⟩
  · exact forall_mem_append.2
      ⟨hloaded, forall_mem_singleton.2 (hahead key mem_cons_self)⟩
  · exact forall_mem_append.2 ⟨hs.current hkept, forall_mem_singleton.2 rfl⟩

/-- An orderly write keeps the invariant. -/
theorem Held.write (hs : s.Held) {action : α} (horderly : s.Orderly apply (.write action))
    (hstep : s.step apply (.write action) = some t) : t.Held := by
  obtain ⟨-, heq⟩ := ite_none_left_eq_some.1 hstep
  cases heq
  rcases hover : s.overwritesAt apply action with - | -
  · -- Nothing loaded has changed, so the present moment takes over.
    obtain ⟨hkept, hsame⟩ := Bool.or_eq_false_iff.1 hover
    have hcurrent : ∀ entry ∈ s.loaded, apply action s.memory entry.1 = entry.2 := by
      intro entry hentry
      have hentry' := any_eq_false.1 hsame entry hentry
      rw [← hs.current hkept entry hentry]
      simpa using hentry'
    exact ⟨⟨_, mem_append_right _ (mem_singleton_self _), hcurrent, fun _ _ ↦ rfl⟩,
      fun _ ↦ hcurrent⟩
  · -- The cells to come stay as they are, so the old moment serves on.
    obtain ⟨moment, hmem, hloaded, hahead⟩ := hs.moment
    refine ⟨⟨moment, mem_append_left _ hmem, hloaded, fun key hkey ↦ ?_⟩,
      fun hkept ↦ absurd hkept.symm Bool.false_ne_true⟩
    exact (hahead key hkey).trans (horderly hover key hkey).symm

/-- **An orderly collect is a snapshot.** -/
theorem snapshot_of_meets {labels : List (CollectLabel α)}
    (hrun : (machine apply keys memory).exec (machine apply keys memory).init labels = some s)
    (hmeets : (machine apply keys memory).Meets (Orderly apply) (machine apply keys memory).init
      labels) : s.Snapshot := by
  refine Held.snapshot (StepMachine.invariant_of_meets ?_ held_init hmeets hrun)
  rintro s (action | -) t hs horderly hstep
  · exact hs.write horderly hstep
  · have hload : s.step apply .load = some t := hstep
    exact hs.load hload

/-- The reader keeps to its order. -/
theorem loaded_append_pending {labels : List (CollectLabel α)}
    (hrun : (machine apply keys memory).exec (machine apply keys memory).init labels = some s) :
    s.loaded.map Prod.fst ++ s.pending = keys := by
  refine StepMachine.invariant_of_exec (I := fun s ↦ s.loaded.map Prod.fst ++ s.pending = keys)
    ?_ rfl hrun
  rintro s (action | -) t hs hstep
  · obtain ⟨-, heq⟩ := ite_none_left_eq_some.1 hstep
    cases heq
    exact hs
  · simp only [machine, step] at hstep
    split at hstep
    · cases hstep
    · rename_i key rest hpending
      cases hstep
      rw [hpending] at hs
      simpa using hs

end Collect
