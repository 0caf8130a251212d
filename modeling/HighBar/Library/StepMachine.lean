import Mathlib.Data.List.Basic

/-!
# Step machines and their runs

A machine given by a **partial step function**: `step s a` is the state after the atomic step `a`,
and `none` when `a` is not enabled at `s`. Concurrency is read off the labels: a label names the
party that moves, so a list of labels is one interleaving, and a statement about every list of
labels is a statement about every interleaving.

## Two ways of saying "along every run"

* `Reachable` and `invariant_of_reachable` are the unconditional form: an invariant that holds
  initially and is kept by every enabled step holds in every reachable state.
* `Meets G s as` says that **each step of the run** `as` from `s` is taken in a state where the
  guard `G` allows it, and `invariant_of_meets` is the conditional form. The guard sees the state
  before the step and the label, and nothing that the step computes. Where the guard is also
  necessary for each step, it is so for the run (`invariant_iff_meets_of`).

The two are not independent: the first is the second at the trivial guard, and that is how it is
proved.

`exec_of_simulation` carries runs of one machine to runs of another over the same labels, and
`exec_filter` drops the labels that do nothing there. Together they say that what a machine does is
seen by a part of it only through the labels that concern the part.
-/

/-- A machine with one initial state and a partial, deterministic step per label. -/
structure StepMachine (σ α : Type*) where
  /-- The initial state. -/
  init : σ
  /-- One atomic step; `none` when the label is not enabled. -/
  step : σ → α → Option σ

namespace StepMachine

open List

variable {σ α : Type*} (M : StepMachine σ α)

/-! ### Runs -/

/-- Run a list of labels from `s`, stopping with `none` at the first label that is not enabled. -/
def exec : σ → List α → Option σ
  | s, [] => some s
  | s, a :: as => (M.step s a).bind fun t ↦ exec t as

theorem exec_cons (s : σ) (a : α) (as : List α) :
    M.exec s (a :: as) = (M.step s a).bind fun t ↦ M.exec t as := rfl

/-- A run of `a :: as` is one step of `a` followed by a run of `as`. -/
theorem exec_cons_eq_some {s t : σ} {a : α} {as : List α} :
    M.exec s (a :: as) = some t ↔ ∃ u, M.step s a = some u ∧ M.exec u as = some t := by
  rw [exec_cons, Option.bind_eq_some_iff]

/-- A run of `as ++ bs` is a run of `as` followed by a run of `bs`. -/
theorem exec_append (as bs : List α) :
    ∀ s, M.exec s (as ++ bs) = (M.exec s as).bind fun t ↦ M.exec t bs := by
  induction as with
  | nil => exact fun _ ↦ rfl
  | cons a as ih =>
    intro s
    rw [cons_append, exec_cons, exec_cons, Option.bind_assoc]
    exact congrArg _ (funext ih)

/-- The state `s` is reached from the initial state by some run. -/
def Reachable (s : σ) : Prop := ∃ as, M.exec M.init as = some s

/-- Every state of the run of `as` from `s` has the property, the first and the last included. -/
def Throughout (P : σ → Prop) : σ → List α → Prop
  | s, [] => P s
  | s, a :: as => P s ∧ ∀ t, M.step s a = some t → Throughout P t as

/-! ### Guarded runs and invariants -/

/-- Every step of the run of `as` from `s` is taken where the guard allows it. -/
def Meets (G : σ → α → Prop) : σ → List α → Prop
  | _, [] => True
  | s, a :: as => G s a ∧ ∀ t, M.step s a = some t → Meets G t as

/-- On a concrete run, a decidable guard can be checked by running it. -/
instance decidableMeets {G : σ → α → Prop} [∀ s a, Decidable (G s a)] :
    ∀ (s : σ) (as : List α), Decidable (M.Meets G s as)
  | _, [] => inferInstanceAs (Decidable True)
  | s, a :: as =>
    match h : M.step s a with
    | none =>
      decidable_of_iff (G s a)
        ⟨fun hG ↦ ⟨hG, fun t ht ↦ by rw [h] at ht; cases ht⟩, And.left⟩
    | some t =>
      haveI : Decidable (M.Meets G t as) := decidableMeets t as
      decidable_of_iff (G s a ∧ M.Meets G t as)
        ⟨fun hG ↦ ⟨hG.1, fun u hu ↦ by rw [h] at hu; cases hu; exact hG.2⟩,
          fun hG ↦ ⟨hG.1, hG.2 t h⟩⟩

variable {M}

/-- **The invariant rule, guarded.** What holds at `s` and is kept by every guarded step holds
wherever a guarded run from `s` ends. -/
theorem invariant_of_meets {G : σ → α → Prop} {I : σ → Prop}
    (hstep : ∀ s a t, I s → G s a → M.step s a = some t → I t) {as : List α} :
    ∀ {s t : σ}, I s → M.Meets G s as → M.exec s as = some t → I t := by
  induction as with
  | nil =>
    intro s t hs _ hrun
    exact Option.some.inj hrun ▸ hs
  | cons a as ih =>
    intro s t hs hmeets hrun
    obtain ⟨u, hu, hrest⟩ := M.exec_cons_eq_some.1 hrun
    exact ih (hstep s a u hs hmeets.1 hu) (hmeets.2 u hu) hrest

/-- A guard that allows each label of the run in every state is met by the run. -/
theorem meets_of_forall_mem {G : σ → α → Prop} {as : List α} (h : ∀ a ∈ as, ∀ s, G s a) :
    ∀ s, M.Meets G s as := by
  induction as with
  | nil => exact fun _ ↦ trivial
  | cons a as ih =>
    intro s
    refine ⟨h a (mem_cons_self ..) s, fun t _ ↦ ?_⟩
    exact ih (fun b hb ↦ h b (mem_cons_of_mem _ hb)) t

/-- A run meets a guard exactly when its two parts do. -/
theorem meets_append {G : σ → α → Prop} {as bs : List α} :
    ∀ {s : σ}, M.Meets G s (as ++ bs) ↔
      M.Meets G s as ∧ ∀ t, M.exec s as = some t → M.Meets G t bs := by
  induction as with
  | nil =>
    intro s
    exact ⟨fun h ↦ ⟨trivial, fun t ht ↦ Option.some.inj ht ▸ h⟩, fun h ↦ h.2 s rfl⟩
  | cons a as ih =>
    intro s
    rw [cons_append]
    constructor
    · rintro ⟨ha, hrest⟩
      refine ⟨⟨ha, fun t ht ↦ (ih.1 (hrest t ht)).1⟩, fun t ht ↦ ?_⟩
      obtain ⟨u, hu, hut⟩ := M.exec_cons_eq_some.1 ht
      exact (ih.1 (hrest u hu)).2 t hut
    · rintro ⟨⟨ha, hrest⟩, hbs⟩
      refine ⟨ha, fun u hu ↦ ih.2 ⟨hrest u hu, fun t ht ↦ hbs t ?_⟩⟩
      exact M.exec_cons_eq_some.2 ⟨u, hu, ht⟩

/-- **The invariant rule, exact.** If a step reaches `I` exactly when it starts in `I` and the guard
allows it, then a run ends in `I` exactly when it starts in `I` and meets the guard. The steps need
to be looked at only in states with `J`, which every step keeps. -/
theorem invariant_iff_meets_of {G : σ → α → Prop} {I J : σ → Prop}
    (hkeep : ∀ s a t, J s → M.step s a = some t → J t)
    (hstep : ∀ s a t, J s → M.step s a = some t → (I t ↔ I s ∧ G s a)) {as : List α} :
    ∀ {s t : σ}, J s → M.exec s as = some t → (I t ↔ I s ∧ M.Meets G s as) := by
  induction as with
  | nil =>
    intro s t _ hrun
    rw [← Option.some.inj hrun]
    exact (and_iff_left trivial).symm
  | cons a as ih =>
    intro s t hs hrun
    obtain ⟨u, hu, hrest⟩ := M.exec_cons_eq_some.1 hrun
    rw [ih (hkeep s a u hs hu) hrest, hstep s a u hs hu, and_assoc]
    refine and_congr_right fun _ ↦ and_congr_right fun _ ↦ ⟨fun h v hv ↦ ?_, fun h ↦ h u hu⟩
    exact Option.some.inj (hu.symm.trans hv) ▸ h

/-- What holds at `s` and is kept by every step holds wherever a run from `s` ends. -/
theorem invariant_of_exec {I : σ → Prop} (hstep : ∀ s a t, I s → M.step s a = some t → I t)
    {s t : σ} {as : List α} (hs : I s) (hrun : M.exec s as = some t) : I t :=
  invariant_of_meets (G := fun _ _ ↦ True) (fun s a t hI _ h ↦ hstep s a t hI h) hs
    (meets_of_forall_mem (fun _ _ _ ↦ trivial) _) hrun

/-- **The invariant rule.** What holds initially and is kept by every step holds in every
reachable state. -/
theorem invariant_of_reachable {I : σ → Prop} (hinit : I M.init)
    (hstep : ∀ s a t, I s → M.step s a = some t → I t) {s : σ} (hs : M.Reachable s) : I s := by
  obtain ⟨as, hrun⟩ := hs
  exact invariant_of_exec hstep hinit hrun

/-! ### Simulation -/

/-- **The simulation rule.** If `f` takes every step of `M` from a state with the invariant to a
step of `N` with the same label, it takes runs to runs. -/
theorem exec_of_simulation {τ : Type*} {N : StepMachine τ α} {f : σ → τ} {I : σ → Prop}
    (hinv : ∀ s a t, I s → M.step s a = some t → I t)
    (hsim : ∀ s a t, I s → M.step s a = some t → N.step (f s) a = some (f t)) {as : List α} :
    ∀ {s t : σ}, I s → M.exec s as = some t → N.exec (f s) as = some (f t) := by
  induction as with
  | nil =>
    intro s t _ hrun
    exact congrArg some (congrArg f (Option.some.inj hrun))
  | cons a as ih =>
    intro s t hs hrun
    obtain ⟨u, hu, hrest⟩ := M.exec_cons_eq_some.1 hrun
    exact N.exec_cons_eq_some.2 ⟨f u, hsim s a u hs hu, ih (hinv s a u hs hu) hrest⟩

/-- Labels that change no state can be left out of a run. -/
theorem exec_filter {p : α → Bool} (hidle : ∀ s a, p a = false → M.step s a = some s)
    (as : List α) : ∀ s, M.exec s (as.filter p) = M.exec s as := by
  induction as with
  | nil => exact fun _ ↦ rfl
  | cons a as ih =>
    intro s
    rcases hp : p a with - | -
    · rw [filter_cons_of_neg (by rw [hp]; exact Bool.false_ne_true), exec_cons, hidle s a hp]
      exact ih s
    · rw [filter_cons_of_pos hp, exec_cons, exec_cons]
      exact congrArg _ (funext ih)

end StepMachine
