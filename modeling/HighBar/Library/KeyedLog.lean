import Mathlib.Data.List.Dedup
import Mathlib.Data.List.Induction

/-!
# Logs whose entries have a key

A log is a list of entries, oldest first, and every entry has a key. Two ways of reading it occur
again and again: a dictionary in which a later entry replaces an earlier one of the same key
(`index`), and a dictionary of lists to which every entry is appended under its key (`byKey`). Both
are the log, read at one key: the last entry of that key (`latest`), and all of them in order.
-/

namespace KeyedLog

open List

variable {κ α : Type*} [DecidableEq κ] {key : α → κ}

/-- The last entry of the log under a key. -/
def latest (key : α → κ) (log : List α) (k : κ) : Option α :=
  (log.filter fun entry ↦ key entry = k).getLast?

/-- The dictionary of the log: every entry is stored under its key. -/
def index (key : α → κ) (log : List α) : κ → Option α :=
  log.foldl (fun stored entry ↦ Function.update stored (key entry) (some entry)) fun _ ↦ none

/-- The log filed by the keys: for each key of the list, its entries in order. -/
def byKey (key : α → κ) (log : List α) (keys : List κ) : List α :=
  keys.flatMap fun k ↦ log.filter fun entry ↦ key entry = k

/-- A new entry is the latest of its key. -/
theorem latest_concat (log : List α) (entry : α) (k : κ) :
    latest key (log ++ [entry]) k = if key entry = k then some entry else latest key log k := by
  rw [latest, latest, filter_append]
  split_ifs with hkey
  · rw [filter_singleton, decide_eq_true hkey, cond_true, getLast?_concat]
  · rw [filter_singleton, decide_eq_false hkey, cond_false, append_nil]

/-- **The dictionary holds the last entry of every key.** -/
theorem index_eq_latest (log : List α) : index key log = latest key log := by
  induction log using List.reverseRecOn with
  | nil => rfl
  | append_singleton log entry ih =>
    funext k
    rw [latest_concat, ← ih, index, foldl_concat, Function.update_apply]
    exact if_congr eq_comm rfl rfl

/-- The last entry of a key has it, and is in the log. -/
theorem mem_of_latest_eq_some {log : List α} {k : κ} {entry : α}
    (h : latest key log k = some entry) : entry ∈ log ∧ key entry = k := by
  have hmem := mem_filter.1 (mem_of_getLast? h)
  exact ⟨hmem.1, of_decide_eq_true hmem.2⟩

/-- In a log in which no two entries share a key, every entry is the last of its key. -/
theorem latest_of_nodup {log : List α} (hnodup : (log.map key).Nodup) {entry : α}
    (hentry : entry ∈ log) : latest key log (key entry) = some entry := by
  induction log using List.reverseRecOn with
  | nil => exact absurd hentry not_mem_nil
  | append_singleton log last ih =>
    rw [map_append, nodup_append] at hnodup
    obtain ⟨hlog, -, hdisjoint⟩ := hnodup
    rw [latest_concat]
    rcases mem_append.1 hentry with hmem | hmem
    · have hne : key last ≠ key entry := fun heq ↦
        hdisjoint _ (mem_map_of_mem hmem) _ (mem_singleton.2 rfl) heq.symm
      rw [if_neg hne, ih hlog hmem]
    · rw [mem_singleton.1 hmem, if_pos rfl]

/-- What comes later counts first. -/
theorem latest_append (front back : List α) (k : κ) :
    latest key (front ++ back) k = (latest key back k).or (latest key front k) := by
  rw [latest, latest, latest, filter_append, getLast?_append]

/-- The last entry under a key, where every item adds entries of its own: that of the last item that
has one. -/
theorem latest_flatMap {β : Type*} (items : List β) (entries : β → List α) (k : κ) :
    latest key (items.flatMap entries) k =
      (items.filterMap fun item ↦ latest key (entries item) k).getLast? := by
  induction items using List.reverseRecOn with
  | nil => rfl
  | append_singleton items item ih =>
    rw [flatMap_append, flatMap_singleton, latest_append, ih, filterMap_append]
    rcases hitem : latest key (entries item) k with - | entry
    · simp only [filterMap_cons, hitem, filterMap_nil, append_nil, Option.none_or]
    · simp only [filterMap_cons, hitem, filterMap_nil, getLast?_concat,
        Option.some_or]

/-- One entry for each key of a list. -/
theorem latest_map {entry : κ → α} (hentry : ∀ k, key (entry k) = k) (keys : List κ) (k : κ) :
    latest key (keys.map entry) k = if k ∈ keys then some (entry k) else none := by
  induction keys using List.reverseRecOn with
  | nil => rfl
  | append_singleton keys last ih =>
    rw [map_append, map_singleton, latest_concat, hentry, ih]
    by_cases hlast : last = k
    · rw [if_pos hlast, hlast, if_pos (mem_append_right _ (mem_singleton.2 rfl))]
    · rw [if_neg hlast]
      refine if_congr ?_ rfl rfl
      rw [mem_append, mem_singleton, or_iff_left fun heq ↦ hlast heq.symm]

/-- **Filing a log by its keys** changes nothing under a key that is on the list once. -/
theorem filter_byKey (log : List α) {keys : List κ} (hnodup : keys.Nodup) (k : κ) :
    (byKey key log keys).filter (fun entry ↦ key entry = k) =
      if k ∈ keys then log.filter (fun entry ↦ key entry = k) else [] := by
  induction keys with
  | nil => rfl
  | cons first keys ih =>
    obtain ⟨hfirst, hkeys⟩ := nodup_cons.1 hnodup
    rw [byKey, flatMap_cons, filter_append, ← byKey, ih hkeys, filter_filter]
    by_cases heq : k = first
    · subst heq
      rw [if_neg hfirst, if_pos mem_cons_self, append_nil]
      exact filter_congr fun entry _ ↦ Bool.and_self _
    · have hnone : (log.filter fun entry ↦ decide (key entry = k) && decide (key entry = first)) =
          [] := by
        refine filter_eq_nil_iff.2 fun entry _ hboth ↦ ?_
        rw [Bool.and_eq_true, decide_eq_true_iff, decide_eq_true_iff] at hboth
        exact heq (hboth.1.symm.trans hboth.2)
      rw [hnone, nil_append]
      exact if_congr (mem_cons.trans (or_iff_right heq)).symm rfl rfl

/-- The last entry under a key stays the last when the log is filed by all of its keys. -/
theorem latest_byKey (log : List α) {keys : List κ} (hnodup : keys.Nodup)
    (hkeys : ∀ entry ∈ log, key entry ∈ keys) (k : κ) :
    latest key (byKey key log keys) k = latest key log k := by
  rw [latest, filter_byKey log hnodup, latest]
  split_ifs with hk
  · rfl
  · have hnone : (log.filter fun entry ↦ key entry = k) = [] :=
      filter_eq_nil_iff.2 fun entry hmem heq ↦
        hk (of_decide_eq_true heq ▸ hkeys entry hmem)
    rw [hnone]

end KeyedLog
