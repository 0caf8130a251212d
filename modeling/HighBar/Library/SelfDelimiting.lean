import Mathlib.Data.List.Basic
import Mathlib.Data.Set.Function

/-!
# Self-delimiting codes

A code is **self-delimiting** on a set of values if a reader who has the code of one of them, and
anything after it, knows the value and where its code ends. A field with a terminator that it does
not contain has that property (`selfDelimiting_terminated`), it passes to pairs written one after
the other (`SelfDelimiting.prod`), and a list written that way, entry by entry, can be read again
(`SelfDelimiting.flatMap_injOn`).
-/

variable {α β γ : Type*}

/-- The code of a value of the set tells the value, and where the code ends. -/
def SelfDelimiting (s : Set α) (encode : α → List γ) : Prop :=
  ∀ ⦃a⦄, a ∈ s → ∀ ⦃b⦄, b ∈ s → ∀ x y, encode a ++ x = encode b ++ y → a = b ∧ x = y

/-- A field is read up to its terminator. -/
theorem selfDelimiting_terminated (terminator : γ) :
    SelfDelimiting {field | terminator ∉ field} fun field ↦ field ++ [terminator] := by
  intro a ha b hb x y h
  simp only [List.append_assoc, List.singleton_append] at h
  induction a generalizing b with
  | nil =>
    rcases b with - | ⟨c, b⟩
    · exact ⟨rfl, (List.cons.inj h).2⟩
    · exact absurd (List.cons.inj h).1 (List.ne_of_not_mem_cons hb)
  | cons c a ih =>
    rcases b with - | ⟨d, b⟩
    · exact absurd (List.cons.inj h).1.symm (List.ne_of_not_mem_cons ha)
    · obtain ⟨rfl, hrest⟩ := List.cons.inj h
      obtain ⟨rfl, hxy⟩ := ih (List.not_mem_of_not_mem_cons ha) (List.not_mem_of_not_mem_cons hb)
        hrest
      exact ⟨rfl, hxy⟩

namespace SelfDelimiting

/-- Two values, one after the other. -/
theorem prod {s : Set α} {t : Set β} {f : α → List γ} {g : β → List γ}
    (hf : SelfDelimiting s f) (hg : SelfDelimiting t g) :
    SelfDelimiting (s ×ˢ t) fun p ↦ f p.1 ++ g p.2 := by
  rintro ⟨a, b⟩ ⟨ha, hb⟩ ⟨a', b'⟩ ⟨ha', hb'⟩ x y h
  simp only [List.append_assoc] at h
  obtain ⟨rfl, htail⟩ := hf ha ha' _ _ h
  obtain ⟨rfl, hxy⟩ := hg hb hb' _ _ htail
  exact ⟨rfl, hxy⟩

/-- A value that is coded as its view is. -/
theorem comap {s : Set α} {t : Set β} {encode : α → List γ} {f : β → List γ}
    (hf : SelfDelimiting t f) {view : α → β} (hencode : ∀ a, encode a = f (view a))
    (hview : Set.InjOn view s) (hmaps : Set.MapsTo view s t) : SelfDelimiting s encode := by
  intro a ha b hb x y h
  rw [hencode, hencode] at h
  obtain ⟨hab, hxy⟩ := hf (hmaps ha) (hmaps hb) x y h
  exact ⟨hview ha hb hab, hxy⟩

/-- The codes of a list of values, none of them empty, tell the list. -/
theorem flatMap_injOn {s : Set α} {f : α → List γ} (hf : SelfDelimiting s f)
    (hne : ∀ a ∈ s, f a ≠ []) :
    Set.InjOn (List.flatMap f) {l | ∀ a ∈ l, a ∈ s} := by
  intro l hl l' hl' h
  induction l generalizing l' with
  | nil =>
    rcases l' with - | ⟨b, l'⟩
    · rfl
    · rw [List.flatMap_nil, List.flatMap_cons] at h
      exact absurd (List.append_eq_nil_iff.1 h.symm).1 (hne b (hl' b (List.mem_cons_self ..)))
  | cons a l ih =>
    rcases l' with - | ⟨b, l'⟩
    · rw [List.flatMap_nil, List.flatMap_cons] at h
      exact absurd (List.append_eq_nil_iff.1 h).1 (hne a (hl a (List.mem_cons_self ..)))
    · rw [List.flatMap_cons, List.flatMap_cons] at h
      obtain ⟨ha, hrest⟩ := List.forall_mem_cons.1 hl
      obtain ⟨hb, hrest'⟩ := List.forall_mem_cons.1 hl'
      obtain ⟨rfl, htail⟩ := hf ha hb _ _ h
      rw [ih hrest hrest' htail]

end SelfDelimiting
