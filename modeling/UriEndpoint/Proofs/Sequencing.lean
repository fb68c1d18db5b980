import Mathlib.Data.List.Forall2

/-! # Results of steps that may fail

A step that may fail passes its value on or stops the run with its fault. The laws here take the
result of a run apart into the results of its steps, for two steps one after the other and for the
reading of a list item by item.
-/

namespace UriEndpoint

variable {α β ε : Type}

theorem bind_eq_ok_iff {first : Except ε α} {second : α → Except ε β} {result : β} :
    (first >>= second) = .ok result ↔ ∃ value, first = .ok value ∧ second value = .ok result := by
  cases first <;> simp [bind, Except.bind]

theorem bind_eq_error_iff {first : Except ε α} {second : α → Except ε β} {fault : ε} :
    (first >>= second) = .error fault ↔
      first = .error fault ∨ ∃ value, first = .ok value ∧ second value = .error fault := by
  cases first <;> simp [bind, Except.bind]

theorem map_eq_ok_iff {step : Except ε α} {made : α → β} {result : β} :
    step.map made = .ok result ↔ ∃ value, step = .ok value ∧ made value = result := by
  cases step <;> simp [Except.map]

theorem mapError_eq_ok_iff {step : Except ε α} {renamed : ε → β} {value : α} :
    step.mapError renamed = .ok value ↔ step = .ok value := by
  cases step <;> simp [Except.mapError]

theorem mapError_eq_error_iff {step : Except ε α} {renamed : ε → β} {fault : β} :
    step.mapError renamed = .error fault ↔
      ∃ cause, step = .error cause ∧ renamed cause = fault := by
  cases step <;> simp [Except.mapError]

/-- Two steps fail with one fault, or give values that go together. -/
inductive EndAlike (together : α → β → Prop) : Except ε α → Except ε β → Prop
  | error (fault : ε) : EndAlike together (.error fault) (.error fault)
  | ok {first : α} {second : β} (values : together first second) :
      EndAlike together (.ok first) (.ok second)

/-- Sequences of two steps end alike if their first steps do and, on results that go together, their
second ones. -/
theorem EndAlike.bind {γ δ : Type} {together : α → β → Prop} {after : γ → δ → Prop}
    {first : Except ε α} {second : Except ε β} {next : α → Except ε γ} {other : β → Except ε δ}
    (alike : EndAlike together first second)
    (rest : ∀ {value result}, together value result → EndAlike after (next value) (other result)) :
    EndAlike after (first >>= next) (second >>= other) := by
  cases alike with
  | error fault => exact .error fault
  | ok values => exact rest values

/-- Every item has a result exactly if there is a list of results, one for each. -/
theorem exists_forall₂_iff {related : α → β → Prop} {items : List α} :
    (∃ results, List.Forall₂ related items results) ↔
      ∀ item ∈ items, ∃ result, related item result := by
  induction items with
  | nil => exact ⟨fun _ => by simp, fun _ => ⟨[], .nil⟩⟩
  | cons item items ih =>
      rw [List.forall_mem_cons, ← ih]
      constructor
      · rintro ⟨_, ⟨⟩⟩
        exact ⟨⟨_, ‹_›⟩, ⟨_, ‹_›⟩⟩
      · rintro ⟨⟨result, first⟩, ⟨results, others⟩⟩
        exact ⟨result :: results, .cons first others⟩

/-- Every result in such a list is that of some item. -/
theorem exists_of_mem_results {related : α → β → Prop} {items : List α} {results : List β}
    {result : β} (each : List.Forall₂ related items results) (member : result ∈ results) :
    ∃ item ∈ items, related item result := by
  induction each with
  | nil => cases member
  | cons first others ih =>
      rcases List.mem_cons.mp member with rfl | member
      · exact ⟨_, List.mem_cons_self .., first⟩
      · obtain ⟨item, among, found⟩ := ih member
        exact ⟨item, List.mem_cons_of_mem _ among, found⟩

variable {read : α → Except ε β}

/-- Reading items one after another succeeds exactly when each item is read. -/
theorem mapM_eq_ok_iff {items : List α} {results : List β} :
    items.mapM read = .ok results ↔
      List.Forall₂ (fun item result => read item = .ok result) items results := by
  induction items generalizing results with
  | nil => cases results <;> simp [pure, Except.pure]
  | cons item items ih =>
      rw [List.mapM_cons, bind_eq_ok_iff]
      constructor
      · rintro ⟨result, first, rest⟩
        obtain ⟨found, others, done⟩ := bind_eq_ok_iff.mp rest
        cases done
        exact .cons first (ih.mp others)
      · intro each
        cases each with
        | cons first others =>
            exact ⟨_, first, bind_eq_ok_iff.mpr ⟨_, ih.mpr others, rfl⟩⟩

/-- Reading items one after another fails with the fault of the first item that is not read. -/
theorem mapM_eq_error_iff {items : List α} {fault : ε} :
    items.mapM read = .error fault ↔
      ∃ before item after, items = before ++ item :: after ∧
        (∀ earlier ∈ before, ∃ result, read earlier = .ok result) ∧ read item = .error fault := by
  induction items with
  | nil => simp [pure, Except.pure]
  | cons item items ih =>
      rw [List.mapM_cons, bind_eq_error_iff]
      constructor
      · rintro (failed | ⟨result, first, rest⟩)
        · exact ⟨[], item, items, rfl, by simp, failed⟩
        · rcases bind_eq_error_iff.mp rest with failed | ⟨found, others, done⟩
          · obtain ⟨before, failing, after, rfl, earlierRead, failed⟩ := ih.mp failed
            exact ⟨item :: before, failing, after, rfl,
              List.forall_mem_cons.mpr ⟨⟨result, first⟩, earlierRead⟩, failed⟩
          · cases done
      · rintro ⟨_ | ⟨earlier, before⟩, failing, after, shape, earlierRead, failed⟩
        · cases shape
          exact .inl failed
        · cases shape
          obtain ⟨⟨result, first⟩, others⟩ := List.forall_mem_cons.mp earlierRead
          exact .inr ⟨result, first, bind_eq_error_iff.mpr
            (.inl (ih.mpr ⟨before, failing, after, rfl, others, failed⟩))⟩

end UriEndpoint
