import Mathlib.Data.List.Forall2

/-! Computations that are composed of others fail with the first error among them. -/
namespace TextCursor

variable {α β ε ε' : Type} {error : ε}

theorem bind_pure_eq_error_iff {result : Except ε α} {f : α → β} :
    (do return f (← result)) = Except.error error ↔ result = .error error := by
  cases result with
  | error first => exact ⟨fun failed => by cases failed; rfl, fun failed => by cases failed; rfl⟩
  | ok a => exact ⟨nofun, nofun⟩

theorem mapError_map_eq_error_iff {result : Except ε α} {f : α → β} {g : ε → ε'} {failure : ε'} :
    (result.map f).mapError g = .error failure ↔
      ∃ error, result = .error error ∧ failure = g error := by
  cases result with
  | error error => simp [Except.map, Except.mapError, eq_comm]
  | ok a => simp [Except.map, Except.mapError]

/-- A list is passed through up to the first element that fails. -/
theorem mapM_eq_error_iff {f : α → Except ε β} {items : List α} :
    items.mapM f = .error error ↔
      ∃ passed item rest, items = passed ++ item :: rest ∧ (∀ a ∈ passed, ∃ b, f a = .ok b) ∧
        f item = .error error := by
  induction items with
  | nil => simp [pure, Except.pure]
  | cons head tail ih =>
    rw [List.mapM_cons]
    cases read : f head with
    | error first =>
      constructor
      · intro failed
        cases failed
        exact ⟨[], head, tail, rfl, nofun, read⟩
      · intro found
        obtain ⟨passed, item, rest, split, succeeded, failed⟩ := found
        cases passed with
        | nil =>
          cases split
          cases read.symm.trans failed
          rfl
        | cons a passed =>
          cases split
          obtain ⟨b, ok⟩ := succeeded head List.mem_cons_self
          cases read.symm.trans ok
    | ok b =>
      refine Iff.trans bind_pure_eq_error_iff (ih.trans ?_)
      constructor
      · intro found
        obtain ⟨passed, item, rest, rfl, succeeded, failed⟩ := found
        refine ⟨head :: passed, item, rest, rfl, ?_, failed⟩
        exact List.forall_mem_cons.mpr ⟨⟨b, read⟩, succeeded⟩
      · intro found
        obtain ⟨passed, item, rest, split, succeeded, failed⟩ := found
        cases passed with
        | nil =>
          cases split
          cases read.symm.trans failed
        | cons a passed =>
          cases split
          exact ⟨passed, item, rest, rfl, (List.forall_mem_cons.mp succeeded).2, failed⟩

theorem forall₂_of_mapM {f : α → Except ε β} {items : List α} {results : List β}
    (passed : items.mapM f = .ok results) :
    List.Forall₂ (fun a b => f a = .ok b) items results := by
  induction items generalizing results with
  | nil =>
    cases passed
    exact .nil
  | cons head tail ih =>
    rw [List.mapM_cons] at passed
    cases read : f head with
    | error first =>
      rw [read] at passed
      cases passed
    | ok b =>
      cases later : tail.mapM f with
      | error first =>
        rw [read, later] at passed
        cases passed
      | ok others =>
        rw [read, later] at passed
        cases passed
        exact .cons read (ih later)

end TextCursor
