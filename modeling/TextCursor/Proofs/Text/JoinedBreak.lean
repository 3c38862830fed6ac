import TextCursor.Proofs.Text.LineBreak

/-! Line breaks of two texts put together. Each text may be unified by itself, unless a pair is
torn apart between them, which then counts as a break of the one and as a break of the other. -/
namespace TextCursor

namespace LineBreak

variable {α : Type} [DecidableEq α] {cr lf : α} {xs ys : List α}

theorem scan_of_notMem (plain : cr ∉ xs) : scan cr lf xs = xs := by
  have whole : scan cr lf (xs ++ []) = xs ++ scan cr lf [] := scan_append plain []
  rwa [scan, List.append_nil] at whole

/-- Of a pair that is torn apart, the first part already has the break. -/
theorem scan_append_of_torn (distinct : cr ≠ lf) (ends : xs.getLast? = some cr)
    (begins : ys.head? = some lf) :
    scan cr lf (xs ++ ys) = scan cr lf xs ++ (scan cr lf ys).tail := by
  obtain ⟨before, rfl⟩ := List.getLast?_eq_some_iff.mp ends
  obtain ⟨after, rfl⟩ := List.head?_eq_some_iff.mp begins
  have apart (rest : List α) : before.getLast? = some cr → (cr :: rest).head? ≠ some lf :=
    fun _ same => distinct (Option.some.inj same)
  have alone : scan cr lf [cr] = [lf] := by rw [scan, if_pos rfl]
  -- On both sides the cut is moved to before the `cr`, where it tears nothing apart.
  rw [List.append_assoc, List.singleton_append, scan_append_scan (apart _),
    scan_append_scan (apart _), scan_pair, scan_cons distinct.symm, alone, List.tail_cons,
    List.append_assoc, List.singleton_append]

theorem tail_scan_ne (distinct : cr ≠ lf) (begins : ys.head? = some lf) :
    (scan cr lf ys).tail ≠ scan cr lf ys := by
  obtain ⟨after, rfl⟩ := List.head?_eq_some_iff.mp begins
  rw [scan_cons distinct.symm, List.tail_cons]
  exact (List.cons_ne_self _ _).symm

theorem unify_eq_self_iff (distinct : cr ≠ lf) : unify cr lf xs = xs ↔ cr ∉ xs := by
  rw [unify_eq_scan distinct]
  constructor
  · intro same
    rw [← same]
    exact notMem_scan distinct xs
  · exact scan_of_notMem

theorem unify_unify (distinct : cr ≠ lf) (xs : List α) :
    unify cr lf (unify cr lf xs) = unify cr lf xs := by
  rw [unify_eq_self_iff distinct, unify_eq_scan distinct]
  exact notMem_scan distinct xs

theorem unify_append (distinct : cr ≠ lf) (xs ys : List α) :
    unify cr lf (xs ++ ys) = unify cr lf xs ++
      if xs.getLast? = some cr ∧ ys.head? = some lf then (unify cr lf ys).tail
      else unify cr lf ys := by
  simp only [unify_eq_scan distinct]
  split
  case isTrue torn => exact scan_append_of_torn distinct torn.1 torn.2
  case isFalse whole => exact scan_append_scan fun ends begins => whole ⟨ends, begins⟩

theorem unify_append_eq_append_iff (distinct : cr ≠ lf) (xs ys : List α) :
    unify cr lf (xs ++ ys) = unify cr lf xs ++ unify cr lf ys ↔
      ¬(xs.getLast? = some cr ∧ ys.head? = some lf) := by
  rw [unify_append distinct, List.append_right_inj]
  split
  case isTrue torn =>
    have differs := tail_scan_ne distinct torn.2
    rw [← unify_eq_scan distinct] at differs
    exact iff_of_false differs (not_not_intro torn)
  case isFalse whole => exact iff_of_true rfl whole

end LineBreak

namespace Text

/-- Unified breaks of a text in two parts are those of the parts, but for a pair that is torn
apart: its second half, which the last part has as a break of its own, is left out. That is the
only exception. What is unified stays as it is, and so does just what has no return. -/
theorem unifyBreaks_append (first rest : Text) :
    ((first ++ rest : Text).unifyBreaks = first.unifyBreaks ++
      if first.getLast? = some '\r' ∧ rest.head? = some '\n' then rest.unifyBreaks.tail
      else rest.unifyBreaks) ∧
    ((first ++ rest : Text).unifyBreaks = first.unifyBreaks ++ rest.unifyBreaks ↔
      ¬(first.getLast? = some '\r' ∧ rest.head? = some '\n')) ∧
    first.unifyBreaks.unifyBreaks = first.unifyBreaks ∧
    (first.unifyBreaks = first ↔ '\r' ∉ first) := by
  have distinct : '\r' ≠ '\n' := by decide
  exact ⟨LineBreak.unify_append distinct first rest,
    LineBreak.unify_append_eq_append_iff distinct first rest,
    LineBreak.unify_unify distinct first, LineBreak.unify_eq_self_iff distinct⟩

end Text

end TextCursor
