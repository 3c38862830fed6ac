import TextCursor.Text.LineBreak
import Mathlib.Data.List.TakeWhile

/-! Line breaks read from left to right. The two passes that unify them, the single
scan and the pieces between them all take the same four steps: a pair of `cr` and
`lf`, a `cr` alone, an `lf`, and any other symbol. -/
namespace TextCursor.LineBreak

variable {α : Type} [DecidableEq α] {cr lf : α}

/-- Induction along the breaks: after a `cr` it matters whether an `lf` follows. -/
@[elab_as_elim]
theorem reading {motive : List α → Prop} (cr lf : α) (nil : motive [])
    (pair : ∀ rest, motive rest → motive (cr :: lf :: rest))
    (lone : ∀ rest, rest.head? ≠ some lf → motive rest → motive (cr :: rest))
    (other : ∀ a rest, a ≠ cr → motive rest → motive (a :: rest)) (xs : List α) :
    motive xs := by
  induction xs using scan.induct cr lf with
  | case1 => exact nil
  | case2 a =>
    by_cases begun : a = cr
    · subst begun
      exact lone [] (by simp) nil
    · exact other a [] begun nil
  | case3 rest ih => exact pair rest ih
  | case4 b rest single ih => exact lone (b :: rest) (by simpa using single) ih
  | case5 a b rest plain ih => exact other a (b :: rest) plain ih

theorem scan_pair (rest : List α) : scan cr lf (cr :: lf :: rest) = lf :: scan cr lf rest := by
  rw [scan, if_pos rfl, if_pos rfl]

theorem scan_lone {rest : List α} (single : rest.head? ≠ some lf) :
    scan cr lf (cr :: rest) = lf :: scan cr lf rest := by
  cases rest with
  | nil => simp [scan]
  | cons b rest => rw [scan, if_pos rfl, if_neg (by simpa using single)]

theorem scan_cons {a : α} (plain : a ≠ cr) (rest : List α) :
    scan cr lf (a :: rest) = a :: scan cr lf rest := by
  cases rest with
  | nil => simp [scan, plain]
  | cons b rest => rw [scan, if_neg plain]

theorem scan_append {xs : List α} (plain : cr ∉ xs) (rest : List α) :
    scan cr lf (xs ++ rest) = xs ++ scan cr lf rest := by
  induction xs with
  | nil => rfl
  | cons a xs ih =>
    obtain ⟨different, later⟩ := not_or.mp (mt List.mem_cons.mpr plain)
    rw [List.cons_append, scan_cons (Ne.symm different), ih later, List.cons_append]

theorem joinPairs_eq_replaceAll (distinct : cr ≠ lf) (xs : List α) :
    joinPairs cr lf xs = replaceAll [cr, lf] [lf] xs := by
  induction xs using joinPairs.induct cr lf with
  | case1 => simp [joinPairs, replaceAll]
  | case2 a => simp [joinPairs, replaceAll]
  | case3 a b rest found ih =>
    obtain ⟨rfl, rfl⟩ := found
    simp [joinPairs, replaceAll, ih, distinct]
  | case4 a b rest missed ih =>
    have absent : ¬[cr, lf] <+: a :: b :: rest := by
      intro found
      simp only [List.cons_prefix_cons, List.nil_prefix, and_true] at found
      exact missed ⟨found.1.symm, found.2.symm⟩
    rw [joinPairs, if_neg missed, replaceAll, if_neg absent, ih]

theorem replaceLone_eq_replaceAll (xs : List α) :
    replaceLone cr lf xs = replaceAll [cr] [lf] xs := by
  induction xs with
  | nil => simp [replaceLone, replaceAll]
  | cons a rest ih =>
    rw [replaceLone] at ih ⊢
    by_cases found : a = cr
    · simp [replaceAll, found, ih]
    · simp [replaceAll, found, Ne.symm found, ih]

/-- The passes are replacements, first of the pairs, then of each `cr` that is left. -/
theorem unify_eq_replaceAll (distinct : cr ≠ lf) (xs : List α) :
    unify cr lf xs = replaceAll [cr] [lf] (replaceAll [cr, lf] [lf] xs) := by
  rw [unify, joinPairs_eq_replaceAll distinct, replaceLone_eq_replaceAll]

theorem joinPairs_cons {a : α} {rest : List α} (missed : a = cr → rest.head? ≠ some lf) :
    joinPairs cr lf (a :: rest) = a :: joinPairs cr lf rest := by
  cases rest with
  | nil => rfl
  | cons b rest =>
    rw [joinPairs, if_neg]
    intro found
    exact missed found.1 (congrArg some found.2)

theorem unify_eq_scan (distinct : cr ≠ lf) (xs : List α) : unify cr lf xs = scan cr lf xs := by
  induction xs using reading cr lf with
  | nil => rfl
  | pair rest ih =>
    -- The first pass goes on after the `lf` that it leaves, so no pair arises from it.
    rw [scan_pair, ← ih, unify, joinPairs, if_pos ⟨rfl, rfl⟩,
      joinPairs_cons fun begun => absurd begun.symm distinct]
    simp [unify, replaceLone, Ne.symm distinct]
  | lone rest single ih =>
    rw [scan_lone single, ← ih, unify, joinPairs_cons fun _ => single]
    simp [unify, replaceLone]
  | other a rest plain ih =>
    rw [scan_cons plain, ← ih, unify, joinPairs_cons fun begun => absurd begun plain]
    simp [unify, replaceLone, plain]

theorem notMem_scan (distinct : cr ≠ lf) (xs : List α) : cr ∉ scan cr lf xs := by
  induction xs using reading cr lf with
  | nil => exact List.not_mem_nil
  | pair rest ih =>
    rw [scan_pair]
    exact List.not_mem_cons_of_ne_of_not_mem distinct ih
  | lone rest single ih =>
    rw [scan_lone single]
    exact List.not_mem_cons_of_ne_of_not_mem distinct ih
  | other a rest plain ih =>
    rw [scan_cons plain]
    exact List.not_mem_cons_of_ne_of_not_mem (Ne.symm plain) ih

theorem pieces_pair (rest : List α) :
    pieces cr lf (cr :: lf :: rest) = [] :: pieces cr lf rest := by
  rw [pieces, if_pos ⟨rfl, rfl⟩]

theorem pieces_break {a : α} {rest : List α} (ends : a = cr ∨ a = lf)
    (missed : a = cr → rest.head? ≠ some lf) :
    pieces cr lf (a :: rest) = [] :: pieces cr lf rest := by
  cases rest with
  | nil => simp [pieces, ends]
  | cons b rest =>
    rw [pieces, if_neg, if_pos ends]
    intro found
    exact missed found.1 (congrArg some found.2)

theorem pieces_cons {a : α} (plain : a ≠ cr) (inside : a ≠ lf) (rest : List α) :
    pieces cr lf (a :: rest) = (pieces cr lf rest).modifyHead (a :: ·) := by
  cases rest with
  | nil => simp [pieces, plain, inside]
  | cons b rest => simp [pieces, plain, inside]

theorem splitOn_break (rest : List α) : (lf :: rest).splitOn lf = [] :: rest.splitOn lf :=
  List.splitOn_append_cons_self [] rest

theorem splitOn_scan (xs : List α) : (scan cr lf xs).splitOn lf = pieces cr lf xs := by
  induction xs using reading cr lf with
  | nil => rfl
  | pair rest ih =>
    rw [scan_pair, pieces_pair, splitOn_break, ih]
  | lone rest single ih =>
    rw [scan_lone single, pieces_break (.inl rfl) fun _ => single, splitOn_break, ih]
  | other a rest plain ih =>
    rw [scan_cons plain]
    by_cases ends : a = lf
    · rw [pieces_break (.inr ends) fun begun => absurd begun plain, ends, splitOn_break, ih]
    · rw [pieces_cons plain ends, List.splitOn_cons_eq_if_modifyHead,
        if_neg (by simpa using ends), ih]

theorem count_adjacent_cons (a : α) (rest : List α) :
    ((a :: rest).zip rest).count (cr, lf) =
      (rest.zip rest.tail).count (cr, lf) + if a = cr ∧ rest.head? = some lf then 1 else 0 := by
  cases rest with
  | nil => simp
  | cons b rest => simp [List.count_cons]

/-- The scan is shorter by one symbol for each pair. -/
theorem length_scan (distinct : cr ≠ lf) (xs : List α) :
    (scan cr lf xs).length + (xs.zip xs.tail).count (cr, lf) = xs.length := by
  induction xs using reading cr lf with
  | nil => rfl
  | pair rest ih =>
    rw [scan_pair, List.tail_cons, count_adjacent_cons, if_pos ⟨rfl, rfl⟩, List.tail_cons,
      count_adjacent_cons, if_neg fun both => distinct both.1.symm]
    simp only [List.length_cons]
    omega
  | lone rest single ih =>
    rw [scan_lone single, List.tail_cons, count_adjacent_cons, if_neg fun both => single both.2]
    simp only [List.length_cons]
    omega
  | other a rest plain ih =>
    rw [scan_cons plain, List.tail_cons, count_adjacent_cons, if_neg fun both => plain both.1]
    simp only [List.length_cons]
    omega

/-- Where a text is cut outside of a pair, both parts can be scanned by themselves. -/
theorem scan_append_scan {xs ys : List α} (apart : xs.getLast? = some cr → ys.head? ≠ some lf) :
    scan cr lf (xs ++ ys) = scan cr lf xs ++ scan cr lf ys := by
  induction xs using reading cr lf with
  | nil => rfl
  | pair rest ih =>
    have cut : rest.getLast? = some cr → ys.head? ≠ some lf := by
      intro ends
      exact apart (by simp [List.getLast?_cons, ends])
    rw [List.cons_append, List.cons_append, scan_pair, scan_pair, ih cut, List.cons_append]
  | lone rest single ih =>
    have cut : rest.getLast? = some cr → ys.head? ≠ some lf := by
      intro ends
      exact apart (by simp [List.getLast?_cons, ends])
    have alone : (rest ++ ys).head? ≠ some lf := by
      cases rest with
      | nil => exact apart rfl
      | cons b rest => exact single
    rw [List.cons_append, scan_lone alone, scan_lone single, ih cut, List.cons_append]
  | other a rest plain ih =>
    have cut : rest.getLast? = some cr → ys.head? ≠ some lf := by
      intro ends
      exact apart (by simp [List.getLast?_cons, ends])
    rw [List.cons_append, scan_cons plain, scan_cons plain, ih cut, List.cons_append]

theorem mem_scan_iff (xs : List α) : lf ∈ scan cr lf xs ↔ cr ∈ xs ∨ lf ∈ xs := by
  induction xs using reading cr lf with
  | nil => simp [scan]
  | pair rest ih => simp [scan_pair]
  | lone rest single ih => simp [scan_lone single]
  | other a rest plain ih =>
    simp only [scan_cons plain, List.mem_cons, ih, Ne.symm plain, false_or]
    exact or_left_comm

/-- The scan has an `lf` for each `cr` and each `lf`, but one for a pair of them. -/
theorem count_scan (distinct : cr ≠ lf) (xs : List α) :
    (scan cr lf xs).count lf + (xs.zip xs.tail).count (cr, lf) = xs.count cr + xs.count lf := by
  induction xs using reading cr lf with
  | nil => rfl
  | pair rest ih =>
    rw [scan_pair, List.tail_cons, count_adjacent_cons, if_pos ⟨rfl, rfl⟩, List.tail_cons,
      count_adjacent_cons, if_neg fun both => distinct both.1.symm, List.count_cons_self,
      List.count_cons_self, List.count_cons_of_ne distinct.symm, List.count_cons_of_ne distinct,
      List.count_cons_self]
    omega
  | lone rest single ih =>
    rw [scan_lone single, List.tail_cons, count_adjacent_cons, if_neg fun both => single both.2,
      List.count_cons_self, List.count_cons_self, List.count_cons_of_ne distinct]
    omega
  | other a rest plain ih =>
    rw [scan_cons plain, List.tail_cons, count_adjacent_cons, if_neg fun both => plain both.1,
      List.count_cons, List.count_cons_of_ne plain, List.count_cons]
    omega

omit [DecidableEq α] in
/-- A longest run at the end takes in a first symbol only if it takes in all the others. -/
theorem takeWhile_reverse_cons (wanted : α → Bool) (a : α) (xs : List α) :
    (a :: xs).reverse.takeWhile wanted =
      xs.reverse.takeWhile wanted ++ if ∀ x ∈ a :: xs, wanted x then [a] else [] := by
  rw [List.reverse_cons]
  by_cases all : ∀ x ∈ xs.reverse, wanted x
  · rw [List.takeWhile_append_of_pos all, List.takeWhile_eq_self_iff.mpr all]
    simp only [List.mem_reverse] at all
    by_cases last : wanted a
    · rw [if_pos (by simpa [last] using all), List.takeWhile_cons_of_pos last, List.takeWhile_nil]
    · rw [if_neg fun every => last (every a List.mem_cons_self), List.takeWhile_cons_of_neg last]
  · rw [if_neg, List.append_nil, List.takeWhile_append, if_neg]
    · intro whole
      have same := (List.takeWhile_prefix wanted (l := xs.reverse)).eq_of_length whole
      exact all (List.takeWhile_eq_self_iff.mp same)
    · intro every
      exact all fun x member => every x (List.mem_cons_of_mem a (List.mem_reverse.mp member))

omit [DecidableEq α] in
theorem takeWhile_reverse_break {wanted : α → Bool} {a : α} (ends : ¬wanted a) (xs : List α) :
    (a :: xs).reverse.takeWhile wanted = xs.reverse.takeWhile wanted := by
  rw [takeWhile_reverse_cons, if_neg fun every => ends (every a List.mem_cons_self),
    List.append_nil]

/-- What follows the last `lf` of the scan is what follows the last break. -/
theorem takeWhile_reverse_scan (xs : List α) :
    (scan cr lf xs).reverse.takeWhile (· ≠ lf) =
      xs.reverse.takeWhile fun a => a ≠ cr ∧ a ≠ lf := by
  induction xs using reading cr lf with
  | nil => rfl
  | pair rest ih =>
    rw [scan_pair, takeWhile_reverse_break (by simp), ih, takeWhile_reverse_break (by simp),
      takeWhile_reverse_break (by simp)]
  | lone rest single ih =>
    rw [scan_lone single, takeWhile_reverse_break (by simp), ih, takeWhile_reverse_break (by simp)]
  | other a rest plain ih =>
    have free : (∀ x ∈ a :: scan cr lf rest, decide (x ≠ lf)) ↔
        ∀ x ∈ a :: rest, decide (x ≠ cr ∧ x ≠ lf) := by
      have members : lf ∈ scan cr lf rest ↔ cr ∈ rest ∨ lf ∈ rest := mem_scan_iff rest
      grind
    rw [scan_cons plain, takeWhile_reverse_cons, takeWhile_reverse_cons, ih]
    simp only [free]

end TextCursor.LineBreak
