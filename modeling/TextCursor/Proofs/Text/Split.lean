import TextCursor.Text.Basic
import Mathlib.Data.List.Chain
import Mathlib.Data.List.Infix

/-! What was joined by a word is split into the same parts, as long as no occurrence of
the word begins inside a part. Between two feeds, lines that are not empty are such parts. -/
namespace TextCursor

variable {α : Type}

section Words

variable [DecidableEq α] {word part rest : List α}

theorem splitAll_append (filled : word ≠ []) (apart : ¬word <:+: part ++ word.dropLast) :
    splitAll word (part ++ word ++ rest) = part :: splitAll word rest := by
  induction part with
  | nil =>
    obtain ⟨first, others, rfl⟩ := List.exists_cons_of_ne_nil filled
    have found : first :: others <+: first :: (others ++ rest) := ⟨rest, rfl⟩
    simp only [List.nil_append, List.cons_append]
    rw [splitAll, if_pos found]
    simp
  | cons a part ih =>
    rw [List.cons_append, List.infix_cons_iff, not_or] at apart
    have elsewhere : ¬word <+: a :: (part ++ word ++ rest) := by
      intro found
      have inside : a :: (part ++ word.dropLast) <+: a :: (part ++ word ++ rest) := by
        rw [List.append_assoc, List.prefix_cons_inj, List.prefix_append_right_inj]
        exact (List.dropLast_prefix word).trans (List.prefix_append word rest)
      -- An occurrence that begins before the last symbols of the word also ends before them.
      have short : word.length ≤ (a :: (part ++ word.dropLast)).length := by
        simp only [List.length_cons, List.length_append, List.length_dropLast]
        omega
      exact apart.1 (List.prefix_of_prefix_length_le found inside short)
    rw [List.cons_append, List.cons_append, splitAll, if_neg elsewhere, ih apart.2,
      List.modifyHead_cons]

theorem splitAll_of_not_infix (absent : ¬word <:+: part) : splitAll word part = [part] := by
  induction part with
  | nil => rw [splitAll]
  | cons a part ih =>
    rw [List.infix_cons_iff, not_or] at absent
    rw [splitAll, if_neg absent.1, ih absent.2, List.modifyHead_cons]

theorem splitAll_intercalate {parts : List (List α)} (filled : word ≠ []) (nonempty : parts ≠ [])
    (apart : ∀ part ∈ parts, ¬word <:+: part ++ word.dropLast) :
    splitAll word (word.intercalate parts) = parts := by
  induction parts with
  | nil => exact absurd rfl nonempty
  | cons part parts ih =>
    obtain ⟨here, later⟩ := List.forall_mem_cons.mp apart
    cases parts with
    | nil =>
      rw [List.intercalate_singleton]
      exact splitAll_of_not_infix fun found => here (found.trans (List.prefix_append _ _).isInfix)
    | cons next parts =>
      rw [List.intercalate_cons_cons, splitAll_append filled here,
        ih (List.cons_ne_nil next parts) later]

/-- Of three feeds in a row it is the first two that separate. -/
example : splitAll ['\n', '\n'] ['a', '\n', '\n', '\n', 'b'] = [['a'], ['\n', 'b']] := by cbv

end Words

section Lines

variable {feed : α} {line rest : List α} {lines : List (List α)}

theorem notInfix_append_feed (free : feed ∉ line) (begins : rest.head? ≠ some feed)
    (apart : ¬[feed, feed] <:+: rest) : ¬[feed, feed] <:+: line ++ feed :: rest := by
  induction line with
  | nil =>
    rw [List.nil_append, List.infix_cons_iff, List.prefix_cons_inj]
    refine not_or.mpr ⟨fun found => ?_, apart⟩
    obtain ⟨after, rfl⟩ := found
    exact begins rfl
  | cons a line ih =>
    obtain ⟨different, free⟩ := not_or.mp (List.mem_cons.not.mp free)
    rw [List.cons_append, List.infix_cons_iff, List.cons_prefix_cons]
    exact not_or.mpr ⟨fun found => different found.1, ih free⟩

theorem head?_flatMap_append_feed (filled : ∀ line ∈ lines, line ≠ [] ∧ feed ∉ line) :
    (lines.flatMap (· ++ [feed])).head? ≠ some feed := by
  cases lines with
  | nil => exact nofun
  | cons line lines =>
    obtain ⟨nonempty, free⟩ := filled line List.mem_cons_self
    obtain ⟨a, line, rfl⟩ := List.exists_cons_of_ne_nil nonempty
    intro begins
    cases begins
    exact free List.mem_cons_self

/-- Two feeds never meet where each line that ends with one is not empty. -/
theorem notInfix_flatMap_append_feed (filled : ∀ line ∈ lines, line ≠ [] ∧ feed ∉ line) :
    ¬[feed, feed] <:+: lines.flatMap (· ++ [feed]) := by
  induction lines with
  | nil => simp
  | cons line lines ih =>
    obtain ⟨⟨_, free⟩, others⟩ := List.forall_mem_cons.mp filled
    rw [List.flatMap_cons, List.append_assoc, List.singleton_append]
    exact notInfix_append_feed free (head?_flatMap_append_feed others) (ih others)

theorem intercalate_append_separator {separator : List α} (nonempty : lines ≠ []) :
    separator.intercalate lines ++ separator = lines.flatMap (· ++ separator) := by
  induction lines with
  | nil => exact absurd rfl nonempty
  | cons line lines ih =>
    cases lines with
    | nil => simp
    | cons next lines =>
      rw [List.intercalate_cons_cons, List.append_assoc, ih (List.cons_ne_nil next lines)]
      rfl

theorem infix_intercalate {separator line : List α} (member : line ∈ lines) :
    line <:+: separator.intercalate lines := by
  induction lines with
  | nil => cases member
  | cons first others ih =>
    by_cases last : others = []
    · subst last
      rw [List.intercalate_singleton, List.mem_singleton.mp member]
    · rw [List.intercalate_cons_of_ne_nil last]
      rcases List.mem_cons.mp member with rfl | later
      · exact (List.prefix_append_of_prefix (List.prefix_append _ _)).isInfix
      · exact (ih later).trans (List.suffix_append _ _).isInfix

end Lines
end TextCursor
