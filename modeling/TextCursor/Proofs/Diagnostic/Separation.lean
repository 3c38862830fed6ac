import TextCursor.Proofs.Diagnostic.Message
import TextCursor.Proofs.Text.Split

/-! Diagnostics that were rendered together can be taken apart again at the empty lines:
no rendering has an empty line of its own, nor does it end inside one. In the JSON layout
this holds of every diagnostic, since an object is written on one line. -/
namespace TextCursor

open Text

namespace Json

theorem feed_notMem_escapeChar (c : Char) : '\n' ∉ escapeChar c := by
  by_cases feed : c = '\n'
  · rw [feed]
    decide
  have unlike : '\n' ≠ c := Ne.symm feed
  have digits := (isShown_hex 4 c.toNat).feed_notMem
  unfold escapeChar
  split
  · simpa using unlike
  split
  · decide
  split
  · decide
  split
  · decide
  split
  · decide
  split
  · simpa using digits
  · simpa using unlike

theorem feed_notMem_string (s : Text) : '\n' ∉ string s := by
  simp [string, feed_notMem_escapeChar]

theorem feed_notMem_render (value : Scalar) : '\n' ∉ value.render := by
  cases value with
  | text s => exact feed_notMem_string s
  | number n => exact (isShown_ofInt n).feed_notMem

theorem feed_notMem_member (name : Text) (value : Scalar) : '\n' ∉ member name value := by
  simp [member, feed_notMem_string, feed_notMem_render]

theorem feed_notMem_object (members : List (Text × Scalar)) : '\n' ∉ object members := by
  intro found
  have inside : '\n' ∈ List.intercalate ", ".toList
      (members.map fun entry => member entry.1 entry.2) := by
    simpa [object] using found
  obtain separating | ⟨part, written, found⟩ := mem_of_mem_intercalate inside
  · exact absurd separating (by decide)
  · obtain ⟨entry, _, rfl⟩ := List.mem_map.mp written
    exact feed_notMem_member entry.1 entry.2 found

end Json

namespace Diagnostic

theorem feed_notMem_place {d : Diagnostic} (unbroken : d.IsUnbroken) :
    ∀ place ∈ d.place, '\n' ∉ place := by
  have offset (position : Int) : '\n' ∉ "offset ".toList ++ Text.ofInt position :=
    (isShown_append.mpr ⟨by decide, isShown_ofInt position⟩).feed_notMem
  have operation : ∀ operation ∈ d.namedOperation, '\n' ∉ operation :=
    fun operation named => unbroken.operation operation (Option.mem_filter_iff.mp named).1
  unfold place
  cases named : d.namedOperation with
  | none =>
    cases d.position with
    | none => exact nofun
    | some position => simpa using offset position
  | some name =>
    have free := operation name named
    cases d.position with
    | none => simpa using free
    | some position => simpa [free] using offset position

theorem feed_notMem_givenHint {d : Diagnostic} (unbroken : d.IsUnbroken) :
    ∀ hint ∈ d.givenHint, '\n' ∉ hint :=
  fun hint given => unbroken.hint hint (Option.mem_filter_iff.mp given).1

end Diagnostic

namespace Formatter

theorem feed_notMem_content (f : Formatter) {s : Text} (free : '\n' ∉ s) : '\n' ∉ f.content s := by
  unfold content clip
  split
  · split <;> simp [mt List.mem_of_mem_take free]
  · exact free

theorem feed_notMem_severityLabel (f : Formatter) (d : Diagnostic) : '\n' ∉ f.severityLabel d := by
  unfold severityLabel
  cases d.isWarning <;> cases f.color <;> decide

theorem feed_notMem_blockHeader (f : Formatter) {d : Diagnostic} (free : '\n' ∉ d.message) :
    '\n' ∉ f.blockHeader d := by
  have name := d.code.isShown_name.feed_notMem
  have message := f.feed_notMem_content free
  simp [blockHeader, feed_notMem_severityLabel, name, message]

/-- The lines of a block are not empty, since each begins with a text of its own. -/
theorem blockLines_filled (f : Formatter) {d : Diagnostic} (unbroken : d.IsUnbroken) :
    ∀ line ∈ f.blockLines d, line ≠ [] ∧ '\n' ∉ line := by
  have header := f.feed_notMem_blockHeader unbroken.message
  have place := Diagnostic.feed_notMem_place unbroken
  have hint := Diagnostic.feed_notMem_givenHint unbroken
  intro line written
  simp only [blockLines, List.mem_cons, List.mem_append, Option.mem_toList, Option.map_eq_some_iff]
    at written
  obtain rfl | ⟨shown, found, rfl⟩ | ⟨given, found, rfl⟩ := written
  · refine ⟨?_, header⟩
    simp [blockHeader]
  · refine ⟨by simp, ?_⟩
    simpa using place shown found
  · refine ⟨by simp, ?_⟩
    simpa using f.feed_notMem_content (hint given found)

theorem format_lines (f : Formatter) {d : Diagnostic} (plain : f.layout = .json ∨ d.IsUnbroken) :
    ∃ lines, lines ≠ [] ∧ (∀ line ∈ lines, line ≠ [] ∧ '\n' ∉ line) ∧
      f.format d = List.intercalate ['\n'] lines := by
  unfold format
  cases layout : f.layout with
  | block =>
    have unbroken : d.IsUnbroken := plain.resolve_left (by simp [layout])
    exact ⟨f.blockLines d, List.cons_ne_nil _ _, f.blockLines_filled unbroken, rfl⟩
  | line =>
    have unbroken : d.IsUnbroken := plain.resolve_left (by simp [layout])
    have name := d.code.isShown_name.feed_notMem
    have message := f.feed_notMem_content unbroken.message
    refine ⟨[d.code.name ++ ": ".toList ++ f.content d.message], List.cons_ne_nil _ _, ?_, ?_⟩
    · refine List.forall_mem_singleton.mpr ⟨by simp, ?_⟩
      simp [name, message]
    · exact (List.intercalate_singleton).symm
  | json =>
    refine ⟨[Json.object (f.jsonMembers d)], List.cons_ne_nil _ _, ?_, ?_⟩
    · exact List.forall_mem_singleton.mpr ⟨List.cons_ne_nil _ _, Json.feed_notMem_object _⟩
    · exact (List.intercalate_singleton).symm

theorem emptyLine_notInfix_format (f : Formatter) {d : Diagnostic}
    (plain : f.layout = .json ∨ d.IsUnbroken) : ¬['\n', '\n'] <:+: f.format d ++ ['\n'] := by
  obtain ⟨lines, nonempty, filled, format⟩ := f.format_lines plain
  rw [format, intercalate_append_separator nonempty]
  exact notInfix_flatMap_append_feed filled

end Formatter

namespace Rejection

theorem isUnbroken_diagnostic {r : Rejection} (named : r.operation.IsShown) :
    r.diagnostic.IsUnbroken where
  message := (isShown_message named).feed_notMem
  hint := by
    intro hint given
    cases given
    exact r.isShown_hint.feed_notMem
  operation := by
    intro operation given
    cases given
    exact named.feed_notMem

end Rejection

/-- Splitting at the empty lines gives back each rendering by itself: in the JSON layout
always, and in the others if the texts shown have no feed in them, as is so for every
diagnostic that a refused request comes with. -/
theorem Formatter.splitAll_formatAll (f : Formatter) :
    (∀ ds : List Diagnostic, ds ≠ [] → f.layout = .json ∨ (∀ d ∈ ds, d.IsUnbroken) →
      splitAll ['\n', '\n'] (f.formatAll ds) = ds.map f.format) ∧
    ∀ (c : Cursor) (request : Request) (rejected : Rejected),
      c.perform request = .error (.rejected rejected) → rejected.diagnostic.IsUnbroken := by
  constructor
  · intro ds nonempty plain
    refine splitAll_intercalate (List.cons_ne_nil _ _) (List.map_eq_nil_iff.not.mpr nonempty) ?_
    intro rendering written
    obtain ⟨d, given, rfl⟩ := List.mem_map.mp written
    exact f.emptyLine_notInfix_format (plain.imp_right fun unbroken => unbroken d given)
  · intro c request rejected failed
    have refused := Cursor.refuses_of_rejected failed
    exact Rejection.isUnbroken_diagnostic (refused.operation_eq ▸ request.isShown_name)

/-- In a JSON object a message may be nothing but empty lines, cut or not; in a block the
place and the hint may be missing. -/
theorem Formatter.splitAll_formatAll_of_feeds :
    splitAll ['\n', '\n'] (Formatter.formatAll ⟨.json, true, false, -1⟩
        [⟨.outOfRange, ['\n', '\n', '\n'], none, some ['\n'], none, ['\n', '\n']⟩,
          ⟨.invalidRange, ['\n', '\n'], some 3, none, some ['\n'], []⟩]) =
      List.map (Formatter.format ⟨.json, true, false, -1⟩)
        [⟨.outOfRange, ['\n', '\n', '\n'], none, some ['\n'], none, ['\n', '\n']⟩,
          ⟨.invalidRange, ['\n', '\n'], some 3, none, some ['\n'], []⟩] ∧
    splitAll ['\n', '\n'] (Formatter.formatAll ⟨.block, true, true, 1⟩
        [⟨.outOfRange, ['a', 'b'], none, none, none, ['\n', '\n']⟩,
          ⟨.invalidRange, [], some 3, some ['c'], some ['d'], []⟩]) =
      List.map (Formatter.format ⟨.block, true, true, 1⟩)
        [⟨.outOfRange, ['a', 'b'], none, none, none, ['\n', '\n']⟩,
          ⟨.invalidRange, [], some 3, some ['c'], some ['d'], []⟩] ∧
    (Rejection.invalidTarget "find_next".toList (.text ['\n', '\n'])).diagnostic.IsUnbroken := by
  have bare : Diagnostic.IsUnbroken ⟨.outOfRange, ['a', 'b'], none, none, none, ['\n', '\n']⟩ :=
    ⟨by decide, nofun, nofun⟩
  have full : Diagnostic.IsUnbroken ⟨.invalidRange, [], some 3, some ['c'], some ['d'], []⟩ :=
    ⟨by decide, by simp, by simp⟩
  refine ⟨?_, ?_, ?_⟩
  · exact (splitAll_formatAll _).1 _ (List.cons_ne_nil _ _) (.inl rfl)
  · refine (splitAll_formatAll _).1 _ (List.cons_ne_nil _ _) (.inr ?_)
    exact List.forall_mem_cons.mpr ⟨bare, List.forall_mem_singleton.mpr full⟩
  · exact (splitAll_formatAll {}).2 (Cursor.ofText ['a']) (.findNext (.text ['\n', '\n'])) _ rfl

end TextCursor
