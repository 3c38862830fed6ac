import TextCursor.Proofs.Diagnostic.Excerpt
import TextCursor.Proofs.Diagnostic.Separation

/-! A block tells which diagnostic it renders. Its lines are found again at the feeds, each
begins with words of its own, and behind them stands what the diagnostic says, as it is. -/
namespace TextCursor

open Text

namespace Diagnostic

/-- What the line of the place says before the blank and the offset. -/
def offsetLead (d : Diagnostic) : Text :=
  match d.operation with
  | some operation => operation ++ ", offset".toList
  | none => "offset".toList

namespace IsLegible

variable {d e : Diagnostic}

theorem namedOperation_eq (legible : d.IsLegible) : d.namedOperation = d.operation := by
  rw [namedOperation, filter_nonempty, if_neg legible.operation_filled]

theorem givenHint_eq (legible : d.IsLegible) : d.givenHint = d.hint := by
  rw [givenHint, filter_nonempty, if_neg legible.hint_filled]

theorem severity_eq (legible : d.IsLegible) (legible' : e.IsLegible)
    (same : d.isWarning = e.isWarning) : d.severity = e.severity := by
  unfold isWarning at same
  rcases legible.severity with error | warning
  · rcases legible'.severity with error' | warning'
    · exact error.trans error'.symm
    · simp [error, warning'] at same
  · rcases legible'.severity with error' | warning'
    · simp [warning, error'] at same
    · exact warning.trans warning'.symm

theorem place_of_none (legible : d.IsLegible) (anywhere : d.position = none) :
    d.place = d.operation := by
  rw [place, legible.namedOperation_eq, anywhere]
  cases d.operation <;> rfl

theorem place_of_some (legible : d.IsLegible) {position : Int}
    (there : d.position = some position) :
    d.place = some (d.offsetLead ++ ' ' :: ofInt position) := by
  rw [place, legible.namedOperation_eq, there, offsetLead]
  cases d.operation <;> simp

theorem operation_eq_of_lead (same : d.offsetLead = e.offsetLead) : d.operation = e.operation := by
  have longer (operation : Text) : operation ++ ", offset".toList ≠ "offset".toList := by
    intro same
    have lengths := congrArg List.length same
    simp at lengths
  unfold offsetLead at same
  cases given : d.operation with
  | none =>
    cases given' : e.operation with
    | none => rfl
    | some operation' =>
      rw [given, given'] at same
      exact absurd same.symm (longer operation')
  | some operation =>
    cases given' : e.operation with
    | none =>
      rw [given, given'] at same
      exact absurd same (longer operation)
    | some operation' =>
      rw [given, given'] at same
      exact congrArg some (List.append_cancel_right same)

theorem place_ne_operation (legible : d.IsLegible) (legible' : e.IsLegible) {position : Int}
    (there : e.position = some position) : e.place ≠ d.operation := by
  rw [legible'.place_of_some there]
  intro same
  obtain ⟨unnumbered, unled⟩ := legible.operation_apart _ same.symm
  cases given : e.operation with
  | none =>
    apply unled
    rw [offsetLead, given]
    exact ⟨ofInt position, by simp⟩
  | some operation =>
    apply unnumbered
    rw [offsetLead, given]
    exact ⟨operation, ofInt position, by simp⟩

theorem place_inj (legible : d.IsLegible) (legible' : e.IsLegible) (same : d.place = e.place) :
    d.operation = e.operation ∧ d.position = e.position := by
  cases there : d.position with
  | none =>
    rw [legible.place_of_none there] at same
    cases there' : e.position with
    | none => exact ⟨same.trans (legible'.place_of_none there'), rfl⟩
    | some position => exact absurd same.symm (legible.place_ne_operation legible' there')
  | some position =>
    cases there' : e.position with
    | none =>
      rw [legible'.place_of_none there'] at same
      exact absurd same (legible'.place_ne_operation legible there)
    | some position' =>
      rw [legible.place_of_some there, legible'.place_of_some there', Option.some.injEq] at same
      obtain ⟨lead, rfl⟩ := append_ofInt_inj same
      exact ⟨operation_eq_of_lead lead, rfl⟩

end IsLegible

end Diagnostic

namespace Formatter

/-- No opening begins with another one. -/
theorem of_blockOpening_prefix {f g : Formatter} {d e : Diagnostic}
    (begins : f.blockOpening d <+: g.blockOpening e) :
    f.color = g.color ∧ d.isWarning = e.isWarning ∧ d.code = e.code := by
  unfold blockOpening severityLabel at begins
  generalize f.color = color, g.color = color', d.isWarning = warning, e.isWarning = warning',
    d.code = code, e.code = code' at begins ⊢
  revert color color' warning warning'
  cases code <;> cases code' <;> decide

theorem blockHeader_inj {f g : Formatter} {d e : Diagnostic}
    (same : f.blockHeader d = g.blockHeader e) :
    f.color = g.color ∧ d.isWarning = e.isWarning ∧ d.code = e.code ∧
      f.content d.message = g.content e.message := by
  have opens : f.blockOpening d ++ f.content d.message = g.blockOpening e ++ g.content e.message :=
    same
  have begins : f.blockOpening d <+: g.blockOpening e ++ g.content e.message := ⟨_, opens⟩
  obtain ⟨color, warning, code⟩ :
      f.color = g.color ∧ d.isWarning = e.isWarning ∧ d.code = e.code := by
    rcases List.prefix_or_prefix_of_prefix begins (List.prefix_append _ _) with shorter | longer
    · exact of_blockOpening_prefix shorter
    · obtain ⟨color, warning, code⟩ := of_blockOpening_prefix longer
      exact ⟨color.symm, warning.symm, code.symm⟩
  have opening : f.blockOpening d = g.blockOpening e := by
    rw [blockOpening, blockOpening, severityLabel, severityLabel, color, warning, code]
  rw [opening] at opens
  exact ⟨color, warning, code, List.append_cancel_left opens⟩

/-- The lines that may be missing are told apart by how they begin. -/
theorem details_inj {place place' hint hint' : Option Text}
    (same : (place.map ("  --> ".toList ++ ·)).toList ++
        (hint.map ("  = help: ".toList ++ ·)).toList =
      (place'.map ("  --> ".toList ++ ·)).toList ++
        (hint'.map ("  = help: ".toList ++ ·)).toList) :
    place = place' ∧ hint = hint' := by
  cases place <;> cases place' <;> cases hint <;> cases hint' <;> simp_all

theorem splitOn_format_block {f : Formatter} {d : Diagnostic} (block : f.layout = .block)
    (unbroken : d.IsUnbroken) : (f.format d).splitOn '\n' = f.blockLines d := by
  rw [format, block]
  have free : ∀ line ∈ f.blockLines d, '\n' ∉ line := fun line written =>
    (f.blockLines_filled unbroken line written).2
  exact List.splitOn_intercalate '\n' free (List.cons_ne_nil _ _)

theorem eq_of_format_block {f g : Formatter} {d e : Diagnostic} (block : f.layout = .block)
    (block' : g.layout = .block) (whole : f.shorten = false) (whole' : g.shorten = false)
    (legible : d.IsLegible) (legible' : e.IsLegible) (same : f.format d = g.format e) :
    f.color = g.color ∧ d = e := by
  have lines : f.blockLines d = g.blockLines e := by
    rw [← splitOn_format_block block legible.toIsUnbroken, same,
      splitOn_format_block block' legible'.toIsUnbroken]
  obtain ⟨header, details⟩ := List.cons.inj lines
  obtain ⟨color, warning, code, message⟩ := blockHeader_inj header
  simp only [content_of_whole whole, content_of_whole whole'] at message details
  obtain ⟨place, hint⟩ := details_inj details
  obtain ⟨operation, position⟩ := legible.place_inj legible' place
  rw [legible.givenHint_eq, legible'.givenHint_eq] at hint
  have severity := legible.severity_eq legible' warning
  refine ⟨color, ?_⟩
  cases d
  cases e
  rw [Diagnostic.mk.injEq]
  exact ⟨code, message, position, hint, operation, severity⟩

end Formatter

theorem Request.name_apart (request : Request) :
    ¬", offset ".toList <:+: request.name ∧ ¬"offset ".toList <+: request.name := by
  unfold name
  split <;> decide

namespace Cursor

variable {c : Cursor} {request : Request} {rejected : Rejected}

theorem isLegible_of_rejected (failed : c.perform request = .error (.rejected rejected)) :
    rejected.diagnostic.IsLegible := by
  have named : rejected.rejection.operation = request.name :=
    (refuses_of_rejected failed).operation_eq
  refine ⟨Rejection.isUnbroken_diagnostic (named ▸ request.isShown_name), .inl rfl, ?_, ?_, ?_⟩
  · exact mt Option.some.inj rejected.rejection.hint_ne_nil
  · exact mt Option.some.inj (named ▸ request.name_ne_nil)
  · intro operation given
    cases given
    exact named ▸ request.name_apart

theorem head?_message_of_rejected (failed : c.perform request = .error (.rejected rejected)) :
    (Failure.rejected rejected).message.head? = some 'e' := by
  have refused := refuses_of_rejected failed
  have lines := Rejection.blockLines_diagnostic (refused.operation_eq ▸ request.name_ne_nil)
  have message : (Failure.rejected rejected).message =
      List.intercalate ['\n'] (({} : Formatter).blockLines rejected.rejection.diagnostic) := rfl
  rw [message, lines, intercalate_three]
  rfl

theorem diagnostic?_eq_of_message_eq {c' : Cursor} {request' : Request} {failure failure' : Failure}
    (failed : c.perform request = .error failure) (failed' : c'.perform request' = .error failure')
    (same : failure.message = failure'.message) : failure.diagnostic? = failure'.diagnostic? := by
  cases failure with
  | rejected rejected =>
    cases failure' with
    | rejected rejected' =>
      have legible := isLegible_of_rejected failed
      have legible' := isLegible_of_rejected failed'
      have blocks : ({} : Formatter).format rejected.diagnostic =
          ({} : Formatter).format rejected'.diagnostic := same
      exact congrArg some (Formatter.eq_of_format_block rfl rfl rfl rfl legible legible' blocks).2
    | negativePosition error' =>
      have begins := head?_message_of_rejected failed
      rw [same] at begins
      cases begins
  | negativePosition error =>
    cases failure' with
    | rejected rejected' =>
      have begins := head?_message_of_rejected failed'
      rw [← same] at begins
      cases begins
    | negativePosition error' => rfl

end Cursor

/-- Whole blocks, in colour or not, are equal only for the same diagnostic, if both are legible.
So is every diagnostic that a refused request comes with, and the message that a caller is
left with tells which diagnostic that is, or that there is none. -/
theorem Formatter.block_lossless :
    (∀ (f g : Formatter) (d e : Diagnostic), d.IsLegible → e.IsLegible →
      (format { f with layout := .block, shorten := false } d =
          format { g with layout := .block, shorten := false } e ↔
        f.color = g.color ∧ d = e)) ∧
    (∀ (c : Cursor) (request : Request) (rejected : Rejected),
      c.perform request = .error (.rejected rejected) → rejected.diagnostic.IsLegible) ∧
    ∀ (c c' : Cursor) (request request' : Request) (failure failure' : Failure),
      c.perform request = .error failure → c'.perform request' = .error failure' →
      failure.message = failure'.message → failure.diagnostic? = failure'.diagnostic? := by
  refine ⟨fun f g d e legible legible' => ⟨?_, ?_⟩, fun _ _ _ => Cursor.isLegible_of_rejected,
    fun _ _ _ _ _ _ => Cursor.diagnostic?_eq_of_message_eq⟩
  · exact eq_of_format_block rfl rfl rfl rfl legible legible'
  · rintro ⟨color, rfl⟩
    have content : content { f with layout := .block, shorten := false } =
        content { g with layout := .block, shorten := false } := by
      funext s
      rw [content_of_whole rfl, content_of_whole rfl]
    exact format_congr rfl color rfl rfl rfl rfl (congrFun content _)
      (congrArg (Option.map · d.givenHint) content)

/-- The name of one operation ends in what stands before the offset of the other, and message
and hint look like lines of their own. -/
theorem Formatter.block_lossless_of_marked_texts :
    Diagnostic.IsLegible ⟨.outOfRange, "  --> x".toList, none, some "  = help: ".toList,
      some "x, offset".toList, "warning".toList⟩ ∧
    Diagnostic.IsLegible ⟨.outOfRange, "  --> x".toList, some 5, some "  = help: ".toList,
      some "x".toList, "warning".toList⟩ ∧
    Formatter.format { color := true } ⟨.outOfRange, "  --> x".toList, none,
        some "  = help: ".toList, some "x, offset".toList, "warning".toList⟩ ≠
      Formatter.format { color := true } ⟨.outOfRange, "  --> x".toList, some 5,
        some "  = help: ".toList, some "x".toList, "warning".toList⟩ ∧
    ∃ failure failure', (Cursor.ofText ['a', 'b']).perform (.moveTo (-1)) = .error failure ∧
      (Cursor.ofText []).perform (.moveTo (-1)) = .error failure' ∧
      failure.message = failure'.message ∧ failure.diagnostic? = failure'.diagnostic? := by
  have unplaced : Diagnostic.IsLegible ⟨.outOfRange, "  --> x".toList, none,
      some "  = help: ".toList, some "x, offset".toList, "warning".toList⟩ := by
    refine ⟨⟨by decide, by simp, by simp⟩, .inr rfl, by simp, by simp, ?_⟩
    intro operation given
    cases given
    decide
  have placed : Diagnostic.IsLegible ⟨.outOfRange, "  --> x".toList, some 5,
      some "  = help: ".toList, some "x".toList, "warning".toList⟩ := by
    refine ⟨⟨by decide, by simp, by simp⟩, .inr rfl, by simp, by simp, ?_⟩
    intro operation given
    cases given
    decide
  obtain ⟨rendered, _, told⟩ := block_lossless
  have alike := told (.ofText ['a', 'b']) (.ofText []) (.moveTo (-1)) (.moveTo (-1)) _ _ rfl rfl rfl
  refine ⟨unplaced, placed, fun same => ?_, _, _, rfl, rfl, rfl, alike⟩
  obtain ⟨_, equal⟩ := (rendered { color := true } { color := true } _ _ unplaced placed).mp same
  cases equal

end TextCursor
