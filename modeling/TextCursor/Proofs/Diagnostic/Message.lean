import TextCursor.Proofs.Cursor.Refusal
import TextCursor.Proofs.Value.Printable

/-! The message of a refusal. Whatever was handed in, it has three lines, of which
only the request and the rules of refusal decide how they begin. -/
namespace TextCursor

open Text

theorem Text.intercalate_three (separator : Char) (first second third : Text) :
    List.intercalate [separator] [first, second, third] =
      first ++ separator :: second ++ separator :: third := by
  simp [List.intercalate]

theorem Code.isShown_name (code : Code) : code.name.IsShown := by
  cases code <;> decide

namespace Rejection

theorem isShown_message {r : Rejection} (named : r.operation.IsShown) : r.message.IsShown := by
  cases r with
  | invalidTarget operation target =>
    have middle : IsShown "() expects single characters, got ".toList := by decide
    exact isShown_append.mpr ⟨isShown_append.mpr ⟨named, middle⟩, target.isShown_literal⟩
  | startBeforeZero operation position =>
    have first : IsShown "Start position ".toList := by decide
    have last : IsShown " is less than zero".toList := by decide
    exact isShown_append.mpr ⟨isShown_append.mpr ⟨first, isShown_ofInt position⟩, last⟩
  | endAfterLength operation position length =>
    have first : IsShown "End position ".toList := by decide
    have middle : IsShown " is greater than the string length ".toList := by decide
    exact isShown_append.mpr ⟨isShown_append.mpr ⟨isShown_append.mpr
      ⟨first, isShown_ofInt position⟩, middle⟩, isShown_ofInt length⟩
  | startAfterEnd start stop =>
    have first : IsShown "Start (".toList := by decide
    have middle : IsShown ") can not be greater than end (".toList := by decide
    have last : IsShown [')'] := by decide
    exact isShown_append.mpr ⟨isShown_append.mpr ⟨isShown_append.mpr ⟨isShown_append.mpr
      ⟨first, isShown_ofInt start⟩, middle⟩, isShown_ofInt stop⟩, last⟩

theorem isShown_hint (r : Rejection) : r.hint.IsShown := by
  cases r with
  | invalidTarget =>
    exact (by decide : IsShown "Pass a one-character string or an integer character code".toList)
  | startBeforeZero => exact (by decide : IsShown "Positions must be >= 0".toList)
  | startAfterEnd =>
    exact (by decide : IsShown "Swap the arguments or check how the range was computed".toList)
  | endAfterLength operation position length =>
    have first : IsShown "Positions must be <= ".toList := by decide
    exact isShown_append.mpr ⟨first, isShown_ofInt length⟩

theorem hint_ne_nil (r : Rejection) : r.hint ≠ [] := by
  cases r <;> exact List.cons_ne_nil _ _

def offsetSuffix (r : Rejection) : Text :=
  match r.position with
  | some position => ", offset ".toList ++ Text.ofInt position
  | none => []

theorem isShown_offsetSuffix (r : Rejection) : r.offsetSuffix.IsShown := by
  have first : IsShown ", offset ".toList := by decide
  unfold offsetSuffix
  cases r.position with
  | none => exact isShown_nil
  | some position => exact isShown_append.mpr ⟨first, isShown_ofInt position⟩

theorem blockLines_diagnostic {r : Rejection} (named : r.operation ≠ []) :
    ({} : Formatter).blockLines r.diagnostic =
      ["error[".toList ++ r.code.name ++ "]: ".toList ++ r.message,
        "  --> ".toList ++ (r.operation ++ r.offsetSuffix),
        "  = help: ".toList ++ r.hint] := by
  have operation : r.diagnostic.namedOperation = some r.operation := by
    simp [Diagnostic.namedOperation, diagnostic, named]
  have place : r.diagnostic.place = some (r.operation ++ r.offsetSuffix) := by
    rw [Diagnostic.place, operation, offsetSuffix]
    cases position : r.position <;> simp [diagnostic, position]
  have hint : r.diagnostic.givenHint = some r.hint := by
    simp [Diagnostic.givenHint, diagnostic, hint_ne_nil]
  rw [Formatter.blockLines, place, hint]
  rfl

theorem isShown_blockLines {r : Rejection} (named : r.operation.IsShown)
    (given : r.operation ≠ []) :
    ∀ line ∈ ({} : Formatter).blockLines r.diagnostic, line.IsShown := by
  have opening : IsShown "error[".toList := by decide
  have closing : IsShown "]: ".toList := by decide
  have arrow : IsShown "  --> ".toList := by decide
  have help : IsShown "  = help: ".toList := by decide
  have header := isShown_append.mpr ⟨isShown_append.mpr ⟨isShown_append.mpr
    ⟨opening, r.code.isShown_name⟩, closing⟩, isShown_message named⟩
  have place := isShown_append.mpr ⟨arrow, isShown_append.mpr ⟨named, r.isShown_offsetSuffix⟩⟩
  have hint := isShown_append.mpr ⟨help, r.isShown_hint⟩
  rw [blockLines_diagnostic given]
  exact List.forall_mem_cons.mpr ⟨header, List.forall_mem_cons.mpr
    ⟨place, List.forall_mem_singleton.mpr hint⟩⟩

end Rejection

theorem Request.isShown_name (request : Request) : request.name.IsShown := by
  unfold name
  split <;> decide

theorem Request.name_ne_nil (request : Request) : request.name ≠ [] := by
  unfold name
  split <;> exact List.cons_ne_nil _ _

namespace Cursor

variable {c : Cursor} {request : Request} {rejected : Rejected}

/-- A message cannot be forged by what was handed in: it has three lines, which begin
with the code of the error, the name of the request and the hint, and apart from the
two feeds between them there is no character in it that cannot be shown. -/
theorem message_of_rejected (failed : c.perform request = .error (.rejected rejected)) :
    ∃ (code : Code) (first second third : Text),
      rejected.report.kind = .ofCode code ∧
      (Failure.rejected rejected).message = first ++ '\n' :: second ++ '\n' :: third ∧
      (Failure.rejected rejected).message.splitOn '\n' = [first, second, third] ∧
      "error[".toList ++ code.name ++ "]: ".toList <+: first ∧
      "  --> ".toList ++ request.name <+: second ∧
      "  = help: ".toList <+: third ∧
      ∀ ch ∈ first ++ second ++ third, isPrintable ch := by
  have refused := refuses_of_rejected failed
  have named : rejected.rejection.operation = request.name := refused.operation_eq
  have given : rejected.rejection.operation ≠ [] := named ▸ request.name_ne_nil
  have lines := Rejection.blockLines_diagnostic given
  have shown := Rejection.isShown_blockLines (named ▸ request.isShown_name) given
  have message : (Failure.rejected rejected).message =
      List.intercalate ['\n'] (({} : Formatter).blockLines rejected.rejection.diagnostic) := rfl
  have separated := List.splitOn_intercalate '\n'
    (fun line member => (shown line member).feed_notMem) (List.cons_ne_nil _ _)
  rw [← message] at separated
  rw [lines] at message separated shown
  refine ⟨rejected.rejection.code, _, _, _, refused.kind_eq, ?_, separated, ⟨_, rfl⟩, ?_,
    ⟨_, rfl⟩, ?_⟩
  · rw [message, intercalate_three]
  · rw [← named, ← List.append_assoc]
    exact ⟨_, rfl⟩
  · simp only [List.forall_mem_cons] at shown
    obtain ⟨header, place, hint, _⟩ := shown
    exact isShown_append.mpr ⟨isShown_append.mpr ⟨header, place⟩, hint⟩

/-- The first bad member holds a text with a feed, an escape character and both marks, two
levels deep, and the message still has three lines. -/
theorem message_of_rejected_of_nested_target :
    ∃ rejected,
      (ofText ['a', 'b']).perform (.consume (.items .list [.text ['a'],
        .items .tuple [.items .list [.text ['\n', '\x1b', '\x27', '\x22']], .null]])) =
          .error (.rejected rejected) ∧
      ∃ first second third : Text,
        (Failure.rejected rejected).message.splitOn '\n' = [first, second, third] ∧
        "  --> ".toList ++ "consume".toList <+: second ∧
        ∀ ch ∈ first ++ second ++ third, isPrintable ch := by
  have failed : (ofText ['a', 'b']).perform (.consume (.items .list [.text ['a'],
      .items .tuple [.items .list [.text ['\n', '\x1b', '\x27', '\x22']], .null]])) =
      .error (.rejected ⟨.invalidArgument, .invalidTarget "consume".toList
        (.items .tuple [.items .list [.text ['\n', '\x1b', '\x27', '\x22']], .null])⟩) := rfl
  obtain ⟨_, first, second, third, _, _, split, _, place, _, shown⟩ := message_of_rejected failed
  exact ⟨_, failed, first, second, third, split, place, shown⟩

end Cursor

end TextCursor
