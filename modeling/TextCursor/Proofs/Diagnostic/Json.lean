import TextCursor.Diagnostic.Format
import TextCursor.Proofs.Json.Reading

/-! A diagnostic in the JSON layout loses nothing but the difference between an
empty hint or operation and a missing one. -/
namespace TextCursor

open Json

theorem Json.object_injective {members others : List (Text × Scalar)}
    (same : object members = object others) : members = others := by
  have read := congrArg readObject? same
  rw [readObject?_object, readObject?_object] at read
  exact Option.some.inj read

theorem Code.ofName_name (code : Code) : ofName code.name = .ok code := by
  cases code <;> rfl

namespace Diagnostic

theorem filter_nonempty (field : Option Text) :
    field.filter (!·.isEmpty) = if field = some [] then none else field := by
  cases field with
  | none => rfl
  | some s => cases s <;> rfl

theorem toList_filter_nonempty {α : Type} (field : Option Text) (member : Text → α) :
    ((field.filter (!·.isEmpty)).map member).toList =
      match field with
      | some (c :: rest) => [member (c :: rest)]
      | _ => [] := by
  cases field with
  | none => rfl
  | some s => cases s <;> rfl

theorem withoutEmpty_eq (d : Diagnostic) :
    d.withoutEmpty = { d with hint := d.givenHint, operation := d.namedOperation } := by
  rw [withoutEmpty, givenHint, namedOperation, filter_nonempty, filter_nonempty]

def ofMembers? (members : List (Text × Scalar)) : Option Diagnostic := do
  let code ← (Code.ofName (← text? "code".toList)).toOption
  let message ← text? "message".toList
  let severity ← text? "severity".toList
  return { code, message, severity
           position := number? "position".toList
           hint := text? "hint".toList
           operation := text? "operation".toList }
where
  text? (name : Text) : Option Text :=
    match members.lookup name with
    | some (.text s) => some s
    | _ => none
  number? (name : Text) : Option Int :=
    match members.lookup name with
    | some (.number n) => some n
    | _ => none

end Diagnostic

namespace Formatter

theorem nodup_names (f : Formatter) (d : Diagnostic) :
    ((f.jsonMembers d).map Prod.fst).Nodup := by
  have names : (f.jsonMembers d).map Prod.fst =
      ["code".toList, "code_value".toList, "message".toList, "severity".toList] ++
        (if d.position.isSome then ["position".toList] else []) ++
        (if d.namedOperation.isSome then ["operation".toList] else []) ++
        (if d.givenHint.isSome then ["hint".toList] else []) := by
    unfold jsonMembers
    cases d.position <;> cases d.namedOperation <;> cases d.givenHint <;> rfl
  rw [names]
  generalize d.position.isSome = placed, d.namedOperation.isSome = named,
    d.givenHint.isSome = hinted
  revert placed named hinted
  decide

theorem content_of_whole {f : Formatter} (whole : f.shorten = false) (s : Text) :
    f.content s = s := by
  simp [content, whole]

theorem jsonMembers_withoutEmpty (f : Formatter) (d : Diagnostic) :
    f.jsonMembers d.withoutEmpty = f.jsonMembers d := by
  have named : d.withoutEmpty.namedOperation = d.namedOperation := by
    rw [Diagnostic.withoutEmpty_eq]
    simp [Diagnostic.namedOperation]
  have hinted : d.withoutEmpty.givenHint = d.givenHint := by
    rw [Diagnostic.withoutEmpty_eq]
    simp [Diagnostic.givenHint]
  rw [jsonMembers, jsonMembers, named, hinted]
  rfl

theorem ofMembers?_jsonMembers {f : Formatter} (whole : f.shorten = false) (d : Diagnostic) :
    Diagnostic.ofMembers? (f.jsonMembers d) = some d.withoutEmpty := by
  -- The code is looked up by its name, which does not compute while the code is unknown.
  have named : (f.jsonMembers d).lookup "code".toList = some (.text d.code.name) := rfl
  simp only [Diagnostic.ofMembers?, Diagnostic.ofMembers?.text?, named, Option.bind_eq_bind,
    Option.bind_some, Code.ofName_name, Except.toOption, Diagnostic.withoutEmpty_eq]
  simp only [jsonMembers, content_of_whole whole]
  cases d.position <;> cases d.namedOperation <;> cases d.givenHint <;> rfl

theorem jsonMembers_eq_iff {f g : Formatter} (whole : f.shorten = false) (uncut : g.shorten = false)
    (d e : Diagnostic) :
    f.jsonMembers d = g.jsonMembers e ↔ d.withoutEmpty = e.withoutEmpty := by
  constructor
  · intro same
    have read := congrArg Diagnostic.ofMembers? same
    rw [ofMembers?_jsonMembers whole, ofMembers?_jsonMembers uncut] at read
    exact Option.some.inj read
  · intro same
    rw [← jsonMembers_withoutEmpty f d, same, ← jsonMembers_withoutEmpty g e]
    simp only [jsonMembers, content_of_whole whole, content_of_whole uncut]

/-- What is read back from the JSON layout, and that it tells diagnostics apart:
a position is left out only where there is none, zero and negative ones are kept;
an operation or a hint is left out where it is missing or empty. -/
theorem json_lossless (f g : Formatter) (d e : Diagnostic) :
    (∃ members, readObject? (format { f with layout := .json } d) = some members ∧
      (members.map Prod.fst).Nodup ∧
      members =
        [("code".toList, .text d.code.name), ("code_value".toList, .number d.code.number),
          ("message".toList, .text (f.content d.message)),
          ("severity".toList, .text d.severity)] ++
        (match d.position with
          | some position => [("position".toList, .number position)]
          | none => []) ++
        (match d.operation with
          | some (c :: rest) => [("operation".toList, .text (c :: rest))]
          | _ => []) ++
        (match d.hint with
          | some (c :: rest) => [("hint".toList, .text (f.content (c :: rest)))]
          | _ => [])) ∧
    (format { f with layout := .json, shorten := false } d =
        format { g with layout := .json, shorten := false } e ↔
      d.withoutEmpty = e.withoutEmpty) := by
  constructor
  · refine ⟨f.jsonMembers d, readObject?_object _, nodup_names f d, ?_⟩
    unfold jsonMembers Diagnostic.namedOperation Diagnostic.givenHint
    rw [Diagnostic.toList_filter_nonempty, Diagnostic.toList_filter_nonempty]
    cases d.position <;> rfl
  · have members_iff := jsonMembers_eq_iff (f := { f with layout := .json, shorten := false })
      (g := { g with layout := .json, shorten := false }) rfl rfl d e
    rw [← members_iff]
    exact ⟨object_injective, congrArg object⟩

end Formatter
end TextCursor
