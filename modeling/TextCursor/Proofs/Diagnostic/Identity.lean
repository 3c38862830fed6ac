import TextCursor.Diagnostic.Rejection
import TextCursor.Proofs.Value.Readability

/-! What was rejected, told by the diagnostic alone. -/
namespace TextCursor.Rejection

open Text

variable {r s : Rejection}

theorem diagnostic_inj (plain : ∀ v ∈ r.target?, v.IsPlain) (plain' : ∀ w ∈ s.target?, w.IsPlain)
    (same : r.diagnostic = s.diagnostic) : r = s := by
  have codes : r.code = s.code := congrArg Diagnostic.code same
  have messages : r.message = s.message := congrArg Diagnostic.message same
  have positions : r.position = s.position := congrArg Diagnostic.position same
  have hints : r.hint = s.hint := Option.some.inj (congrArg Diagnostic.hint same)
  have operations : r.operation = s.operation :=
    Option.some.inj (congrArg Diagnostic.operation same)
  cases r with
  | invalidTarget operation v =>
    cases s
    case invalidTarget other w =>
      cases operations
      have literals : v.literal = w.literal := List.append_cancel_left messages
      rw [(Value.literal_inj (plain v rfl) (plain' w rfl)).mp literals]
    all_goals cases codes
  | startBeforeZero operation position =>
    cases s
    case startBeforeZero =>
      cases operations
      cases positions
      rfl
    case endAfterLength => exact absurd (List.cons.inj messages).1 (by decide)
    all_goals cases codes
  | endAfterLength operation position length =>
    cases s
    case endAfterLength other position' length' =>
      cases operations
      cases positions
      have lengths : length = length' := ofInt_injective (List.append_cancel_left hints)
      rw [lengths]
    case startBeforeZero => exact absurd (List.cons.inj messages).1 (by decide)
    all_goals cases codes
  | startAfterEnd start stop =>
    cases s
    case startAfterEnd start' stop' =>
      cases positions
      have stops : stop = stop' :=
        ofInt_injective (List.append_cancel_left (List.append_cancel_right messages))
      rw [stops]
    all_goals cases codes

/-- Rejections of plain targets and of any positions are told apart by their diagnostics, and the
targets also by their literals alone. -/
theorem diagnostic_identifies (plain : ∀ v ∈ r.target?, v.IsPlain)
    (plain' : ∀ w ∈ s.target?, w.IsPlain) :
    (r.diagnostic = s.diagnostic ↔ r = s) ∧
      ∀ v ∈ r.target?, ∀ w ∈ s.target?, (v.literal = w.literal ↔ v = w) := by
  apply And.intro
  · apply Iff.intro
    · exact diagnostic_inj plain plain'
    · intro equal
      rw [equal]
  · intro v target w target'
    exact Value.literal_inj (plain v target) (plain' w target')

/-- A one-element tuple or list as the value of a key, below a list that also holds a buffer. -/
theorem diagnostic_identifies_tuple_or_list :
    let entry (inner : Value) : Value := .mapping [(.bytes .constant [0x27], inner)]
    let target (inner : Value) : Value := .items .list [.bytes .buffer [0x27, 0x0a], entry inner]
    let one := target (.items .tuple [.text ['"', '\\']])
    let other := target (.items .list [.text ['"', '\\']])
    (invalidTarget "find_next".toList one).diagnostic ≠
        (invalidTarget "find_next".toList other).diagnostic ∧
      one.literal ≠ other.literal := by
  intro entry target one other
  have plain {inner : Value} (simple : inner.IsPlain) : (target inner).IsPlain := by
    apply Value.IsPlain.list
    simp only [List.forall_mem_cons]
    refine ⟨.buffer _, ?_, nofun⟩
    apply Value.IsPlain.mapping
    · exact List.forall_mem_singleton.mpr (.constant _)
    · exact List.forall_mem_singleton.mpr simple
  have text : ∀ v ∈ [Value.text ['"', '\\']], v.IsPlain :=
    List.forall_mem_singleton.mpr (.text _)
  have unequal : one ≠ other := by
    simp only [one, other, target, entry]
    nofun
  have identified := diagnostic_identifies (r := invalidTarget "find_next".toList one)
    (s := invalidTarget "find_next".toList other)
    (fun v given => Option.some.inj given ▸ plain (.tuple text))
    (fun w given => Option.some.inj given ▸ plain (.list text))
  apply And.intro
  · intro same
    exact unequal (invalidTarget.inj (identified.1.mp same)).2
  · intro same
    exact unequal ((identified.2 one rfl other rfl).mp same)

end TextCursor.Rejection
