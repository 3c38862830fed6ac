import TextCursor.Proofs.Cursor.Refusal

/-! Targets that are accepted are read as the codes of just the characters they stand for. -/
namespace TextCursor

namespace Value

theorem denotes_iff {target : Value} {c : Char} :
    target.Denotes c ↔ target.code? = some (c.toNat : Int) := by
  constructor
  · intro denoted
    cases denoted with
    | char | code => rfl
  · intro read
    unfold code? at read
    split at read
    case h_1 d =>
      have same : d.toNat = c.toNat := Int.ofNat.inj (Option.some.inj read)
      rw [Char.toNat_inj.mp same]
      exact .char c
    case h_2 n =>
      rw [Option.some.inj read]
      exact .code c
    case h_3 => cases read

theorem denotes_text_iff {c d : Char} : (text [c]).Denotes d ↔ d = c := by
  rw [denotes_iff, code?, Option.some.injEq, Int.natCast_inj, Char.toNat_inj, eq_comm]

theorem covers_text_iff {s : Text} {c : Char} : (text s).Covers c ↔ c ∈ s := by
  constructor
  · intro covered
    cases covered with
    | text member => exact member
    | member visited => cases visited
  · exact .text

theorem singles_of_elements {targets : Value} {elements : List Value}
    (visited : targets.elements? = some elements) : targets.singles = elements := by
  cases targets with
  | text | int | bool | null | float => cases visited
  | bytes | items | mapping => cases visited; rfl

/-- A group covers what its targets denote. -/
theorem covers_iff {targets : Value} {c : Char} :
    targets.Covers c ↔ ∃ target ∈ targets.singles, target.Denotes c := by
  cases visited : targets.elements? with
  | some elements =>
    rw [singles_of_elements visited]
    constructor
    · intro covered
      cases covered with
      | text | code => cases visited
      | member visited' member denoted =>
        cases visited.symm.trans visited'
        exact ⟨_, member, denoted⟩
    · intro found
      obtain ⟨target, member, denoted⟩ := found
      exact .member visited member denoted
  | none =>
    cases targets with
    | bytes | items | mapping => cases visited
    | bool | null | float =>
      refine ⟨fun covered => ?_, nofun⟩
      cases covered with
      | member visited' => cases visited'
    | text s => simp [covers_text_iff, singles, denotes_text_iff]
    | int n =>
      simp only [singles, List.mem_singleton, exists_eq_left]
      constructor
      · intro covered
        cases covered with
        | code => exact .code c
        | member visited' => cases visited'
      · intro denoted
        cases denoted with
        | code => exact .code c

end Value

namespace Cursor

variable {operation : Text} {target targets : Value} {code : Int} {codes : List Int}

theorem exists_memberCodes_iff (operation : Text) :
    (∃ codes, memberCodes operation targets = .ok codes) ↔
      ∀ refused, ¬targets.RefusedFor refused := by
  constructor
  · intro read refused bad
    obtain ⟨codes, read⟩ := read
    cases read.symm.trans (memberCodes_eq_error_iff.mpr ⟨refused, bad, rfl⟩)
  · intro valid
    cases read : memberCodes operation targets with
    | ok codes => exact ⟨codes, rfl⟩
    | error rejected =>
      obtain ⟨refused, bad, _⟩ := memberCodes_eq_error_iff.mp read
      exact absurd bad (valid refused)

theorem targetCode_eq_ok_iff :
    targetCode operation target = .ok code ↔ target.code? = some code := by
  rw [targetCode]
  cases target.code? with
  | none => simp
  | some other => simp

theorem isAmong_singleton (read : targetCode operation target = .ok code) (c : Char) :
    isAmong [code] c ↔ target.Denotes c := by
  rw [Value.denotes_iff, targetCode_eq_ok_iff.mp read, Option.some.injEq]
  simp [isAmong, eq_comm]

theorem isAmong_of_forall₂ {elements : List Value}
    (read : List.Forall₂ (fun target code => targetCode operation target = .ok code) elements codes)
    (c : Char) : isAmong codes c ↔ ∃ target ∈ elements, target.Denotes c := by
  induction read with
  | nil => simp [isAmong]
  | cons first _ ih =>
    simp only [List.mem_cons, exists_eq_or_imp, ← ih, ← isAmong_singleton first]
    simp [isAmong]

theorem forall₂_singles (read : memberCodes operation targets = .ok codes) :
    List.Forall₂ (fun target code => targetCode operation target = .ok code) targets.singles
      codes := by
  cases visited : targets.elements? with
  | some elements =>
    rw [Value.singles_of_elements visited]
    exact forall₂_of_mapM ((memberCodes_of_elements operation visited).symm.trans read)
  | none =>
    cases targets with
    | bytes | items | mapping => cases visited
    | bool | null | float => cases read
    | int n =>
      cases read
      exact .cons rfl .nil
    | text s =>
      cases read
      simp [Value.singles, targetCode, Value.code?, List.forall₂_same]

theorem isAmong_of_memberCodes (read : memberCodes operation targets = .ok codes) (c : Char) :
    isAmong codes c ↔ targets.Covers c := by
  rw [isAmong_of_forall₂ (forall₂_singles read), Value.covers_iff]

theorem exists_targetCode (valid : target.IsTarget) (operation : Text) :
    ∃ code, targetCode operation target = .ok code ∧ ∀ c, isAmong [code] c ↔ target.Denotes c := by
  obtain ⟨code, read⟩ := (exists_targetCode_iff operation target).mpr valid
  exact ⟨code, read, isAmong_singleton read⟩

theorem exists_groupCodes (valid : ∀ refused, ¬targets.RefusedFor refused) (operation : Text) :
    ∃ codes, groupCodes operation targets = .ok codes ∧
      ∀ c, isAmong codes c ↔ targets.Covers c := by
  obtain ⟨codes, read⟩ := (exists_memberCodes_iff operation).mpr valid
  refine ⟨codes.eraseDups, ?_, fun c => ?_⟩
  · rw [groupCodes, read]
    rfl
  · rw [← isAmong_of_memberCodes read c]
    simp [isAmong]

end Cursor

namespace Value

theorem isTarget_of_mem_singles {targets : Value} (valid : ∀ refused, ¬targets.RefusedFor refused) :
    ∀ target ∈ targets.singles, target.IsTarget := by
  obtain ⟨codes, read⟩ := (Cursor.exists_memberCodes_iff []).mpr valid
  apply And.left
  apply (List.forall₂_and_left _ _).mp
  apply (Cursor.forall₂_singles read).imp
  intro target code accepted
  exact ⟨(Cursor.exists_targetCode_iff [] target).mp ⟨code, accepted⟩, accepted⟩

theorem not_refusedFor_text (s : Text) : ∀ refused, ¬(text s).RefusedFor refused :=
  (Cursor.exists_memberCodes_iff []).mp ⟨_, rfl⟩

end Value

end TextCursor
