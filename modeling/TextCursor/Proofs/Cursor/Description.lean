import TextCursor.Proofs.Cursor.Run
import TextCursor.Proofs.Text.Printable
import TextCursor.Proofs.Text.Slice
import TextCursor.Proofs.Text.Unquoted

/-! Descriptions. One tells the position, the length and the text near the position, in a literal
that reads back as that text with a bar at the position, and nothing else. -/
namespace TextCursor.Cursor

open Text

variable {c d : Cursor}

theorem context_eq (placed : c.WellPlaced) :
    c.context = c.text.slice (c.position - 10) c.position ++
      '|' :: c.text.slice c.position (min c.length (c.position + 10)) := by
  rw [placed.length_eq, slice_min_length]
  rfl

theorem window_eq (placed : c.WellPlaced) :
    c.window = c.text.slice (c.position - 10) c.position ++
      c.text.slice c.position (min c.length (c.position + 10)) := by
  have inside := placed.position_le
  exact (slice_append_slice (Nat.sub_le _ _) (by omega)).symm

theorem length_before (placed : c.WellPlaced) :
    (c.text.slice (c.position - 10) c.position).length = min c.position 10 := by
  have inside := placed.position_le
  rw [placed.length_eq] at inside
  rw [length_slice inside]
  omega

theorem length_after (placed : c.WellPlaced) :
    (c.text.slice c.position (min c.length (c.position + 10))).length ≤ 10 := by
  have sized := placed.length_eq
  rw [length_slice (by omega)]
  omega

theorem length_context_le (placed : c.WellPlaced) : c.context.length ≤ 21 := by
  have before := length_before placed
  have after := length_after placed
  rw [context_eq placed, List.length_append, List.length_cons]
  omega

theorem getElem?_context (placed : c.WellPlaced) : c.context[min c.position 10]? = some '|' := by
  rw [context_eq placed, ← length_before placed, List.getElem?_append_right (Nat.le_refl _),
    Nat.sub_self, List.getElem?_cons_zero]

/-- Where the bar stands is known from the position, so that it may occur in the text as well. -/
theorem context_eq_context_iff (placed : c.WellPlaced) (placed' : d.WellPlaced)
    (there : c.position = d.position) : c.context = d.context ↔ c.window = d.window := by
  have lengths : (c.text.slice (c.position - 10) c.position).length =
      (d.text.slice (d.position - 10) d.position).length := by
    rw [length_before placed, length_before placed', there]
  rw [context_eq placed, context_eq placed', window_eq placed, window_eq placed']
  constructor
  · intro same
    obtain ⟨before, after⟩ := List.append_inj same lengths
    rw [before, (List.cons.inj after).2]
  · intro same
    obtain ⟨before, after⟩ := List.append_inj same lengths
    rw [before, after]

/-- A number is told from the label behind it by the comma. -/
theorem labelled_inj {n m : Nat} {label x y : Text} (separates : label.head? = some ',')
    (same : ofNat n ++ (label ++ x) = ofNat m ++ (label ++ y)) : n = m ∧ x = y := by
  have apart (rest : Text) : ∀ char ∈ (label ++ rest).head?, ¬isNumeric char := by
    intro char first
    rw [List.head?_append, separates] at first
    cases first
    decide
  obtain ⟨numbers, rest⟩ := ofInt_append_inj (n := n) (m := m) (apart x) (apart y) same
  exact ⟨Int.ofNat.inj numbers, List.append_cancel_left rest⟩

theorem described_inj {n n' m m' : Nat} {opening label label' closing s t : Text}
    (separates : label.head? = some ',') (separates' : label'.head? = some ',')
    (same : opening ++ ofNat n ++ label ++ ofNat m ++ label' ++ s.quote ++ closing =
      opening ++ ofNat n' ++ label ++ ofNat m' ++ label' ++ t.quote ++ closing) :
    n = n' ∧ m = m' ∧ s = t := by
  simp only [List.append_assoc] at same
  obtain ⟨first, rest⟩ := labelled_inj separates (List.append_cancel_left same)
  obtain ⟨second, literals⟩ := labelled_inj separates' rest
  exact ⟨first, second, (quote_append_inj literals).1⟩

theorem describe_eq_describe_iff (placed : c.WellPlaced) (placed' : d.WellPlaced) :
    c.describe = d.describe ↔
      c.position = d.position ∧ c.length = d.length ∧ c.window = d.window := by
  constructor
  · intro same
    obtain ⟨there, sized, shown⟩ := described_inj rfl rfl same
    exact ⟨there, sized, (context_eq_context_iff placed placed' there).mp shown⟩
  · rintro ⟨there, sized, near⟩
    have shown := (context_eq_context_iff placed placed' there).mpr near
    unfold describe
    rw [there, sized, shown]

/-- A description has the position, the length and a literal of which every character can be
shown. The literal reads as the text up to ten characters before the position and after it, with
a bar in between that is found by its place. So descriptions are the same just for cursors that
agree on all of this. -/
theorem describe_of_run {data data' : Value} {unifyBreaks unifyBreaks' : Bool}
    {made made' : Created} (accepted : create data unifyBreaks = .ok made)
    (accepted' : create data' unifyBreaks' = .ok made') (requests requests' : List Request) :
    let c := made.cursor.run requests
    let d := made'.cursor.run requests'
    (∃ literal shown : Text,
      c.perform .describe =
        .ok (.text ("StringWalker(position=".toList ++ Nat.toDigits 10 c.position ++
          ", length=".toList ++ Nat.toDigits 10 c.length ++ ", near=".toList ++ literal ++
          [')']), c) ∧
      literal.IsShown ∧ literal.unquote? = some shown ∧
      shown = c.text.slice (c.position - 10) c.position ++
        '|' :: c.text.slice c.position (min c.length (c.position + 10)) ∧
      shown.length ≤ 21 ∧ shown[min c.position 10]? = some '|') ∧
    ((∃ answer, c.perform .describe = .ok (answer, c) ∧ d.perform .describe = .ok (answer, d)) ↔
      c.position = d.position ∧ c.length = d.length ∧ c.window = d.window) := by
  intro c d
  have placed : c.WellPlaced := wellPlaced_of_run accepted requests
  have placed' : d.WellPlaced := wellPlaced_of_run accepted' requests'
  constructor
  · exact ⟨c.context.quote, c.context, rfl, isShown_quote _, unquote?_quote _, context_eq placed,
      length_context_le placed, getElem?_context placed⟩
  · rw [← describe_eq_describe_iff placed placed']
    constructor
    · rintro ⟨answer, described, described'⟩
      have said : Answer.text c.describe = answer := congrArg Prod.fst (Except.ok.inj described)
      have said' : Answer.text d.describe = answer := congrArg Prod.fst (Except.ok.inj described')
      exact Answer.text.inj (said.trans said'.symm)
    · intro same
      refine ⟨.text c.describe, rfl, ?_⟩
      rw [same]
      rfl

/-- A bar in the text before the bar at the position, and behind it what has to be guarded in the
literal. A letter in place of the first bar is told from it. -/
theorem describe_of_run_near_bar :
    create (.text ['|', apostrophe, doubleQuote]) false =
      .ok ⟨ofText ['|', apostrophe, doubleQuote], [.created 3]⟩ ∧
    create (.text ['a', apostrophe, doubleQuote]) false =
      .ok ⟨ofText ['a', apostrophe, doubleQuote], [.created 3]⟩ ∧
    (∃ literal answer : Text, literal.unquote? = some ['|', '|', apostrophe, doubleQuote] ∧
      answer = "StringWalker(position=".toList ++ Nat.toDigits 10 1 ++ ", length=".toList ++
        Nat.toDigits 10 3 ++ ", near=".toList ++ literal ++ [')'] ∧
      ((ofText ['|', apostrophe, doubleQuote]).run [.next .code]).perform .describe =
        .ok (.text answer, ⟨['|', apostrophe, doubleQuote], 3, 1⟩)) ∧
    ¬∃ answer, ((ofText ['|', apostrophe, doubleQuote]).run [.next .code]).perform .describe =
        .ok (answer, (ofText ['|', apostrophe, doubleQuote]).run [.next .code]) ∧
      ((ofText ['a', apostrophe, doubleQuote]).run [.next .char]).perform .describe =
        .ok (answer, (ofText ['a', apostrophe, doubleQuote]).run [.next .char]) := by
  have accepted : create (.text ['|', apostrophe, doubleQuote]) false =
      .ok ⟨ofText ['|', apostrophe, doubleQuote], [.created 3]⟩ := rfl
  have accepted' : create (.text ['a', apostrophe, doubleQuote]) false =
      .ok ⟨ofText ['a', apostrophe, doubleQuote], [.created 3]⟩ := rfl
  obtain ⟨⟨literal, shown, described, _, read, near, _⟩, alike⟩ :=
    describe_of_run accepted accepted' [.next .code] [.next .char]
  have text : shown = ['|', '|', apostrophe, doubleQuote] := near
  have apart : window ((ofText ['|', apostrophe, doubleQuote]).run [.next .code]) ≠
      window ((ofText ['a', apostrophe, doubleQuote]).run [.next .char]) := by decide
  rw [text] at read
  refine ⟨accepted, accepted', ⟨literal, _, read, rfl, described⟩, fun same => ?_⟩
  exact apart (alike.mp same).2.2

end TextCursor.Cursor
