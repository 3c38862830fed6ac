import TextCursor.Proofs.Cursor.Run

/-! Single steps. Each answers the next character and goes there, and so they tell the rest of
the text in order, whichever way it is asked for. At the end they neither move nor answer. -/
namespace TextCursor.Cursor

variable {c : Cursor}

theorem current?_eq (sized : c.length = c.text.length) :
    c.current? = c.text[c.position]? :=
  charAt?_natCast sized c.position

theorem perform_next_of_lt (inside : c.position < c.length) (form : Form) :
    c.perform (.next form) =
      .ok (form.answer (current? { c with position := c.position + 1 }),
        { c with position := c.position + 1 }) := by
  have running : ¬c.atEnd := by simpa [atEnd] using inside
  rw [perform, next, if_neg running]

theorem perform_next_of_le (ended : c.length ≤ c.position) (form : Form) :
    c.perform (.next form) = .ok (.missing, c) := by
  have stopped : c.atEnd := by simpa [atEnd] using ended
  rw [perform, next, if_pos stopped]
  rfl

/-- One step from any offset, where those beyond the end stand for the end. -/
theorem step_next (sized : c.length = c.text.length) (offset : Nat) (form : Form) :
    step { c with position := min offset c.length } (.next form) =
      (.ok (form.answer c.text[offset + 1]?),
        { c with position := min (offset + 1) c.length }) := by
  rcases Nat.lt_or_ge offset c.length with inside | ended
  · rw [Nat.min_eq_left (Nat.le_of_lt inside), Nat.min_eq_left (Nat.succ_le_of_lt inside)]
    have arrived : current? { c with position := offset + 1 } = c.text[offset + 1]? :=
      current?_eq sized
    rw [← arrived]
    exact step_of_ok (perform_next_of_lt inside form)
  · have absent : c.text[offset + 1]? = none := List.getElem?_eq_none (by omega)
    rw [Nat.min_eq_right ended, Nat.min_eq_right (Nat.le_succ_of_le ended), absent]
    apply step_of_ok
    rw [perform_next_of_le (Nat.le_refl _)]
    cases form <;> rfl

theorem run_next (sized : c.length = c.text.length) (offset : Nat) (forms : List Form) :
    run { c with position := min offset c.length } (forms.map .next) =
      { c with position := min (offset + forms.length) c.length } := by
  induction forms generalizing offset with
  | nil => rfl
  | cons form forms ih =>
    rw [List.map_cons, run_cons, step_next sized, ih, List.length_cons, Nat.add_right_comm,
      Nat.add_assoc]

theorem trace_next (sized : c.length = c.text.length) (offset : Nat) (forms : List Form) :
    trace { c with position := min offset c.length } (forms.map .next) =
      forms.mapIdx fun index form =>
        ⟨.ok (form.answer c.text[offset + index + 1]?), min (offset + index + 1) c.length⟩ := by
  induction forms generalizing offset with
  | nil => rfl
  | cons form forms ih =>
    rw [List.map_cons, trace_cons, step_next sized, ih, List.mapIdx_cons]
    simp only [Nat.add_assoc, Nat.add_comm 1, Nat.zero_add]

/-- The characters that are left are told first, and then nothing. -/
theorem outcome_trace_next (sized : c.length = c.text.length) (offset : Nat)
    (forms : List Form) :
    (trace { c with position := min offset c.length } (forms.map .next)).map Step.outcome =
      List.zipWith (fun form char => .ok (form.answer (some char))) forms
          (c.text.drop (offset + 1)) ++
        List.replicate (forms.length - (c.length - (offset + 1))) (.ok .missing) := by
  induction forms generalizing offset with
  | nil => simp [trace]
  | cons form forms ih =>
    rw [List.map_cons, trace_cons, step_next sized, List.map_cons, ih, List.length_cons]
    rcases Nat.lt_or_ge (offset + 1) c.text.length with inside | ended
    · have more : forms.length + 1 - (c.length - (offset + 1)) =
          forms.length - (c.length - (offset + 1 + 1)) := by omega
      rw [List.drop_eq_getElem_cons inside, List.getElem?_eq_getElem inside, more]
      rfl
    · have none : c.text[offset + 1]? = none := List.getElem?_eq_none ended
      have spent : c.length - (offset + 1) = 0 := by omega
      have spent' : c.length - (offset + 1 + 1) = 0 := by omega
      rw [List.drop_eq_nil_of_le ended, List.drop_eq_nil_of_le (by omega), none, spent, spent']
      cases form <;> simp [Form.answer, List.replicate_succ]

theorem answer_eq_missing_iff {form : Form} {found : Option Char} :
    form.answer found = .missing ↔ found = none := by
  cases found with
  | none => cases form <;> simp [Form.answer]
  | some char => cases form <;> simp [Form.answer]

theorem perform_moveBy_natCast {distance : Nat} (inside : c.position + distance ≤ c.length) :
    c.perform (.moveBy distance) =
      .ok (.moved, { c with position := c.position + distance }) :=
  perform_moveBy_of_le (Int.natCast_nonneg (c.position + distance)) (Int.ofNat_le.mpr inside)

/-- Steps in either form tell the characters behind the cursor one by one, each once, and
after the last of them nothing any more. They lead where a single move over as many
characters leads, or over all that are left. -/
theorem steps_of_run {data : Value} {unifyBreaks : Bool} {made : Created}
    (accepted : create data unifyBreaks = .ok made) (requests : List Request)
    (forms : List Form) :
    let start := made.cursor.run requests
    let steps := start.trace (forms.map .next)
    let after := start.run (forms.map .next)
    (steps = forms.mapIdx fun index form =>
      ⟨.ok (form.answer start.text[start.position + index + 1]?),
        min (start.position + index + 1) start.length⟩) ∧
    after = { start with position := min (start.position + forms.length) start.length } ∧
    start.perform (.moveBy (min forms.length (start.length - start.position) : Nat)) =
      .ok (.moved, after) ∧
    steps.map Step.outcome =
      List.zipWith (fun form char => .ok (form.answer (some char))) forms
          (start.text.drop (start.position + 1)) ++
        List.replicate (forms.length - (start.length - (start.position + 1))) (.ok .missing) ∧
    ∀ (index later : Nat) (ended step : Step), index ≤ later → steps[index]? = some ended →
      steps[later]? = some step → ended.outcome = .ok .missing →
      step = ⟨.ok .missing, start.length⟩ := by
  intro start steps after
  have placed : start.WellPlaced := wellPlaced_of_run accepted requests
  have sized := placed.length_eq
  have begun : { start with position := min start.position start.length } = start := by
    rw [Nat.min_eq_left placed.position_le]
  have traced := trace_next sized start.position forms
  have told := outcome_trace_next sized start.position forms
  have led := run_next sized start.position forms
  rw [begun] at traced told led
  change steps = _ at traced
  refine ⟨traced, led, ?_, told, ?_⟩
  · have inside := placed.position_le
    have landed : start.position + min forms.length (start.length - start.position) =
        min (start.position + forms.length) start.length := by omega
    rw [perform_moveBy_natCast (by omega), landed, ← led]
  · intro index later ended step ordered reached reached' missed
    rw [traced, List.getElem?_mapIdx, Option.map_eq_some_iff] at reached reached'
    obtain ⟨form, _, rfl⟩ := reached
    obtain ⟨form', _, rfl⟩ := reached'
    have absent : start.text[start.position + index + 1]? = none :=
      answer_eq_missing_iff.mp (Except.ok.inj missed)
    have beyond := List.getElem?_eq_none_iff.mp absent
    have absent' : start.text[start.position + later + 1]? = none :=
      List.getElem?_eq_none (by omega)
    have final : min (start.position + later + 1) start.length = start.length := by omega
    rw [absent', final, answer_eq_missing_iff.mpr rfl]

/-- From the second of three characters: the step to the end answers nothing but moves, the next
one does neither, and a move by the two characters that are left leads to the same place. -/
theorem steps_of_run_over_end :
    create (.text ['a', 'b', 'é']) false = .ok ⟨ofText ['a', 'b', 'é'], [.created 3]⟩ ∧
    ((ofText ['a', 'b', 'é']).run [.next .code]).trace [.next .char, .next .code, .next .char] =
      [⟨.ok (.text ['é']), 2⟩, ⟨.ok .missing, 3⟩, ⟨.ok .missing, 3⟩] ∧
    ((ofText ['a', 'b', 'é']).run [.next .code]).perform (.moveBy 2) =
      .ok (.moved, ⟨['a', 'b', 'é'], 3, 3⟩) := by
  have accepted : create (.text ['a', 'b', 'é']) false =
      .ok ⟨ofText ['a', 'b', 'é'], [.created 3]⟩ := rfl
  obtain ⟨traced, _, moved, _⟩ := steps_of_run accepted [.next .code] [.char, .code, .char]
  exact ⟨accepted, traced, moved⟩

end TextCursor.Cursor
