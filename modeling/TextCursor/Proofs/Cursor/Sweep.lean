import TextCursor.Proofs.Cursor.Search

/-! A sweep visits every occurrence ahead of the cursor once, from left to right, and
comes to an end. -/
namespace TextCursor.Cursor

theorem Sweeps.unique {search : Request} {c : Cursor} {visited others : List Nat}
    {outcome another : Except Failure Cursor} (first : Sweeps search c visited outcome)
    (second : Sweeps search c others another) : visited = others ∧ outcome = another := by
  induction first generalizing others another with
  | unsearched failed =>
    cases second with
    | unsearched failed' =>
      cases failed.symm.trans failed'
      exact ⟨rfl, rfl⟩
    | exhausted missed | stuck missed | moved missed => cases failed.symm.trans missed
  | exhausted missed =>
    cases second with
    | exhausted missed' =>
      cases missed.symm.trans missed'
      exact ⟨rfl, rfl⟩
    | unsearched found | stuck found | moved found => cases missed.symm.trans found
  | stuck found failed =>
    cases second with
    | stuck found' failed' =>
      cases found.symm.trans found'
      cases failed.symm.trans failed'
      exact ⟨rfl, rfl⟩
    | moved found' moved =>
      cases found.symm.trans found'
      cases failed.symm.trans moved
    | unsearched missed | exhausted missed => cases found.symm.trans missed
  | moved found moved rest ih =>
    cases second with
    | moved found' moved' rest' =>
      cases found.symm.trans found'
      cases moved.symm.trans moved'
      obtain ⟨rfl, rfl⟩ := ih rest'
      exact ⟨rfl, rfl⟩
    | stuck found' failed =>
      cases found.symm.trans found'
      cases moved.symm.trans failed
    | unsearched missed | exhausted missed => cases found.symm.trans missed

variable {c : Cursor} {sought : Char → Prop}

theorem OccursAhead.lt_length {index : Nat} (occurs : c.OccursAhead sought index) :
    index < c.text.length := by
  obtain ⟨_, _, there, _⟩ := occurs
  exact (List.getElem?_eq_some_iff.mp there).1

/-- One round: from the first occurrence the others are ahead as before. -/
theorem occursAhead_iff_of_first {index : Nat} (occurs : c.OccursAhead sought index)
    (first : ∀ before < index, ¬c.OccursAhead sought before) (other : Nat) :
    c.OccursAhead sought other ↔
      other = index ∨ OccursAhead { c with position := index } sought other := by
  constructor
  · intro occurs'
    rcases Nat.lt_trichotomy other index with earlier | same | later
    · exact absurd occurs' (first other earlier)
    · exact .inl same
    · exact .inr ⟨later, occurs'.2⟩
  · rintro (rfl | ⟨later, found⟩)
    · exact occurs
    · exact ⟨Nat.lt_trans occurs.1 later, found⟩

theorem perform_moveTo_natCast {target : Nat} (inside : target ≤ c.length) :
    c.perform (.moveTo target) = .ok (.moved, { c with position := target }) :=
  perform_moveTo_of_le (Int.natCast_nonneg target) (Int.ofNat_le.mpr inside)

/-- The whole run. What is left to search gets shorter with each round, because the
search starts behind the cursor. -/
theorem exists_sweeps {search : Request} (seeks : search.Seeks sought)
    (sized : c.length = c.text.length) :
    ∃ visited, Sweeps search c visited
        (.ok { c with position := visited.getLastD c.position }) ∧
      visited.Pairwise (· < ·) ∧ ∀ index, index ∈ visited ↔ c.OccursAhead sought index := by
  induction left : c.length - c.position using Nat.strongRecOn generalizing c with
  | ind left ih =>
    subst left
    rcases perform_cases_of_seeks seeks c with ⟨missed, absent⟩ | ⟨index, found, occurs, first⟩
    · refine ⟨[], .exhausted missed, .nil, fun index => ?_⟩
      simp [absent index]
    · have inside := sized ▸ occurs.lt_length
      have ahead := occurs.1
      obtain ⟨later, rest, increasing, visits⟩ :=
        ih (c.length - index) (by omega) (c := { c with position := index }) sized rfl
      refine ⟨index :: later, ?_, ?_, fun other => ?_⟩
      · rw [List.getLastD_cons]
        exact .moved found (perform_moveTo_natCast (Nat.le_of_lt inside)) rest
      · apply List.pairwise_cons.mpr
        exact ⟨fun other member => ((visits other).mp member).1, increasing⟩
      · rw [List.mem_cons, visits, occursAhead_iff_of_first occurs first]

/-- Searching and moving to what was found ends, without a failure, when each occurrence
ahead has been visited once and in order, and leaves the cursor at the last of them. -/
theorem sweeps_iff_of_run {data : Value} {unifyBreaks : Bool} {made : Created}
    (accepted : create data unifyBreaks = .ok made) (requests : List Request)
    {search : Request} (seeks : search.Seeks sought) :
    let start := made.cursor.run requests
    ∃ visited, visited.Pairwise (· < ·) ∧
      (∀ index, index ∈ visited ↔ start.position < index ∧ index < start.length ∧
        ∃ char, start.text[index]? = some char ∧ sought char) ∧
      ∀ recorded outcome, Sweeps search start recorded outcome ↔
        recorded = visited ∧
          outcome = .ok { start with position := visited.getLastD start.position } := by
  intro start
  have placed := (follows_run made.cursor requests).wellPlaced (wellPlaced_of_create accepted)
  obtain ⟨visited, sweeps, increasing, visits⟩ := exists_sweeps seeks placed.length_eq
  refine ⟨visited, increasing, fun index => ?_, fun recorded outcome => ?_⟩
  · rw [visits]
    constructor
    · intro occurs
      exact ⟨occurs.1, placed.length_eq ▸ occurs.lt_length, occurs.2⟩
    · rintro ⟨ahead, _, found⟩
      exact ⟨ahead, found⟩
  · constructor
    · exact fun other => other.unique sweeps
    · rintro ⟨rfl, rfl⟩
      exact sweeps

/-- From the first comma on, over a group of a character, a code and a code of no character. -/
theorem sweeps_iff_of_run_over_mixed_group :
    create (.text ['a', ',', 'b', ';', ',', 'c']) false =
      .ok ⟨ofText ['a', ',', 'b', ';', ',', 'c'], [.created 6]⟩ ∧
    Request.Seeks (.findNextOf (.items .list [.text [','], .int 59, .int (-1)]))
      (Value.items .list [.text [','], .int 59, .int (-1)]).Covers ∧
    ∀ recorded outcome,
      Sweeps (.findNextOf (.items .list [.text [','], .int 59, .int (-1)]))
          ((ofText ['a', ',', 'b', ';', ',', 'c']).run [.moveTo 1]) recorded outcome ↔
        recorded = [3, 4] ∧ outcome = .ok ⟨['a', ',', 'b', ';', ',', 'c'], 6, 4⟩ := by
  have accepted : create (.text ['a', ',', 'b', ';', ',', 'c']) false =
      .ok ⟨ofText ['a', ',', 'b', ';', ',', 'c'], [.created 6]⟩ := rfl
  have read : memberCodes "find_next_of".toList
      (.items .list [.text [','], .int 59, .int (-1)]) = .ok [44, 59, -1] := rfl
  have seeks : Request.Seeks (.findNextOf (.items .list [.text [','], .int 59, .int (-1)]))
      (Value.items .list [.text [','], .int 59, .int (-1)]).Covers :=
    .group ((exists_memberCodes_iff _).mp ⟨_, read⟩)
  refine ⟨accepted, seeks, ?_⟩
  obtain ⟨visited, _, _, exactly⟩ := sweeps_iff_of_run accepted [.moveTo 1] seeks
  have sweeps : Sweeps (.findNextOf (.items .list [.text [','], .int 59, .int (-1)]))
      ((ofText ['a', ',', 'b', ';', ',', 'c']).run [.moveTo 1]) [3, 4]
      (.ok ⟨['a', ',', 'b', ';', ',', 'c'], 6, 4⟩) :=
    .moved rfl rfl (.moved rfl rfl (.exhausted rfl))
  obtain ⟨rfl, _⟩ := (exactly _ _).mp sweeps
  exact exactly

end TextCursor.Cursor
