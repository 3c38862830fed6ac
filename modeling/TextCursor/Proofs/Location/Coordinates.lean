import TextCursor.Proofs.Location.Table
import Mathlib.Data.Int.ConditionallyCompleteOrder
import Mathlib.Order.ConditionallyCompleteLattice.Basic

/-! Lines and columns as coordinates. Every offset of a text stands in one of its
lines at some distance from where the line starts, and what is read up to there
tells the line and the distance. -/
namespace TextCursor

namespace Text

theorem splitOn_whole {line : Text} (whole : '\n' ∉ line) : line.splitOn '\n' = [line] :=
  List.splitOn_eq_singleton whole

theorem splitOn_feed {line : Text} (whole : '\n' ∉ line) (rest : Text) :
    (line ++ '\n' :: rest).splitOn '\n' = line :: rest.splitOn '\n' := by
  rw [List.splitOn_append_cons_self, splitOn_whole whole, List.singleton_append]

/-- Induction on lines: a text is a single line, or a line with its feed before a text. -/
@[elab_as_elim]
theorem lineInduction {motive : Text → Prop} (single : ∀ line, '\n' ∉ line → motive line)
    (cons : ∀ line rest, '\n' ∉ line → motive rest → motive (line ++ '\n' :: rest))
    (source : Text) : motive source := by
  induction size : source.length using Nat.strongRecOn generalizing source with
  | ind n ih =>
    by_cases fed : '\n' ∈ source
    · obtain ⟨line, rest, rfl, whole⟩ := List.eq_append_cons_of_mem fed
      apply cons line rest whole
      apply ih rest.length ?_ rest rfl
      rw [← size, List.length_append, List.length_cons]
      omega
    · exact single source fed

theorem length_splitOn (source : Text) :
    (source.splitOn '\n').length = source.count '\n' + 1 := by
  induction source using lineInduction with
  | single line whole =>
    rw [splitOn_whole whole, List.count_eq_zero.mpr whole, List.length_singleton]
  | cons line rest whole ih =>
    rw [splitOn_feed whole, List.length_cons, ih, List.count_append, List.count_eq_zero.mpr whole,
      List.count_cons_self, Nat.zero_add]

end Text

namespace Location

theorem foldl_advance_whole {s : Text} (whole : '\n' ∉ s) (location : Location) :
    s.foldl advance location = ⟨location.line, location.column + s.length⟩ := by
  induction s generalizing location with
  | nil => rfl
  | cons c s ih =>
    obtain ⟨different, later⟩ := not_or.mp (mt List.mem_cons.mpr whole)
    rw [List.foldl_cons, advance, if_neg (Ne.symm different), ih later, List.length_cons,
      Nat.add_assoc, Nat.add_comm 1]

theorem foldl_advance_later (s : Text) (line column : Nat) :
    s.foldl advance ⟨line + 1, column⟩ =
      ⟨(s.foldl advance ⟨line, column⟩).line + 1, (s.foldl advance ⟨line, column⟩).column⟩ := by
  induction s generalizing line column with
  | nil => rfl
  | cons c s ih =>
    rw [List.foldl_cons, List.foldl_cons]
    by_cases feed : c = '\n'
    · simp only [advance, if_pos feed, ih]
    · simp only [advance, if_neg feed, ih]

theorem afterReading_whole {s : Text} (whole : '\n' ∉ s) : afterReading s = ⟨1, s.length + 1⟩ := by
  rw [afterReading, foldl_advance_whole whole, start, Nat.add_comm]

/-- A line that is read before the others makes each of them one line later. -/
theorem afterReading_feed {line : Text} (whole : '\n' ∉ line) (s : Text) :
    afterReading (line ++ '\n' :: s) = ⟨(afterReading s).line + 1, (afterReading s).column⟩ := by
  rw [afterReading, List.foldl_append, foldl_advance_whole whole, List.foldl_cons, advance,
    if_pos rfl, foldl_advance_later]
  rfl

theorem lineStart_cons_succ (line : Text) (lines : List Text) (index : Nat) :
    lineStart (line :: lines) (index + 1) = line.length + 1 + lineStart lines index := by
  simp [lineStart]

structure LineAt (source : Text) (index : Nat) (before line after : Text) : Prop where
  source_eq : source = before ++ (line ++ after)
  length_before : before.length = lineStart (source.splitOn '\n') index
  reading : ∀ s, '\n' ∉ s → afterReading (before ++ s) = ⟨index + 1, s.length + 1⟩
  whole : '\n' ∉ line
  ends : after = [] ∧ index + 1 = (source.splitOn '\n').length ∨
    after.head? = some '\n' ∧ index + 1 < (source.splitOn '\n').length

namespace LineAt

variable {source before line after : Text} {index column : Nat}

theorem single (whole : '\n' ∉ line) : LineAt line 0 [] line [] where
  source_eq := (List.append_nil line).symm
  length_before := rfl
  reading _ := afterReading_whole
  whole := whole
  ends := .inl ⟨rfl, by rw [Text.splitOn_whole whole, List.length_singleton]⟩

theorem first (whole : '\n' ∉ line) (rest : Text) :
    LineAt (line ++ '\n' :: rest) 0 [] line ('\n' :: rest) where
  source_eq := rfl
  length_before := rfl
  reading _ := afterReading_whole
  whole := whole
  ends := by
    rw [Text.splitOn_feed whole, List.length_cons, Text.length_splitOn]
    exact .inr ⟨rfl, by omega⟩

theorem later {earlier : Text} (whole : '\n' ∉ earlier)
    (placed : LineAt source index before line after) :
    LineAt (earlier ++ '\n' :: source) (index + 1) (earlier ++ '\n' :: before) line after where
  source_eq := by
    conv_lhs => rw [placed.source_eq]
    rw [List.append_assoc, List.cons_append]
  length_before := by
    rw [Text.splitOn_feed whole, lineStart_cons_succ, ← placed.length_before, List.length_append,
      List.length_cons]
    omega
  reading s inside := by
    rw [List.append_assoc, List.cons_append, afterReading_feed whole, placed.reading s inside]
  whole := placed.whole
  ends := by
    rw [Text.splitOn_feed whole, List.length_cons]
    simpa only [Nat.add_right_cancel_iff, Nat.add_lt_add_iff_right] using placed.ends

/-- What is read up to a column of the line tells the line and the column. -/
theorem afterReading_take (placed : LineAt source index before line after)
    (inside : column ≤ line.length) :
    afterReading (source.take (lineStart (source.splitOn '\n') index + column)) =
      ⟨index + 1, column + 1⟩ := by
  have whole : '\n' ∉ line.take column := mt List.mem_of_mem_take placed.whole
  rw [← placed.length_before, placed.source_eq, List.take_length_add_append,
    List.take_append_of_le_length inside, placed.reading _ whole, List.length_take,
    Nat.min_eq_left inside]

theorem getElem?_offset (placed : LineAt source index before line after) (column : Nat) :
    source[lineStart (source.splitOn '\n') index + column]? = (line ++ after)[column]? := by
  rw [← placed.length_before]
  conv_lhs => rw [placed.source_eq]
  rw [List.getElem?_append_right (Nat.le_add_right _ _), Nat.add_sub_cancel_left]

theorem offset_le (placed : LineAt source index before line after) (inside : column ≤ line.length) :
    lineStart (source.splitOn '\n') index + column ≤ source.length := by
  have size := congrArg List.length placed.source_eq
  rw [List.length_append, List.length_append, placed.length_before] at size
  omega

end LineAt

theorem exists_lineAt {source : Text} {index : Nat} {line : Text}
    (found : (source.splitOn '\n')[index]? = some line) :
    ∃ before after, LineAt source index before line after := by
  induction source using Text.lineInduction generalizing index with
  | single source whole =>
    rw [Text.splitOn_whole whole] at found
    cases index with
    | zero =>
      cases found
      exact ⟨_, _, .single whole⟩
    | succ index => cases found
  | cons first rest whole ih =>
    rw [Text.splitOn_feed whole] at found
    cases index with
    | zero =>
      cases found
      exact ⟨_, _, .first whole rest⟩
    | succ index =>
      obtain ⟨before, after, placed⟩ := ih found
      exact ⟨_, _, placed.later whole⟩

/-- Every offset up to the end of the source lies within a line or just after one. -/
theorem exists_lineStart_add {source : Text} (position : Nat) (inside : position ≤ source.length) :
    ∃ index column line, (source.splitOn '\n')[index]? = some line ∧ column ≤ line.length ∧
      position = lineStart (source.splitOn '\n') index + column := by
  induction source using Text.lineInduction generalizing position with
  | single source whole =>
    rw [Text.splitOn_whole whole]
    exact ⟨0, position, source, rfl, inside, (Nat.zero_add position).symm⟩
  | cons first rest whole ih =>
    rw [Text.splitOn_feed whole]
    by_cases here : position ≤ first.length
    · exact ⟨0, position, first, rfl, here, (Nat.zero_add position).symm⟩
    · rw [List.length_append, List.length_cons] at inside
      obtain ⟨index, column, line, found, within, offset⟩ :=
        ih (position - (first.length + 1)) (by omega)
      refine ⟨index + 1, column, line, found, within, ?_⟩
      rw [lineStart_cons_succ]
      omega

theorem inLines_iff (lines : List Text) (location : Location) :
    InLines lines location ↔
      ∃ index column line, lines[index]? = some line ∧ column ≤ line.length ∧
        location = ⟨index + 1, column + 1⟩ := by
  constructor
  · intro member
    obtain ⟨counted, placed, line, found, inside⟩ := member
    refine ⟨location.line - 1, location.column - 1, line, found, by omega, ?_⟩
    rw [Nat.sub_add_cancel counted, Nat.sub_add_cancel placed]
  · intro member
    obtain ⟨index, column, line, found, inside, rfl⟩ := member
    exact ⟨Nat.le_add_left 1 index, Nat.le_add_left 1 column, line, found,
      Nat.add_le_add_right inside 1⟩

theorem offsetIn_succ (lines : List Text) (index column : Nat) :
    offsetIn lines ⟨index + 1, column + 1⟩ = lineStart lines index + column := rfl

theorem inOrder_lt_advance (location : Location) (c : Char) :
    location.inOrder < (location.advance c).inOrder := by
  rw [inOrder, inOrder, Prod.Lex.toLex_lt_toLex]
  unfold advance
  split
  · exact .inl (Nat.lt_succ_self _)
  · exact .inr ⟨rfl, Nat.lt_succ_self _⟩

theorem inOrder_afterReading_lt {source : Text} {first last : Nat} (before : first < last)
    (inside : last ≤ source.length) :
    (afterReading (source.take first)).inOrder < (afterReading (source.take last)).inOrder := by
  induction last with
  | zero => omega
  | succ last ih =>
    have step := inOrder_lt_advance (afterReading (source.take last)) source[last]
    rw [← afterReading_append_singleton, List.take_append_getElem] at step
    obtain same | earlier := Nat.eq_or_lt_of_le (Nat.lt_succ_iff.mp before)
    · rw [same]
      exact step
    · exact (ih earlier (by omega)).trans step

end Location

namespace LineTable

open Location

theorem locate_natCast (source : Text) (position : Nat) :
    (ofText source).locate position = afterReading (source.take position) :=
  locate_ofText source position

theorem lineCount_ofText (source : Text) :
    (ofText source).lineCount = (source.splitOn '\n').length := by
  rw [Text.length_splitOn, ← length_starts_upTo]
  rfl

theorem locate_offsetIn {source : Text} {location : Location}
    (member : InLines (source.splitOn '\n') location) :
    offsetIn (source.splitOn '\n') location ≤ source.length ∧
      (ofText source).locate (offsetIn (source.splitOn '\n') location) = location := by
  obtain ⟨index, column, line, found, inside, rfl⟩ := (inLines_iff _ location).mp member
  obtain ⟨before, after, placed⟩ := exists_lineAt found
  rw [locate_natCast, offsetIn_succ]
  exact ⟨placed.offset_le inside, placed.afterReading_take inside⟩

theorem offsetIn_locate {source : Text} {position : Nat} (inside : position ≤ source.length) :
    InLines (source.splitOn '\n') ((ofText source).locate position) ∧
      offsetIn (source.splitOn '\n') ((ofText source).locate position) = position := by
  obtain ⟨index, column, line, found, within, rfl⟩ := exists_lineStart_add position inside
  obtain ⟨before, after, placed⟩ := exists_lineAt found
  rw [locate_natCast, placed.afterReading_take within, inLines_iff, offsetIn_succ]
  exact ⟨⟨index, column, line, found, within, rfl⟩, rfl⟩

/-- What stands at a location: a character of its line, or else the feed that
ends the line, which only the last line does not have. -/
theorem getElem?_offsetIn {source content : Text} {location : Location}
    (member : InLines (source.splitOn '\n') location)
    (found : (source.splitOn '\n')[location.line - 1]? = some content) :
    (location.column ≤ content.length →
      source[offsetIn (source.splitOn '\n') location]? = content[location.column - 1]?) ∧
    (location.column = content.length + 1 →
      if location.line = (source.splitOn '\n').length then
        offsetIn (source.splitOn '\n') location = source.length
      else source[offsetIn (source.splitOn '\n') location]? = some '\n') := by
  obtain ⟨index, column, _, _, _, rfl⟩ := (inLines_iff _ location).mp member
  simp only [Nat.add_sub_cancel, offsetIn_succ] at found ⊢
  obtain ⟨before, after, placed⟩ := exists_lineAt found
  rw [placed.getElem?_offset]
  constructor
  · intro inside
    exact List.getElem?_append_left inside
  · intro ended
    obtain rfl := Nat.succ.inj ended
    rw [List.getElem?_append_right (Nat.le_refl _), Nat.sub_self]
    obtain ⟨rfl, last⟩ | ⟨fed, further⟩ := placed.ends
    · have size := congrArg List.length placed.source_eq
      rw [List.append_nil, List.length_append, placed.length_before] at size
      rw [if_pos last, size]
    · rw [if_neg (Nat.ne_of_lt further), ← List.head?_eq_getElem?]
      exact fed

/-- The line and the column of an offset are coordinates: each character and each
end of a line has its own, in their order, and the offset is found again from them. -/
theorem locate_coordinates (source : Text) :
    let lines := source.splitOn '\n'
    let table := ofText source
    let offsets := Set.Icc (0 : Int) source.length
    let locations := {location | InLines lines location}
    (table.lineCount = lines.length ∧ 1 ≤ lines.length) ∧
    Set.BijOn table.locate offsets locations ∧
    Set.InvOn (fun location => (offsetIn lines location : Int)) table.locate offsets locations ∧
    StrictMonoOn (fun position => (table.locate position).inOrder) offsets ∧
    (∀ location ∈ locations, ∀ content, lines[location.line - 1]? = some content →
      (location.column ≤ content.length →
        source[offsetIn lines location]? = content[location.column - 1]?) ∧
      (location.column = content.length + 1 →
        if location.line = lines.length then offsetIn lines location = source.length
        else source[offsetIn lines location]? = some '\n')) ∧
    (∀ position < 0, table.locate position = table.locate 0) ∧
    ∀ position > (source.length : Int), table.locate position = table.locate source.length := by
  intro lines table offsets locations
  have located (position : Int) (member : position ∈ offsets) :
      table.locate position ∈ locations ∧
        (offsetIn lines (table.locate position) : Int) = position := by
    obtain ⟨n, rfl⟩ := Int.eq_ofNat_of_zero_le member.1
    obtain ⟨inside, offset⟩ := offsetIn_locate (Int.ofNat_le.mp member.2)
    exact ⟨inside, congrArg Nat.cast offset⟩
  have found (location : Location) (member : location ∈ locations) :
      (offsetIn lines location : Int) ∈ offsets ∧
        table.locate (offsetIn lines location) = location := by
    obtain ⟨inside, location_eq⟩ := locate_offsetIn member
    exact ⟨⟨Int.natCast_nonneg _, Int.ofNat_le.mpr inside⟩, location_eq⟩
  have inverse : Set.InvOn (fun location => (offsetIn lines location : Int)) table.locate offsets
      locations :=
    ⟨fun position member => (located position member).2,
      fun location member => (found location member).2⟩
  refine ⟨⟨lineCount_ofText source, by rw [Text.length_splitOn]; omega⟩,
    inverse.bijOn (fun position member => (located position member).1)
      (fun location member => (found location member).1), inverse, ?_,
    fun location member content => getElem?_offsetIn member, ?_, ?_⟩
  · intro first lower last upper before
    obtain ⟨m, rfl⟩ := Int.eq_ofNat_of_zero_le lower.1
    obtain ⟨n, rfl⟩ := Int.eq_ofNat_of_zero_le upper.1
    have later := inOrder_afterReading_lt (Int.ofNat_lt.mp before) (Int.ofNat_le.mp upper.2)
    simpa only [table, locate_natCast] using later
  · intro position negative
    rw [locate_ofText, locate_ofText, Int.toNat_of_nonpos (Int.le_of_lt negative), Int.toNat_zero]
  · intro position beyond
    rw [locate_ofText, locate_natCast, List.take_of_length_le (by omega),
      List.take_of_length_le (Nat.le_refl _)]

/-- An empty line holds nothing but its end, and the last one not even a feed. -/
theorem locate_coordinates_of_empty_lines :
    (ofText ['a', '\n', '\n', 'b', '\n']).lineCount = 4 ∧
    (ofText ['a', '\n', '\n', 'b', '\n']).locate 2 = ⟨2, 1⟩ ∧
    ['a', '\n', '\n', 'b', '\n'][2]? = some '\n' ∧
    ['a', '\n', '\n', 'b', '\n'][3]? = some 'b' ∧
    (ofText ['a', '\n', '\n', 'b', '\n']).locate 9 =
      (ofText ['a', '\n', '\n', 'b', '\n']).locate 5 := by
  obtain ⟨⟨count, _⟩, _, inverse, _, character, _, beyond⟩ :=
    locate_coordinates ['a', '\n', '\n', 'b', '\n']
  have empty : InLines (['a', '\n', '\n', 'b', '\n'].splitOn '\n') ⟨2, 1⟩ :=
    ⟨by decide, by decide, [], rfl, by decide⟩
  have filled : InLines (['a', '\n', '\n', 'b', '\n'].splitOn '\n') ⟨3, 1⟩ :=
    ⟨by decide, by decide, ['b'], rfl, by decide⟩
  exact ⟨count, inverse.2 empty, (character _ empty [] rfl).2 rfl,
    (character _ filled ['b'] rfl).1 (by decide), beyond 9 (by decide)⟩

end LineTable

end TextCursor
