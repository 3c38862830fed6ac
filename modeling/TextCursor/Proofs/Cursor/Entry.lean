import TextCursor.Proofs.Cursor.Search
import TextCursor.Proofs.Cursor.UnifiedBreaks
import TextCursor.Proofs.Text.Slice

/-! Entries are read from every line of their shape, whichever line break ends it. -/
namespace TextCursor

theorem LineBreak.exists_scan_of_break {ending : Text}
    (breaks : ending = ['\n'] ∨ ending = ['\r', '\n'] ∨ ending = ['\r']) (rest : Text) :
    ∃ later, scan '\r' '\n' (ending ++ rest) = '\n' :: later := by
  rcases breaks with rfl | rfl | rfl
  · exact ⟨_, scan_cons (by decide) rest⟩
  · exact ⟨_, scan_pair rest⟩
  · -- A feed at the start of the rest belongs to the same break.
    by_cases paired : rest.head? = some '\n'
    · obtain ⟨later, rfl⟩ := List.head?_eq_some_iff.mp paired
      exact ⟨_, scan_pair later⟩
    · exact ⟨_, scan_lone paired⟩

namespace Cursor

variable {c : Cursor} {wanted : Char → Bool} {sought : Char → Prop}

theorem firstAfter?_of_append (agree : ∀ char, wanted char ↔ sought char) {before after : Text}
    {char : Char} (split : c.text = before ++ char :: after) (ahead : c.position < before.length)
    (free : ∀ other ∈ before.drop (c.position + 1), ¬sought other) (found : sought char) :
    c.firstAfter? wanted = some before.length := by
  apply (firstAfter?_eq_some_iff agree).mpr
  constructor
  · refine ⟨ahead, char, ?_, found⟩
    simp [split]
  · rintro index earlier ⟨behind, other, there, accepted⟩
    rw [split, List.getElem?_append_left earlier] at there
    apply free other _ accepted
    rw [List.mem_iff_getElem?]
    refine ⟨index - (c.position + 1), ?_⟩
    rw [List.getElem?_drop, Nat.add_sub_cancel' behind]
    exact there

theorem skipWhile_of_append (agree : ∀ char, wanted char ↔ sought char) {before run after : Text}
    (split : c.text = before ++ run ++ after) (placed : c.position = before.length)
    (all : ∀ char ∈ run, sought char) (ends : ∀ char ∈ after.head?, ¬sought char) :
    c.skipWhile wanted = { c with position := (before ++ run).length } := by
  have taken : (run ++ after).takeWhile wanted = run := by
    rw [List.takeWhile_append_of_pos fun char member => (agree char).mpr (all char member)]
    cases after with
    | nil => simp
    | cons char after =>
      have stops : ¬wanted char := mt (agree char).mp (ends char rfl)
      rw [List.takeWhile_cons_of_neg stops, List.append_nil]
  rw [skipWhile, placed, split, List.append_assoc, List.drop_left, taken, List.length_append]

theorem substring_of_append {before middle after : Text}
    (split : c.text = before ++ middle ++ after) (sized : c.length = c.text.length) :
    c.substring before.length (some ((before ++ middle).length : Nat)) = .ok middle := by
  have ordered : before.length ≤ (before ++ middle).length := (List.prefix_append _ _).length_le
  have inside : (before ++ middle).length ≤ c.length := by
    rw [sized, split]
    exact (List.prefix_append _ _).length_le
  rw [substring_of_le c (by omega) (by omega) (by omega), split]
  exact congrArg Except.ok (Text.slice_append before middle after)

theorem findNextOf_of_append {separators before after : Text} {char : Char}
    (split : c.text = before ++ char :: after) (ahead : c.position < before.length)
    (free : ∀ other ∈ before.drop (c.position + 1), other ∉ separators)
    (found : char ∈ separators) : c.findNextOf (.text separators) = .ok (some before.length) := by
  obtain ⟨wanted, agree, searched⟩ := exists_findNextOf (Value.not_refusedFor_text separators)
  simp only [Value.covers_text_iff] at agree
  rw [searched, firstAfter?_of_append agree split ahead free found]

theorem findNext_of_append {before after : Text} {char : Char}
    (split : c.text = before ++ char :: after) (ahead : c.position < before.length)
    (free : char ∉ before.drop (c.position + 1)) :
    c.findNext (.text [char]) = .ok (some before.length) := by
  obtain ⟨wanted, agree, searched⟩ := exists_findNext (.char char)
  simp only [Value.denotes_text_iff] at agree
  have different : ∀ other ∈ before.drop (c.position + 1), other ≠ char :=
    fun other member same => free (same ▸ member)
  rw [searched, firstAfter?_of_append agree split ahead different rfl]

theorem consume_of_append {separators before run after : Text}
    (split : c.text = before ++ run ++ after) (placed : c.position = before.length)
    (all : ∀ char ∈ run, char ∈ separators) (ends : ∀ char ∈ after.head?, char ∉ separators) :
    c.consume (.text separators) = .ok { c with position := (before ++ run).length } := by
  obtain ⟨wanted, agree, consumed⟩ := exists_consume (Value.not_refusedFor_text separators)
  simp only [Value.covers_text_iff] at agree
  rw [consumed, skipWhile_of_append agree split placed all ends]

theorem readEntry_of_split {separators key gap value ending later : Text}
    (shape : IsEntryLine separators key gap value ending)
    (split : c.text = key ++ gap ++ value ++ '\n' :: later) (sized : c.length = c.text.length)
    (start : c.position = 0) : c.readEntry separators = .ok (some ⟨key, value⟩) := by
  have stop : c.findNextOf (.text separators) = .ok (some key.length) := by
    obtain ⟨first, others, begun⟩ := List.exists_cons_of_ne_nil shape.gap_ne_nil
    have separated : c.text = key ++ first :: (others ++ value ++ '\n' :: later) := by
      simp [split, begun]
    apply findNextOf_of_append separated
    · rw [start]
      exact List.length_pos_iff.mpr shape.key_ne_nil
    · exact fun other member => shape.key_apart other (List.mem_of_mem_drop member)
    · exact shape.gap_separates first (begun ▸ List.mem_cons_self)
  have keyed : c.substring 0 (some (key.length : Nat)) = .ok key := by
    have first : c.text = [] ++ key ++ (gap ++ value ++ '\n' :: later) := by simp [split]
    exact substring_of_append first sized
  have skipping : c.text = key ++ gap ++ (value ++ '\n' :: later) := by simp [split]
  have separated : c.moveTo key.length = .ok { c with position := key.length } := by
    apply c.moveTo_natCast
    rw [sized, skipping, List.append_assoc]
    exact (List.prefix_append _ _).length_le
  have valued : consume { c with position := key.length } (.text separators) =
      .ok { c with position := (key ++ gap).length } := by
    apply consume_of_append (c := { c with position := key.length }) skipping rfl
      shape.gap_separates
    rw [List.head?_append_of_ne_nil _ shape.value_ne_nil]
    exact shape.value_apart
  have lineEnd : findNext { c with position := (key ++ gap).length } (.text ['\n']) =
      .ok (some (key ++ gap ++ value).length) := by
    apply findNext_of_append (c := { c with position := (key ++ gap).length }) split
    · have filled := List.length_pos_iff.mpr shape.value_ne_nil
      simp only [List.length_append]
      omega
    · -- What is behind the position is of the value, which has no feed.
      rw [List.drop_length_add_append]
      exact mt List.mem_of_mem_drop shape.value_unbroken.2
  have read : substring { c with position := (key ++ gap).length } (key ++ gap).length
      (some ((key ++ gap ++ value).length : Nat)) = .ok value :=
    substring_of_append split sized
  rw [readEntry, stop]
  simp only [bind, Except.bind, keyed, separated, valued, lineEnd, Option.map_some]
  rw [read]
  rfl

theorem exists_scan_of_line {separators key gap value ending : Text}
    (shape : IsEntryLine separators key gap value ending) (rest : Text) :
    ∃ later, LineBreak.scan '\r' '\n' (key ++ gap ++ value ++ ending ++ rest) =
      key ++ gap ++ value ++ '\n' :: later := by
  obtain ⟨later, broken⟩ := LineBreak.exists_scan_of_break shape.ending_breaks rest
  have plain : '\r' ∉ key ++ gap ++ value := by
    have gap_plain := mt (shape.gap_separates '\r') shape.separators_unbroken.1
    simp [shape.return_notMem_key, gap_plain, shape.value_unbroken.1]
  exact ⟨later, by rw [List.append_assoc _ ending, LineBreak.scan_append plain, broken]⟩

/-- The key and the value of a line are read from the text or its bytes, without a
failure, also where the return that ends the line stands before a feed of the rest. -/
theorem readEntry_of_line {separators key gap value ending : Text}
    (shape : IsEntryLine separators key gap value ending) (rest : Text) {data : Value}
    (given : data = .text (key ++ gap ++ value ++ ending ++ rest) ∨
      ∃ kind, data = .bytes kind (Utf8.encode (key ++ gap ++ value ++ ending ++ rest))) :
    ∃ made, create data true = .ok made ∧
      made.cursor.readEntry separators = .ok (some ⟨key, value⟩) := by
  have decoded : data.decodeText = .ok (key ++ gap ++ value ++ ending ++ rest) := by
    rcases given with rfl | ⟨kind, rfl⟩
    · rfl
    · exact (decodeText_bytes_eq_ok_iff kind _ _).mpr rfl
  obtain ⟨later, scanned⟩ := exists_scan_of_line shape rest
  exact ⟨_, create_of_decodeText decoded, readEntry_of_split shape scanned rfl rfl⟩

/-- A key over two lines, a gap of several separators, others within the value, and a
line that ends in a return before a feed. -/
theorem readEntry_of_line_before_feed :
    IsEntryLine [' ', '='] ['k', '\n', 'é'] ['=', ' ', '='] ['v', '=', ' '] ['\r'] ∧
    create (.bytes .view [0x6b, 0x0a, 0xc3, 0xa9, 0x3d, 0x20, 0x3d, 0x76, 0x3d, 0x20, 0x0d, 0x0a,
        0x78]) true =
      .ok ⟨ofText ['k', '\n', 'é', '=', ' ', '=', 'v', '=', ' ', '\n', 'x'],
        [.unifiedBreaks 12 11, .created 11]⟩ ∧
    (ofText ['k', '\n', 'é', '=', ' ', '=', 'v', '=', ' ', '\n', 'x']).readEntry [' ', '='] =
      .ok (some ⟨['k', '\n', 'é'], ['v', '=', ' ']⟩) := by
  have shape :
      IsEntryLine [' ', '='] ['k', '\n', 'é'] ['=', ' ', '='] ['v', '=', ' '] ['\r'] := by
    constructor <;> simp
  have decoded : (Value.bytes .view [0x6b, 0x0a, 0xc3, 0xa9, 0x3d, 0x20, 0x3d, 0x76, 0x3d, 0x20,
      0x0d, 0x0a, 0x78]).decodeText =
      .ok ['k', '\n', 'é', '=', ' ', '=', 'v', '=', ' ', '\r', '\n', 'x'] := by
    apply (decodeText_bytes_eq_ok_iff _ _ _).mpr
    decide
  have accepted := create_of_decodeText decoded
  obtain ⟨made, created, read⟩ := readEntry_of_line shape ['\n', 'x'] (.inr ⟨.view, rfl⟩)
  cases accepted.symm.trans created
  exact ⟨shape, accepted, read⟩

end Cursor
end TextCursor
