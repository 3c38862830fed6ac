import TextCursor.Cursor.Basic
import TextCursor.Failure
import TextCursor.Value.Target

/-! Searches, moves and extraction. A search starts behind the character under the
cursor and finds nothing beyond the end. A position or a range outside the text is
rejected and never clamped; only single steps and runs stop at the end by themselves. -/
namespace TextCursor.Cursor

def firstAfter? (c : Cursor) (wanted : Char → Bool) : Option Nat :=
  ((c.text.drop (c.position + 1)).findIdx? wanted).map (· + (c.position + 1))

def targetCode (operation : Text) (target : Value) : Except Rejected Int :=
  match target.code? with
  | some code => .ok code
  | none => .error ⟨.invalidArgument, .invalidTarget operation target⟩

def memberCodes (operation : Text) (targets : Value) : Except Rejected (List Int) :=
  match targets, targets.elements? with
  | .text s, _ => .ok (s.map fun c => (c.toNat : Int))
  | .int n, _ => .ok [n]
  | _, some elements => elements.mapM (targetCode operation)
  | _, none => .error ⟨.invalidArgument, .invalidTarget operation targets⟩

theorem memberCodes_of_elements {targets : Value} {elements : List Value} (operation : Text)
    (visited : targets.elements? = some elements) :
    memberCodes operation targets = elements.mapM (targetCode operation) := by
  cases targets with
  | text | int | bool | null | float => cases visited
  | bytes | items | mapping => cases visited; rfl

def groupCodes (operation : Text) (targets : Value) : Except Rejected (List Int) :=
  (memberCodes operation targets).map List.eraseDups

def findNext (c : Cursor) (target : Value) : Except Rejected (Option Nat) := do
  let code ← targetCode "find_next".toList target
  return c.firstAfter? (isAmong [code])

def findNextOf (c : Cursor) (targets : Value) : Except Rejected (Option Nat) := do
  let codes ← groupCodes "find_next_of".toList targets
  return c.firstAfter? (isAmong codes)

def seek (c : Cursor) (operation : Text) (target : Int) : Except Rejected Cursor :=
  if target < 0 then .error ⟨.outOfRange, .startBeforeZero operation target⟩
  else if c.length < target then .error ⟨.outOfRange, .endAfterLength operation target c.length⟩
  else .ok { c with position := target.toNat }

theorem seek_eq_ok_iff {c moved : Cursor} {operation : Text} {target : Int} :
    c.seek operation target = .ok moved ↔
      0 ≤ target ∧ target ≤ c.length ∧ moved = { c with position := target.toNat } := by
  unfold seek
  split
  · rename_i negative
    simp only [reduceCtorEq, false_iff]
    omega
  · split
    · rename_i beyond
      simp only [reduceCtorEq, false_iff]
      omega
    · rename_i negative beyond
      simp only [Except.ok.injEq]
      constructor
      · rintro rfl
        exact ⟨by omega, by omega, rfl⟩
      · rintro ⟨_, _, rfl⟩
        rfl

theorem seek_of_neg (c : Cursor) (operation : Text) {target : Int} (negative : target < 0) :
    c.seek operation target = .error ⟨.outOfRange, .startBeforeZero operation target⟩ :=
  if_pos negative

theorem seek_of_length_lt (c : Cursor) (operation : Text) {target : Int}
    (beyond : c.length < target) :
    c.seek operation target =
      .error ⟨.outOfRange, .endAfterLength operation target c.length⟩ := by
  rw [seek, if_neg (by omega), if_pos beyond]

def moveTo (c : Cursor) (target : Int) : Except Rejected Cursor := c.seek "move_to".toList target

theorem moveTo_natCast (c : Cursor) {target : Nat} (inside : target ≤ c.length) :
    c.moveTo target = .ok { c with position := target } :=
  seek_eq_ok_iff.mpr ⟨Int.natCast_nonneg target, Int.ofNat_le.mpr inside, rfl⟩

def moveBy (c : Cursor) (steps : Int) : Except Rejected Cursor :=
  c.seek "move_by".toList (c.position + steps)

def rewind (c : Cursor) : Cursor := { c with position := 0 }

def next (c : Cursor) : Option Char × Cursor :=
  if c.atEnd then (none, c)
  else
    let stepped := { c with position := c.position + 1 }
    (stepped.current?, stepped)

def skipWhile (c : Cursor) (wanted : Char → Bool) : Cursor :=
  { c with position := c.position + ((c.text.drop c.position).takeWhile wanted).length }

def consume (c : Cursor) (targets : Value) : Except Rejected Cursor := do
  let codes ← groupCodes "consume".toList targets
  return c.skipWhile (isAmong codes)

/-- A missing `stop` is the end of the text. The order of the ends is checked before their range. -/
def substring (c : Cursor) (start : Int) (stop : Option Int) : Except Rejected Text :=
  let stop := stop.getD c.length
  if stop < start then .error ⟨.invalidRange, .startAfterEnd start stop⟩
  else if start < 0 then .error ⟨.outOfRange, .startBeforeZero "substring".toList start⟩
  else if c.length < stop then
    .error ⟨.outOfRange, .endAfterLength "substring".toList stop c.length⟩
  else .ok (c.text.slice start.toNat stop.toNat)

theorem substring_of_le (c : Cursor) {start stop : Int} (lower : 0 ≤ start)
    (ordered : start ≤ stop) (upper : stop ≤ c.length) :
    c.substring start (some stop) = .ok (c.text.slice start.toNat stop.toNat) := by
  simp only [substring, Option.getD_some]
  rw [if_neg (by omega), if_neg (by omega), if_neg (by omega)]

end TextCursor.Cursor
