import TextCursor.Cursor.Request

/-! Requests by the characters they look at, one index at a time. An index may
be any integer: a negative one counts from the end, and where there is no
character the whole inspection fails. Nothing here is guarded but by the
requests themselves. -/
namespace TextCursor

def Text.item? (s : Text) (index : Int) : Option Char :=
  if 0 ≤ index then s[index.toNat]?
  else if 0 ≤ s.length + index then s[(s.length + index).toNat]?
  else none

/-- The state is the indices looked at so far. -/
abbrev Inspection := StateT (List Int) Option

namespace Cursor

def item (c : Cursor) (index : Int) : Inspection Char :=
  fun seen => (c.text.item? index).map fun char => (char, seen ++ [index])

def lookAt (c : Cursor) (index : Int) : Inspection (Option Char) :=
  if 0 ≤ index ∧ index < c.length then return some (← c.item index) else return none

def scanFrom (c : Cursor) (wanted : Char → Bool) (offset : Nat) : Inspection (Option Nat) :=
  if offset < c.length then do
    if wanted (← c.item offset) then return some offset
    c.scanFrom wanted (offset + 1)
  else return none
termination_by c.length - offset

def skipFrom (c : Cursor) (wanted : Char → Bool) (offset : Nat) : Inspection Nat :=
  if offset < c.length then do
    if wanted (← c.item offset) then c.skipFrom wanted (offset + 1) else return offset
  else return offset
termination_by c.length - offset

def inspect (c : Cursor) : Request → Inspection (Except Failure (Answer × Cursor))
  | .current form => return .ok (form.answer (← c.lookAt c.position), c)
  | .charAt form index => return .ok (form.answer (← c.lookAt index), c)
  | .peek form distance => return .ok (form.answer (← c.lookAt (c.position + distance)), c)
  | .behind form distance => do
    let distance := if distance = 0 then 1 else distance
    return .ok (form.answer (← c.lookAt (c.position - distance)), c)
  | .next form =>
    if c.length ≤ c.position then return .ok (.missing, c)
    else do
      let stepped := { c with position := c.position + 1 }
      return .ok (form.answer (← stepped.lookAt stepped.position), stepped)
  | .findNextOf targets =>
    match groupCodes "find_next_of".toList targets with
    | .error rejected => return .error (.rejected rejected)
    | .ok codes => return .ok (.ofOffset (← c.scanFrom (isAmong codes) (c.position + 1)), c)
  | .consume targets =>
    match groupCodes "consume".toList targets with
    | .error rejected => return .error (.rejected rejected)
    | .ok codes => do
      let position ← c.skipFrom (isAmong codes) c.position
      return .ok (.moved, { c with position })
  | request => return c.perform request

end Cursor

end TextCursor
