import TextCursor.Cursor.Request
import Mathlib.Algebra.Ring.Int.Defs

/-! Requests as they act on a cursor, by single reads, checks and writes. Nothing
is undone: what a request has written before it fails stays written. All requests
may be made whatever becomes of them, or up to the first that fails. -/
namespace TextCursor

/-- The outcome, and whatever it is, the cursor as it has become by then. -/
abbrev Action := ExceptT Failure (StateM Cursor)

namespace Action

open Cursor

def ofResult {α : Type} : Except Rejected α → Action α
  | .ok result => pure result
  | .error rejected => throw (.rejected rejected)

def checkInside (operation : Text) (target : Int) : Action Unit := do
  let c ← get
  if target < 0 then throw (.rejected ⟨.outOfRange, .startBeforeZero operation target⟩)
  else if c.length < target then
    throw (.rejected ⟨.outOfRange, .endAfterLength operation target c.length⟩)

def place (position : Nat) : Action Unit := modify fun c => { c with position }

def perform : Request → Action Answer
  | .position => return .number (← get).position
  | .length => return .number (← get).length
  | .text => return .text (← get).text
  | .describe => return .text (← get).describe
  | .atEnd => return .truth (← get).atEnd
  | .current form => return form.answer (← get).current?
  | .charAt form index => return form.answer ((← get).charAt? index)
  | .peek form distance => return form.answer ((← get).peek? distance)
  | .behind form distance => return form.answer ((← get).behind? distance)
  | .findNext target => do
    let code ← ofResult (targetCode "find_next".toList target)
    return .ofOffset ((← get).firstAfter? (isAmong [code]))
  | .findNextOf targets => do
    let codes ← ofResult (groupCodes "find_next_of".toList targets)
    return .ofOffset ((← get).firstAfter? (isAmong codes))
  | .moveBy steps => do
    let target := (← get).position + steps
    checkInside "move_by".toList target
    place target.toNat
    return .moved
  | .moveTo target => do
    checkInside "move_to".toList target
    place target.toNat
    return .moved
  | .rewind => do
    place 0
    return .moved
  | .next form => do
    if (← get).atEnd then return .missing
    place ((← get).position + 1)
    return form.answer (← get).current?
  | .consume targets => do
    let codes ← ofResult (groupCodes "consume".toList targets)
    place ((← get).skipWhile (isAmong codes)).position
    return .moved
  | .substring start stop => return .text (← ofResult ((← get).substring start stop))
  | .location position => do
    match (← get).locate position with
    | .ok location => return .location location
    | .error error => throw (.negativePosition error)

def performAll : List Request → StateM Cursor (List Step)
  | [] => return []
  | request :: rest => do
    let outcome ← (perform request).run
    let position := (← get).position
    return ⟨outcome, position⟩ :: (← performAll rest)

def chain : List Request → Action Unit
  | [] => return
  | request :: rest => do
    let _ ← perform request
    chain rest

end Action

/-- The entries whose index is kept. -/
def keep {α : Type} (kept : Nat → Bool) : List α → List α
  | [] => []
  | entry :: rest =>
    let later := keep (fun index => kept (index + 1)) rest
    if kept 0 then entry :: later else later

namespace Cursor

def HasOffset (c : Cursor) (offset : Int) : Prop := 0 ≤ offset ∧ offset ≤ c.length

instance (c : Cursor) (offset : Int) : Decidable (c.HasOffset offset) :=
  inferInstanceAs (Decidable (_ ∧ _))

def StaysInside (c : Cursor) (origin : Int) (distances : List Int) : Prop :=
  ∀ count ≤ distances.length, c.HasOffset (origin + (distances.take count).sum)

end Cursor

end TextCursor
