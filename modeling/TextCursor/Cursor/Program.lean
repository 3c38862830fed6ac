import TextCursor.Cursor.Refusal

/-! What callers make of requests: searches repeated from each place that they find,
runs over two groups of characters by turns, and the reading of an entry, which is a
key and a value on one line with separators in between. -/
namespace TextCursor

inductive Request.Seeks : Request → (Char → Prop) → Prop
  | target {target : Value} (valid : target.IsTarget) : Seeks (.findNext target) target.Denotes
  | group {targets : Value} (valid : ∀ refused, ¬targets.RefusedFor refused) :
      Seeks (.findNextOf targets) targets.Covers

namespace Cursor

def OccursAhead (c : Cursor) (sought : Char → Prop) (index : Nat) : Prop :=
  c.position < index ∧ ∃ char, c.text[index]? = some char ∧ sought char

/-- A loop of rounds, each of which searches, records the offset that was found and moves
to it. The round that finds nothing is the last, unless a search or a move fails.
What is left are the offsets in the order in which they were recorded, and the
cursor or the failure at the end. -/
inductive Sweeps (search : Request) : Cursor → List Nat → Except Failure Cursor → Prop
  | unsearched {c : Cursor} {failure : Failure} (failed : c.perform search = .error failure) :
      Sweeps search c [] (.error failure)
  | exhausted {c after : Cursor} (missed : c.perform search = .ok (.missing, after)) :
      Sweeps search c [] (.ok after)
  | stuck {c after : Cursor} {index : Nat} {failure : Failure}
      (found : c.perform search = .ok (.number index, after))
      (failed : after.perform (.moveTo index) = .error failure) :
      Sweeps search c [index] (.error failure)
  | moved {c after next : Cursor} {index : Nat} {answer : Answer} {later : List Nat}
      {outcome : Except Failure Cursor} (found : c.perform search = .ok (.number index, after))
      (moved : after.perform (.moveTo index) = .ok (answer, next))
      (rest : Sweeps search next later outcome) : Sweeps search c (index :: later) outcome

/-- The characters from the position up to there are all sought, and it goes no further. -/
structure RunEnds (c : Cursor) (sought : Char → Prop) (stop : Nat) : Prop where
  position_le : c.position ≤ stop
  le_length : stop ≤ c.length
  sought_before : ∀ char ∈ c.text.slice c.position stop, sought char
  not_sought : stop = c.length ∨ ∃ char, c.text[stop]? = some char ∧ ¬sought char

def turn (c : Cursor) (first second : Value) : Except Failure (Cursor × Cursor) := do
  let (_, middle) ← c.perform (.consume first)
  let (_, after) ← middle.perform (.consume second)
  return (middle, after)

/-- Turns are taken until there is one of which neither run moves the cursor. -/
inductive Alternates (first second : Value) : Cursor → Except Failure Cursor → Prop
  | stuck {c : Cursor} {failure : Failure} (failed : c.turn first second = .error failure) :
      Alternates first second c (.error failure)
  | settled {c middle after : Cursor} (taken : c.turn first second = .ok (middle, after))
      (still : middle.position = c.position ∧ after.position = middle.position) :
      Alternates first second c (.ok after)
  | moved {c middle after : Cursor} {outcome : Except Failure Cursor}
      (taken : c.turn first second = .ok (middle, after))
      (moved : ¬(middle.position = c.position ∧ after.position = middle.position))
      (rest : Alternates first second after outcome) : Alternates first second c outcome

structure Entry where
  key : Text
  value : Text
  deriving DecidableEq

/-- The key ends at the first separator, and the value, which follows the run of
separators, ends with the line. There is no entry where no separator is found. -/
def readEntry (c : Cursor) (separators : Text) : Except Rejected (Option Entry) := do
  let some stop ← c.findNextOf (.text separators) | return none
  let key ← c.substring 0 (some stop)
  let separated ← c.moveTo stop
  let valued ← separated.consume (.text separators)
  let lineEnd ← valued.findNext (.text ['\n'])
  let value ← valued.substring valued.position (lineEnd.map Nat.cast)
  return some ⟨key, value⟩

/-- The parts of a line with an entry. Only the key may hold line feeds. -/
structure IsEntryLine (separators key gap value ending : Text) : Prop where
  separators_unbroken : '\r' ∉ separators ∧ '\n' ∉ separators
  key_ne_nil : key ≠ []
  key_apart : ∀ c ∈ key, c ∉ separators
  return_notMem_key : '\r' ∉ key
  gap_ne_nil : gap ≠ []
  gap_separates : ∀ c ∈ gap, c ∈ separators
  value_ne_nil : value ≠ []
  value_apart : ∀ c ∈ value.head?, c ∉ separators
  value_unbroken : '\r' ∉ value ∧ '\n' ∉ value
  ending_breaks : ending = ['\n'] ∨ ending = ['\r', '\n'] ∨ ending = ['\r']

end Cursor

end TextCursor
