import TextCursor.Cursor.Motion
import TextCursor.Failure

/-! Requests to a cursor and runs of them. A failed request leaves the cursor as it was.
A lookup stands beside the move that leads to where it looks, and extractions stand side
by side. -/
namespace TextCursor

inductive Form where
  | code
  | char
  deriving DecidableEq

inductive Request where
  | position
  | length
  | text
  | describe
  | atEnd
  | current (form : Form)
  | charAt (form : Form) (index : Int)
  | peek (form : Form) (distance : Int := 1)
  | behind (form : Form) (distance : Int := 1)
  | findNext (target : Value)
  | findNextOf (targets : Value)
  | moveBy (steps : Int)
  | moveTo (target : Int)
  | rewind
  | next (form : Form)
  | consume (targets : Value)
  | substring (start : Int) (stop : Option Int := none)
  | location (position : Option Int := none)

def Request.isQuery : Request → Bool
  | .moveBy _ | .moveTo _ | .rewind | .next _ | .consume _ => false
  | _ => true

/-- The answer `moved` stands for the cursor itself. -/
inductive Answer where
  | number (n : Nat)
  | truth (b : Bool)
  | text (s : Text)
  | location (location : Location)
  | missing
  | moved
  deriving DecidableEq

def Form.answer : Form → Option Char → Answer
  | _, none => .missing
  | .code, some c => .number c.toNat
  | .char, some c => .text [c]

def Answer.ofOffset : Option Nat → Answer
  | none => .missing
  | some n => .number n

def Request.extractions : List Int → List Request
  | start :: stop :: cuts => .substring start (some stop) :: extractions (stop :: cuts)
  | _ => []

namespace Cursor

def locate (c : Cursor) (position : Option Int) : Except Location.NegativePosition Location :=
  Location.ofPosition c.text (position.getD c.position)

def perform (c : Cursor) : Request → Except Failure (Answer × Cursor)
  | .position => .ok (.number c.position, c)
  | .length => .ok (.number c.length, c)
  | .text => .ok (.text c.text, c)
  | .describe => .ok (.text c.describe, c)
  | .atEnd => .ok (.truth c.atEnd, c)
  | .current form => .ok (form.answer c.current?, c)
  | .charAt form index => .ok (form.answer (c.charAt? index), c)
  | .peek form distance => .ok (form.answer (c.peek? distance), c)
  | .behind form distance => .ok (form.answer (c.behind? distance), c)
  | .findNext target => lift ((c.findNext target).map fun found => (.ofOffset found, c))
  | .findNextOf targets => lift ((c.findNextOf targets).map fun found => (.ofOffset found, c))
  | .moveBy steps => lift ((c.moveBy steps).map fun moved => (.moved, moved))
  | .moveTo target => lift ((c.moveTo target).map fun moved => (.moved, moved))
  | .rewind => .ok (.moved, c.rewind)
  | .next form => .ok (form.answer c.next.1, c.next.2)
  | .consume targets => lift ((c.consume targets).map fun moved => (.moved, moved))
  | .substring start stop => lift ((c.substring start stop).map fun s => (.text s, c))
  | .location position =>
    ((c.locate position).map fun location => (.location location, c)).mapError .negativePosition
where
  lift {α : Type} (result : Except Rejected α) : Except Failure α := result.mapError .rejected

def step (c : Cursor) (request : Request) : Except Failure Answer × Cursor :=
  match c.perform request with
  | .ok (answer, after) => (.ok answer, after)
  | .error failure => (.error failure, c)

structure Step where
  outcome : Except Failure Answer
  position : Nat

def trace (c : Cursor) : List Request → List Step
  | [] => []
  | request :: rest =>
    let (outcome, after) := c.step request
    ⟨outcome, after.position⟩ :: after.trace rest

def run (c : Cursor) (requests : List Request) : Cursor :=
  requests.foldl (fun c request => (c.step request).2) c

/-- The query answers what the current character would be after the move, and finds nothing if
the move would fail. It leaves the cursor where it is. -/
def Foretells (c : Cursor) (query : Form → Request) (move : Request) : Prop :=
  ∀ form, ∃ answer, c.perform (query form) = .ok (answer, c) ∧
    (∀ reply after, c.perform move = .ok (reply, after) →
      after.perform (.current form) = .ok (answer, after)) ∧
    ∀ failure, c.perform move = .error failure → answer = .missing

inductive AnswersAlike (c : Cursor) (query : Form → Request) : Prop
  | missing (code : c.perform (query .code) = .ok (.missing, c))
      (char : c.perform (query .char) = .ok (.missing, c))
  | found {char : Char} (code : c.perform (query .code) = .ok (.number char.toNat, c))
      (char : c.perform (query .char) = .ok (.text [char], c))

end Cursor

end TextCursor
