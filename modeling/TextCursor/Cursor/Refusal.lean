import TextCursor.Cursor.Request

/-! Which requests are refused and for what: one rule for each cause. What no
rule refuses is carried out. -/
namespace TextCursor

def Request.name : Request → Text
  | .position => "position".toList
  | .length => "length".toList
  | .text => "text".toList
  | .describe => "__repr__".toList
  | .atEnd => "is_eof".toList
  | .current .code => "current".toList
  | .current .char => "current_char".toList
  | .charAt .code _ => "at".toList
  | .charAt .char _ => "char_at".toList
  | .peek .code _ => "peek".toList
  | .peek .char _ => "peek_char".toList
  | .behind .code _ => "behind".toList
  | .behind .char _ => "behind_char".toList
  | .findNext _ => "find_next".toList
  | .findNextOf _ => "find_next_of".toList
  | .moveBy _ => "move_by".toList
  | .moveTo _ => "move_to".toList
  | .rewind => "rewind".toList
  | .next .code => "next".toList
  | .next .char => "next_char".toList
  | .consume _ => "consume".toList
  | .substring .. => "substring".toList
  | .location _ => "line_col".toList

/-- Of a reversed range nothing else is said, and of one that starts too early not
that it ends too late. -/
inductive Cursor.Refuses (c : Cursor) : Request → ErrorKind → Rejection → Prop
  | moveByBefore {steps : Int} (before : c.position + steps < 0) :
      Refuses c (.moveBy steps) .outOfRange
        (.startBeforeZero "move_by".toList (c.position + steps))
  | moveByBeyond {steps : Int} (beyond : c.length < c.position + steps) :
      Refuses c (.moveBy steps) .outOfRange
        (.endAfterLength "move_by".toList (c.position + steps) c.length)
  | moveToBefore {target : Int} (before : target < 0) :
      Refuses c (.moveTo target) .outOfRange (.startBeforeZero "move_to".toList target)
  | moveToBeyond {target : Int} (beyond : c.length < target) :
      Refuses c (.moveTo target) .outOfRange (.endAfterLength "move_to".toList target c.length)
  | substringReversed {start : Int} {stop : Option Int} (reversed : stop.getD c.length < start) :
      Refuses c (.substring start stop) .invalidRange (.startAfterEnd start (stop.getD c.length))
  | substringBefore {start : Int} {stop : Option Int} (ordered : start ≤ stop.getD c.length)
      (before : start < 0) :
      Refuses c (.substring start stop) .outOfRange (.startBeforeZero "substring".toList start)
  | substringBeyond {start : Int} {stop : Option Int} (ordered : start ≤ stop.getD c.length)
      (inside : 0 ≤ start) (beyond : c.length < stop.getD c.length) :
      Refuses c (.substring start stop) .outOfRange
        (.endAfterLength "substring".toList (stop.getD c.length) c.length)
  | findNext {target : Value} (bad : ¬target.IsTarget) :
      Refuses c (.findNext target) .invalidArgument (.invalidTarget "find_next".toList target)
  | findNextOf {targets refused : Value} (bad : targets.RefusedFor refused) :
      Refuses c (.findNextOf targets) .invalidArgument
        (.invalidTarget "find_next_of".toList refused)
  | consume {targets refused : Value} (bad : targets.RefusedFor refused) :
      Refuses c (.consume targets) .invalidArgument (.invalidTarget "consume".toList refused)

def Cursor.FailsAs (c : Cursor) (request : Request) (kind : ErrorKind) : Prop :=
  ∃ rejected, c.perform request = .error (.rejected rejected) ∧ rejected.report.kind = kind

/-- A caller who is left with the failure can tell from its diagnostic what went wrong, by the
code that belongs to the kind of the error, and in which request. -/
def Failure.Explains (failure : Failure) (request : Request) : Prop :=
  ∃ rejected diagnostic, failure = .rejected rejected ∧
    rejected.report.diagnostic = some diagnostic ∧
    rejected.report.kind = .ofCode diagnostic.code ∧ diagnostic.operation = some request.name

end TextCursor
