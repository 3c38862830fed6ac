import TextCursor.Diagnostic.Basic
import TextCursor.Value.Literal

/-! Why a request is rejected, and the diagnostic that says so. -/
namespace TextCursor

inductive Rejection where
  | invalidTarget (operation : Text) (target : Value)
  | startBeforeZero (operation : Text) (position : Int)
  | endAfterLength (operation : Text) (position length : Int)
  | startAfterEnd (start stop : Int)

namespace Rejection

def code : Rejection → Code
  | .invalidTarget .. => .invalidArgument
  | .startBeforeZero .. | .endAfterLength .. => .outOfRange
  | .startAfterEnd .. => .invalidRange

def operation : Rejection → Text
  | .invalidTarget operation _ => operation
  | .startBeforeZero operation _ => operation
  | .endAfterLength operation _ _ => operation
  | .startAfterEnd .. => "substring".toList

def target? : Rejection → Option Value
  | .invalidTarget _ target => some target
  | .startBeforeZero .. | .endAfterLength .. | .startAfterEnd .. => none

def position : Rejection → Option Int
  | .invalidTarget .. => none
  | .startBeforeZero _ position => some position
  | .endAfterLength _ position _ => some position
  | .startAfterEnd start _ => some start

def message : Rejection → Text
  | .invalidTarget operation target =>
    operation ++ "() expects single characters, got ".toList ++ target.literal
  | .startBeforeZero _ position =>
    "Start position ".toList ++ Text.ofInt position ++ " is less than zero".toList
  | .endAfterLength _ position length =>
    "End position ".toList ++ Text.ofInt position ++
      " is greater than the string length ".toList ++ Text.ofInt length
  | .startAfterEnd start stop =>
    "Start (".toList ++ Text.ofInt start ++ ") can not be greater than end (".toList ++
      Text.ofInt stop ++ [')']

def hint : Rejection → Text
  | .invalidTarget .. => "Pass a one-character string or an integer character code".toList
  | .startBeforeZero .. => "Positions must be >= 0".toList
  | .endAfterLength _ _ length => "Positions must be <= ".toList ++ Text.ofInt length
  | .startAfterEnd .. => "Swap the arguments or check how the range was computed".toList

def diagnostic (r : Rejection) : Diagnostic where
  code := r.code
  message := r.message
  position := r.position
  hint := some r.hint
  operation := some r.operation

end Rejection

end TextCursor
