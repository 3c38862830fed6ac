import TextCursor.Diagnostic.Format
import TextCursor.Diagnostic.Rejection
import TextCursor.Location.Basic

/-! Errors as a caller meets them: a kind, a text, mostly a diagnostic, and the
families under which the kind can be caught. -/
namespace TextCursor

inductive ErrorKind where
  | general
  | invalidArgument
  | outOfRange
  | invalidRange
  deriving DecidableEq

inductive ErrorFamily where
  | kind (kind : ErrorKind)
  | badValue
  | badIndex
  | failedLookup
  deriving DecidableEq

namespace ErrorKind

def name : ErrorKind → Text
  | .general => "StringWalkerError".toList
  | .invalidArgument => "InvalidArgumentError".toList
  | .outOfRange => "OutOfRangeError".toList
  | .invalidRange => "InvalidRangeError".toList

def families : ErrorKind → List ErrorFamily
  | .general => [.kind .general]
  | .invalidArgument => [.kind .general, .kind .invalidArgument, .badValue]
  | .outOfRange => [.kind .general, .kind .outOfRange, .badIndex, .failedLookup]
  | .invalidRange => [.kind .general, .kind .invalidRange, .badValue]

def ofCode : Code → ErrorKind
  | .invalidArgument => .invalidArgument
  | .outOfRange => .outOfRange
  | .invalidRange => .invalidRange

end ErrorKind

structure ErrorReport where
  kind : ErrorKind
  message : Text
  diagnostic : Option Diagnostic
  deriving DecidableEq

namespace ErrorReport

def ofMessage (kind : ErrorKind) (message : Text) : ErrorReport := ⟨kind, message, none⟩

def ofDiagnostic (kind : ErrorKind) (d : Diagnostic) : ErrorReport := ⟨kind, d.format, some d⟩

end ErrorReport

/-- A rejection as it is raised. The kind is chosen where the request is checked, and apart from
the diagnostic and its code. -/
structure Rejected where
  kind : ErrorKind
  rejection : Rejection

namespace Rejected

def diagnostic (r : Rejected) : Diagnostic := r.rejection.diagnostic

def report (r : Rejected) : ErrorReport := .ofDiagnostic r.kind r.diagnostic

end Rejected

/-- A negative offset has no diagnostic where only a location was asked for. -/
inductive Failure where
  | rejected (rejected : Rejected)
  | negativePosition (error : Location.NegativePosition)

namespace Failure

def message : Failure → Text
  | .rejected r => r.report.message
  | .negativePosition error => error.message

def diagnostic? : Failure → Option Diagnostic
  | .rejected r => some r.diagnostic
  | .negativePosition _ => none

end Failure

end TextCursor
