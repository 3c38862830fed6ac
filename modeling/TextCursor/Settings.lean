import TextCursor.Text.Basic

/-! Fixed values that callers may read, under the names by which they are known. -/
namespace TextCursor.Settings

def contextWidth : Nat := 10

def contentLimit : Nat := 100

inductive Setting where
  | text (s : Text)
  | number (n : Nat)
  deriving DecidableEq

def published : List (Text × Setting) :=
  [("DEFAULT_ENCODING".toList, .text "utf-8".toList),
   ("LINE_FEED".toList, .text ['\n']),
   ("CARRIAGE_RETURN".toList, .text ['\r']),
   ("CRLF".toList, .text ['\r', '\n']),
   ("REPR_CONTEXT".toList, .number contextWidth),
   ("MAX_DIAGNOSTIC_CONTENT".toList, .number contentLimit)]

end TextCursor.Settings
