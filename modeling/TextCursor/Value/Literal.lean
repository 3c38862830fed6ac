import TextCursor.Binary.Decimal
import TextCursor.Text.Quoted
import TextCursor.Value.Basic

/-! The literal that names a value in a report. -/
namespace TextCursor

def commaSeparated (parts : List Text) : Text := List.intercalate ", ".toList parts

def braced (body : Text) : Text := '\x7b' :: body ++ ['\x7d']

def ItemsKind.enclose : ItemsKind → List Text → Text
  | .list, parts => '[' :: commaSeparated parts ++ [']']
  | .tuple, [part] => '(' :: part ++ ",)".toList
  | .tuple, parts => '(' :: commaSeparated parts ++ [')']
  | .set, [] => "set()".toList
  | .set, parts => braced (commaSeparated parts)

/-- A view has no contents of its own to show. -/
def BytesKind.literal : BytesKind → List UInt8 → Text
  | .constant, data => Text.quoteBytes data
  | .buffer, data => Text.quoteByteBuffer data
  | .view, _ => "<memory>".toList

namespace Value

mutual

def literal : Value → Text
  | .text s => s.quote
  | .int n => Text.ofInt n
  | .bool true => "True".toList
  | .bool false => "False".toList
  | .null => "None".toList
  | .float number => number.literal
  | .bytes kind data => kind.literal data
  | .items kind elements => kind.enclose (literals elements)
  | .mapping entries => braced (commaSeparated (entryLiterals entries))

def literals : List Value → List Text
  | [] => []
  | v :: rest => literal v :: literals rest

def entryLiterals : List (Value × Value) → List Text
  | [] => []
  | (k, v) :: rest => (literal k ++ ": ".toList ++ literal v) :: entryLiterals rest

end

theorem literals_eq_map (vs : List Value) : literals vs = vs.map literal := by
  induction vs with
  | nil => rfl
  | cons v rest ih => simp [literals, ih]

end Value

end TextCursor
