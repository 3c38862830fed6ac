import TextCursor.Text.Numeral

/-! A flat JSON object on one line, members in the order given. -/
namespace TextCursor.Json

inductive Scalar where
  | text (s : Text)
  | number (n : Int)
  deriving DecidableEq

def escapeChar (c : Char) : Text :=
  if c = '\x22' ∨ c = '\\' then ['\\', c]
  else if c = '\n' then ['\\', 'n']
  else if c = '\r' then ['\\', 'r']
  else if c = '\t' then ['\\', 't']
  else if c = '\x0c' then ['\\', 'f']
  else if c = '\x08' then ['\\', 'b']
  else if c.toNat < 0x20 then '\\' :: 'u' :: Text.hex 4 c.toNat
  else [c]

def string (s : Text) : Text := '\x22' :: s.flatMap escapeChar ++ ['\x22']

def Scalar.render : Scalar → Text
  | .text s => string s
  | .number n => Text.ofInt n

def member (name : Text) (value : Scalar) : Text := string name ++ ": ".toList ++ value.render

def object (members : List (Text × Scalar)) : Text :=
  '\x7b' :: List.intercalate ", ".toList (members.map fun (name, value) => member name value) ++
    ['\x7d']

end TextCursor.Json
