import TextCursor.Binary.Basic
import TextCursor.Text.Basic

/-! Values that a caller may hand in as data or as a search target. Only some are
valid there; the others have to be named in a report. A plain value is one that its
name in a report tells in full: no float, no set and no view is part of it. -/
namespace TextCursor

inductive BytesKind where
  | constant
  | buffer
  | view
  deriving DecidableEq

inductive ItemsKind where
  | list
  | tuple
  | set
  deriving DecidableEq

inductive Value where
  | text (s : Text)
  | int (n : Int)
  | bool (b : Bool)
  | null
  | float (number : Binary)
  | bytes (kind : BytesKind) (data : List UInt8)
  | items (kind : ItemsKind) (elements : List Value)
  | mapping (entries : List (Value × Value))

inductive Value.IsPlain : Value → Prop
  | text (s : Text) : IsPlain (.text s)
  | int (n : Int) : IsPlain (.int n)
  | bool (b : Bool) : IsPlain (.bool b)
  | null : IsPlain .null
  | constant (data : List UInt8) : IsPlain (.bytes .constant data)
  | buffer (data : List UInt8) : IsPlain (.bytes .buffer data)
  | list {elements : List Value} (members : ∀ v ∈ elements, IsPlain v) :
      IsPlain (.items .list elements)
  | tuple {elements : List Value} (members : ∀ v ∈ elements, IsPlain v) :
      IsPlain (.items .tuple elements)
  | mapping {entries : List (Value × Value)} (keys : ∀ entry ∈ entries, IsPlain entry.1)
      (values : ∀ entry ∈ entries, IsPlain entry.2) : IsPlain (.mapping entries)

def BytesKind.name : BytesKind → Text
  | .constant => "bytes".toList
  | .buffer => "bytearray".toList
  | .view => "memoryview".toList

def ItemsKind.name : ItemsKind → Text
  | .list => "list".toList
  | .tuple => "tuple".toList
  | .set => "set".toList

def Value.kindName : Value → Text
  | .text _ => "str".toList
  | .int _ => "int".toList
  | .bool _ => "bool".toList
  | .null => "NoneType".toList
  | .float _ => "float".toList
  | .bytes kind _ => kind.name
  | .items kind _ => kind.name
  | .mapping _ => "dict".toList

end TextCursor
