import TextCursor.Value.Literal

/-! Sets and mappings from members and entries as they come. Equal keys are one
key: the first of them stays, with the last value given for it. -/
namespace TextCursor.Value

mutual

/-- One form for equal keys: a truth value or a float that equals an integer
counts as that integer, and bytes count as such whatever holds them. What is not
a number equals nothing and has no form. -/
def keyForm? : Value → Option Value
  | .bool b => some (.int b.toNat)
  | .bytes _ data => some (.bytes .constant data)
  | .float .notANumber => none
  | .float number =>
    match number.toInt? with
    | some n => some (.int n)
    | none => some (.float number)
  | .items kind elements => (keyForms? elements).map (.items kind)
  | v => some v

def keyForms? : List Value → Option (List Value)
  | [] => some []
  | v :: rest => do return (← keyForm? v) :: (← keyForms? rest)

end

def keyText? (v : Value) : Option Text := v.keyForm?.map literal

structure Entry where
  label : Option Text
  key : Value
  value : Value

namespace Entry

def of (key value : Value) : Entry := ⟨key.keyText?, key, value⟩

def sameKey (a b : Entry) : Bool :=
  match a.label, b.label with
  | some a, some b => a = b
  | _, _ => false

def insert (entries : List Entry) (entry : Entry) : List Entry :=
  if entries.any (sameKey entry) then
    entries.map fun kept => if kept.sameKey entry then { kept with value := entry.value } else kept
  else entries ++ [entry]

def collect (entries : List Entry) : List Entry := entries.foldl insert []

end Entry

def setOf (members : List Value) : Value :=
  .items .set ((Entry.collect (members.map fun v => .of v .null)).map (·.key))

def mappingOf (entries : List (Value × Value)) : Value :=
  .mapping ((Entry.collect (entries.map fun (key, value) => .of key value)).map fun entry =>
    (entry.key, entry.value))

end TextCursor.Value
