import TextCursor.Location.Basic

/-! Lines and columns by lookup. The offsets at which lines start are collected
once; a binary search then finds the line of an offset. The rounds of the search are
also given one by one. -/
namespace TextCursor

/-- How many entries of an ascending array are at most `key`, if all before
`low` are and none from `high` on is. -/
def upperBound (entries : Array Nat) (key low high : Nat) (bound : high ≤ entries.size) : Nat :=
  if _open : low < high then
    let middle := (low + high) / 2
    if key < entries[middle] then upperBound entries key low middle (by omega)
    else upperBound entries key (middle + 1) high bound
  else low
termination_by high - low

theorem upperBound_le (entries : Array Nat) (key low high : Nat) (bound : high ≤ entries.size)
    (ordered : low ≤ high) : upperBound entries key low high bound ≤ high := by
  fun_induction upperBound with
  | case1 low high bound _open middle less ih => have := ih (by omega); omega
  | case2 low high bound _open middle less ih => exact ih (by omega)
  | case3 => omega

/-- The range from `low` up to `high` is halved until nothing of it is left. Each round looks at
the entry in the middle, which has to be there, and goes on below it or above it. -/
inductive Bisects (entries : Array Nat) (key : Nat) : Nat → Nat → Nat → Prop
  | closed {low high : Nat} (empty : high ≤ low) : Bisects entries key low high low
  | left {low high entry boundary : Nat} (opened : low < high)
      (found : entries[(low + high) / 2]? = some entry) (less : key < entry)
      (rest : Bisects entries key low ((low + high) / 2) boundary) :
      Bisects entries key low high boundary
  | right {low high entry boundary : Nat} (opened : low < high)
      (found : entries[(low + high) / 2]? = some entry) (reached : entry ≤ key)
      (rest : Bisects entries key ((low + high) / 2 + 1) high boundary) :
      Bisects entries key low high boundary

structure LineTable where
  starts : Array Nat
  sourceLength : Nat
  starts_pos : 0 < starts.size

namespace LineTable

def startsFrom (offset : Nat) : Text → List Nat
  | [] => []
  | c :: rest =>
    if c = '\n' then (offset + 1) :: startsFrom (offset + 1) rest else startsFrom (offset + 1) rest

def ofText (source : Text) : LineTable where
  starts := (0 :: startsFrom 0 source).toArray
  sourceLength := source.length
  starts_pos := by simp

def lineCount (table : LineTable) : Nat := table.starts.size

def clamp (table : LineTable) (position : Int) : Nat := min position.toNat table.sourceLength

def linesUpTo (table : LineTable) (position : Nat) : Nat :=
  upperBound table.starts position 0 table.starts.size (Nat.le_refl _)

theorem linesUpTo_le (table : LineTable) (position : Nat) :
    table.linesUpTo position ≤ table.starts.size :=
  upperBound_le _ _ _ _ _ (Nat.zero_le _)

def locate (table : LineTable) (position : Int) : Location :=
  let offset := table.clamp position
  let index := table.linesUpTo offset - 1
  have _inside : index < table.starts.size := by
    have := table.linesUpTo_le offset
    have := table.starts_pos
    omega
  ⟨index + 1, offset - table.starts[index] + 1⟩

end LineTable

end TextCursor
