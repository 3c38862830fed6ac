import TextCursor.Proofs.Text.Spelling
import TextCursor.Value.Literal

/-! A literal tells its value, however deep the value is nested. The first characters tell of
which kind it is, and each part can be told from what follows it, since that begins no literal. -/
namespace TextCursor

open Text

namespace Value

def outline : Value → Value
  | .text _ => .text []
  | .int _ => .int 0
  | .bytes kind _ => .bytes kind []
  | .items kind _ => .items kind []
  | .mapping _ => .mapping []
  | v => v

end Value

theorem commaSeparated_cons (part : Text) (parts : List Text) :
    commaSeparated (part :: parts) = part ++ parts.flatMap (", ".toList ++ ·) := by
  induction parts generalizing part with
  | nil => rfl
  | cons next parts ih =>
    rw [List.flatMap_cons, ← List.append_assoc, List.append_assoc, List.append_assoc, ← ih next]
    rfl

namespace ItemsKind

theorem enclose_list (parts : List Text) :
    list.enclose parts = '[' :: (commaSeparated parts ++ [']']) := rfl

def tupleEnd : List Text → Text
  | [_] => ",)".toList
  | _ => [')']

theorem enclose_tuple (parts : List Text) :
    tuple.enclose parts = '(' :: (commaSeparated parts ++ tupleEnd parts) := by
  match parts with
  | [] | _ :: _ :: _ => rfl
  | [part] =>
    rw [commaSeparated_cons, List.flatMap_nil, List.append_nil]
    rfl

end ItemsKind

def outlineAt? : Text → Option Value
  | [] => none
  | c :: rest =>
    if isNumeric c then some (.int 0)
    else if c = apostrophe ∨ c = doubleQuote then some (.text [])
    else if c = 'b' then
      if rest.head? = some 'y' then some (.bytes .buffer []) else some (.bytes .constant [])
    else if c = '[' then some (.items .list [])
    else if c = '(' then some (.items .tuple [])
    else if c = '\x7b' then some (.mapping [])
    else if c = 'T' then some (.bool true)
    else if c = 'F' then some (.bool false)
    else if c = 'N' then some .null
    else none

theorem outlineAt?_ofInt_append (n : Int) (x : Text) :
    outlineAt? (ofInt n ++ x) = some (.int 0) := by
  cases digits : ofInt n with
  | nil => exact absurd digits (ofInt_ne_nil n)
  | cons c rest =>
    have numeric : isNumeric c := isNumeric_of_mem_ofInt (n := n) (digits ▸ List.mem_cons_self)
    exact if_pos numeric

theorem not_isNumeric_of_outlineAt? {x : Text} (follows : outlineAt? x = none) :
    ∀ c ∈ x.head?, ¬isNumeric c := by
  intro c member numeric
  cases x with
  | nil => cases member
  | cons d rest =>
    cases Option.some.inj member
    rw [outlineAt?, if_pos numeric] at follows
    cases follows

namespace Value

def entryLiteral (entry : Value × Value) : Text :=
  entry.1.literal ++ ": ".toList ++ entry.2.literal

theorem entryLiterals_eq_map (entries : List (Value × Value)) :
    entryLiterals entries = entries.map entryLiteral := by
  induction entries with
  | nil => rfl
  | cons entry rest ih => simp [entryLiterals, entryLiteral, ih]

theorem literal_items (kind : ItemsKind) (elements : List Value) :
    (items kind elements).literal = kind.enclose (elements.map literal) :=
  congrArg kind.enclose (literals_eq_map elements)

theorem literal_mapping (entries : List (Value × Value)) :
    (mapping entries).literal = braced (commaSeparated (entries.map entryLiteral)) :=
  congrArg (fun parts => braced (commaSeparated parts)) (entryLiterals_eq_map entries)

variable {v w : Value} {x y : Text}

theorem outlineAt?_literal_append (plain : v.IsPlain) (x : Text) :
    outlineAt? (v.literal ++ x) = some v.outline := by
  cases plain with
  | text s =>
    have opens {mark : Char} (rest : Text) (isMark : IsMark mark) :
        outlineAt? (mark :: rest) = some (.text []) := by
      rcases isMark with rfl | rfl
      · rfl
      · rfl
    exact opens _ (isMark_quotationMark s)
  | int n => exact outlineAt?_ofInt_append n x
  | bool b =>
    cases b with
    | false | true => rfl
  | constant data =>
    have opens {mark : Char} (rest : Text) (isMark : IsMark mark) :
        outlineAt? ('b' :: mark :: rest) = some (.bytes .constant []) := by
      rcases isMark with rfl | rfl
      · rfl
      · rfl
    exact opens _ (isMark_quotationMark (ofBytes data))
  | tuple =>
    rw [literal_items, ItemsKind.enclose_tuple]
    rfl
  | null | buffer | list | mapping => rfl

theorem outlineAt?_literal_append_ne_none (v : Value) (x : Text) (plain : v.IsPlain) :
    outlineAt? (v.literal ++ x) ≠ none := by
  rw [outlineAt?_literal_append plain]
  exact Option.some_ne_none _

theorem outline_eq_of_literal_append (plain : v.IsPlain) (plain' : w.IsPlain)
    (same : v.literal ++ x = w.literal ++ y) : v.outline = w.outline := by
  have outlines := congrArg outlineAt? same
  rw [outlineAt?_literal_append plain, outlineAt?_literal_append plain'] at outlines
  exact Option.some.inj outlines

end Value

section Sequences

/-- An item can be told from any other of its sort by its literal, where no literal follows. -/
def IsTold {α : Type} (spell : α → Text) (sort : α → Prop) (a : α) : Prop :=
  ∀ ⦃b : α⦄ ⦃x y : Text⦄, sort b → outlineAt? x = none → outlineAt? y = none →
    spell a ++ x = spell b ++ y → a = b ∧ x = y

structure IsClosing (x : Text) : Prop where
  opensNone : outlineAt? x = none
  separatesNone : ¬", ".toList <+: x

theorem isClosing_cons {c : Char} (closing : c ∈ [']', ')', '\x7d']) (x : Text) :
    IsClosing (c :: x) := by
  simp only [List.mem_cons, List.not_mem_nil, or_false] at closing
  apply IsClosing.mk
  · rcases closing with rfl | rfl | rfl
    all_goals rfl
  · intro ⟨rest, same⟩
    rw [← (List.cons.inj same).1] at closing
    exact absurd closing (by decide)

theorem isClosing_comma (x : Text) : IsClosing (',' :: ')' :: x) := by
  apply IsClosing.mk
  · rfl
  · intro ⟨rest, same⟩
    exact absurd (List.cons.inj (List.cons.inj same).2).1 (by decide)

variable {α : Type} {spell : α → Text} {sort : α → Prop} {as bs : List α} {x y : Text}

theorem outlineAt?_flatMap_append (closes : IsClosing x) :
    outlineAt? (as.flatMap (fun a => ", ".toList ++ spell a) ++ x) = none := by
  cases as with
  | nil => exact closes.opensNone
  | cons => rfl

theorem flatMap_separated_append_inj (told : ∀ a ∈ as, IsTold spell sort a)
    (sorted : ∀ b ∈ bs, sort b) (closes : IsClosing x) (closes' : IsClosing y)
    (same : as.flatMap (fun a => ", ".toList ++ spell a) ++ x =
      bs.flatMap (fun b => ", ".toList ++ spell b) ++ y) : as = bs ∧ x = y := by
  induction as generalizing bs with
  | nil =>
    cases bs with
    | nil => exact ⟨rfl, same⟩
    | cons b bs =>
      rw [List.flatMap_cons, List.append_assoc, List.append_assoc] at same
      exact absurd ⟨_, same.symm⟩ closes.separatesNone
  | cons a as ih =>
    rw [List.flatMap_cons, List.append_assoc, List.append_assoc] at same
    cases bs with
    | nil => exact absurd ⟨_, same⟩ closes'.separatesNone
    | cons b bs =>
      rw [List.flatMap_cons, List.append_assoc, List.append_assoc] at same
      obtain ⟨first, others⟩ := List.forall_mem_cons.mp told
      obtain ⟨first', others'⟩ := List.forall_mem_cons.mp sorted
      obtain ⟨rfl, rest⟩ := first first' (outlineAt?_flatMap_append closes)
        (outlineAt?_flatMap_append closes') (List.append_cancel_left same)
      obtain ⟨rfl, rfl⟩ := ih others others' rest
      exact ⟨rfl, rfl⟩

/-- A sequence of items that can be told is told by their literals with commas between them. -/
theorem commaSeparated_append_inj
    (opens : ∀ (a : α) (x : Text), sort a → outlineAt? (spell a ++ x) ≠ none)
    (told : ∀ a ∈ as, IsTold spell sort a) (sorted : ∀ a ∈ as, sort a) (sorted' : ∀ b ∈ bs, sort b)
    (closes : IsClosing x) (closes' : IsClosing y)
    (same : commaSeparated (as.map spell) ++ x = commaSeparated (bs.map spell) ++ y) :
    as = bs ∧ x = y := by
  cases as with
  | nil =>
    cases bs with
    | nil => exact ⟨rfl, same⟩
    | cons b bs =>
      rw [List.map_cons, commaSeparated_cons, List.append_assoc] at same
      have opened := congrArg outlineAt? same
      exact absurd (opened.symm.trans closes.opensNone) (opens b _ (sorted' b List.mem_cons_self))
  | cons a as =>
    rw [List.map_cons, commaSeparated_cons, List.append_assoc, List.flatMap_map] at same
    cases bs with
    | nil =>
      have opened := congrArg outlineAt? same
      exact absurd (opened.trans closes'.opensNone) (opens a _ (sorted a List.mem_cons_self))
    | cons b bs =>
      rw [List.map_cons, commaSeparated_cons, List.append_assoc, List.flatMap_map] at same
      obtain ⟨first, others⟩ := List.forall_mem_cons.mp told
      obtain ⟨first', others'⟩ := List.forall_mem_cons.mp sorted'
      obtain ⟨rfl, rest⟩ := first first' (outlineAt?_flatMap_append closes)
        (outlineAt?_flatMap_append closes') same
      obtain ⟨rfl, rfl⟩ := flatMap_separated_append_inj others others' closes closes' rest
      exact ⟨rfl, rfl⟩

end Sequences

theorem isClosing_tupleEnd (parts : List Text) (x : Text) :
    IsClosing (ItemsKind.tupleEnd parts ++ x) := by
  unfold ItemsKind.tupleEnd
  split
  · exact isClosing_comma x
  · exact isClosing_cons (by decide) x

namespace Value

section Nested

variable {elements : List Value} {entries : List (Value × Value)}

theorem IsPlain.of_mem_items {kind : ItemsKind} (plain : (items kind elements).IsPlain) :
    ∀ v ∈ elements, v.IsPlain := by
  cases plain with
  | list members | tuple members => exact members

theorem exists_items_of_outline {v : Value} {kind : ItemsKind}
    (same : v.outline = items kind []) : ∃ elements, v = items kind elements := by
  cases v with
  | items other elements =>
    cases same
    exact ⟨elements, rfl⟩
  | _ => cases same

/-- Items that a character opens and that end in what closes a sequence. -/
theorem isTold_items {kind : ItemsKind} {opening : Char} {ending : List Text → Text}
    (encloses : ∀ parts, kind.enclose parts = opening :: (commaSeparated parts ++ ending parts))
    (closes : ∀ parts x, IsClosing (ending parts ++ x)) (plain : (items kind elements).IsPlain)
    (told : ∀ v ∈ elements, IsTold literal IsPlain v) :
    IsTold literal IsPlain (items kind elements) := by
  intro w x y plain' _ _ same
  have outlines := outline_eq_of_literal_append plain plain' same
  obtain ⟨others, rfl⟩ := exists_items_of_outline outlines.symm
  simp only [literal_items, encloses, List.cons_append, List.append_assoc] at same
  obtain ⟨rfl, rest⟩ := commaSeparated_append_inj outlineAt?_literal_append_ne_none told
    plain.of_mem_items plain'.of_mem_items (closes _ x) (closes _ y) (List.cons.inj same).2
  exact ⟨rfl, List.append_cancel_left rest⟩

def IsPlainEntry (entry : Value × Value) : Prop := entry.1.IsPlain ∧ entry.2.IsPlain

theorem entryLiteral_append (entry : Value × Value) (x : Text) :
    entryLiteral entry ++ x = entry.1.literal ++ (": ".toList ++ (entry.2.literal ++ x)) := by
  rw [entryLiteral, List.append_assoc, List.append_assoc]

theorem outlineAt?_entryLiteral_append_ne_none (entry : Value × Value) (x : Text)
    (plain : IsPlainEntry entry) : outlineAt? (entryLiteral entry ++ x) ≠ none := by
  rw [entryLiteral_append]
  exact outlineAt?_literal_append_ne_none entry.1 _ plain.1

theorem isTold_entryLiteral {entry : Value × Value} (key : IsTold literal IsPlain entry.1)
    (value : IsTold literal IsPlain entry.2) : IsTold entryLiteral IsPlainEntry entry := by
  intro other x y plain ends ends' same
  rw [entryLiteral_append, entryLiteral_append] at same
  obtain ⟨keys, rest⟩ := key plain.1 rfl rfl same
  obtain ⟨values, rest⟩ := value plain.2 ends ends' (List.append_cancel_left rest)
  exact ⟨Prod.ext keys values, rest⟩

theorem isTold_mapping (keys : ∀ entry ∈ entries, entry.1.IsPlain)
    (values : ∀ entry ∈ entries, entry.2.IsPlain)
    (toldKeys : ∀ entry ∈ entries, IsTold literal IsPlain entry.1)
    (toldValues : ∀ entry ∈ entries, IsTold literal IsPlain entry.2) :
    IsTold literal IsPlain (mapping entries) := by
  intro w x y plain' _ _ same
  have outlines := outline_eq_of_literal_append (.mapping keys values) plain' same
  have told : ∀ entry ∈ entries, IsTold entryLiteral IsPlainEntry entry := fun entry member =>
    isTold_entryLiteral (toldKeys entry member) (toldValues entry member)
  have plain : ∀ entry ∈ entries, IsPlainEntry entry := fun entry member =>
    ⟨keys entry member, values entry member⟩
  cases plain'
  case mapping keys' values' =>
    simp only [literal_mapping, braced, List.cons_append, List.append_assoc] at same
    obtain ⟨rfl, rest⟩ := commaSeparated_append_inj outlineAt?_entryLiteral_append_ne_none told
      plain (fun entry member => ⟨keys' entry member, values' entry member⟩)
      (isClosing_cons (by decide) x) (isClosing_cons (by decide) y) (List.cons.inj same).2
    exact ⟨rfl, (List.cons.inj rest).2⟩
  all_goals cases outlines

end Nested

/-- Induction on the value whose literal is on the left. -/
theorem IsPlain.isTold {v : Value} (plain : v.IsPlain) : IsTold literal IsPlain v := by
  induction plain with
  | text s =>
    intro w x y plain' ends ends' same
    have outlines := outline_eq_of_literal_append (.text s) plain' same
    cases plain'
    case text t =>
      obtain ⟨rfl, rest⟩ := quote_append_inj same
      exact ⟨rfl, rest⟩
    all_goals cases outlines
  | int n =>
    intro w x y plain' ends ends' same
    have outlines := outline_eq_of_literal_append (.int n) plain' same
    cases plain'
    case int m =>
      obtain ⟨rfl, rest⟩ := ofInt_append_inj (not_isNumeric_of_outlineAt? ends)
        (not_isNumeric_of_outlineAt? ends') same
      exact ⟨rfl, rest⟩
    all_goals cases outlines
  | bool b =>
    intro w x y plain' ends ends' same
    have outlines := outline_eq_of_literal_append (.bool b) plain' same
    cases plain'
    case bool d =>
      cases outlines
      exact ⟨rfl, List.append_cancel_left same⟩
    all_goals cases outlines
  | null =>
    intro w x y plain' ends ends' same
    have outlines := outline_eq_of_literal_append .null plain' same
    cases plain'
    case null => exact ⟨rfl, List.append_cancel_left same⟩
    all_goals cases outlines
  | constant data =>
    intro w x y plain' ends ends' same
    have outlines := outline_eq_of_literal_append (.constant data) plain' same
    cases plain'
    case constant other =>
      obtain ⟨rfl, rest⟩ := quoteBytes_append_inj same
      exact ⟨rfl, rest⟩
    all_goals cases outlines
  | buffer data =>
    intro w x y plain' ends ends' same
    have outlines := outline_eq_of_literal_append (.buffer data) plain' same
    cases plain'
    case buffer other =>
      obtain ⟨rfl, rest⟩ := quoteByteBuffer_append_inj same
      exact ⟨rfl, rest⟩
    all_goals cases outlines
  | list members ih =>
    exact isTold_items ItemsKind.enclose_list (fun _ => isClosing_cons (by decide)) (.list members)
      ih
  | tuple members ih =>
    exact isTold_items ItemsKind.enclose_tuple isClosing_tupleEnd (.tuple members) ih
  | mapping keys values ihKeys ihValues => exact isTold_mapping keys values ihKeys ihValues

/-- Plain values are told apart by their literals. -/
theorem literal_inj {v w : Value} (plain : v.IsPlain) (plain' : w.IsPlain) :
    v.literal = w.literal ↔ v = w := by
  apply Iff.intro
  · intro same
    exact (plain.isTold plain' rfl rfl (congrArg (· ++ []) same)).1
  · intro equal
    rw [equal]

end Value

end TextCursor
