import TextCursor.Proofs.Cursor.Refusal
import TextCursor.Proofs.Cursor.Run

/-! Lookups find what a move to the same place would find there. A move may also lead to the
end, where there is no character, and a lookup that goes further fails no differently. -/
namespace TextCursor.Cursor

variable {c : Cursor}

theorem current?_of_seek {moved : Cursor} {operation : Text} {target : Int}
    (sought : c.seek operation target = .ok moved) : moved.current? = c.charAt? target := by
  obtain ⟨lower, _, rfl⟩ := seek_eq_ok_iff.mp sought
  have landed : (target.toNat : Int) = target := Int.toNat_of_nonneg lower
  rw [current?, landed]
  rfl

theorem charAt?_of_seek_error {operation : Text} {target : Int} {rejected : Rejected}
    (refused : c.seek operation target = .error rejected) : c.charAt? target = none := by
  rw [charAt?, if_neg]
  intro inside
  rcases seek_eq_error_iff.mp refused with ⟨before, _⟩ | ⟨beyond, _⟩
  · omega
  · omega

theorem foretells_of_seek {query : Form → Request} {move : Request} {operation : Text}
    {target : Int} (queried : ∀ form, c.perform (query form) =
      .ok (form.answer (c.charAt? target), c))
    (moves : c.perform move =
      perform.lift ((c.seek operation target).map fun moved => (.moved, moved))) :
    c.Foretells query move := by
  intro form
  refine ⟨form.answer (c.charAt? target), queried form, ?_, ?_⟩
  · intro reply after led
    rw [moves] at led
    obtain ⟨moved, sought, same⟩ := lift_map_eq_ok_iff.mp led
    cases same
    rw [perform, current?_of_seek sought]
  · intro failure failed
    rw [moves] at failed
    obtain ⟨rejected, refused, _⟩ := mapError_map_eq_error_iff.mp failed
    rw [charAt?_of_seek_error refused]
    cases form <;> rfl

theorem answersAlike_of_lookup {query : Form → Request} {found : Option Char}
    (queried : ∀ form, c.perform (query form) = .ok (form.answer found, c)) :
    c.AnswersAlike query := by
  cases found with
  | none => exact .missing (queried .code) (queried .char)
  | some char => exact .found (queried .code) (queried .char)

/-- To look somewhere is to move there and look at the current character, whatever the offset
and wherever the cursor stands: nothing is found just where the move would be refused or
would lead to the end. To look back no distance is to look back by one. -/
theorem lookup_foretells_move (c : Cursor) (n : Int) :
    c.Foretells (.peek · n) (.moveBy n) ∧
    c.Foretells (.behind · n) (.moveBy (if n = 0 then -1 else -n)) ∧
    c.Foretells (.charAt · n) (.moveTo n) ∧
    c.AnswersAlike .current ∧ c.AnswersAlike (.charAt · n) ∧ c.AnswersAlike (.peek · n) ∧
    c.AnswersAlike (.behind · n) := by
  have back : c.position + (if n = 0 then -1 else -n) = c.position - if n = 0 then 1 else n := by
    split <;> omega
  have behind (form : Form) : c.perform (.behind form n) =
      .ok (form.answer (c.charAt? (c.position + if n = 0 then -1 else -n)), c) := by
    rw [back]
    rfl
  exact ⟨foretells_of_seek (fun _ => rfl) rfl, foretells_of_seek behind rfl,
    foretells_of_seek (fun _ => rfl) rfl, answersAlike_of_lookup fun _ => rfl,
    answersAlike_of_lookup fun _ => rfl, answersAlike_of_lookup fun _ => rfl,
    answersAlike_of_lookup fun _ => rfl⟩

end TextCursor.Cursor
