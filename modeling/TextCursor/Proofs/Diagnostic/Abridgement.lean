import Mathlib.Data.List.Forall2
import TextCursor.Diagnostic.Excerpt
import TextCursor.Proofs.Diagnostic.Json

/-! A formatter that shortens renders what is left of a diagnostic. Its layouts cut off the same
texts at the same limit, whatever its sign, and decide alike which parts there are, so that they
can as well be given a diagnostic whose texts have been cut off before. -/
namespace TextCursor

/-- A part that may be missing is there on both sides or on none. -/
theorem forall₂_toList_map {α β γ : Type} {R : β → γ → Prop} {f : α → β} {g : α → γ}
    (part : Option α) (related : ∀ a, R (f a) (g a)) :
    List.Forall₂ R (part.map f).toList (part.map g).toList := by
  cases part with
  | none => exact .nil
  | some a => exact .cons (related a) .nil

namespace Text

variable {limit : Int} {s : Text}

theorem abridge_of_le (short : s.length ≤ limit) : s.abridge limit = s := if_pos short

theorem abridge_of_lt (long : limit < s.length) :
    s.abridge limit = s.clip limit ++ "...".toList := by
  rw [abridge, if_neg (Int.not_le.mpr long), clip]
  by_cases negative : limit < 0
  · have kept : (s.length + limit).toNat = s.length - limit.natAbs := by omega
    rw [if_pos negative, if_pos negative, kept]
  · rw [if_neg negative, if_neg negative]

theorem abridge_ne_nil (limit : Int) (filled : s ≠ []) : s.abridge limit ≠ [] := by
  by_cases short : s.length ≤ limit
  · rwa [abridge_of_le short]
  · rw [abridge_of_lt (Int.not_le.mp short)]
    exact List.append_ne_nil_of_right_ne_nil _ (by decide)

theorem abridge_natCast (limit : Nat) (s : Text) : s.abridge limit = s.excerpt limit := by
  have notNegative : ¬(limit : Int) < 0 := by omega
  rw [abridge, excerpt, if_neg notNegative, Int.toNat_natCast]
  by_cases long : limit < s.length
  · rw [if_neg (by omega), if_pos long]
  · rw [if_pos (by omega), if_neg long, List.append_nil,
      List.take_of_length_le (Nat.not_lt.mp long)]

/-- What is cut off once is cut off at the same place again, and marked alike. -/
theorem excerpt_excerpt (limit : Nat) (s : Text) :
    (s.excerpt limit).excerpt limit = s.excerpt limit := by
  by_cases long : limit < s.length
  · have cut : s.excerpt limit = s.take limit ++ "...".toList := by rw [excerpt, if_pos long]
    have taken : (s.take limit).length = limit := List.length_take_of_le (Nat.le_of_lt long)
    have longer : limit < (s.take limit ++ "...".toList).length := by
      rw [List.length_append, taken]
      exact Nat.lt_add_of_pos_right (by decide)
    rw [cut, excerpt, if_pos longer, List.take_left' taken]
  · have kept : s.excerpt limit = s := by
      rw [excerpt, if_neg long, List.append_nil, List.take_of_length_le (Nat.not_lt.mp long)]
    rw [kept, kept]

theorem abridge_abridge {limit : Int} (lower : 0 ≤ limit) (s : Text) :
    (s.abridge limit).abridge limit = s.abridge limit := by
  obtain ⟨count, rfl⟩ := Int.eq_ofNat_of_zero_le lower
  rw [abridge_natCast, abridge_natCast, excerpt_excerpt]

end Text

namespace Diagnostic

theorem givenHint_abridge (limit : Int) (d : Diagnostic) :
    (d.abridge limit).givenHint = d.givenHint.map (Text.abridge limit) := by
  rw [givenHint, givenHint, abridge]
  cases d.hint with
  | none => rfl
  | some hint =>
    by_cases empty : hint = []
    · subst empty
      rfl
    · have filled : hint.isEmpty = false := List.isEmpty_eq_false_iff.mpr empty
      have filled' : (Text.abridge limit hint).isEmpty = false :=
        List.isEmpty_eq_false_iff.mpr (Text.abridge_ne_nil limit empty)
      simp [Option.filter, empty, filled, filled']

theorem abridge_abridge {limit : Int} (lower : 0 ≤ limit) (d : Diagnostic) :
    (d.abridge limit).abridge limit = d.abridge limit := by
  have hints : (d.abridge limit).hint.map
      (fun hint => if hint = [] then hint else Text.abridge limit hint) =
        (d.abridge limit).hint := by
    rw [abridge]
    cases d.hint with
    | none => rfl
    | some hint =>
      by_cases empty : hint = []
      · simp [empty]
      · simp [empty, Text.abridge_ne_nil limit empty, Text.abridge_abridge lower]
  rw [abridge, hints]
  simp only [abridge, Text.abridge_abridge lower]

end Diagnostic

namespace Formatter

variable {f : Formatter}

theorem content_eq_abridge (shortens : f.shorten = true) (s : Text) :
    f.content s = s.abridge f.limit := by
  rw [content, shortens, Bool.true_and]
  by_cases long : f.limit < s.length
  · rw [if_pos (decide_eq_true long), Text.abridge_of_lt long]
  · rw [if_neg (by simpa using long), Text.abridge_of_le (Int.not_lt.mp long)]

theorem content_shortened (f : Formatter) (s : Text) :
    content { f with shorten := true } s = Text.abridge f.limit s :=
  content_eq_abridge rfl s

theorem content_whole (f : Formatter) (s : Text) : content { f with shorten := false } s = s :=
  content_of_whole rfl s

/-- What a rendering depends on: of the message and the hint only on the content shown. -/
theorem format_congr {f g : Formatter} {d e : Diagnostic} (layout : f.layout = g.layout)
    (color : f.color = g.color) (code : d.code = e.code) (position : d.position = e.position)
    (operation : d.operation = e.operation) (severity : d.severity = e.severity)
    (message : f.content d.message = g.content e.message)
    (hint : d.givenHint.map f.content = e.givenHint.map g.content) : f.format d = g.format e := by
  have named : d.namedOperation = e.namedOperation := by
    rw [Diagnostic.namedOperation, Diagnostic.namedOperation, operation]
  have place : d.place = e.place := by
    rw [Diagnostic.place, Diagnostic.place, named, position]
  have label : f.severityLabel d = g.severityLabel e := by
    rw [severityLabel, severityLabel, Diagnostic.isWarning, Diagnostic.isWarning, severity, color]
  have hinted {α : Type} (part : Text → α) :
      d.givenHint.map (fun hint => part (f.content hint)) =
        e.givenHint.map fun hint => part (g.content hint) := by
    have shown := congrArg (Option.map part) hint
    rwa [Option.map_map, Option.map_map] at shown
  have lines : f.blockLines d = g.blockLines e := by
    rw [blockLines, blockLines, blockHeader, blockHeader, label, code, message, place,
      hinted fun hint => "  = help: ".toList ++ hint]
  have members : f.jsonMembers d = g.jsonMembers e := by
    rw [jsonMembers, jsonMembers, code, message, severity, position, named,
      hinted fun hint => ("hint".toList, Json.Scalar.text hint)]
  rw [format, format, layout, lines, members, code, message]

theorem format_abridge (shortens : f.shorten = true) (d : Diagnostic) :
    f.format d = format { f with shorten := false } (d.abridge f.limit) := by
  refine format_congr rfl rfl rfl rfl rfl rfl ?_ ?_
  · rw [content_eq_abridge shortens, content_whole]
    rfl
  · rw [Diagnostic.givenHint_abridge, Option.map_map]
    congr 1
    funext hint
    rw [Function.comp_apply, content_eq_abridge shortens, content_whole]

theorem forall₂_blockLines (f : Formatter) (d : Diagnostic) :
    List.Forall₂ (f.AbridgesLine d) (blockLines { f with shorten := true } d)
      (blockLines { f with shorten := false } d) := by
  simp only [blockLines, blockHeader, content_shortened, content_whole]
  refine .cons (.inr ⟨f.blockOpening d, by simp, d.message, rfl, rfl⟩) (List.rel_append ?_ ?_)
  · exact List.forall₂_same.mpr fun _ _ => .inl rfl
  · exact forall₂_toList_map _ fun hint => .inr ⟨_, by simp, hint, rfl, rfl⟩

theorem forall₂_jsonMembers (f : Formatter) (d : Diagnostic) :
    List.Forall₂ f.AbridgesMember (jsonMembers { f with shorten := true } d)
      (jsonMembers { f with shorten := false } d) := by
  have kept (members : List (Text × Json.Scalar)) :
      List.Forall₂ f.AbridgesMember members members :=
    List.forall₂_same.mpr fun _ _ => .inl rfl
  simp only [jsonMembers, content_shortened, content_whole]
  refine List.rel_append (List.rel_append (List.rel_append ?_ (kept _)) (kept _)) ?_
  · refine .cons (.inl rfl) (.cons (.inl rfl) (.cons (.inr ?_) (kept _)))
    exact ⟨_, by simp, d.message, rfl, rfl⟩
  · exact forall₂_toList_map _ fun hint => .inr ⟨_, by simp, hint, rfl, rfl⟩

/-- To shorten is to render what is left of the diagnostic: each layout has then the parts that
it would have otherwise, of which the message and the hint say what is left of theirs. From
what is left nothing is cut off again, unless the limit is counted from the end. -/
theorem shortening_factors (f : Formatter) (d : Diagnostic) :
    format { f with shorten := true } d =
      format { f with shorten := false } (d.abridge f.limit) ∧
    (d.abridge f.limit).place = d.place ∧
    (d.abridge f.limit).givenHint.isSome = d.givenHint.isSome ∧
    List.Forall₂ (f.AbridgesLine d) (blockLines { f with shorten := true } d)
      (blockLines { f with shorten := false } d) ∧
    (∃ members wholes,
      Json.readObject? (format { f with layout := .json, shorten := true } d) = some members ∧
      Json.readObject? (format { f with layout := .json, shorten := false } d) = some wholes ∧
      List.Forall₂ f.AbridgesMember members wholes) ∧
    (0 ≤ f.limit →
      (∀ s, Text.abridge f.limit (Text.abridge f.limit s) = Text.abridge f.limit s) ∧
      (d.abridge f.limit).abridge f.limit = d.abridge f.limit ∧
      format { f with shorten := true } (d.abridge f.limit) =
        format { f with shorten := false } (d.abridge f.limit)) := by
  refine ⟨format_abridge rfl d, rfl, ?_, forall₂_blockLines f d,
    ⟨_, _, Json.readObject?_object _, Json.readObject?_object _, forall₂_jsonMembers f d⟩,
    fun lower => ⟨Text.abridge_abridge lower, Diagnostic.abridge_abridge lower d, ?_⟩⟩
  · rw [Diagnostic.givenHint_abridge, Option.isSome_map]
  · have again := format_abridge (f := { f with shorten := true }) rfl (d.abridge f.limit)
    rwa [Diagnostic.abridge_abridge lower d] at again

/-- Of an empty text there is nothing to cut off, unless the limit is negative; dots at the limit
zero are cut off and put there again. -/
theorem shortening_factors_of_empty_texts :
    (0 : Int) ≤ 0 ∧
    format ⟨.block, true, false, 0⟩ ⟨.outOfRange, [], none, some ['.', '.', '.'], none, []⟩ =
      format ⟨.block, false, false, 0⟩ ⟨.outOfRange, [], none, some ['.', '.', '.'], none, []⟩ ∧
    format ⟨.json, true, false, -1⟩ ⟨.outOfRange, [], none, some [], none, []⟩ =
      format ⟨.json, false, false, -1⟩
        ⟨.outOfRange, ['.', '.', '.'], none, some [], none, []⟩ := by
  obtain ⟨_, _, _, _, _, again⟩ :=
    shortening_factors ⟨.block, true, false, 0⟩ ⟨.outOfRange, [], none, some ['a'], none, []⟩
  obtain ⟨negative, _⟩ :=
    shortening_factors ⟨.json, true, false, -1⟩ ⟨.outOfRange, [], none, some [], none, []⟩
  exact ⟨Int.le_refl 0, (again (Int.le_refl 0)).2.2, negative⟩

end Formatter

end TextCursor
