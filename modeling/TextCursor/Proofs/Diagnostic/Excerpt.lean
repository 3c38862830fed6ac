import TextCursor.Proofs.Diagnostic.Abridgement
import TextCursor.Proofs.Text.Split

/-! A formatter that shortens renders excerpts. Of a text that is too long its
rendering shows no more than the first characters, in any layout. -/
namespace TextCursor

theorem Text.excerpt_eq_of_alikeUpTo {limit : Nat} {s t : Text} (alike : AlikeUpTo limit s t) :
    s.excerpt limit = t.excerpt limit := by
  rcases alike with rfl | ⟨long, long', same⟩
  · rfl
  · rw [excerpt, excerpt, if_pos long, if_pos long', same]

namespace Diagnostic

theorem excerpt_eq_of_alikeUpTo {limit : Nat} {d e : Diagnostic} (alike : AlikeUpTo limit d e) :
    d.excerpt limit = e.excerpt limit := by
  have message := Text.excerpt_eq_of_alikeUpTo alike.message
  have hint : d.hint.map (Text.excerpt limit) = e.hint.map (Text.excerpt limit) := by
    have related := alike.hint
    revert related
    generalize d.hint = first, e.hint = second
    rintro (same | _)
    · exact congrArg some (Text.excerpt_eq_of_alikeUpTo same)
    · rfl
  rw [excerpt, excerpt, message, hint, alike.code, alike.position, alike.operation, alike.severity]

theorem abridge_natCast (limit : Nat) (d : Diagnostic) : d.abridge limit = d.excerpt limit := by
  have hints : (fun hint => if hint = [] then hint else Text.abridge limit hint) =
      Text.excerpt limit := by
    funext hint
    by_cases empty : hint = []
    · simp [empty, Text.excerpt]
    · rw [if_neg empty, Text.abridge_natCast]
  rw [abridge, excerpt, hints, Text.abridge_natCast]

end Diagnostic

namespace Formatter

variable {f : Formatter} {limit : Nat}

theorem content_eq_excerpt (shortens : f.shorten = true) (limited : f.limit = limit) (s : Text) :
    f.content s = s.excerpt limit := by
  rw [content_eq_abridge shortens, limited, Text.abridge_natCast]

theorem format_excerpt (shortens : f.shorten = true) (limited : f.limit = limit)
    (d : Diagnostic) : f.format d = format { f with shorten := false } (d.excerpt limit) := by
  rw [format_abridge shortens, limited, Diagnostic.abridge_natCast]

theorem content_message_infix_format (notJson : f.layout ≠ .json) (d : Diagnostic) :
    f.content d.message <:+: f.format d := by
  rw [format]
  cases layout : f.layout with
  | json => exact absurd layout notJson
  | line => exact (List.suffix_append _ _).isInfix
  | block =>
    have header : f.content d.message <:+: f.blockHeader d := (List.suffix_append _ _).isInfix
    exact header.trans (infix_intercalate List.mem_cons_self)

theorem content_hint_infix_format (block : f.layout = .block) {d : Diagnostic} {hint : Text}
    (given : hint ∈ d.givenHint) : f.content hint <:+: f.format d := by
  have line : "  = help: ".toList ++ f.content hint ∈ f.blockLines d := by
    simp [blockLines, Option.mem_def.mp given]
  rw [format, block]
  exact (List.suffix_append _ _).isInfix.trans (infix_intercalate line)

theorem format_eq_of_alikeUpTo (shortens : f.shorten = true) (limited : f.limit = limit)
    {d e : Diagnostic} (alike : Diagnostic.AlikeUpTo limit d e) : f.format d = f.format e := by
  rw [format_excerpt shortens limited, format_excerpt shortens limited,
    Diagnostic.excerpt_eq_of_alikeUpTo alike]

theorem formatAll_eq_of_alikeUpTo (shortens : f.shorten = true) (limited : f.limit = limit)
    {ds es : List Diagnostic} (alike : List.Forall₂ (Diagnostic.AlikeUpTo limit) ds es) :
    f.formatAll ds = f.formatAll es := by
  have renderings : ds.map f.format = es.map f.format := by
    induction alike with
    | nil => rfl
    | cons first _ ih =>
      rw [List.map_cons, List.map_cons, format_eq_of_alikeUpTo shortens limited first, ih]
  rw [formatAll, formatAll, renderings]

/-- Nothing tells apart what is rendered of two diagnostics that are alike up to the
limit, by themselves or in a list. The message and the hint are replaced by their
excerpts, and these are what a layout shows or spells in their place. -/
theorem format_of_shortening (shortens : f.shorten = true) (limited : f.limit = limit) :
    (∀ d e, Diagnostic.AlikeUpTo limit d e → f.format d = f.format e) ∧
    (∀ ds es, List.Forall₂ (Diagnostic.AlikeUpTo limit) ds es →
      f.formatAll ds = f.formatAll es) ∧
    ∀ d, f.format d = format { f with shorten := false } (d.excerpt limit) ∧
      (f.layout ≠ .json → d.message.excerpt limit <:+: f.format d) ∧
      (f.layout = .block → ∀ hint ∈ d.hint, hint ≠ [] → hint.excerpt limit <:+: f.format d) ∧
      (f.layout = .json → ∃ members, Json.readObject? (f.format d) = some members ∧
        ("message".toList, .text (d.message.excerpt limit)) ∈ members ∧
        ∀ hint ∈ d.hint, hint ≠ [] → ("hint".toList, .text (hint.excerpt limit)) ∈ members) := by
  have shown (s : Text) : s.excerpt limit = f.content s :=
    (content_eq_excerpt shortens limited s).symm
  have given {d : Diagnostic} {hint : Text} (member : hint ∈ d.hint) (filled : hint ≠ []) :
      hint ∈ d.givenHint := by
    apply Option.mem_filter_iff.mpr
    simpa using ⟨member, filled⟩
  refine ⟨fun _ _ => format_eq_of_alikeUpTo shortens limited,
    fun _ _ => formatAll_eq_of_alikeUpTo shortens limited, fun d => ?_⟩
  refine ⟨format_excerpt shortens limited d, fun notJson => ?_,
    fun block hint member filled => ?_,
    fun json => ⟨f.jsonMembers d, ?_, ?_, fun hint member filled => ?_⟩⟩
  · rw [shown]
    exact content_message_infix_format notJson d
  · rw [shown]
    exact content_hint_infix_format block (given member filled)
  · rw [format, json]
    exact Json.readObject?_object _
  · rw [shown]
    simp [jsonMembers]
  · rw [shown]
    simp [jsonMembers, Option.mem_def.mp (given member filled)]

/-- Whole messages of one length more and two more than the limit, whose last seen character
has to be escaped, and hints that differ behind it. -/
theorem format_of_shortening_to_two :
    Diagnostic.AlikeUpTo 2 ⟨.outOfRange, ['a', '"', 'b'], some 0, some ['c', 'd', 'e'], none, []⟩
      ⟨.outOfRange, ['a', '"', 'f', 'g'], some 0, some ['c', 'd', 'h'], none, []⟩ ∧
    formatAll ⟨.json, true, false, 2⟩
        [⟨.outOfRange, ['a', '"', 'b'], some 0, some ['c', 'd', 'e'], none, []⟩] =
      formatAll ⟨.json, true, false, 2⟩
        [⟨.outOfRange, ['a', '"', 'f', 'g'], some 0, some ['c', 'd', 'h'], none, []⟩] ∧
    format ⟨.json, true, false, 2⟩
        ⟨.outOfRange, ['a', '"', 'b'], some 0, some ['c', 'd', 'e'], none, []⟩ =
      format ⟨.json, false, false, 2⟩ ⟨.outOfRange, ['a', '"', '.', '.', '.'], some 0,
        some ['c', 'd', '.', '.', '.'], none, []⟩ := by
  have alike : Diagnostic.AlikeUpTo 2
      ⟨.outOfRange, ['a', '"', 'b'], some 0, some ['c', 'd', 'e'], none, []⟩
      ⟨.outOfRange, ['a', '"', 'f', 'g'], some 0, some ['c', 'd', 'h'], none, []⟩ :=
    ⟨rfl, .inr (by decide), rfl, .some (.inr (by decide)), rfl, rfl⟩
  obtain ⟨_, lists, excerpts⟩ :=
    @format_of_shortening ⟨.json, true, false, 2⟩ 2 rfl rfl
  exact ⟨alike, lists _ _ (.cons alike .nil), (excerpts _).1⟩

end Formatter
end TextCursor
