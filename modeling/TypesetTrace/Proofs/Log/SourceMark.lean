import TypesetTrace.Log.Notice.Failure
import TypesetTrace.Proofs.Text.Numeral

/-! The line that shows the source text at an error: its form, and what is read off it. -/
namespace TypesetTrace.Log
open Text

/-- The line has the form of one that shows the source text at an error. -/
def ShowsSource (line : Text) : Prop :=
  ∃ number c rest, number ≠ [] ∧ (∀ d ∈ number, isDigit d) ∧ isBlank c ∧
    line = "l.".toList ++ (number ++ c :: rest)

/-- The source text, without the dots of one that is cut at the front. -/
def shownText (source : Text) : Text := (after? "...".toList source).getD source

namespace SourceMark
variable {line number source rest : Text}

theorem ofLine?_mark (hne : number ≠ []) (hdigits : ∀ c ∈ number, isDigit c) {c : Char} (hc : isBlank c)
    (hsource : '\n' ∉ source) :
    ∃ shortened, ofLine? ("l.".toList ++ (number ++ c :: source)) =
      some (⟨number, shortened, shownText source⟩, []) := by
  have hrun : run? isDigit (number ++ c :: source) = some (number, c :: source) := by
    refine run?_append hne hdigits fun d hd => ?_
    cases hd
    exact isDigit_eq_false_of_isBlank hc
  rw [ofLine?, after?_append, shownText]
  simp only [Option.bind_eq_bind, Option.bind_some, hrun, if_pos hc]
  cases hcut : after? "...".toList source with
  | none => exact ⟨false, by rw [restOfLine?_eq_self hsource]; rfl⟩
  | some shown =>
    have hshown : '\n' ∉ shown := fun h => hsource ((suffix_of_after? hcut).subset h)
    exact ⟨true, by dsimp only; rw [restOfLine?_eq_self hshown]; rfl⟩

theorem showsSource_of_ofLine? {m : SourceMark} (h : ofLine? line = some (m, rest)) : ShowsSource line := by
  simp only [ofLine?, Option.bind_eq_bind, Option.bind_eq_some_iff] at h
  obtain ⟨a, ha, ⟨number, b⟩, hrun, h⟩ := h
  obtain ⟨rfl, hdigits⟩ := run?_eq_some hrun
  cases b with
  | nil => cases h
  | cons c r =>
    by_cases hc : isBlank c
    · exact ⟨number, c, r, ne_nil_of_run? hrun, hdigits, hc, after?_eq_some ha⟩
    · dsimp only at h
      rw [if_neg hc] at h
      cases h

theorem ofLine?_isSome_iff (hline : '\n' ∉ line) : (ofLine? line).isSome ↔ ShowsSource line := by
  constructor
  · intro h
    obtain ⟨⟨m, rest⟩, hm⟩ := Option.isSome_iff_exists.mp h
    exact showsSource_of_ofLine? hm
  · rintro ⟨number, c, rest, hne, hdigits, hc, rfl⟩
    have hrest : '\n' ∉ rest := fun h =>
      hline (List.mem_append_right _ (List.mem_append_right _ (List.mem_cons_of_mem c h)))
    obtain ⟨shortened, hread⟩ := ofLine?_mark hne hdigits hc hrest
    rw [hread]
    rfl

end SourceMark

end TypesetTrace.Log
