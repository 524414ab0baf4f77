import TypesetTrace.Proofs.Log.Endings
import TypesetTrace.Proofs.Log.Feed

/-! Where the numbers stand that a log is read for. Whatever reader finds one, it is a run of digits
somewhere on the line that the reader was given. -/
namespace TypesetTrace.Log
open Text

/-- The text is made of digits and stands somewhere in the other one. -/
structure IsNumberIn (digits s : Text) : Prop where
  within : digits <:+: s
  isDigit : ∀ c ∈ digits, isDigit c

namespace IsNumberIn
variable {digits r s : Text}

theorem of_within (h : IsNumberIn digits r) (hr : r <:+: s) : IsNumberIn digits s :=
  ⟨h.within.trans hr, h.isDigit⟩

theorem of_suffix (h : IsNumberIn digits r) (hr : r <:+ s) : IsNumberIn digits s :=
  h.of_within hr.isInfix

theorem of_run? (h : run? Text.isDigit s = some (digits, r)) : IsNumberIn digits s := by
  obtain ⟨rfl, hdigits⟩ := run?_eq_some h
  exact ⟨(List.prefix_append _ _).isInfix, hdigits⟩

end IsNumberIn

/-- The number of a place that is converted. -/
def BoxPlace.number? : BoxPlace → Option Text
  | .paragraph first _ => some first
  | .detected line => some line
  | .output _ => none

section
variable {s digits rest : Text}

namespace BoxNotice

private theorem isNumberIn_of_paragraph? {place : BoxPlace} (h : paragraph? s = some (place, rest))
    (hn : place.number? = some digits) : IsNumberIn digits s := by
  simp only [paragraph?, Option.bind_eq_bind, Option.bind_eq_some_iff] at h
  obtain ⟨a, ha, ⟨first, b⟩, hb, c, hc, ⟨last, d⟩, hd, h⟩ := h
  split at h
  · cases h
    cases hn
    exact (IsNumberIn.of_run? hb).of_suffix (suffix_of_after? ha)
  · cases h

private theorem isNumberIn_of_detected? {place : BoxPlace} (h : detected? s = some (place, rest))
    (hn : place.number? = some digits) : IsNumberIn digits s := by
  simp only [detected?, Option.bind_eq_bind, Option.bind_eq_some_iff] at h
  obtain ⟨a, ha, ⟨line, b⟩, hb, h⟩ := h
  split at h
  · cases h
    cases hn
    exact (IsNumberIn.of_run? hb).of_suffix (suffix_of_after? ha)
  · cases h

private theorem number?_of_output? {place : BoxPlace} (h : output? s = some (place, rest)) :
    place.number? = none := by
  simp only [output?, Option.bind_eq_bind, Option.bind_eq_some_iff] at h
  obtain ⟨a, -, h⟩ := h
  split at h <;> cases h <;> rfl

private theorem isNumberIn_of_place? {place : BoxPlace} (h : place? s = some (place, rest))
    (hn : place.number? = some digits) : IsNumberIn digits s := by
  rcases Option.or_eq_some_iff.mp h with h | ⟨-, h⟩
  · exact isNumberIn_of_paragraph? h hn
  · rcases Option.or_eq_some_iff.mp h with h | ⟨-, h⟩
    · exact isNumberIn_of_detected? h hn
    · rw [number?_of_output? h] at hn
      cases hn

theorem isNumberIn_of_ofLine? {b : BoxNotice} (h : ofLine? s = some (b, rest))
    (hn : b.place.number? = some digits) : IsNumberIn digits s := by
  simp only [ofLine?, Option.bind_eq_bind, Option.bind_eq_some_iff] at h
  obtain ⟨⟨heading, a⟩, ha, ⟨place, c⟩, hc, h⟩ := h
  cases h
  have hheading : ')' :: a <:+ s := by
    rcases Option.or_eq_some_iff.mp ha with ha | ⟨-, ha⟩
    · exact suffix_of_heading? ha
    · exact suffix_of_heading? ha
  exact (isNumberIn_of_place? hc hn).of_suffix ((List.suffix_cons _ _).trans hheading)

end BoxNotice

/-- Both sorts of lines of a message have their number at the end. -/
private theorem isNumberIn_of_isEnd {isFront : Text → Prop} {stop : Text}
    (h : IsEnd isFront s (some digits) stop rest) : IsNumberIn digits s := by
  obtain ⟨hnone, -⟩ | ⟨front, number, hline, -, hdigits, rfl⟩ := h.parts
  · cases hnone
  · cases hline
    have hbehind : digits ++ (stop ++ rest) <:+ front ++ (" line ".toList ++ (digits ++ (stop ++ rest))) :=
      (List.suffix_append _ _).trans (List.suffix_append _ _)
    exact ⟨(List.prefix_append _ _).isInfix.trans hbehind.isInfix, hdigits⟩

private theorem suffix_of_mem_emitters {emitter : Text} (h : (emitter, rest) ∈ emitters s) :
    rest <:+ s := by
  have hplain (word : Text)
      (h : (emitter, rest) ∈ ((after? word s).map fun rest => (word, rest)).toList) :
      rest <:+ s := by
    obtain ⟨a, ha, he⟩ := Option.map_eq_some_iff.mp (Option.mem_toList.mp h)
    cases he
    exact suffix_of_after? ha
  simp only [emitters, List.mem_append] at h
  rcases h with ((((h | h) | h) | h) | h) | h
  case inr => exact hplain _ h
  case inl.inr => exact hplain _ h
  -- The other four read a name behind their word.
  all_goals
    split at h
    · rename_i a ha
      cases List.mem_singleton.mp h
      exact (List.dropWhile_suffix _).trans (suffix_of_after? ha)
    · cases h

theorem isNumberIn_of_announcement {a : Announcement} (h : Announcement.ofLine? s = some (a, rest))
    (hn : a.line = some digits) : IsNumberIn digits s := by
  obtain ⟨⟨emitter, b⟩, hemitter, h⟩ := List.exists_of_findSome?_eq_some h
  simp only [Option.bind_eq_bind, Option.bind_eq_some_iff] at h
  obtain ⟨⟨isWarning, c⟩, hc, d, hd, ⟨body, line, stop, e⟩, he, h⟩ := h
  cases h
  have hword : c <:+ b := by
    rcases Option.or_eq_some_iff.mp hc with hc | ⟨-, hc⟩ <;>
      obtain ⟨f, hf, he⟩ := Option.map_eq_some_iff.mp hc <;> cases he <;> exact suffix_of_after? hf
  have hblanks : d <:+ c := by
    obtain ⟨⟨blanks, f⟩, hf, rfl⟩ := Option.map_eq_some_iff.mp hd
    exact suffix_of_run? hf
  obtain ⟨r, rfl, hend⟩ := shortest_eq_some he
  cases hn
  have hfront := (List.suffix_append body r).trans (hblanks.trans hword)
  exact (isNumberIn_of_isEnd (readsEnds_announcementEnd? hend)).of_suffix
    (hfront.trans (suffix_of_mem_emitters hemitter))

private theorem isNumberIn_of_unresolvedEnd? (h : unresolvedEnd? s = some (digits, rest)) :
    IsNumberIn digits s := by
  simp only [unresolvedEnd?, Option.bind_eq_bind, Option.bind_eq_some_iff] at h
  obtain ⟨a, ha, ⟨page, b⟩, hb, c, hc, hlast⟩ := h
  obtain ⟨hdigits, r, rfl, -⟩ := longestNonempty_eq_some hlast
  have hnumber : IsNumberIn digits (digits ++ r) := ⟨(List.prefix_append _ _).isInfix, hdigits⟩
  exact hnumber.of_suffix
    ((suffix_of_after? hc).trans ((suffix_of_run? hb).trans (suffix_of_after? ha)))

theorem isNumberIn_of_unresolved {u : Unresolved} (h : Unresolved.ofLine? s = some (u, rest)) :
    IsNumberIn u.line s := by
  simp only [Unresolved.ofLine?, Option.bind_eq_bind, Option.bind_eq_some_iff] at h
  obtain ⟨a, ha, ⟨kind, b⟩, hb, c, hc, ⟨key, line, d⟩, hd, h⟩ := h
  cases h
  have hword : b <:+ a := by
    rcases Option.or_eq_some_iff.mp hb with hb | ⟨-, hb⟩ <;>
      obtain ⟨e, he, hpair⟩ := Option.map_eq_some_iff.mp hb <;> cases hpair <;>
      exact suffix_of_after? he
  obtain ⟨r, rfl, hend⟩ := shortest_eq_some hd
  have hfront := (List.suffix_append key r).trans ((suffix_of_after? hc).trans hword)
  exact (isNumberIn_of_unresolvedEnd? hend).of_suffix (hfront.trans (suffix_of_after? ha))

/-- A failure without a place gives no number. -/
theorem isNumberIn_of_failure {f : Failure} {file : Text} (h : Failure.ofLine? s = some (f, rest))
    (hn : f.place = some (file, digits)) : IsNumberIn digits s := by
  rw [Failure.ofLine?] at h
  split at h
  · rename_i file line emitter body a ha
    cases h
    cases hn
    obtain ⟨-, r, rfl, hr⟩ := longest_eq_some ha
    unfold numbered? at hr
    split at hr
    · rename_i b
      simp only [Option.bind_eq_bind, Option.bind_eq_some_iff] at hr
      obtain ⟨⟨line, c⟩, hrun, d, -, found, -, hr⟩ := hr
      cases hr
      exact (IsNumberIn.of_run? hrun).of_suffix ((List.suffix_cons ':' b).trans (List.suffix_append file _))
    · cases hr
  · simp only [Option.bind_eq_bind, Option.bind_eq_some_iff] at h
    obtain ⟨a, -, ⟨emitter, body, b⟩, -, h⟩ := h
    cases h
    cases hn

theorem isNumberIn_of_continuation {c : Continuation} (h : Continuation.ofLine? s = some (c, rest))
    (hn : c.line = some digits) : IsNumberIn digits s := by
  unfold Continuation.ofLine? at h
  split at h
  · rename_i a
    obtain ⟨⟨name, body, line, stopped, b⟩, hb, he⟩ := Option.map_eq_some_iff.mp h
    cases he
    obtain ⟨-, r, rfl, hr⟩ := longest_eq_some hb
    split at hr
    · rename_i d
      simp only [Option.bind_eq_bind, Option.bind_eq_some_iff] at hr
      obtain ⟨e, he, hr⟩ := hr
      obtain ⟨⟨blanks, f⟩, hblanks, rfl⟩ := Option.map_eq_some_iff.mp he
      obtain ⟨t, rfl, hend⟩ := shortest_eq_some hr
      cases hn
      have hfront := (List.suffix_append body t).trans
        ((suffix_of_run? hblanks).trans (List.suffix_cons ')' d))
      exact (isNumberIn_of_isEnd (readsEnds_continuationEnd? hend)).of_suffix
        (hfront.trans ((List.suffix_append name _).trans (List.suffix_cons '(' _)))
    · cases hr
  · cases h

theorem isNumberIn_of_sourceMark {m : SourceMark} (h : SourceMark.ofLine? s = some (m, rest)) :
    IsNumberIn m.line s := by
  simp only [SourceMark.ofLine?, Option.bind_eq_bind, Option.bind_eq_some_iff] at h
  obtain ⟨a, ha, ⟨line, b⟩, hrun, h⟩ := h
  have hnumber : IsNumberIn line s := (IsNumberIn.of_run? hrun).of_suffix (suffix_of_after? ha)
  split at h
  · split at h
    · split at h <;> obtain ⟨⟨text, c⟩, -, h⟩ := Option.map_eq_some_iff.mp h <;> cases h <;>
        exact hnumber
    · cases h
  · cases h

end
end TypesetTrace.Log
