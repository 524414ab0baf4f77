import TypesetTrace.Proofs.Log.Look
import TypesetTrace.Proofs.Text.Match

/-! From looks to lines and whole logs. A look at a line leaves less than it was given, so the looks
at one line come to an end by themselves and their number is no limit. -/
namespace TypesetTrace.Log
open Text

namespace BoxNotice

theorem suffix_of_heading? {f : Fullness} {s heading rest : Text}
    (h : heading? f s = some (heading, rest)) : ')' :: rest <:+ s := by
  simp only [heading?, Option.bind_eq_bind, Option.bind_eq_some_iff] at h
  obtain ⟨a, ha, h⟩ := h
  have hword := suffix_of_after? ha
  split at h
  case h_3 => cases h
  -- The two ways to go on after the backslash differ in one letter only.
  all_goals
    rename_i letter
    obtain ⟨box, hbox, h⟩ := Option.bind_eq_some_iff.mp h
    cases hbox
    obtain ⟨c, hc, h⟩ := Option.bind_eq_some_iff.mp h
    have hparen := suffix_of_after? hc
    have hletter : letter <:+ s := ((List.suffix_cons _ _).trans (List.suffix_cons _ _)).trans hword
    have hdrop := List.dropWhile_suffix (l := c) (· != ')')
    split at h
    · rename_i tail htail
      cases h
      rw [htail] at hdrop
      exact hdrop.trans (hparen.trans hletter)
    · cases h

private theorem suffix_of_paragraph? {s rest : Text} {place : BoxPlace}
    (h : paragraph? s = some (place, rest)) : rest <:+ s := by
  simp only [paragraph?, Option.bind_eq_bind, Option.bind_eq_some_iff] at h
  obtain ⟨a, ha, ⟨first, b⟩, hb, c, hc, ⟨last, d⟩, hd, h⟩ := h
  split at h
  · cases h
    have hfirst := (suffix_of_run? hb).trans (suffix_of_after? ha)
    exact (suffix_of_run? hd).trans ((suffix_of_after? hc).trans hfirst)
  · cases h

private theorem suffix_of_detected? {s rest : Text} {place : BoxPlace}
    (h : detected? s = some (place, rest)) : rest <:+ s := by
  simp only [detected?, Option.bind_eq_bind, Option.bind_eq_some_iff] at h
  obtain ⟨a, ha, ⟨line, b⟩, hb, h⟩ := h
  split at h
  · cases h
    exact (suffix_of_run? hb).trans (suffix_of_after? ha)
  · cases h

private theorem suffix_of_output? {s rest : Text} {place : BoxPlace}
    (h : output? s = some (place, rest)) : rest <:+ s := by
  simp only [output?, Option.bind_eq_bind, Option.bind_eq_some_iff] at h
  obtain ⟨a, ha, h⟩ := h
  have hword := suffix_of_after? ha
  split at h
  · rename_i page b hb
    simp only [pageMark?, Option.bind_eq_bind, Option.bind_eq_some_iff] at hb
    obtain ⟨c, hc, ⟨number, d⟩, hd, e, he, hb⟩ := hb
    cases hb
    cases h
    have hnumber := (suffix_of_run? hd).trans ((suffix_of_after? hc).trans hword)
    exact (suffix_of_after? he).trans hnumber
  · cases h
    exact hword

private theorem suffix_of_place? {s rest : Text} {place : BoxPlace}
    (h : place? s = some (place, rest)) : rest <:+ s := by
  rcases Option.or_eq_some_iff.mp h with h | ⟨-, h⟩
  · exact suffix_of_paragraph? h
  · rcases Option.or_eq_some_iff.mp h with h | ⟨-, h⟩
    · exact suffix_of_detected? h
    · exact suffix_of_output? h

theorem suffix_of_ofLine? {s rest : Text} {b : BoxNotice} (h : ofLine? s = some (b, rest)) :
    ∃ a, rest <:+ a ∧ ')' :: a <:+ s := by
  simp only [ofLine?, Option.bind_eq_bind, Option.bind_eq_some_iff] at h
  obtain ⟨⟨heading, a⟩, ha, ⟨place, c⟩, hc, h⟩ := h
  cases h
  refine ⟨a, suffix_of_place? hc, ?_⟩
  rcases Option.or_eq_some_iff.mp ha with ha | ⟨-, ha⟩
  · exact suffix_of_heading? ha
  · exact suffix_of_heading? ha

end BoxNotice

theorem suffix_of_unlistedKey? {s key rest : Text} (h : unlistedKey? s = some (key, rest)) :
    '\x27' :: rest <:+ s := by
  simp only [unlistedKey?, Option.bind_eq_bind, Option.bind_eq_some_iff] at h
  obtain ⟨a, ha, h⟩ := h
  obtain ⟨⟨passed, k⟩, hk, he⟩ := Option.map_eq_some_iff.mp h
  obtain ⟨b, rfl, hkeyed⟩ := shortest_eq_some hk
  simp only [Option.bind_eq_some_iff] at hkeyed
  obtain ⟨c, hc, ⟨word, d⟩, hd, e, hquote, hkey⟩ := hkeyed
  cases hkey
  cases he
  have hd' : d = '\x27' :: rest := after?_eq_some hquote
  have hb := (List.suffix_append passed b).trans (suffix_of_after? ha)
  rw [← hd']
  exact (suffix_of_run? hd).trans ((suffix_of_after? hc).trans hb)

/-- Only a bad box on a page and a key that is not listed leave something of their line, the end of it
behind what was read. -/
theorem suffix_of_leftOver {line rest : Text} {notice : Notice}
    (hn : Notice.ofLine? line = some notice) (h : notice.leftOver = .again rest) :
    ∃ c a, rest <:+ a ∧ c :: a <:+ line := by
  unfold Notice.ofLine? at hn
  split at hn
  · cases hn; cases h
  split at hn
  · cases hn; cases h
  split at hn
  · rename_i b r hbox
    cases hn
    have hbehind := BoxNotice.suffix_of_ofLine? hbox
    unfold Notice.leftOver at h
    split at h <;> cases h
    · rename_i heq
      cases heq
      exact ⟨')', hbehind⟩
    · rename_i heq
      cases heq
  split at hn
  · cases hn; cases h
  split at hn
  · cases hn; cases h
  split at hn
  · cases hn; cases h
  split at hn
  · rename_i key r hkey
    cases hn
    cases h
    exact ⟨'\x27', rest, List.suffix_refl _, suffix_of_unlistedKey? hkey⟩
  · obtain ⟨f, -, hf⟩ := Option.map_eq_some_iff.mp hn
    cases hf
    cases h

namespace Session

/-- What a look leaves over is the end of what it was given, behind at least one character. -/
theorem suffix_of_pass {line rest : Text} {s s' : Session} (h : pass line s = (s', .again rest)) :
    ∃ c a, rest <:+ a ∧ c :: a <:+ line := by
  rcases pass_cases line s with ⟨notice, e, hn, -, hpass⟩ | ⟨-, d, m, n, p, hpass, -, hp⟩
  · rw [hpass] at h
    exact suffix_of_leftOver hn (congrArg Prod.snd h)
  · rw [hpass] at h
    exact absurd (congrArg Prod.snd h) (hp rest)

theorem length_of_pass {line rest : Text} {s s' : Session} (h : pass line s = (s', .again rest)) :
    rest.length < line.length := by
  obtain ⟨c, a, hrest, ha⟩ := suffix_of_pass h
  exact Nat.lt_of_le_of_lt hrest.length_le ha.length_le

private theorem passes_eq_passes {n m : Nat} {line : Text} (hn : line.length < n)
    (hm : line.length < m) (s : Session) : passes n line s = passes m line s := by
  induction n generalizing m line s with
  | zero => exact absurd hn (Nat.not_lt_zero _)
  | succ n ih =>
    cases m with
    | zero => exact absurd hm (Nat.not_lt_zero _)
    | succ m =>
      rw [passes, passes]
      split
      · rfl
      · rfl
      · rename_i s' rest hpass
        have hrest := length_of_pass hpass
        exact ih (by omega) (by omega) s'

/-- A line is read until nothing of it is left. -/
theorem feed_eq (line : Text) (s : Session) :
    feed line s =
      match pass line s with
      | (s, .finished) => (s, none)
      | (s, .failed fault) => (s, some fault)
      | (s, .again rest) => feed rest s := by
  rw [feed, passes]
  rcases hpass : pass line s with ⟨s', _ | rest | fault⟩
  · rfl
  · exact passes_eq_passes (length_of_pass hpass) (Nat.lt_succ_self _) s'
  · rfl

/-- What every look keeps is kept over a line. -/
theorem passes_induction {P : Session → Prop} (hpass : ∀ line s, P s → P (pass line s).1) (n : Nat)
    (line : Text) {s : Session} (hs : P s) : P (passes n line s).1 := by
  induction n generalizing line s with
  | zero => exact hs
  | succ n ih =>
    have hlook := hpass line s hs
    rw [passes]
    revert hlook
    rcases pass line s with ⟨s', _ | rest | fault⟩
    · exact id
    · exact ih rest
    · exact id

/-- What every look keeps is kept over a whole log. -/
theorem feedAll_induction {P : Session → Prop} (hpass : ∀ line s, P s → P (pass line s).1)
    {lines : List Text} {s s' : Session} (h : feedAll lines s = .ok s') (hs : P s) : P s' := by
  induction lines generalizing s with
  | nil =>
    cases h
    exact hs
  | cons line rest ih =>
    have hline := passes_induction hpass (line.length + 1) line hs
    rw [feedAll, feed] at h
    split at h
    · rename_i s₁ hfeed
      rw [hfeed] at hline
      exact ih h hline
    · cases h

/-- What is reported of a log is reported at the end of a session that read it. -/
theorem exists_of_diagnosticsOf {log rootFile : Text} {working : Path.WorkingDirectory} {ds : List Diagnostic}
    (h : diagnosticsOf log rootFile working = .ok ds) :
    ∃ s, feedAll (linesOfEither log) (new rootFile working) = .ok s ∧ s.finish.2 = ds := by
  rw [diagnosticsOf] at h
  cases hfeed : feedAll (linesOfEither log) (new rootFile working) with
  | error fault =>
    rw [hfeed] at h
    cases h
  | ok s =>
    rw [hfeed] at h
    exact ⟨s, rfl, Except.ok.inj h⟩

end Session
end TypesetTrace.Log
