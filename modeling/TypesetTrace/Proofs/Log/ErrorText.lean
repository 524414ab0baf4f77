import TypesetTrace.Proofs.Log.Growth
import TypesetTrace.Proofs.Log.Switches

/-! The line that announces an error. What is named in front of the word for it is taken for its emitter, and
that word may stand on the line more than once. The last place counts at which it has a text behind it. -/
namespace TypesetTrace.Log
open Text

def errorWord (isCapital : Bool) : Text := if isCapital then " Error:".toList else " error:".toList

/-- The word for an error stands somewhere, with a text behind it. -/
def NamesEmitter (s : Text) : Prop := ∃ isCapital c, errorWord isCapital ++ [' ', c] <:+: s

/-- A number stands somewhere between two colons. -/
def NamesLine (s : Text) : Prop :=
  ∃ number, number ≠ [] ∧ (∀ c ∈ number, isDigit c) ∧ ':' :: (number ++ [':']) <:+: s

section
variable {s r b body emitter : Text}

theorem NamesEmitter.of_within (h : NamesEmitter r) (hr : r <:+: s) : NamesEmitter s := by
  obtain ⟨isCapital, c, hword⟩ := h
  exact ⟨isCapital, c, hword.trans hr⟩

theorem NamesEmitter.mem_colon (h : NamesEmitter s) : ':' ∈ s := by
  obtain ⟨isCapital, c, hword⟩ := h
  apply hword.subset
  apply List.mem_append_left
  cases isCapital <;> decide

theorem spacedBody?_eq_some (h : spacedBody? s = some (b, r)) : s = ' ' :: (b ++ r) ∧ b ≠ [] := by
  unfold spacedBody? at h
  split at h
  · rename_i c t
    split at h
    · rename_i hc
      rw [restOfLine?] at h
      split at h
      · cases h
        refine ⟨by rw [List.takeWhile_append_dropWhile], ?_⟩
        rw [List.takeWhile_cons_of_pos hc]
        exact List.cons_ne_nil _ _
      · cases h
    · cases h
  · cases h

theorem spacedBody?_cons (hne : b ≠ []) (hline : '\n' ∉ b) : spacedBody? (' ' :: b) = some (b, []) := by
  cases b with
  | nil => exact absurd rfl hne
  | cons c b => rw [spacedBody?, if_pos (isInLine_of_mem hline List.mem_cons_self), restOfLine?_eq_self hline]

theorem afterErrorWord?_eq_some (h : afterErrorWord? s = some (b, r)) :
    ∃ isCapital, s = errorWord isCapital ++ ' ' :: (b ++ r) ∧ b ≠ [] := by
  rcases Option.or_eq_some_iff.mp h with h | ⟨-, h⟩
  all_goals
    obtain ⟨t, ht, hbody⟩ := Option.bind_eq_some_iff.mp h
    obtain ⟨rfl, hne⟩ := spacedBody?_eq_some hbody
  · exact ⟨true, after?_eq_some ht, hne⟩
  · exact ⟨false, after?_eq_some ht, hne⟩

theorem namesEmitter_of_afterErrorWord? (h : afterErrorWord? s = some (b, r)) : NamesEmitter s := by
  obtain ⟨isCapital, rfl, hne⟩ := afterErrorWord?_eq_some h
  obtain ⟨c, b, rfl⟩ := List.exists_cons_of_ne_nil hne
  exact ⟨isCapital, c, [], b ++ r, by simp⟩

theorem afterErrorWord?_append (isCapital : Bool) (hne : b ≠ []) (hline : '\n' ∉ b) :
    afterErrorWord? (errorWord isCapital ++ ' ' :: b) = some (b, []) := by
  have hbody := spacedBody?_cons hne hline
  cases isCapital with
  | true =>
    have hword : after? " Error:".toList (errorWord true ++ ' ' :: b) = some (' ' :: b) := after?_append _ _
    rw [afterErrorWord?, hword, Option.bind_some, hbody, Option.some_or]
  | false =>
    have hother : after? " Error:".toList (errorWord false ++ ' ' :: b) = none := rfl
    have hword : after? " error:".toList (errorWord false ++ ' ' :: b) = some (' ' :: b) := after?_append _ _
    rw [afterErrorWord?, hother, hword, Option.bind_none, Option.none_or, Option.bind_some, hbody]

theorem namesEmitter_of_longestNonempty {found : Text × Text × Text}
    (h : longestNonempty isInLine afterErrorWord? s = some found) : NamesEmitter s := by
  obtain ⟨t, b, r⟩ := found
  obtain ⟨-, u, rfl, hu⟩ := longestNonempty_eq_some h
  exact (namesEmitter_of_afterErrorWord? hu).of_within (List.suffix_append t u).isInfix

/-- Without the word for an error the whole text is the body. -/
theorem failureText?_body (hne : b ≠ []) (hline : '\n' ∉ b) (h : ¬ NamesEmitter (' ' :: b)) :
    failureText? (' ' :: b) = some (none, b, []) := by
  have hnone (t : Text) (ht : t <:+: ' ' :: b) : longestNonempty isInLine afterErrorWord? t = none :=
    Option.eq_none_iff_forall_ne_some.mpr fun _ hfound =>
      h ((namesEmitter_of_longestNonempty hfound).of_within ht)
  have hemitter : withEmitter? (' ' :: b) = none := by
    rw [withEmitter?]
    dsimp only
    rw [hnone b (List.suffix_cons ' ' b).isInfix, hnone _ List.infix_rfl, ite_self, Option.none_or]
  rw [failureText?, hemitter, spacedBody?_cons hne hline]
  rfl

/-- Behind the start of a word for an error no other one starts before its end. -/
private theorem namesEmitter_of_behind {isCapital isOther : Bool} {c : Char} {v : Text}
    (hv : v <:+ errorWord isCapital ++ ' ' :: b) (hlt : v ≠ errorWord isCapital ++ ' ' :: b)
    (hword : errorWord isOther ++ [' ', c] <+: v) : NamesEmitter (' ' :: b) := by
  rcases List.suffix_or_suffix_of_suffix hv (List.suffix_append _ _) with hbehind | ⟨w, rfl⟩
  · exact ⟨isOther, c, hword.isInfix.trans hbehind.isInfix⟩
  obtain ⟨u, hu⟩ := hv
  rw [← List.append_assoc] at hu
  have hwithin : w <:+ errorWord isCapital := ⟨u, List.append_cancel_right hu⟩
  obtain ⟨tail, htail, hspace⟩ : ∃ tail, errorWord isCapital = ' ' :: tail ∧ ' ' ∉ tail := by
    cases isCapital <;> exact ⟨_, rfl, by decide⟩
  rw [htail] at hwithin hlt
  rcases List.suffix_cons_iff.mp hwithin with rfl | hwithin
  · exact absurd rfl hlt
  obtain ⟨other, hother⟩ : ∃ other, errorWord isOther = ' ' :: other := by
    cases isOther <;> exact ⟨_, rfl⟩
  cases w with
  | nil => exact ⟨isOther, c, hword.isInfix⟩
  | cons d w =>
    rw [hother, List.cons_append, List.cons_append, List.cons_prefix_cons] at hword
    exact absurd (hwithin.subset (hword.1 ▸ List.mem_cons_self)) hspace

/-- The emitter reaches to the last word for an error that has a text behind it. -/
theorem failureText?_named (isCapital : Bool) (hemitter : emitter ≠ []) (hinLine : '\n' ∉ emitter)
    (hne : b ≠ []) (hline : '\n' ∉ b) (h : ¬ NamesEmitter (' ' :: b)) :
    failureText? (' ' :: (emitter ++ (errorWord isCapital ++ ' ' :: b))) = some (some emitter, b, []) := by
  have hlater : ∀ v, v <:+ errorWord isCapital ++ ' ' :: b → v ≠ errorWord isCapital ++ ' ' :: b →
      afterErrorWord? v = none := by
    intro v hv hlt
    rw [Option.eq_none_iff_forall_ne_some]
    rintro ⟨t, r⟩ hfound
    obtain ⟨isOther, rfl, ht⟩ := afterErrorWord?_eq_some hfound
    obtain ⟨c, t, rfl⟩ := List.exists_cons_of_ne_nil ht
    have hword : errorWord isOther ++ [' ', c] <+: errorWord isOther ++ ' ' :: (c :: t ++ r) :=
      (List.prefix_append_right_inj _).mpr ⟨t ++ r, rfl⟩
    exact h (namesEmitter_of_behind hv hlt hword)
  obtain ⟨c, rest, rfl⟩ := List.exists_cons_of_ne_nil hemitter
  have hrun : ∀ d ∈ c :: rest, isInLine d := fun _ => isInLine_of_mem hinLine
  have hread : longest isInLine afterErrorWord? (rest ++ (errorWord isCapital ++ ' ' :: b)) =
      some (rest, b, []) :=
    longest_append (fun d hd => hrun d (List.mem_cons_of_mem c hd))
      (afterErrorWord?_append isCapital hne hline) hlater
  have hfound : withEmitter? (' ' :: (c :: rest ++ (errorWord isCapital ++ ' ' :: b))) =
      some (c :: rest, b, []) := by
    rw [withEmitter?]
    dsimp only
    rw [if_pos (by decide), List.cons_append, longestNonempty, if_pos (hrun c List.mem_cons_self), hread]
    rfl
  rw [failureText?, hfound]
  rfl

end

theorem not_namesLine_of_count {s : Text} (h : s.count ':' ≤ 1) : ¬ NamesLine s := by
  rintro ⟨number, -, -, hwithin⟩
  have hcount := hwithin.sublist.count_le ':'
  rw [List.count_cons_self, List.count_append, List.count_singleton_self] at hcount
  omega

namespace Failure
variable {s t path number b : Text}

theorem namesLine_of_numbered? {found : Text × Option Text × Text × Text} (h : numbered? s = some found) :
    NamesLine s := by
  unfold numbered? at h
  split at h
  · rename_i r
    simp only [Option.bind_eq_bind, Option.bind_eq_some_iff] at h
    obtain ⟨⟨digits, u⟩, hrun, v, hv, _, -, -⟩ := h
    obtain ⟨rfl, hdigits⟩ := run?_eq_some hrun
    have hcolon : u = ':' :: v := after?_eq_some hv
    refine ⟨digits, ne_nil_of_run? hrun, hdigits, [], v, ?_⟩
    rw [hcolon]
    simp
  · cases h

theorem namesLine_of_longest {found : Text × Text × Option Text × Text × Text}
    (h : longest isInLine numbered? s = some found) : NamesLine s := by
  obtain ⟨file, found⟩ := found
  obtain ⟨-, r, rfl, hr⟩ := longest_eq_some h
  obtain ⟨number, hne, hdigits, hwithin⟩ := namesLine_of_numbered? hr
  exact ⟨number, hne, hdigits, hwithin.trans (List.suffix_append file r).isInfix⟩

/-- A line with an exclamation mark in front names neither a file nor a number. -/
theorem ofLine?_exclaimed (h : ¬ NamesLine t) :
    ofLine? ('!' :: t) = (failureText? t).map fun (emitter, body, rest) => (⟨none, emitter, body⟩, rest) := by
  have hplace : longest isInLine numbered? ('!' :: t) = none := by
    rw [Option.eq_none_iff_forall_ne_some]
    intro found hfound
    obtain ⟨number, hne, hdigits, hwithin⟩ := namesLine_of_longest hfound
    rcases List.infix_cons_iff.mp hwithin with hfront | hwithin
    · cases (List.cons_prefix_cons.mp hfront).1
    · exact h ⟨number, hne, hdigits, hwithin⟩
  have hmark : after? "!".toList ('!' :: t) = some t := after?_append ['!'] t
  simp only [ofLine?, hplace, hmark, Option.bind_eq_bind, Option.bind_some]
  cases failureText? t <;> rfl

end Failure

/-- Only errors start with an exclamation mark, a dot or a slash. -/
theorem Notice.ofLine?_failure {c : Char} (hc : c = '!' ∨ c = '.' ∨ c = '/') (t : Text) :
    Notice.ofLine? (c :: t) = (Failure.ofLine? (c :: t)).map fun (f, _) => .failure f := by
  have hearlier : c :: t ≠ Notice.summaryLine ∧ Unresolved.ofLine? (c :: t) = none ∧
      BoxNotice.ofLine? (c :: t) = none ∧ Notice.noPages? (c :: t) = none ∧
      missingCharacter? (c :: t) = none ∧ Announcement.ofLine? (c :: t) = none ∧
      unlistedKey? (c :: t) = none := by
    rcases hc with rfl | rfl | rfl <;> exact ⟨nofun, rfl, rfl, rfl, rfl, rfl, rfl⟩
  obtain ⟨hsummary, hunresolved, hbox, hpages, hcharacter, hannouncement, hkey⟩ := hearlier
  rw [Notice.ofLine?, if_neg hsummary, hunresolved, hbox, hpages, hcharacter, hannouncement, hkey]

/-- The text of an error with its emitter in front. The kernel is not named in front of its own errors. -/
def emittedText (emitter body : Text) : Text :=
  if emitter = "LaTeX".toList then body else emitter ++ ':' :: ' ' :: body

def errorLine (emitter : Text) (isCapital : Bool) (body : Text) : Text :=
  '!' :: ' ' :: (emitter ++ (errorWord isCapital ++ ' ' :: body))

theorem exists_of_namesEmitter {s : Text} (h : NamesEmitter s) :
    ∃ front isCapital body, s = front ++ (errorWord isCapital ++ ' ' :: body) ∧ body ≠ [] := by
  obtain ⟨isCapital, c, front, rest, rfl⟩ := h
  exact ⟨front, isCapital, c :: rest, by simp, List.cons_ne_nil c rest⟩

theorem length_errorWord (isCapital : Bool) : (errorWord isCapital).length = 7 := by
  cases isCapital <;> rfl

theorem length_errorLine (emitter : Text) (isCapital : Bool) (body : Text) :
    (errorLine emitter isCapital body).length = emitter.length + body.length + 10 := by
  simp only [errorLine, List.length_cons, List.length_append, length_errorWord]
  omega

/-- Where a body has a word for an error in it, the last of them ends a longer emitter. -/
theorem exists_last_errorWord {body : Text} (h : NamesEmitter (' ' :: body)) (emitter : Text) (isCapital : Bool) :
    ∃ more isLast rest,
      errorLine emitter isCapital body = errorLine (emitter ++ (errorWord isCapital ++ more)) isLast rest ∧
        rest ≠ [] ∧ ¬ NamesEmitter (' ' :: rest) := by
  induction hn : body.length using Nat.strongRecOn generalizing body emitter isCapital with
  | ind n ih =>
    obtain ⟨front, isNext, next, hbody, hne⟩ := exists_of_namesEmitter h
    have hcut : errorLine emitter isCapital body =
        errorLine (emitter ++ (errorWord isCapital ++ front)) isNext next := by
      simp only [errorLine, hbody, List.append_assoc]
    by_cases hnext : NamesEmitter (' ' :: next)
    · have hshorter : next.length < n := by
        have hlength := congrArg List.length hcut
        simp only [length_errorLine, List.length_append, length_errorWord] at hlength
        omega
      obtain ⟨more, isLast, rest, hrest, hlast⟩ :=
        ih next.length hshorter hnext (emitter ++ (errorWord isCapital ++ front)) isNext rfl
      refine ⟨front ++ (errorWord isNext ++ more), isLast, rest, ?_, hlast⟩
      rw [hcut, hrest]
      simp only [List.append_assoc]
    · exact ⟨front, isNext, next, hcut, hne, hnext⟩

theorem emittedText_ne {emitter more body rest : Text} {isCapital isLast : Bool}
    (h : errorLine emitter isCapital body = errorLine (emitter ++ (errorWord isCapital ++ more)) isLast rest) :
    emittedText (emitter ++ (errorWord isCapital ++ more)) rest ≠ emittedText emitter body := by
  obtain ⟨word, hword⟩ : ∃ word, errorWord isCapital = ' ' :: word := by cases isCapital <;> exact ⟨_, rfl⟩
  have hlonger : emitter ++ (errorWord isCapital ++ more) ≠ "LaTeX".toList := by
    intro heq
    have hspace : ' ' ∈ "LaTeX".toList := by
      rw [← heq, hword]
      simp
    exact absurd hspace (by decide)
  rw [emittedText, if_neg hlonger, emittedText]
  split
  · intro heq
    have hline := congrArg List.length h
    have htext := congrArg List.length heq
    simp only [length_errorLine, List.length_append, List.length_cons] at hline htext
    omega
  · intro heq
    rw [List.append_assoc, hword, List.cons_append, List.append_cancel_left_eq, List.cons_append] at heq
    cases (List.cons.inj heq).1

namespace Session
variable {s : Session} {line emitter m b body : Text}

theorem feed_failure {f : Failure} {n : Nat} (hm : s.mode = .idle) (h : Notice.ofLine? line = some (.failure f))
    (hn : lineNumber (f.place.map (·.2)) = .ok n) :
    feed line s =
      ({ s.start ⟨.error, failureFile f s, failureText f, n, none⟩ with mode := .message true }, none) := by
  simp only [feed_eq, pass, hm, h, accept, acceptFailure, withLine, hn]

theorem feed_errorLine (hm : s.mode = .idle) (isCapital : Bool) (hemitter : emitter ≠ [])
    (hinLine : '\n' ∉ emitter) (hne : body ≠ []) (hline : '\n' ∉ body) (hlast : ¬ NamesEmitter (' ' :: body))
    (hplace : ¬ NamesLine (errorLine emitter isCapital body)) :
    feed (errorLine emitter isCapital body) s =
      ({ s.start ⟨.error, s.currentFile, emittedText emitter body, 1, none⟩ with mode := .message true },
        none) := by
  have hbehind : ¬ NamesLine (' ' :: (emitter ++ (errorWord isCapital ++ ' ' :: body))) := by
    intro h
    obtain ⟨number, hnumber, hdigits, hwithin⟩ := h
    exact hplace ⟨number, hnumber, hdigits, hwithin.trans (List.suffix_cons '!' _).isInfix⟩
  have hread : Notice.ofLine? (errorLine emitter isCapital body) = some (.failure ⟨none, some emitter, body⟩) := by
    rw [errorLine, Notice.ofLine?_failure (.inl rfl), Failure.ofLine?_exclaimed hbehind,
      failureText?_named isCapital hemitter hinLine hne hline hlast]
    rfl
  have htext : failureText ⟨none, some emitter, body⟩ = emittedText emitter body := by
    rw [failureText, emittedText]
    dsimp only
    rw [List.append_assoc]
    rfl
  rw [feed_failure hm hread rfl, htext]
  rfl

end Session

/-- Where the emitter has no colon a number between colons can only stand in the body. -/
theorem not_namesLine_errorLine {m b : Text} (hm : ':' ∉ m) (h : ¬ NamesLine b) :
    ¬ NamesLine (errorLine m true b) := by
  rintro ⟨number, hne, hdigits, hwithin⟩
  have hfront : ':' ∉ '!' :: ' ' :: (m ++ " Error".toList) := by
    simp only [List.mem_cons, List.mem_append, not_or]
    exact ⟨by decide, by decide, hm, by decide⟩
  have hline : errorLine m true b = ('!' :: ' ' :: (m ++ " Error".toList)) ++ ':' :: ' ' :: b := by
    simp [errorLine, errorWord]
  rw [hline] at hwithin
  rcases List.infix_cons_iff.mp (infix_of_infix_append hfront hwithin) with hstarts | hbehind
  · obtain ⟨d, number, rfl⟩ := List.exists_cons_of_ne_nil hne
    have hspace : d = ' ' := (List.cons_prefix_cons.mp (List.cons_prefix_cons.mp hstarts).2).1
    have hdigit := hdigits d List.mem_cons_self
    rw [hspace] at hdigit
    cases hdigit
  · have hspace : ':' ∉ [' '] := by decide
    exact h ⟨number, hne, hdigits, infix_of_infix_append hspace hbehind⟩

namespace Session

/-- An error with its emitter is cut at the last word for an error that has a text behind it, and what stands
in front of that is reported as the emitter. So the emitter that is printed first is told apart from its text
exactly if the text does not have that word in it again. -/
theorem emitter_ends_at_last_word (rootFile : Text) (working : Path.WorkingDirectory) (before : List Text)
    {m b : Text} (hm : (feeds before (new rootFile working)).mode = .idle) (hne : m ≠ []) (hinLine : '\n' ∉ m)
    (hcolon : ':' ∉ m) (hbody : b ≠ []) (hline : '\n' ∉ b) (hplace : ¬ NamesLine b) :
    let s := feeds before (new rootFile working)
    ∃ emitter isCapital body, errorLine m true b = errorLine emitter isCapital body ∧ body ≠ [] ∧
      ¬ NamesEmitter (' ' :: body) ∧
      feed (errorLine m true b) s =
        ({ s.start ⟨.error, s.currentFile, emittedText emitter body, 1, none⟩ with mode := .message true }, none) ∧
      (emittedText emitter body = emittedText m b ↔ ¬ NamesEmitter (' ' :: b)) := by
  intro s
  have hnowhere : ¬ NamesLine (errorLine m true b) := not_namesLine_errorLine hcolon hplace
  have hall : '\n' ∉ errorLine m true b := by
    simp only [errorLine, List.mem_cons, List.mem_append, not_or]
    exact ⟨by decide, by decide, hinLine, by decide, by decide, hline⟩
  by_cases hagain : NamesEmitter (' ' :: b)
  · obtain ⟨more, isLast, rest, hcut, hrest, hlast⟩ := exists_last_errorWord hagain m true
    have hlonger : m ++ (errorWord true ++ more) ≠ [] := List.append_ne_nil_of_left_ne_nil hne _
    rw [hcut] at hall hnowhere
    have hread : '\n' ∉ m ++ (errorWord true ++ more) ∧ '\n' ∉ rest := by
      simp only [errorLine, List.mem_cons, List.mem_append, not_or] at hall ⊢
      exact ⟨hall.2.2.1, hall.2.2.2.2.2⟩
    refine ⟨_, isLast, rest, hcut, hrest, hlast, ?_, iff_of_false (emittedText_ne hcut) (not_not.mpr hagain)⟩
    rw [hcut]
    exact feed_errorLine hm isLast hlonger hread.1 hrest hread.2 hlast hnowhere
  · refine ⟨m, true, b, rfl, hbody, hagain, ?_, iff_of_true rfl hagain⟩
    exact feed_errorLine hm true hne hinLine hbody hline hagain hnowhere

theorem emitter_within_text :
    let line := errorLine "LaTeX".toList true "a error: b".toList
    (new "/a.tex".toList).mode = .idle ∧ ¬ NamesLine "a error: b".toList ∧
      ∃ e s', feed line (new "/a.tex".toList) = (s', none) ∧ s'.messages = [e] ∧
        e.text ≠ emittedText "LaTeX".toList "a error: b".toList := by
  intro line
  have hplace : ¬ NamesLine "a error: b".toList := not_namesLine_of_count (by decide)
  have hagain : NamesEmitter (' ' :: "a error: b".toList) := ⟨false, 'b', " a".toList, [], rfl⟩
  obtain ⟨emitter, isCapital, body, -, -, -, hfeed, hsame⟩ :=
    emitter_ends_at_last_word "/a.tex".toList .usual [] (m := "LaTeX".toList) rfl (by decide) (by decide) (by decide)
      (by decide) (by decide) hplace
  refine ⟨rfl, hplace, _, _, hfeed, messages_start _ _, fun htext => ?_⟩
  exact hsame.mp htext hagain

/-- The kernel is not named in front of its own errors, but here it is, and more of the line with it. -/
theorem repeatedWord_kept : ¬ ∀ (rootFile : Text) (working : Path.WorkingDirectory) (before : List Text)
    (m b : Text), (feeds before (new rootFile working)).mode = .idle → m ≠ [] → '\n' ∉ m → ':' ∉ m →
      ¬ "rror:".toList <:+: m →
      b ≠ [] → '\n' ∉ b → ¬ NamesLine b →
        ∃ s', feed (errorLine m true b) (feeds before (new rootFile working)) = (s', none) ∧
          s'.draft.kind = some .error ∧ s'.draft.text = emittedText m b := by
  intro h
  have hword : ¬ "rror:".toList <:+: "LaTeX".toList := by
    rw [← anywhere_after?_isSome_iff]
    decide
  obtain ⟨s', hfeed, -, htext⟩ := h "/a.tex".toList .usual [] "LaTeX".toList "a error: b".toList rfl (by decide)
    (by decide) (by decide) hword (by decide) (by decide) (not_namesLine_of_count (by decide))
  have hreported : (feed (errorLine "LaTeX".toList true "a error: b".toList)
      (new "/a.tex".toList)).1.draft.text = "LaTeX Error: a: b".toList := by decide +kernel
  rw [show feeds [] (new "/a.tex".toList) = new "/a.tex".toList from rfl] at hfeed
  rw [hfeed] at hreported
  rw [hreported] at htext
  exact absurd htext (by decide)

end Session
end TypesetTrace.Log
