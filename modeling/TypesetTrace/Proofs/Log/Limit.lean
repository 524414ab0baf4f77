import TypesetTrace.Proofs.Log.Numbers
import TypesetTrace.Proofs.Log.SourceMark
import TypesetTrace.Proofs.Text.Lines

/-! Only one thing keeps a log from being read: a number with more digits than are converted. Reading
fails exactly at the first one that it comes to, and every number that it comes to stands in the log. -/
namespace TypesetTrace.Log
open Text

def overlong? (digits : Text) : Option Fault :=
  if digits.length ≤ maxDigits then none else some (.tooManyDigits digits.length)

theorem overlong?_eq_none_iff {digits : Text} : overlong? digits = none ↔ digits.length ≤ maxDigits := by
  rw [overlong?]
  split <;> simp_all

theorem toNat_eq_error_iff {digits : Text} {fault : Fault} :
    toNat digits = .error fault ↔ overlong? digits = some fault := by
  rw [Text.toNat, overlong?]
  split <;> simp

namespace Notice

/-- The number in a notice that is converted. -/
def number? : Notice → Option Text
  | .unresolved u => some u.line
  | .box b _ => b.place.number?
  | .announcement a => a.line
  | .failure f => f.place.map (·.2)
  | .summary | .noPages | .missingCharacter _ | .unlistedKey _ _ => none

theorem isNumberIn_of_ofLine? {line digits : Text} {notice : Notice}
    (h : Notice.ofLine? line = some notice) (hn : notice.number? = some digits) :
    IsNumberIn digits line := by
  unfold Notice.ofLine? at h
  split at h
  · cases h; cases hn
  split at h
  · rename_i hu
    cases h
    cases hn
    exact isNumberIn_of_unresolved hu
  split at h
  · rename_i hb
    cases h
    exact BoxNotice.isNumberIn_of_ofLine? hb hn
  split at h
  · cases h; cases hn
  split at h
  · cases h; cases hn
  split at h
  · rename_i ha
    cases h
    exact isNumberIn_of_announcement ha hn
  split at h
  · cases h; cases hn
  · obtain ⟨⟨f, rest⟩, hf, he⟩ := Option.map_eq_some_iff.mp h
    cases he
    obtain ⟨⟨file, number⟩, hplace, rfl⟩ := Option.map_eq_some_iff.mp hn
    exact isNumberIn_of_failure hf hplace

private theorem numbered_eq_error_iff {number : Option Text} {e : Nat → Entry} {fault : Fault} :
    numbered number e = .error fault ↔ number.bind overlong? = some fault := by
  cases number with
  | none => exact ⟨nofun, nofun⟩
  | some digits =>
    rw [Option.bind_some, ← toNat_eq_error_iff, numbered, Session.lineNumber]
    cases toNat digits <;> simp [Except.map]

/-- A notice starts no entry for want of a line number only if its number is too long. -/
theorem entry?_eq_error_iff {s : Session} {notice : Notice} {fault : Fault} :
    notice.entry? s = .error fault ↔ notice.number?.bind overlong? = some fault := by
  cases notice with
  | unresolved u => exact numbered_eq_error_iff
  | box b rest =>
    obtain ⟨heading, place⟩ := b
    cases place with
    | paragraph first last => exact numbered_eq_error_iff
    | detected line => exact numbered_eq_error_iff
    | output page => cases page <;> exact ⟨nofun, nofun⟩
  | announcement a => exact numbered_eq_error_iff
  | failure f => exact numbered_eq_error_iff
  | _ => exact ⟨nofun, nofun⟩

end Notice

namespace Session

def number? (line : Text) (s : Session) : Option Text :=
  match s.mode with
  | .boxContent => none
  | .message inError =>
    if endsMessage inError line then none
    else match Continuation.ofLine? line with
    | some (c, _) => c.line
    | none => (if inError then SourceMark.ofLine? line else none).map (·.1.line)
  | .idle => (Notice.ofLine? line).bind Notice.number?

theorem isNumberIn_of_number? {line digits : Text} {s : Session} (h : number? line s = some digits) :
    IsNumberIn digits line := by
  rw [number?] at h
  split at h
  · cases h
  · split at h
    · cases h
    · split at h
      · rename_i hc
        exact isNumberIn_of_continuation hc h
      · obtain ⟨⟨mark, rest⟩, hmark, rfl⟩ := Option.map_eq_some_iff.mp h
        split at hmark
        · exact isNumberIn_of_sourceMark hmark
        · cases hmark
  · obtain ⟨notice, hnotice, h⟩ := Option.bind_eq_some_iff.mp h
    exact Notice.isNumberIn_of_ofLine? hnotice h

private theorem withLine_failed_iff {s : Session} {digits : Text} {f : Nat → Session} {fault : Fault} :
    (withLine s (some digits) fun line => (f line, .finished)).2 = .failed fault ↔
      overlong? digits = some fault := by
  rw [← toNat_eq_error_iff, withLine, lineNumber]
  cases toNat digits with
  | ok n => simp
  | error other => simp [failing]

private theorem continueMessage_failed_iff {inError : Bool} {line : Text} {s : Session} {fault : Fault}
    (hm : s.mode = .message inError) : (continueMessage inError line s).2 = .failed fault ↔
      (number? line s).bind overlong? = some fault := by
  rw [continueMessage, number?, hm]
  dsimp only
  split
  · simp
  · cases Continuation.ofLine? line with
    | some read =>
      obtain ⟨⟨name, body, number, stopped⟩, rest⟩ := read
      cases number with
      | none => simp [continueWith]
      | some digits => exact withLine_failed_iff
    | none =>
      cases if inError then SourceMark.ofLine? line else none with
      | some read => exact withLine_failed_iff
      | none => simp

/-- A look fails exactly at a number that is too long. -/
theorem pass_failed_iff {line : Text} {s : Session} {fault : Fault} :
    (pass line s).2 = .failed fault ↔ (number? line s).bind overlong? = some fault := by
  rw [pass]
  split
  · rename_i hm
    rw [number?, hm]
    simp
  · rename_i inError hm
    exact continueMessage_failed_iff hm
  · rename_i hm
    rw [number?, hm]
    cases Notice.ofLine? line with
    | none => simp
    | some notice =>
      have hleft : notice.leftOver ≠ .failed fault := by
        unfold Notice.leftOver
        split <;> simp
      dsimp only [Option.bind_some]
      rw [accept_eq, ← Notice.entry?_eq_error_iff (s := s)]
      rcases notice.entry? s with other | _ | e
      · simp [failing]
      · simp
      · simp [hleft]

/-- The numbers that reading a line comes to, in order. -/
def numbersOn (line : Text) (s : Session) : List Text :=
  (number? line s).toList ++
    match _h : pass line s with
    | (s, .again rest) => numbersOn rest s
    | _ => []
termination_by line.length
decreasing_by exact length_of_pass _h

def numbers : List Text → Session → List Text
  | [], _ => []
  | line :: rest, s => numbersOn line s ++ numbers rest (feed line s).1

theorem numbersOn_eq (line : Text) (s : Session) :
    numbersOn line s = (number? line s).toList ++
      match pass line s with
      | (s, .again rest) => numbersOn rest s
      | _ => [] := by
  rw [numbersOn]
  congr 1
  split
  · rename_i hpass
    rw [hpass]
  · rename_i hpass
    split
    · rename_i s' rest hagain
      exact absurd hagain (hpass s' rest)
    · rfl

private theorem findSome?_toList (number : Option Text) :
    number.toList.findSome? overlong? = number.bind overlong? := by
  cases number <;> simp

/-- A line fails at the first number on it that is too long. -/
theorem feed_fault (line : Text) (s : Session) :
    (feed line s).2 = (numbersOn line s).findSome? overlong? := by
  induction line, s using numbersOn.induct with
  | case1 line s ih =>
    have hfailed {fault : Fault} : (pass line s).2 = .failed fault ↔
        (number? line s).bind overlong? = some fault := pass_failed_iff
    rw [feed_eq, numbersOn_eq, List.findSome?_append, findSome?_toList]
    rcases hpass : pass line s with ⟨s', _ | rest | fault⟩
    · rw [hpass] at hfailed
      have hnone : (number? line s).bind overlong? = none :=
        Option.eq_none_iff_forall_ne_some.mpr fun fault h => nomatch hfailed.mpr h
      rw [hnone]
      rfl
    · rw [hpass] at hfailed
      have hnone : (number? line s).bind overlong? = none :=
        Option.eq_none_iff_forall_ne_some.mpr fun fault h => nomatch hfailed.mpr h
      rw [hnone]
      exact ih s' rest hpass
    · rw [hpass] at hfailed
      rw [hfailed.mp rfl]
      rfl

/-- A log fails at the first number in it that is too long. -/
theorem feedAll_eq_error_iff {lines : List Text} {s : Session} {fault : Fault} :
    feedAll lines s = .error fault ↔ (numbers lines s).findSome? overlong? = some fault := by
  induction lines generalizing s with
  | nil => exact ⟨nofun, nofun⟩
  | cons line rest ih =>
    have hline := feed_fault line s
    rw [feedAll, numbers, List.findSome?_append, ← hline]
    rcases feed line s with ⟨s', _ | other⟩
    · exact ih
    · simp

theorem isNumberIn_of_mem_numbersOn {line digits : Text} {s : Session} (h : digits ∈ numbersOn line s) :
    IsNumberIn digits line := by
  induction line, s using numbersOn.induct with
  | case1 line s ih =>
    rw [numbersOn_eq] at h
    rcases List.mem_append.mp h with h | h
    · exact isNumberIn_of_number? (Option.mem_toList.mp h)
    · rcases hpass : pass line s with ⟨s', _ | rest | fault⟩
      · rw [hpass] at h; cases h
      · rw [hpass] at h
        obtain ⟨c, a, hrest, ha⟩ := suffix_of_pass hpass
        exact (ih s' rest hpass h).of_suffix (hrest.trans ((List.suffix_cons c a).trans ha))
      · rw [hpass] at h; cases h

theorem isNumberIn_of_mem_numbers {lines : List Text} {digits : Text} {s : Session}
    (h : digits ∈ numbers lines s) : ∃ line ∈ lines, IsNumberIn digits line := by
  induction lines generalizing s with
  | nil => cases h
  | cons line rest ih =>
    rcases List.mem_append.mp h with h | h
    · exact ⟨line, List.mem_cons_self, isNumberIn_of_mem_numbersOn h⟩
    · obtain ⟨later, hlater, hdigits⟩ := ih h
      exact ⟨later, List.mem_cons_of_mem line hlater, hdigits⟩

end Session

def numbersOf (log rootFile : Text) (working : Path.WorkingDirectory) : List Text :=
  Session.numbers (linesOfEither log) (Session.new rootFile working)

theorem diagnosticsOf_eq_error_iff {log rootFile : Text} {working : Path.WorkingDirectory} {fault : Fault} :
    diagnosticsOf log rootFile working = .error fault ↔
      (numbersOf log rootFile working).findSome? overlong? = some fault := by
  rw [diagnosticsOf, numbersOf, ← Session.feedAll_eq_error_iff]
  cases Session.feedAll (linesOfEither log) (Session.new rootFile working) <;> simp [Except.map]

/-- A log cannot be read exactly if it comes to a number with more digits than are converted, and fails
with the first of them. Every number that it comes to stands in it, so that a log in which no more
digits follow each other is read, whatever else is in it. -/
theorem diagnosticsOf_fails_at_overlong (log rootFile : Text) (working : Path.WorkingDirectory) :
    (∀ fault, diagnosticsOf log rootFile working = .error fault ↔
        (numbersOf log rootFile working).findSome? overlong? = some fault) ∧
      (∀ digits ∈ numbersOf log rootFile working, IsNumberIn digits log) ∧
      ((∀ digits, IsNumberIn digits log → digits.length ≤ maxDigits) →
        ∃ ds, diagnosticsOf log rootFile working = .ok ds) := by
  have hwithin : ∀ digits ∈ numbersOf log rootFile working, IsNumberIn digits log := by
    intro digits h
    obtain ⟨line, hline, hdigits⟩ := Session.isNumberIn_of_mem_numbers h
    exact hdigits.of_within (within_of_mem_linesOfEither hline)
  refine ⟨fun fault => diagnosticsOf_eq_error_iff, hwithin, fun hshort => ?_⟩
  cases h : diagnosticsOf log rootFile working with
  | ok ds => exact ⟨ds, rfl⟩
  | error fault =>
    obtain ⟨digits, hdigits, hlong⟩ :=
      List.exists_of_findSome?_eq_some (diagnosticsOf_eq_error_iff.mp h)
    have hnone := overlong?_eq_none_iff.mpr (hshort digits (hwithin digits hdigits))
    rw [hnone] at hlong
    cases hlong

def numberedLog : Text := "LaTeX Warning: a on input line 12.".toList

theorem numberedLog_read : numbersOf numberedLog "/a.tex".toList .usual = ["12".toList] ∧
    IsNumberIn "12".toList numberedLog ∧ ∃ ds, diagnosticsOf numberedLog "/a.tex".toList = .ok ds := by
  have hnumbers : numbersOf numberedLog "/a.tex".toList .usual = ["12".toList] := by decide +kernel
  obtain ⟨-, hwithin, hread⟩ := diagnosticsOf_fails_at_overlong numberedLog "/a.tex".toList .usual
  refine ⟨hnumbers, hwithin _ (by rw [hnumbers]; exact List.mem_cons_self), hread fun digits h => ?_⟩
  have hlength : numberedLog.length ≤ maxDigits := by decide +kernel
  exact Nat.le_trans h.within.length_le hlength

def markedLine (digits : Text) : Text := "l.".toList ++ (digits ++ " b".toList)

def markedLog (digits : Text) : Text := Text.join ['\n'] ["! a".toList, markedLine digits]

private theorem lines_markedLog {digits : Text} (hdigits : ∀ c ∈ digits, isDigit c) :
    linesOfEither (markedLog digits) = ["! a".toList, markedLine digits] := by
  have hnewline : ∀ l ∈ ["! a".toList, markedLine digits], '\n' ∉ l := by
    intro l hl hc
    rcases List.mem_cons.mp hl with rfl | hl
    · revert hc
      decide
    · rw [List.mem_singleton.mp hl] at hc
      rcases List.mem_append.mp hc with hc | hc
      · revert hc
        decide
      · rcases List.mem_append.mp hc with hc | hc
        · exact absurd (hdigits _ hc) (by decide)
        · revert hc
          decide
  rw [linesOfEither, markedLog, lines_join (List.cons_ne_nil _ _) hnewline]
  rfl

/-- Whatever number the mark has is converted. -/
private theorem mem_numbersOf_markedLog {digits : Text} (hne : digits ≠ [])
    (hdigits : ∀ c ∈ digits, isDigit c) :
    digits ∈ numbersOf (markedLog digits) "/a.tex".toList .usual := by
  obtain ⟨s, hs⟩ : ∃ s, s = (Session.feed "! a".toList (Session.new "/a.tex".toList)).1 := ⟨_, rfl⟩
  have hmode : s.mode = .message true := by rw [hs]; decide +kernel
  have hnumber : Session.number? (markedLine digits) s = some digits := by
    have hends : Session.endsMessage true (markedLine digits) = false := rfl
    have hcontinuation : Continuation.ofLine? (markedLine digits) = none := rfl
    have hsource : '\n' ∉ ['b'] := by decide
    obtain ⟨shortened, hmark⟩ : ∃ shortened, SourceMark.ofLine? (markedLine digits) =
        some (⟨digits, shortened, ['b']⟩, []) :=
      SourceMark.ofLine?_mark hne hdigits (c := ' ') (by decide) hsource
    rw [Session.number?, hmode]
    dsimp only
    rw [hends, hcontinuation, if_pos rfl, hmark]
    rfl
  have hline : digits ∈ Session.numbersOn (markedLine digits) s := by
    rw [Session.numbersOn_eq, hnumber]
    exact List.mem_append_left _ (List.mem_singleton_self digits)
  rw [numbersOf, lines_markedLog hdigits, Session.numbers, Session.numbers, ← hs]
  exact List.mem_append_right _ (List.mem_append_left _ hline)

/-- A number with one digit more than is converted, and the whole log is given up. -/
theorem overlongLog_unread : ¬ ∀ log rootFile working, ∃ ds, diagnosticsOf log rootFile working = .ok ds := by
  obtain ⟨digits, hreplicate⟩ : ∃ digits, digits = List.replicate (maxDigits + 1) '1' := ⟨_, rfl⟩
  have hlength : digits.length = maxDigits + 1 := by rw [hreplicate, List.length_replicate]
  have hdigits : ∀ c ∈ digits, isDigit c := fun c hc => by
    rw [hreplicate] at hc
    rw [List.eq_of_mem_replicate hc]
    decide
  have hmem : digits ∈ numbersOf (markedLog digits) "/a.tex".toList .usual :=
    mem_numbersOf_markedLog (List.ne_nil_of_length_eq_add_one hlength) hdigits
  intro h
  obtain ⟨ds, hds⟩ := h (markedLog digits) "/a.tex".toList .usual
  cases hfirst : (numbersOf (markedLog digits) "/a.tex".toList .usual).findSome? overlong? with
  | none =>
    have hshort := overlong?_eq_none_iff.mp (List.findSome?_eq_none_iff.mp hfirst digits hmem)
    rw [hlength] at hshort
    exact Nat.not_succ_le_self _ hshort
  | some fault =>
    rw [diagnosticsOf_eq_error_iff.mpr hfirst] at hds
    cases hds

end TypesetTrace.Log
