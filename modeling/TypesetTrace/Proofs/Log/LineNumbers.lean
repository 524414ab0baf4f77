import TypesetTrace.Proofs.Log.Switches

/-! Where the line of a message comes from. It is the last of the numbers that were converted for the
message, and 1 if there were none. Nothing keeps that number from being zero. -/
namespace TypesetTrace.Log
open Text

/-- The line of a message for which these numbers were converted, the last one first. -/
def lineOf : List Text → Nat
  | [] => 1
  | digits :: _ => digitsValue digits

theorem lineOf_number {number : Option Text} {line : Nat} (h : Session.lineNumber number = .ok line) :
    line = lineOf number.toList := by
  cases number with
  | none =>
    cases h
    rfl
  | some digits =>
    rw [Session.lineNumber, Text.toNat] at h
    split at h
    · cases h
      rfl
    · cases h

/-- The line of the entry that a notice starts is the number in it. -/
theorem Notice.line_of_entry? {notice : Notice} {s : Session} {e : Entry}
    (h : notice.entry? s = .ok (some e)) : e.line = lineOf notice.number?.toList := by
  have hnumbered {number : Option Text} {f : Nat → Entry} (hf : ∀ line, (f line).line = line)
      (h : numbered number f = .ok (some e)) : e.line = lineOf number.toList := by
    obtain ⟨line, hline, he⟩ := numbered_eq_ok h
    cases he
    rw [hf]
    exact lineOf_number hline
  cases notice with
  | summary => cases h
  | unresolved u => exact hnumbered (fun _ => rfl) h
  | box b rest =>
    obtain ⟨heading, place⟩ := b
    cases place with
    | paragraph first last => exact hnumbered (fun _ => rfl) h
    | detected line => exact hnumbered (fun _ => rfl) h
    | output page => cases page <;> cases h <;> rfl
  | announcement a => exact hnumbered (fun _ => rfl) h
  | failure f => exact hnumbered (fun _ => rfl) h
  | _ =>
    cases h
    rfl

namespace Session

/-- The numbers that are converted for each message, newest message first and last number first,
after one more look at a line. -/
def noted (line : Text) (s : Session) (groups : List (List Text)) : List (List Text) :=
  if (startedBy line s).isSome then (number? line s).toList :: groups
  else groups.modifyHead ((number? line s).toList ++ ·)

def notedOn (line : Text) (s : Session) (groups : List (List Text)) : List (List Text) :=
  match _h : pass line s with
  | (s', .again rest) => notedOn rest s' (noted line s groups)
  | _ => noted line s groups
termination_by line.length
decreasing_by exact length_of_pass _h

def notedAll : List Text → Session → List (List Text) → List (List Text)
  | [], _, groups => groups
  | line :: rest, s, groups => notedAll rest (feed line s).1 (notedOn line s groups)

/-- The line of each message of the session is the last number that was converted for it. -/
def AreLinesOf (groups : List (List Text)) (s : Session) : Prop :=
  List.Forall₂ (fun numbers e => e.line = lineOf numbers) groups s.flushed

theorem withLine_eq_of_ok {s : Session} {digits : Text} {k : Nat → Session × Pass}
    (hok : ∀ fault, (withLine s (some digits) k).2 ≠ .failed fault) :
    withLine s (some digits) k = k (digitsValue digits) := by
  by_cases hshort : digits.length ≤ maxDigits
  · simp only [withLine, lineNumber, Text.toNat, if_pos hshort]
  · simp only [withLine, lineNumber, Text.toNat, if_neg hshort] at hok
    exact absurd rfl (hok _)

/-- A line inside a message gives the message its number, if there is one that can be converted. -/
theorem continueMessage_line {inError : Bool} {line : Text} {s : Session}
    (hm : s.mode = .message inError) (hok : ∀ fault, (continueMessage inError line s).2 ≠ .failed fault)
    {numbers : List Text} (hline : s.draft.line = lineOf numbers) :
    (continueMessage inError line s).1.draft.line = lineOf ((number? line s).toList ++ numbers) := by
  rw [continueMessage] at hok ⊢
  rw [number?, hm]
  dsimp only
  split
  · exact hline
  · rename_i hends
    rw [if_neg hends] at hok
    cases hc : Continuation.ofLine? line with
    | some read =>
      obtain ⟨⟨name, body, number, stopped⟩, rest⟩ := read
      simp only [hc, continueWith] at hok ⊢
      cases number with
      | none => exact hline
      | some digits => exact congrArg (·.1.draft.line) (withLine_eq_of_ok hok)
    | none =>
      simp only [hc] at hok ⊢
      cases hmark : if inError then SourceMark.ofLine? line else none with
      | some read =>
        simp only [hmark] at hok ⊢
        exact congrArg (·.1.draft.line) (withLine_eq_of_ok hok)
      | none => exact hline

theorem noted_of_not_started {line : Text} {s : Session} (hstarted : startedBy line s = none)
    (groups : List (List Text)) :
    noted line s groups = groups.modifyHead ((number? line s).toList ++ ·) := by
  rw [noted, hstarted]
  rfl

theorem noted_eq_self {line : Text} {s : Session} (hstarted : startedBy line s = none)
    (hnumber : number? line s = none) (groups : List (List Text)) : noted line s groups = groups := by
  rw [noted_of_not_started hstarted, hnumber]
  cases groups <;> rfl

private theorem areLinesOf_continueMessage {inError : Bool} {line : Text} {s : Session}
    {groups : List (List Text)} (hs : s.IsConsistent) (hm : s.mode = .message inError)
    (hok : ∀ fault, (continueMessage inError line s).2 ≠ .failed fault) (h : AreLinesOf groups s) :
    AreLinesOf (noted line s groups) (continueMessage inError line s).1 := by
  have hfits : (Mode.message inError).Fits s.draft := hm ▸ hs.pending
  obtain ⟨kind, hkind⟩ := Option.ne_none_iff_exists'.mp hfits.kind_ne_none
  have hpending {t : Session} (ht : t.draft.kind = some kind) :
      t.flushed = ⟨kind, t.draft.file, t.draft.text, t.draft.line, t.draft.context⟩ :: t.entries := by
    rw [flushed, Draft.complete?, ht]
    rfl
  rw [AreLinesOf, hpending hkind] at h
  rcases h with _ | ⟨hline, hrest⟩
  rename_i numbers groups
  have hstarted : startedBy line s = none := by rw [startedBy, hm]
  have hnext := continueMessage_line hm hok hline
  obtain ⟨d, m, p, hc, hd, -⟩ := continueMessage_cases inError line s
  rw [hc] at hnext ⊢
  rw [AreLinesOf, noted_of_not_started hstarted, hpending (hd.kind.trans hkind)]
  exact .cons hnext hrest

theorem areLinesOf_pass {line : Text} {s : Session} {groups : List (List Text)} (hs : s.IsConsistent)
    (hok : ∀ fault, (pass line s).2 ≠ .failed fault) (h : AreLinesOf groups s) :
    AreLinesOf (noted line s groups) (pass line s).1 := by
  rw [pass] at hok ⊢
  cases hm : s.mode with
  | boxContent =>
    rw [noted_eq_self (by rw [startedBy, hm]) (by rw [number?, hm])]
    exact h
  | message inError =>
    rw [hm] at hok
    exact areLinesOf_continueMessage hs hm hok h
  | idle =>
    rw [hm] at hok
    cases hn : Notice.ofLine? line with
    | none =>
      rw [noted_eq_self (by rw [startedBy, hm, hn]) (by rw [number?, hm, hn]; rfl)]
      exact h
    | some notice =>
      simp only [hn, accept_eq] at hok ⊢
      have hstarted : startedBy line s = (notice.entry? s).toOption.join := by rw [startedBy, hm, hn]
      have hnumber : number? line s = notice.number? := by rw [number?, hm, hn]; rfl
      rcases hentry : notice.entry? s with fault | entry
      · rw [hentry] at hok
        exact absurd rfl (hok fault)
      · rw [hentry] at hstarted
        rcases Notice.entry?_eq_ok hentry with ⟨rfl, rfl⟩ | ⟨e, rfl, -, -⟩
        · rw [noted_eq_self hstarted hnumber]
          exact h
        · rw [noted, hstarted, hnumber]
          exact List.Forall₂.cons (Notice.line_of_entry? hentry) h

private theorem notedOn_eq (line : Text) (s : Session) (groups : List (List Text)) :
    notedOn line s groups =
      match pass line s with
      | (s', .again rest) => notedOn rest s' (noted line s groups)
      | _ => noted line s groups := by
  rw [notedOn]
  split
  · rename_i hpass
    rw [hpass]
  · rename_i hpass
    split
    · rename_i s' rest hagain
      exact absurd hagain (hpass s' rest)
    · rfl

theorem areLinesOf_feed {line : Text} {s s' : Session} {groups : List (List Text)}
    (hs : s.IsConsistent) (h : AreLinesOf groups s) (hfeed : feed line s = (s', none)) :
    AreLinesOf (notedOn line s groups) s' := by
  induction line, s, groups using notedOn.induct with
  | case1 line s groups t rest hpass ih =>
    rw [feed_eq, hpass] at hfeed
    rw [notedOn_eq, hpass]
    have hlook := areLinesOf_pass hs (fun fault hfault => by rw [hpass] at hfault; cases hfault) h
    have ht := isConsistent_pass line s hs
    rw [hpass] at hlook ht
    exact ih ht hlook hfeed
  | case2 line s groups hlast =>
    have hlook : (∀ fault, (pass line s).2 ≠ .failed fault) →
        AreLinesOf (noted line s groups) (pass line s).1 := fun hok => areLinesOf_pass hs hok h
    rw [feed_eq] at hfeed
    rw [notedOn_eq]
    rcases hpass : pass line s with ⟨t, _ | rest | fault⟩
    · rw [hpass] at hlook hfeed
      cases hfeed
      exact hlook nofun
    · exact absurd hpass (hlast t rest)
    · rw [hpass] at hfeed
      cases hfeed

theorem areLinesOf_feedAll {lines : List Text} {s s' : Session} {groups : List (List Text)}
    (hs : s.IsConsistent) (h : AreLinesOf groups s) (hfeed : feedAll lines s = .ok s') :
    AreLinesOf (notedAll lines s groups) s' := by
  induction lines generalizing s groups with
  | nil =>
    cases hfeed
    exact h
  | cons line rest ih =>
    rw [feedAll] at hfeed
    split at hfeed
    · rename_i t hline
      have ht := passes_induction isConsistent_pass (line.length + 1) line hs
      rw [← feed, hline] at ht
      have hnext := areLinesOf_feed hs h hline
      rw [notedAll, hline]
      exact ih ht hnext hfeed
    · cases hfeed

/-- What is reported at the end are the messages so far, perhaps without the last one. -/
theorem AreLinesOf.finish {groups : List (List Text)} {s : Session} (h : AreLinesOf groups s) :
    List.Forall₂ (fun numbers d => d.line = lineOf numbers) (groups.reverse.take s.finish.2.length)
      s.finish.2 := by
  have hprefix : s.finish.2 <+: s.messages.map Entry.diagnostic :=
    s.close_entries_suffix.reverse.map Entry.diagnostic
  have hmessages : List.Forall₂ (fun numbers d => d.line = lineOf numbers) groups.reverse
      (s.messages.map Entry.diagnostic) := by
    rw [List.forall₂_map_right_iff]
    exact List.forall₂_reverse_iff.mpr h
  have hreported := List.forall₂_take s.finish.2.length hmessages
  rwa [← List.prefix_iff_eq_take.mp hprefix] at hreported

theorem mem_flatten_noted {line digits : Text} {s : Session} {groups : List (List Text)}
    (h : digits ∈ (noted line s groups).flatten) :
    digits ∈ (number? line s).toList ∨ digits ∈ groups.flatten := by
  rw [noted] at h
  split at h
  · exact List.mem_append.mp h
  · cases groups with
    | nil => cases h
    | cons numbers groups =>
      rw [List.modifyHead_cons, List.flatten_cons, List.append_assoc] at h
      exact List.mem_append.mp h

theorem mem_flatten_notedOn {line digits : Text} {s : Session} {groups : List (List Text)}
    (h : digits ∈ (notedOn line s groups).flatten) :
    digits ∈ numbersOn line s ∨ digits ∈ groups.flatten := by
  induction line, s, groups using notedOn.induct with
  | case1 line s groups t rest hpass ih =>
    rw [notedOn_eq, hpass] at h
    rw [numbersOn_eq, hpass, List.mem_append]
    rcases ih h with h | h
    · exact .inl (.inr h)
    · rcases mem_flatten_noted h with h | h
      · exact .inl (.inl h)
      · exact .inr h
  | case2 line s groups hlast =>
    have hnoted : digits ∈ (noted line s groups).flatten := by
      rw [notedOn_eq] at h
      split at h
      · rename_i hpass
        exact absurd hpass (hlast _ _)
      · exact h
    rw [numbersOn_eq, List.mem_append]
    rcases mem_flatten_noted hnoted with h | h
    · exact .inl (.inl h)
    · exact .inr h

theorem mem_flatten_notedAll {lines : List Text} {digits : Text} {s : Session}
    {groups : List (List Text)} (h : digits ∈ (notedAll lines s groups).flatten) :
    digits ∈ numbers lines s ∨ digits ∈ groups.flatten := by
  induction lines generalizing s groups with
  | nil => exact .inr h
  | cons line rest ih =>
    rw [numbers, List.mem_append]
    rcases ih h with h | h
    · exact .inl (.inr h)
    · rcases mem_flatten_notedOn h with h | h
      · exact .inl (.inl h)
      · exact .inr h

end Session

/-- Every digit is a zero, of whatever script. -/
def IsZero (digits : Text) : Prop := ∀ c ∈ digits, digitValue? c = some 0

theorem digitsValue_eq_zero_iff {digits : Text} (h : ∀ c ∈ digits, isDigit c) :
    digitsValue digits = 0 ↔ IsZero digits := by
  -- The induction is on the digits that are still to be added to a value.
  have hfrom (v : Nat) : digits.foldl (fun v c => 10 * v + (digitValue? c).getD 0) v = 0 ↔
      v = 0 ∧ IsZero digits := by
    induction digits generalizing v with
    | nil => simp [IsZero]
    | cons c digits ih =>
      obtain ⟨n, hn⟩ := Option.isSome_iff_exists.mp (h c List.mem_cons_self)
      rw [List.foldl_cons, ih fun d hd => h d (List.mem_cons_of_mem c hd), hn]
      simp only [IsZero, List.forall_mem_cons, hn, Option.getD_some, Option.some.injEq]
      constructor
      · rintro ⟨hv, hrest⟩
        exact ⟨by omega, by omega, hrest⟩
      · rintro ⟨rfl, rfl, hrest⟩
        exact ⟨rfl, hrest⟩
  rw [digitsValue, hfrom]
  exact and_iff_right rfl

theorem one_le_lineOf_iff {numbers : List Text} (h : ∀ digits ∈ numbers, ∀ c ∈ digits, isDigit c) :
    1 ≤ lineOf numbers ↔ ∀ digits ∈ numbers.head?, ¬ IsZero digits := by
  cases numbers with
  | nil => exact ⟨nofun, fun _ => Nat.le_refl 1⟩
  | cons digits rest =>
    rw [List.head?_cons, Nat.one_le_iff_ne_zero, lineOf, ne_eq,
      digitsValue_eq_zero_iff (h digits List.mem_cons_self)]
    simp

theorem forall_one_le_line_iff {groups : List (List Text)} {ds : List Diagnostic}
    (h : List.Forall₂ (fun numbers d => d.line = lineOf numbers) groups ds) :
    (∀ d ∈ ds, 1 ≤ d.line) ↔ ∀ numbers ∈ groups, 1 ≤ lineOf numbers := by
  induction h with
  | nil => exact ⟨nofun, nofun⟩
  | cons hline _ ih => rw [List.forall_mem_cons, List.forall_mem_cons, hline, ih]

/-- The numbers that are converted for each message of a log, oldest message first and last number
first. -/
def numbersByMessage (log rootFile : Text) (working : Path.WorkingDirectory) : List (List Text) :=
  (Session.notedAll (linesOfEither log) (Session.new rootFile working) []).reverse

theorem mem_numbersOf_of_mem {log rootFile digits : Text} {working : Path.WorkingDirectory}
    {numbers : List Text} (h : numbers ∈ numbersByMessage log rootFile working) (hdigits : digits ∈ numbers) :
    digits ∈ numbersOf log rootFile working := by
  have hmem := List.mem_flatten.mpr ⟨numbers, List.mem_reverse.mp h, hdigits⟩
  rcases Session.mem_flatten_notedAll hmem with h | h
  · exact h
  · cases h

theorem isDigit_of_mem_numbersOf {log rootFile digits : Text} {working : Path.WorkingDirectory}
    (h : digits ∈ numbersOf log rootFile working) :
    ∀ c ∈ digits, isDigit c := by
  obtain ⟨line, -, hline⟩ := Session.isNumberIn_of_mem_numbers h
  exact hline.isDigit

/-- The line of every diagnostic is the last number that was converted for its message, and 1 if there
was none. So all lines are at least 1 exactly if none of these numbers is zero. -/
theorem lines_are_last_numbers (log rootFile : Text) (working : Path.WorkingDirectory) :
    ∀ ds, diagnosticsOf log rootFile working = .ok ds →
      let reported := (numbersByMessage log rootFile working).take ds.length
      List.Forall₂ (fun numbers d => d.line = lineOf numbers) reported ds ∧
        (∀ numbers ∈ reported, ∀ digits ∈ numbers, digits ∈ numbersOf log rootFile working) ∧
        ((∀ d ∈ ds, 1 ≤ d.line) ↔ ∀ numbers ∈ reported, ∀ digits ∈ numbers.head?, ¬ IsZero digits) := by
  intro ds h reported
  obtain ⟨s, hs, rfl⟩ := Session.exists_of_diagnosticsOf h
  have hlines : List.Forall₂ (fun numbers d => d.line = lineOf numbers) reported s.finish.2 :=
    (Session.areLinesOf_feedAll (Session.isConsistent_new rootFile working) .nil hs).finish
  have hmem : ∀ numbers ∈ reported, ∀ digits ∈ numbers, digits ∈ numbersOf log rootFile working :=
    fun numbers hn digits hdigits => mem_numbersOf_of_mem (List.mem_of_mem_take hn) hdigits
  refine ⟨hlines, hmem, (forall_one_le_line_iff hlines).trans ?_⟩
  exact forall₂_congr fun numbers hn =>
    one_le_lineOf_iff fun digits hdigits => isDigit_of_mem_numbersOf (hmem numbers hn digits hdigits)

/-- A warning that a second line gives another line, and an error at line 0. -/
def renumberedLog : Text :=
  Text.join ['\n'] ["Package p Warning: a on input line 3.".toList, "(p) b on input line 5.".toList, [],
    "! c".toList, "l.0 d".toList]

theorem renumberedLog_lines : numbersByMessage renumberedLog "/a.tex".toList .usual =
      [["5".toList, "3".toList], ["0".toList]] ∧
    ∃ ds, diagnosticsOf renumberedLog "/a.tex".toList = .ok ds ∧
      List.Forall₂ (fun numbers d => d.line = lineOf numbers) [["5".toList, "3".toList], ["0".toList]] ds ∧
      ¬ ∀ d ∈ ds, 1 ≤ d.line := by
  have hnumbers : numbersByMessage renumberedLog "/a.tex".toList .usual =
      [["5".toList, "3".toList], ["0".toList]] := by decide +kernel
  have hlength : (diagnosticsOf renumberedLog "/a.tex".toList).toOption.map List.length = some 2 := by
    decide +kernel
  refine ⟨hnumbers, ?_⟩
  cases h : diagnosticsOf renumberedLog "/a.tex".toList with
  | error fault =>
    rw [h] at hlength
    cases hlength
  | ok ds =>
    rw [h] at hlength
    obtain ⟨hlines, -, hpositive⟩ := lines_are_last_numbers renumberedLog "/a.tex".toList .usual ds h
    rw [hnumbers, show ds.length = 2 from Option.some.inj hlength] at hlines hpositive
    refine ⟨ds, rfl, hlines, fun hall => ?_⟩
    have hzero : IsZero "0".toList := by
      intro c hc
      rw [List.mem_singleton.mp hc]
      decide
    exact hpositive.mp hall _ (List.mem_cons_of_mem _ (List.mem_singleton_self _)) _ rfl hzero

/-- An error at line 0 is reported so. -/
theorem zeroMark_reported :
    ¬ ∀ log rootFile working ds, diagnosticsOf log rootFile working = .ok ds → ∀ d ∈ ds, 1 ≤ d.line := by
  intro h
  have hline : (diagnosticsOf "! a\nl.0 b".toList "/a.tex".toList).toOption.map (·.map (·.line)) =
      some [0] := by decide +kernel
  cases hlog : diagnosticsOf "! a\nl.0 b".toList "/a.tex".toList with
  | error fault =>
    rw [hlog] at hline
    cases hline
  | ok ds =>
    rw [hlog] at hline
    obtain ⟨d, rfl, hd⟩ := List.map_eq_singleton_iff.mp (Option.some.inj hline)
    have hpositive := h _ _ _ _ hlog d (List.mem_singleton_self d)
    omega

end TypesetTrace.Log
