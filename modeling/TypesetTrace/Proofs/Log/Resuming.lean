import TypesetTrace.Proofs.Log.Accounting

/-! Two empty lines end whatever a log was in the middle of. What is read behind them depends on the
lines before only through the files that are open, and is reported behind their messages. -/
namespace TypesetTrace.Log
open Text
namespace Session

/-- Reads on with the given files open and nothing reported yet. -/
def resumed (rootFile : Text) (working : Path.WorkingDirectory) (n : Nesting) : Session :=
  { new rootFile working with nesting := n }

/-- The session with the messages of an earlier one in front of its own. As long as it has none the
pending message is still that of the earlier one. -/
def behind (base t : Session) : Session :=
  { t with
    entries := if t.draft.kind = none then base.entries else t.entries ++ base.flushed
    draft := if t.draft.kind = none then base.draft else t.draft }

/-- Only a message can leave anything to be expected of the next line. -/
def IsSettled (t : Session) : Prop := t.draft.kind = none → t.mode = .idle ∧ t.entries = []

variable {base t : Session}

theorem behind_of_none (h : t.draft.kind = none) :
    behind base t = { t with entries := base.entries, draft := base.draft } := by
  rw [behind, if_pos h, if_pos h]

theorem behind_of_some {kind : Kind} (h : t.draft.kind = some kind) :
    behind base t = { t with entries := t.entries ++ base.flushed } := by
  have hne : t.draft.kind ≠ none := by simp [h]
  rw [behind, if_neg hne, if_neg hne]

theorem flushed_behind (h : t.IsSettled) : (behind base t).flushed = t.flushed ++ base.flushed := by
  cases hk : t.draft.kind with
  | none => simp [behind_of_none hk, flushed, Draft.complete?, hk, (h hk).2]
  | some kind => simp [behind_of_some hk, flushed]

theorem start_behind (h : t.IsSettled) (e : Entry) :
    (behind base t).start e = behind base (t.start e) := by
  have hstart : (t.start e).draft.kind = some e.kind := rfl
  rw [behind_of_some hstart, start, flushed_behind h]
  cases hk : t.draft.kind with
  | none => rw [behind_of_none hk]; rfl
  | some kind => rw [behind_of_some hk]; rfl

/-- A line inside a message does not look at the completed messages. -/
private theorem continueMessage_withEntries (inError : Bool) (line : Text) (s : Session)
    (es : List Entry) :
    continueMessage inError line { s with entries := es } =
      ({ (continueMessage inError line s).1 with entries := es },
        (continueMessage inError line s).2) := by
  simp only [continueMessage]
  split
  · rfl
  · split
    · simp only [continueWith]
      split
      · rfl
      · rename_i digits _
        simp only [withLine]
        cases lineNumber (some digits) <;> rfl
    · split
      · rename_i mark _ _
        simp only [withLine]
        cases lineNumber (some mark.line) <;> rfl
      · rfl

private theorem accept_behind (h : t.IsSettled) (notice : Notice) :
    accept notice (behind base t) = (behind base (accept notice t).1, (accept notice t).2) := by
  -- The entry that a notice starts does not depend on the messages before it.
  have hentry : notice.entry? (behind base t) = notice.entry? t := rfl
  rw [accept_eq, accept_eq, hentry]
  rcases notice.entry? t with fault | _ | e
  · rfl
  · rfl
  · show ({ (behind base t).start e with mode := notice.modeAfter t.mode }, notice.leftOver) = _
    rw [start_behind h]
    rfl

private theorem continueMessage_behind {kind : Kind} (h : t.draft.kind = some kind) (inError : Bool)
    (line : Text) :
    continueMessage inError line (behind base t) =
      (behind base (continueMessage inError line t).1, (continueMessage inError line t).2) := by
  have hkind : (continueMessage inError line t).1.draft.kind = some kind ∧
      (continueMessage inError line t).1.entries = t.entries := by
    obtain ⟨d, m, p, hc, hd, -⟩ := continueMessage_cases inError line t
    rw [hc]
    exact ⟨hd.kind.trans h, rfl⟩
  rw [behind_of_some h, behind_of_some hkind.1, continueMessage_withEntries, hkind.2]

/-- One look does the same behind other messages. -/
theorem pass_behind (h : t.IsSettled) (line : Text) :
    pass line (behind base t) = (behind base (pass line t).1, (pass line t).2) := by
  have hmode : (behind base t).mode = t.mode := rfl
  rw [pass, pass, hmode]
  cases hm : t.mode with
  | boxContent => rfl
  | message inError =>
    cases hk : t.draft.kind with
    | none => simp [(h hk).1] at hm
    | some kind => exact continueMessage_behind hk inError line
  | idle =>
    cases Notice.ofLine? line with
    | none => rfl
    | some notice => exact accept_behind h notice

private theorem accept_isSettled (h : t.IsSettled) (notice : Notice) :
    (accept notice t).1.IsSettled := by
  rw [accept_eq]
  rcases notice.entry? t with fault | _ | e
  · exact h
  · exact h
  · exact nofun

theorem pass_isSettled (h : t.IsSettled) (line : Text) : (pass line t).1.IsSettled := by
  rw [pass]
  cases hm : t.mode with
  | boxContent => exact fun hk => ⟨rfl, (h hk).2⟩
  | message inError =>
    obtain ⟨d, m, p, hc, hd, -⟩ := continueMessage_cases inError line t
    show (continueMessage inError line t).1.IsSettled
    rw [hc]
    intro hk
    simp [(h (hd.kind.symm.trans hk)).1] at hm
  | idle =>
    cases Notice.ofLine? line with
    | none => exact fun hk => ⟨hm, (h hk).2⟩
    | some notice => exact accept_isSettled h notice

private theorem passes_behind (n : Nat) (line : Text) (h : t.IsSettled) :
    passes n line (behind base t) = (behind base (passes n line t).1, (passes n line t).2) := by
  induction n generalizing line t with
  | zero => rfl
  | succ n ih =>
    have hnext := pass_isSettled h line
    rw [passes, passes, pass_behind h]
    rcases hpass : pass line t with ⟨t', _ | rest | fault⟩
    · rfl
    · rw [hpass] at hnext
      exact ih rest hnext
    · rfl

/-- A whole log is read in the same way behind other messages. -/
theorem feedAll_behind (lines : List Text) (h : t.IsSettled) :
    feedAll lines (behind base t) = (feedAll lines t).map (behind base) := by
  induction lines generalizing t with
  | nil => rfl
  | cons line rest ih =>
    have hnext : (feed line t).1.IsSettled :=
      passes_induction (P := IsSettled) (fun line s hs => pass_isSettled hs line) _ line h
    rw [feedAll, feedAll, feed, passes_behind _ line h, ← feed]
    rcases hfeed : feed line t with ⟨t', _ | fault⟩
    · rw [hfeed] at hnext
      exact ih hnext
    · rfl

theorem feedAll_append {s s' : Session} {lines : List Text} (h : feedAll lines s = .ok s')
    (rest : List Text) : feedAll (lines ++ rest) s = feedAll rest s' := by
  induction lines generalizing s with
  | nil => cases h; rfl
  | cons line lines ih =>
    rw [feedAll] at h
    rw [List.cons_append, feedAll]
    split at h
    · exact ih h
    · cases h

/-- The files that are open change only where a line is no notice. -/
theorem pass_nesting (line : Text) (s : Session) :
    (pass line s).1.nesting = s.nesting ∨ (pass line s).1.nesting = (track line s).nesting := by
  rw [pass]
  split
  · exact .inl rfl
  · rename_i inError _
    obtain ⟨d, m, p, hc, -⟩ := continueMessage_cases inError line s
    rw [hc]
    exact .inl rfl
  · split
    · rename_i notice _
      rw [accept_eq]
      rcases notice.entry? s with fault | _ | e <;> exact .inl rfl
    · exact .inr rfl

/-- The main file never closes, and stays the main file. -/
structure IsOpenWith (rootFile : Text) (working : Path.WorkingDirectory) (s : Session) : Prop where
  rootFile : s.rootFile = rootFile
  working : s.working = working
  files : s.nesting.files ≠ []

/-- A look at a line does not move the places that paths are taken from. -/
private theorem places_pass (line : Text) (s : Session) :
    (pass line s).1.rootFile = s.rootFile ∧ (pass line s).1.working = s.working := by
  rcases pass_cases line s with ⟨notice, e, -, -, hpass⟩ | ⟨-, d, m, n, p, hpass, -⟩ <;>
    rw [hpass] <;> exact ⟨rfl, rfl⟩

theorem isOpenWith_pass {rootFile : Text} {working : Path.WorkingDirectory} (line : Text) (s : Session)
    (h : s.IsOpenWith rootFile working) : (pass line s).1.IsOpenWith rootFile working where
  rootFile := (places_pass line s).1.trans h.rootFile
  working := (places_pass line s).2.trans h.working
  files := by
    rcases pass_nesting line s with hn | hn
    · rw [hn]
      exact h.files
    · rw [hn]
      simp only [track]
      split
      · exact List.cons_ne_nil _ _
      · assumption

def endedDraft (s : Session) : Draft :=
  match s.mode with
  | .message _ => { s.draft with text := s.draft.text ++ ['\n'] }
  | _ => s.draft

def ended (s : Session) : Session := { s with draft := s.endedDraft, mode := .idle }

theorem feed_nil {s : Session} (hfiles : s.nesting.files ≠ []) : feed [] s = (s.ended, none) := by
  have htrack : track [] s = s := by
    show { s with nesting := if s.nesting.files = [] then _ else s.nesting } = s
    rw [if_neg hfiles]
  have hnotice : Notice.ofLine? [] = none := rfl
  rw [feed_eq, pass, ended, endedDraft]
  cases hm : s.mode with
  | boxContent => rfl
  | message inError => rfl
  | idle =>
    simp only [hnotice, htrack]
    rw [← hm]

private theorem endedDraft_kind (s : Session) : s.endedDraft.kind = s.draft.kind := by
  rw [endedDraft]
  cases s.mode <;> rfl

private theorem hasPending_ended {s : Session} (h : s.HasPending) : s.ended.HasPending :=
  fun hk => h ((endedDraft_kind s).symm.trans hk)

private theorem ended_ended (s : Session) : s.ended.ended = s.ended := rfl

/-- Two empty lines leave a session in which nothing is expected of the next line. -/
theorem feedAll_nil_nil {rootFile : Text} {working : Path.WorkingDirectory} {s : Session}
    (h : s.IsOpenWith rootFile working) (rest : List Text) :
    feedAll ([] :: [] :: rest) s = feedAll rest (behind s.ended (resumed rootFile working s.nesting)) := by
  have hended : s.ended = behind s.ended (resumed rootFile working s.nesting) := by
    rw [behind_of_none rfl, ← h.rootFile, ← h.working]
    rfl
  rw [feedAll, feed_nil h.files]
  show feedAll ([] :: rest) s.ended = _
  rw [feedAll, feed_nil (s := s.ended) h.files, ended_ended, ← hended]

/-- The diagnostics of messages that end a log, or that other messages follow. Only at the end of a
log a last message is dropped that says that the bibliography is empty. -/
def report (atEnd : Prop) [Decidable atEnd] (es : List Entry) : List Diagnostic :=
  (if atEnd ∧ EndsEmpty es then es.dropLast else es).map Entry.diagnostic

private theorem infix_concat_newline (text : Text) :
    emptyBibliography <:+: text ++ ['\n'] ↔ emptyBibliography <:+: text := by
  rw [List.infix_concat_iff, List.suffix_concat_iff]
  constructor
  · rintro ((h | ⟨u, hu, -⟩) | h)
    · exact absurd h (by decide)
    · have hmem : '\n' ∈ emptyBibliography := hu ▸ List.mem_append_right u (List.mem_singleton_self _)
      exact absurd hmem (by decide)
    · exact h
  · exact .inr

private theorem report_concat_newline (atEnd : Prop) [Decidable atEnd] (es : List Entry) (e : Entry) :
    report atEnd (es ++ [{ e with text := e.text ++ ['\n'] }]) = report atEnd (es ++ [e]) := by
  have hends : EndsEmpty (es ++ [{ e with text := e.text ++ ['\n'] }]) ↔ EndsEmpty (es ++ [e]) := by
    simp [EndsEmpty, infix_concat_newline]
  have hdiagnostic : Entry.diagnostic { e with text := e.text ++ ['\n'] } = e.diagnostic := by
    rw [Entry.diagnostic, strip_concat (by decide)]
    rfl
  rw [report, report]
  simp only [hends, List.dropLast_concat]
  split
  · rfl
  · rw [List.map_append, List.map_append, List.map_singleton, List.map_singleton, hdiagnostic]

theorem report_ended (atEnd : Prop) [Decidable atEnd] (s : Session) :
    report atEnd s.ended.messages = report atEnd s.messages := by
  cases hm : s.mode with
  | idle => rw [ended, endedDraft, hm]; rfl
  | boxContent => rw [ended, endedDraft, hm]; rfl
  | message inError =>
    rw [ended, endedDraft, hm, messages, messages, flushed, flushed, List.reverse_append,
      List.reverse_append, Draft.complete?, Draft.complete?]
    cases s.draft.kind with
    | none => rfl
    | some kind =>
      exact report_concat_newline atEnd s.entries.reverse
        ⟨kind, s.draft.file, s.draft.text, s.draft.line, s.draft.context⟩

theorem finish_behind {atEnd : Prop} [Decidable atEnd] (hb : base.HasPending) (ht : t.IsSettled)
    (hend : atEnd ↔ t.draft.kind = none) :
    (behind base t).finish.2 = report atEnd base.messages ++ t.finish.2 := by
  cases hk : t.draft.kind with
  | none =>
    have hlast : (behind base t).finish.2 = report atEnd base.messages := by
      rw [behind_of_none hk, report]
      simp only [hend.mpr hk, true_and]
      exact finish_eq hb
    have hnothing : t.finish.2 = [] := by
      simp [finish, close, diagnostics, flushed, Draft.complete?, hk, (ht hk).2]
    rw [hlast, hnothing, List.append_nil]
  | some kind =>
    have hmore : ¬ atEnd := fun h => by simp [hend.mp h] at hk
    rw [behind_of_some hk, report, if_neg fun h => hmore h.1]
    simp only [finish, close, diagnostics, messages]
    split
    · simp
    · simp [flushed]

/-- Nothing is pending exactly as long as nothing was started. -/
theorem kind_eq_none_iff {rootFile : Text} {working : Path.WorkingDirectory} {n : Nesting}
    {lines : List Text} (h : feedAll lines (resumed rootFile working n) = .ok t) (ht : t.IsSettled) :
    started lines (resumed rootFile working n) = [] ↔ t.draft.kind = none := by
  have hlength := (messages_feedAll h).length_eq
  rw [show (resumed rootFile working n).messages = [] from rfl, List.nil_append] at hlength
  rw [← List.length_eq_zero_iff, hlength, List.length_eq_zero_iff, messages, flushed, Draft.complete?]
  cases hk : t.draft.kind with
  | none => simp [(ht hk).2]
  | some kind => simp

/-- Whatever the lines before two empty lines left unfinished, the lines behind them are reported as
if a log started there with the same files open, behind the messages before. Those are all reported,
but for a last one without a successor that says that the bibliography is empty. -/
theorem resumes_after_empty_lines (rootFile : Text) (working : Path.WorkingDirectory) (n : Nesting)
    (rest : List Text) :
    ∀ lines s, feedAll lines (new rootFile working) = .ok s → s.nesting = n →
      AreStartsOf (started lines (new rootFile working)) s.messages ∧
        (feedAll (lines ++ [] :: [] :: rest) (new rootFile working)).map (fun s => s.finish.2) =
          (feedAll rest (resumed rootFile working n)).map fun t =>
            report (started rest (resumed rootFile working n) = []) s.messages ++ t.finish.2 := by
  intro lines s h hn
  subst hn
  refine ⟨messages_feedAll h, ?_⟩
  have hopen : s.IsOpenWith rootFile working :=
    feedAll_induction isOpenWith_pass h ⟨rfl, rfl, List.cons_ne_nil _ _⟩
  have hpending : s.HasPending := feedAll_induction hasPending_pass h fun _ => rfl
  have hfresh : (resumed rootFile working s.nesting).IsSettled := fun _ => ⟨rfl, rfl⟩
  rw [feedAll_append h, feedAll_nil_nil hopen, feedAll_behind rest hfresh]
  cases hrest : feedAll rest (resumed rootFile working s.nesting) with
  | error fault => rfl
  | ok t =>
    have ht : t.IsSettled :=
      feedAll_induction (P := IsSettled) (fun line s hs => pass_isSettled hs line) hrest hfresh
    show Except.ok (behind s.ended t).finish.2 = Except.ok _
    rw [finish_behind (hasPending_ended hpending) ht (kind_eq_none_iff hrest ht), report_ended]

def unfinishedLog : List Text := ["(./b.tex".toList, "! Undefined control sequence.".toList]

def laterLog : List Text := ["LaTeX Warning: late".toList, [], [')']]

theorem unfinishedLog_resumed : ∃ s, feedAll unfinishedLog (new "/a.tex".toList) = .ok s ∧
    s.mode = .message true ∧
    (feedAll (unfinishedLog ++ [] :: [] :: laterLog) (new "/a.tex".toList)).map
        (fun s => s.finish.2) =
      (feedAll laterLog (resumed "/a.tex".toList .usual ⟨["./b.tex".toList, "/a.tex".toList], 0⟩)).map
        fun t => s.messages.map Entry.diagnostic ++ t.finish.2 := by
  have hend : (feedAll unfinishedLog (new "/a.tex".toList)).toOption.map
      (fun s => (s.nesting, s.mode)) =
        some (⟨["./b.tex".toList, "/a.tex".toList], 0⟩, .message true) := by decide +kernel
  have hmore : started laterLog
      (resumed "/a.tex".toList .usual ⟨["./b.tex".toList, "/a.tex".toList], 0⟩) ≠ [] := by decide +kernel
  cases h : feedAll unfinishedLog (new "/a.tex".toList) with
  | error fault => rw [h] at hend; cases hend
  | ok s =>
    rw [h] at hend
    have hs := Prod.mk.inj (Option.some.inj hend)
    have hresumes := (resumes_after_empty_lines "/a.tex".toList .usual _ laterLog unfinishedLog s h hs.1).2
    simp only [report, hmore, false_and, if_false] at hresumes
    exact ⟨s, rfl, hs.2, hresumes⟩

end Session
end TypesetTrace.Log
