import TypesetTrace.Proofs.Log.Resuming

/-! A message that was reported stays as it was reported. Completed messages are never touched again,
so every later report of a session begins with every earlier one, also where a report was asked for in
the middle of a message or a line could not be read. -/
namespace TypesetTrace.Log
open Text
namespace Session

/-- What a session can be asked for: to read a line, or to end the log and report its messages. -/
inductive Call where
  | feed (line : Text)
  | finish

/-- The reports that a session gives, in order. A line with a number that cannot be converted does
not keep it from going on. -/
def reports : List Call → Session → List (List Diagnostic)
  | [], _ => []
  | .feed line :: rest, s => reports rest (feed line s).1
  | .finish :: rest, s => s.finish.2 :: reports rest s.finish.1

theorem entries_suffix_flushed (s : Session) : s.entries <:+ s.flushed := List.suffix_append _ _

/-- A look at a line leaves the completed messages alone and completes at most one more. -/
theorem suffix_entries_pass {es : List Entry} (line : Text) (s : Session) (h : es <:+ s.entries) :
    es <:+ (pass line s).1.entries := by
  rcases pass_cases line s with ⟨notice, e, -, -, hpass⟩ | ⟨-, d, m, n, p, hpass, -⟩
  · rw [hpass]
    exact h.trans s.entries_suffix_flushed
  · rw [hpass]
    exact h

theorem entries_suffix_feed (line : Text) (s : Session) : s.entries <:+ (feed line s).1.entries :=
  passes_induction suffix_entries_pass _ line (List.suffix_refl _)

theorem entries_suffix_feedAll {lines : List Text} {s s' : Session} (h : feedAll lines s = .ok s') :
    s.entries <:+ s'.entries :=
  feedAll_induction suffix_entries_pass h (List.suffix_refl _)

/-- While any notice may follow, a line that starts no message leaves the pending one as it is. -/
theorem pass_of_idle (line : Text) {s : Session} (hm : s.mode = .idle) :
    (∃ e m, (pass line s).1 = { s.start e with mode := m }) ∨
      (pass line s).1.mode = .idle ∧ (pass line s).1.flushed = s.flushed := by
  rw [pass, hm]
  cases Notice.ofLine? line with
  | none => exact .inr ⟨hm, rfl⟩
  | some notice =>
    dsimp only
    rw [accept_eq]
    rcases notice.entry? s with fault | _ | e
    · exact .inr ⟨hm, rfl⟩
    · exact .inr ⟨hm, rfl⟩
    · exact .inl ⟨e, _, rfl⟩

/-- The messages that a session has while any notice may follow stand in front of all later ones. -/
theorem messages_prefix_of_idle {lines : List Text} {s t : Session} (hm : s.mode = .idle)
    (h : feedAll lines s = .ok t) : s.messages <+: t.messages := by
  -- As long as the last of them is pending, it is not continued.
  have hkept : t.mode = .idle ∧ t.flushed = s.flushed ∨ s.flushed <:+ t.entries := by
    refine feedAll_induction (P := fun t => t.mode = .idle ∧ t.flushed = s.flushed ∨ s.flushed <:+ t.entries)
      (fun line t ht => ?_) h (.inl ⟨hm, rfl⟩)
    rcases ht with ⟨hidle, hflushed⟩ | hdone
    · rcases pass_of_idle line hidle with ⟨e, m, hpass⟩ | ⟨hidle', hflushed'⟩
      · rw [hpass]
        exact .inr (hflushed ▸ List.suffix_refl _)
      · exact .inl ⟨hidle', hflushed'.trans hflushed⟩
    · exact .inr (suffix_entries_pass line t hdone)
  rcases hkept with ⟨-, hflushed⟩ | hdone
  · have hsame : t.messages = s.messages := congrArg List.reverse hflushed
    exact hsame ▸ List.prefix_refl _
  · exact (hdone.trans t.entries_suffix_flushed).reverse

/-- What is complete is reported at its place, as it is. Only at the end of a log it may be left out. -/
theorem reported_of_prefix {t : Session} (ht : t.HasPending) {es : List Entry} {e : Entry}
    (h : es ++ [e] <+: t.messages) :
    t.finish.2[es.length]? = some e.diagnostic ∨ t.messages = es ++ [e] ∧ EndsEmpty (es ++ [e]) := by
  obtain ⟨more, hmore⟩ := h
  have hplace (fs : List Entry) :
      ((es ++ [e] ++ fs).map Entry.diagnostic)[es.length]? = some e.diagnostic := by simp
  rw [finish_eq ht, ← hmore]
  split
  · rename_i hends
    by_cases hlast : more = []
    · rw [hlast, List.append_nil] at hends ⊢
      exact .inr ⟨rfl, hends⟩
    · rw [List.dropLast_append_of_ne_nil hlast]
      exact .inl (hplace _)
  · exact .inl (hplace _)

/-- A message that is complete while any notice may follow is reported as it is now, whatever comes later. -/
theorem complete_is_reported {lines : List Text} {s t : Session} {es : List Entry} {e : Entry}
    (hm : s.mode = .idle) (hs : s.HasPending) (hmessages : s.messages = es ++ [e])
    (h : feedAll lines s = .ok t) :
    s.messages <+: t.messages ∧ (t.finish.2[es.length]? = some e.diagnostic ∨
      t.messages = s.messages ∧ EndsEmpty s.messages) := by
  have hkept := messages_prefix_of_idle hm h
  have hpending : t.HasPending := feedAll_induction hasPending_pass h hs
  rw [hmessages] at hkept ⊢
  exact ⟨hkept, reported_of_prefix hpending hkept⟩

theorem entries_suffix_close (s : Session) : s.entries <:+ s.close.entries := by
  rw [close]
  split
  · exact List.suffix_refl _
  · exact s.entries_suffix_flushed

theorem diagnostics_isPrefix {s s' : Session} (h : s.entries <:+ s'.entries) :
    s.diagnostics <+: s'.diagnostics :=
  h.reverse.map Entry.diagnostic

/-- What is completed now stands in front of every report to come. -/
theorem diagnostics_prefix_reports {calls : List Call} {s : Session} {report : List Diagnostic}
    (h : report ∈ reports calls s) : s.diagnostics <+: report := by
  induction calls generalizing s with
  | nil => cases h
  | cons call rest ih =>
    cases call with
    | feed line => exact (diagnostics_isPrefix (entries_suffix_feed line s)).trans (ih h)
    | finish =>
      have hclose := diagnostics_isPrefix s.entries_suffix_close
      rcases List.mem_cons.mp h with rfl | h
      · exact hclose
      · exact hclose.trans (ih h)

theorem reports_pairwise (calls : List Call) (s : Session) :
    (reports calls s).Pairwise (· <+: ·) := by
  induction calls generalizing s with
  | nil => exact .nil
  | cons call rest ih =>
    cases call with
    | feed line => exact ih _
    | finish => exact .cons (fun _ h => diagnostics_prefix_reports h) (ih _)

theorem reports_append (calls rest : List Call) (s : Session) :
    ∃ t, reports (calls ++ rest) s = reports calls s ++ reports rest t := by
  induction calls generalizing s with
  | nil => exact ⟨s, rfl⟩
  | cons call calls ih =>
    cases call with
    | feed line => exact ih _
    | finish =>
      obtain ⟨t, ht⟩ := ih s.finish.1
      exact ⟨t, congrArg (s.finish.2 :: ·) ht⟩

theorem close_close (s : Session) : s.close.close = s.close := by
  have hblank : mentionsEmptyBibliography s.close.draft.text = false := rfl
  rw [close, hblank]
  rfl

theorem dropLast_finish_isPrefix (s : Session) : s.finish.2.dropLast <+: s.diagnostics := by
  show s.close.diagnostics.dropLast <+: _
  rw [diagnostics, close]
  dsimp only
  split
  · exact List.dropLast_prefix _
  · rw [flushed, List.reverse_append, List.map_append]
    cases s.draft.complete? with
    | none =>
      rw [Option.toList_none, List.reverse_nil, List.map_nil, List.append_nil]
      exact List.dropLast_prefix _
    | some e =>
      rw [Option.toList_some, List.reverse_singleton, List.map_singleton, List.dropLast_concat]
      exact List.prefix_refl _

theorem exists_of_feedAll_append {lines rest : List Text} {s s' : Session}
    (h : feedAll (lines ++ rest) s = .ok s') :
    ∃ t, feedAll lines s = .ok t ∧ feedAll rest t = .ok s' := by
  induction lines generalizing s with
  | nil => exact ⟨s, rfl, h⟩
  | cons line lines ih =>
    rw [List.cons_append, feedAll] at h
    rw [feedAll]
    split at h
    · exact ih h
    · cases h

/-- In every session each report begins with all the reports before it, and a report that is asked for
again at once is the same. All but the last of the messages of a log stand at the front of those of
every log that goes on from there; the last one may still be continued. -/
theorem reports_only_grow (rootFile : Text) (working : Path.WorkingDirectory) :
    (∀ calls, (reports calls (new rootFile working)).Pairwise (· <+: ·)) ∧
      (∀ before after, ∃ report later,
        reports (before ++ .finish :: .finish :: after) (new rootFile working) =
          reports before (new rootFile working) ++ report :: report :: later) ∧
      ∀ lines rest s', feedAll (lines ++ rest) (new rootFile working) = .ok s' →
        ∃ s, feedAll lines (new rootFile working) = .ok s ∧ s.finish.2.dropLast <+: s'.finish.2 := by
  refine ⟨fun calls => reports_pairwise calls _, fun before after => ?_, fun lines rest s' h => ?_⟩
  · obtain ⟨t, ht⟩ := reports_append before (.finish :: .finish :: after) (new rootFile working)
    have hsame : t.finish.1.finish = t.finish := by
      show (t.close.close, t.close.close.diagnostics) = _
      rw [close_close]
      rfl
    refine ⟨t.finish.2, reports after t.finish.1, ?_⟩
    rw [ht, reports, reports, hsame]
  · obtain ⟨s, hs, hrest⟩ := exists_of_feedAll_append h
    have hgrown : s.entries <:+ s'.close.entries :=
      (entries_suffix_feedAll hrest).trans s'.entries_suffix_close
    exact ⟨s, hs, s.dropLast_finish_isPrefix.trans (diagnostics_isPrefix hgrown)⟩

def errorLog : List Text := ["LaTeX Warning: a on input line 2.".toList, [], "! b".toList]

theorem errorLog_grows : ∃ s s', feedAll errorLog (new "/a.tex".toList) = .ok s ∧
    feedAll (errorLog ++ ["l.3 c".toList]) (new "/a.tex".toList) = .ok s' ∧
    s.finish.2.dropLast <+: s'.finish.2 ∧ ¬ s.finish.2 <+: s'.finish.2 := by
  have hchanged : (feedAll errorLog (new "/a.tex".toList)).toOption.bind (fun s =>
      (feedAll (errorLog ++ ["l.3 c".toList]) (new "/a.tex".toList)).toOption.map fun s' =>
        decide (s.finish.2 <+: s'.finish.2)) = some false := by decide +kernel
  cases h : feedAll (errorLog ++ ["l.3 c".toList]) (new "/a.tex".toList) with
  | error fault =>
    rw [h] at hchanged
    cases h : feedAll errorLog (new "/a.tex".toList) <;> rw [h] at hchanged <;> cases hchanged
  | ok s' =>
    obtain ⟨s, hs, hfront⟩ := (reports_only_grow "/a.tex".toList .usual).2.2 _ _ s' h
    rw [h, hs] at hchanged
    exact ⟨s, s', hs, rfl, hfront, of_decide_eq_false (Option.some.inj hchanged)⟩

end Session
end TypesetTrace.Log
