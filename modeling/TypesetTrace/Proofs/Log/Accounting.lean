import Mathlib.Data.List.Forall2
import TypesetTrace.Proofs.Log.Feed

/-! No message is lost, reported twice or moved. The entries that are started on the lines of a log
are the messages of the session, one for one, and all of them are reported but for a last one that
only says that the bibliography is empty. -/
namespace TypesetTrace.Log
open Text

/-- The entry as it was started, before later lines lengthened its text or changed its line or
context. -/
structure Entry.IsStartOf (e f : Entry) : Prop where
  kind : e.kind = f.kind
  file : e.file = f.file
  text : e.text <+: f.text

theorem Entry.isStartOf_refl (e : Entry) : e.IsStartOf e := ⟨rfl, rfl, List.prefix_refl _⟩

theorem Entry.IsStartOf.trans {e f g : Entry} (h : e.IsStartOf f) (h' : f.IsStartOf g) :
    e.IsStartOf g :=
  ⟨h.kind.trans h'.kind, h.file.trans h'.file, h.text.trans h'.text⟩

/-- The two lists have the same messages in the same order, in the second list perhaps further on. -/
abbrev AreStartsOf (es fs : List Entry) : Prop := List.Forall₂ Entry.IsStartOf es fs

private theorem areStartsOf_refl (es : List Entry) : AreStartsOf es es :=
  List.forall₂_same.mpr fun e _ => e.isStartOf_refl

private theorem AreStartsOf.trans {es fs gs : List Entry} (h : AreStartsOf es fs)
    (h' : AreStartsOf fs gs) : AreStartsOf es gs := by
  induction h generalizing gs with
  | nil => exact h'
  | cons he _ ih =>
    cases h' with
    | cons hf hfs => exact .cons (he.trans hf) (ih hfs)

private theorem AreStartsOf.append {es fs es' fs' : List Entry} (h : AreStartsOf es fs)
    (h' : AreStartsOf es' fs') : AreStartsOf (es ++ es') (fs ++ fs') :=
  List.rel_append h h'

namespace Session

/-- All messages of the session, the pending one last. -/
def messages (s : Session) : List Entry := s.flushed.reverse

theorem messages_start (e : Entry) (s : Session) : (s.start e).messages = s.messages ++ [e] := by
  rw [messages, flushed]
  simp [start, Entry.toDraft, Draft.complete?, messages]

private theorem areStartsOf_messages {s s' : Session} (he : s'.entries = s.entries)
    (hd : s.draft.IsContinuedBy s'.draft) : AreStartsOf s.messages s'.messages := by
  rw [messages, messages, flushed, flushed, he, List.reverse_append, List.reverse_append]
  refine (areStartsOf_refl _).append ?_
  rw [Draft.complete?, Draft.complete?, hd.kind]
  cases s.draft.kind with
  | none => exact .nil
  | some kind => exact .cons ⟨rfl, hd.file.symm, hd.text⟩ .nil

/-- One look adds the entry that it starts. -/
theorem messages_pass (line : Text) (s : Session) :
    AreStartsOf (s.messages ++ (s.startedBy line).toList) (pass line s).1.messages := by
  rcases pass_cases line s with ⟨notice, e, -, he, hpass⟩ | ⟨he, d, m, n, p, hpass, hd, -⟩
  · rw [he, hpass]
    show AreStartsOf (s.messages ++ [e]) (s.start e).messages
    rw [messages_start]
    exact areStartsOf_refl _
  · rw [he, hpass, Option.toList_none, List.append_nil]
    exact areStartsOf_messages rfl hd

/-- The entries that are started on one line, in order. -/
def startedOn (line : Text) (s : Session) : List Entry :=
  (s.startedBy line).toList ++
    match _h : pass line s with
    | (s, .again rest) => startedOn rest s
    | _ => []
termination_by line.length
decreasing_by exact length_of_pass _h

/-- The entries that are started on the lines of a log, in order. -/
def started : List Text → Session → List Entry
  | [], _ => []
  | line :: rest, s => startedOn line s ++ started rest (feed line s).1

theorem startedOn_eq (line : Text) (s : Session) :
    startedOn line s = (s.startedBy line).toList ++
      match pass line s with
      | (s, .again rest) => startedOn rest s
      | _ => [] := by
  rw [startedOn]
  congr 1
  split
  · rename_i hpass
    rw [hpass]
  · rename_i hpass
    split
    · rename_i s' rest hagain
      exact absurd hagain (hpass s' rest)
    · rfl

theorem messages_feed (line : Text) (s : Session) :
    AreStartsOf (s.messages ++ startedOn line s) (feed line s).1.messages := by
  induction line, s using startedOn.induct with
  | case1 line s ih =>
    have hlook := messages_pass line s
    rw [startedOn_eq, feed_eq, ← List.append_assoc]
    rcases hpass : pass line s with ⟨s', _ | rest | fault⟩
    · rw [hpass] at hlook
      simpa using hlook
    · rw [hpass] at hlook
      exact (hlook.append (areStartsOf_refl _)).trans (ih s' rest hpass)
    · rw [hpass] at hlook
      simpa using hlook

theorem messages_feedAll {lines : List Text} {s s' : Session} (h : feedAll lines s = .ok s') :
    AreStartsOf (s.messages ++ started lines s) s'.messages := by
  induction lines generalizing s with
  | nil =>
    cases h
    rw [started, List.append_nil]
    exact areStartsOf_refl _
  | cons line rest ih =>
    rw [feedAll] at h
    split at h
    · rename_i s₁ hfeed
      have hline := messages_feed line s
      rw [hfeed] at hline
      rw [started, hfeed, ← List.append_assoc]
      exact (hline.append (areStartsOf_refl _)).trans (ih h)
    · cases h

theorem length_started_eq {lines : List Text} {s s' : Session} {es : List Entry}
    (h : feedAll lines s = .ok s') (hes : s'.messages = s.messages ++ es) :
    (started lines s).length = es.length := by
  have hlength := (messages_feedAll h).length_eq
  rw [hes, List.length_append, List.length_append] at hlength
  exact Nat.add_left_cancel hlength

end Session

theorem Kind.ofKindName_name (k : Kind) : Severity.ofKindName k.name = k.severity := by
  cases k <;> decide

namespace Session

theorem mentionsEmptyBibliography_iff (text : Text) :
    mentionsEmptyBibliography text ↔ emptyBibliography <:+: text := anywhere_after?_isSome_iff

/-- The last message says that the bibliography is empty. -/
def EndsEmpty (es : List Entry) : Prop := ∃ e ∈ es.getLast?, emptyBibliography <:+: e.text

instance (es : List Entry) : Decidable (EndsEmpty es) := inferInstanceAs (Decidable (∃ e ∈ _, _))

/-- There is a pending message as soon as there is any. -/
def HasPending (s : Session) : Prop := s.draft.kind = none → s.entries = []

theorem hasPending_pass (line : Text) (s : Session) (h : s.HasPending) :
    (pass line s).1.HasPending := by
  rcases pass_cases line s with ⟨notice, e, -, -, hpass⟩ | ⟨-, d, m, n, p, hpass, hd, -⟩
  · rw [hpass]
    exact nofun
  · rw [hpass]
    exact fun hkind => h (hd.kind ▸ hkind)

theorem finish_eq {s : Session} (h : s.HasPending) :
    s.finish.2 = (if EndsEmpty s.messages then s.messages.dropLast else s.messages).map
      Entry.diagnostic := by
  have hfinish : s.finish.2 = (if mentionsEmptyBibliography s.draft.text then s.entries
      else s.flushed).reverse.map Entry.diagnostic := rfl
  rw [hfinish]
  cases hk : s.draft.kind with
  | none =>
    have hempty : s.flushed = [] := by rw [flushed, Draft.complete?, hk, h hk]; rfl
    rw [messages, hempty, h hk]
    simp
  | some kind =>
    have hmessages : s.messages = s.entries.reverse ++
        [⟨kind, s.draft.file, s.draft.text, s.draft.line, s.draft.context⟩] := by
      simp [messages, flushed, Draft.complete?, hk]
    have hends : EndsEmpty s.messages ↔ mentionsEmptyBibliography s.draft.text := by
      rw [mentionsEmptyBibliography_iff, EndsEmpty, hmessages]
      simp
    by_cases hm : mentionsEmptyBibliography s.draft.text
    · rw [if_pos hm, if_pos (hends.mpr hm), hmessages, List.dropLast_concat]
    · rw [if_neg hm, if_neg (mt hends.mp hm), messages]

/-- Every entry that is started on the lines of a log is one message at its end, in the order of the
starts. Ending the log reports each of them, but for a last one that then says that the bibliography
is empty. -/
theorem finish_reports_started {rootFile : Text} {working : Path.WorkingDirectory} {lines : List Text}
    {s : Session} (h : feedAll lines (new rootFile working) = .ok s) :
    let es := started lines (new rootFile working)
    AreStartsOf es s.messages ∧
      s.finish.2 = (if EndsEmpty s.messages then s.messages.dropLast else s.messages).map
        Entry.diagnostic ∧
      List.Forall₂ (fun e d => d.file = e.file ∧ d.severity = Severity.ofKindName e.kind.name)
        (if EndsEmpty s.messages then es.dropLast else es) s.finish.2 := by
  intro es
  have hstarts : AreStartsOf es s.messages := messages_feedAll h
  have hpending : s.HasPending := feedAll_induction hasPending_pass h fun _ => rfl
  refine ⟨hstarts, finish_eq hpending, ?_⟩
  rw [finish_eq hpending, List.forall₂_map_right_iff]
  have hreported {e f : Entry} (he : e.IsStartOf f) :
      f.diagnostic.file = e.file ∧ f.diagnostic.severity = Severity.ofKindName e.kind.name := by
    rw [Kind.ofKindName_name, he.kind, he.file]
    exact ⟨rfl, rfl⟩
  split
  · rw [List.dropLast_eq_take, List.dropLast_eq_take, hstarts.length_eq]
    exact (List.forall₂_take _ hstarts).imp fun _ _ => hreported
  · exact hstarts.imp fun _ _ => hreported

/-- An empty bibliography is announced twice, with an error in between. -/
def bibliographyLog : List Text :=
  ["LaTeX Info: Empty \x60thebibliography' environment".toList, [], "! a".toList, [],
    "LaTeX Info: Empty \x60thebibliography' environment".toList]

theorem bibliographyLog_reported : ∃ s, feedAll bibliographyLog (new "/a.tex".toList) = .ok s ∧
    s.finish.2.length = 2 ∧ AreStartsOf (started bibliographyLog (new "/a.tex".toList)) s.messages := by
  have hlength : (feedAll bibliographyLog (new "/a.tex".toList)).toOption.map (·.finish.2.length) =
      some 2 := by decide +kernel
  cases h : feedAll bibliographyLog (new "/a.tex".toList) with
  | error fault => rw [h] at hlength; cases hlength
  | ok s =>
    rw [h] at hlength
    exact ⟨s, rfl, Option.some.inj hlength, (finish_reports_started h).1⟩

end Session
end TypesetTrace.Log
