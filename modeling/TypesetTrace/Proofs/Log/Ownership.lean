import Mathlib.Data.List.Forall2
import TypesetTrace.Proofs.Log.Accounting
import TypesetTrace.Proofs.Path

/-! The file that a message is reported for. It is settled when the message starts: by the path that the
notice names or, without one, by the innermost file that is open then. Either is taken from the directory of
the main file and spelled as an absolute path. A key without a bibliography entry belongs to no file. -/
namespace TypesetTrace.Log
open Text

def Notice.owner (s : Session) : Notice → Text
  | .unlistedKey _ _ => []
  | .failure f => Session.failureFile f s
  | _ => s.currentFile

/-- The notice is about a key, which the bibliography program looks for in no particular file. -/
def Notice.IsUnlistedKey (notice : Notice) : Prop := ∃ key rest, notice = .unlistedKey key rest

theorem Notice.file_of_entry? {notice : Notice} {s : Session} {e : Entry}
    (h : notice.entry? s = .ok (some e)) : e.file = notice.owner s := by
  have hnumbered {digits : Option Text} {f : Nat → Entry} {file : Text} (hf : ∀ line, (f line).file = file)
      (h : numbered digits f = .ok (some e)) : e.file = file := by
    rw [numbered] at h
    cases hline : Session.lineNumber digits with
    | error fault =>
      rw [hline] at h
      cases h
    | ok line =>
      rw [hline] at h
      cases h
      exact hf line
  cases notice with
  | summary => cases h
  | unresolved u => exact hnumbered (fun _ => rfl) h
  | box b rest =>
    obtain ⟨heading, place⟩ := b
    cases place with
    | paragraph first last => exact hnumbered (fun _ => rfl) h
    | detected line => exact hnumbered (fun _ => rfl) h
    | output page => cases page <;> cases h <;> rfl
  | announcement a => exact hnumbered (fun _ => rfl) h
  | failure f => exact hnumbered (fun _ => rfl) h
  | noPages => cases h; rfl
  | missingCharacter text => cases h; rfl
  | unlistedKey key rest => cases h; rfl

theorem Session.isNormal_failureFile (f : Failure) (s : Session) : Path.IsNormal (failureFile f s) := by
  rw [failureFile]
  split <;> exact Path.isNormal_absolute _

/-- Only a notice about an unlisted key belongs to no file. -/
theorem Notice.owner_cases (notice : Notice) (s : Session) :
    notice.IsUnlistedKey ∧ notice.owner s = [] ∨
      ¬ notice.IsUnlistedKey ∧ Path.IsNormal (notice.owner s) := by
  cases notice with
  | unlistedKey key rest => exact .inl ⟨⟨key, rest, rfl⟩, rfl⟩
  | failure f => exact .inr ⟨nofun, Session.isNormal_failureFile f s⟩
  | _ => exact .inr ⟨nofun, Path.isNormal_absolute _⟩

namespace Session

/-- The looks at one line, each at what the look before left of it, with the session as it finds it. -/
def looksOn (line : Text) (s : Session) : List (Text × Session) :=
  (line, s) ::
    match _h : pass line s with
    | (s, .again rest) => looksOn rest s
    | _ => []
termination_by line.length
decreasing_by exact length_of_pass _h

def looks : List Text → Session → List (Text × Session)
  | [], _ => []
  | line :: rest, s => looksOn line s ++ looks rest (feed line s).1

theorem looksOn_eq (line : Text) (s : Session) :
    looksOn line s = (line, s) ::
      match pass line s with
      | (s, .again rest) => looksOn rest s
      | _ => [] := by
  rw [looksOn]
  congr 1
  split
  · rename_i hpass
    rw [hpass]
  · rename_i hpass
    split
    · rename_i s' rest hagain
      exact absurd hagain (hpass s' rest)
    · rfl

theorem startedOn_eq_filterMap (line : Text) (s : Session) :
    startedOn line s = (looksOn line s).filterMap fun look => startedBy look.1 look.2 := by
  induction line, s using looksOn.induct with
  | case1 line s ih =>
    rw [startedOn_eq, looksOn_eq, List.filterMap_cons]
    rcases hpass : pass line s with ⟨s', _ | rest | fault⟩
    · cases startedBy line s <;> rfl
    · dsimp only
      rw [← ih s' rest hpass]
      cases startedBy line s <;> rfl
    · cases startedBy line s <;> rfl

theorem started_eq_filterMap (lines : List Text) (s : Session) :
    started lines s = (looks lines s).filterMap fun look => startedBy look.1 look.2 := by
  induction lines generalizing s with
  | nil => rfl
  | cons line rest ih =>
    rw [started, looks, List.filterMap_append, startedOn_eq_filterMap, ih]

theorem startedBy_eq_some {line : Text} {s : Session} {e : Entry} (h : startedBy line s = some e) :
    ∃ notice, Notice.ofLine? line = some notice ∧ notice.entry? s = .ok (some e) := by
  rw [startedBy] at h
  split at h
  · rename_i notice _ hnotice
    refine ⟨notice, hnotice, ?_⟩
    rcases hentry : notice.entry? s with fault | entry
    · rw [hentry] at h
      cases h
    · rw [hentry] at h
      exact congrArg Except.ok h
  · cases h

/-- The notice on a line that starts an entry, with the session in which it does. -/
def starter? (line : Text) (s : Session) : Option (Notice × Session) :=
  if (startedBy line s).isSome then (Notice.ofLine? line).map (·, s) else none

def starters (lines : List Text) (s : Session) : List (Notice × Session) :=
  (looks lines s).filterMap fun look => starter? look.1 look.2

abbrev IsOwner (start : Notice × Session) (file : Text) : Prop := file = start.1.owner start.2

theorem isOwner_startedBy (line : Text) (s : Session) :
    Option.Rel (fun start e => IsOwner start e.file) (starter? line s) (startedBy line s) := by
  cases hstarted : startedBy line s with
  | none =>
    rw [starter?, hstarted]
    exact .none
  | some e =>
    obtain ⟨notice, hnotice, hentry⟩ := startedBy_eq_some hstarted
    rw [starter?, hstarted, hnotice]
    exact .some (Notice.file_of_entry? hentry)

theorem isOwner_started (lines : List Text) (s : Session) :
    List.Forall₂ (fun start e => IsOwner start e.file) (starters lines s) (started lines s) := by
  rw [started_eq_filterMap, starters]
  refine List.rel_filterMap (R := Eq) ?_ (List.forall₂_eq_eq_eq ▸ rfl)
  rintro look _ rfl
  exact isOwner_startedBy look.1 look.2

/-- What becomes of a message later does not move it to another file. -/
theorem isOwner_of_areStartsOf {starts : List (Notice × Session)} {es fs : List Entry}
    (h : AreStartsOf es fs) (howner : List.Forall₂ (fun start e => IsOwner start e.file) starts es) :
    List.Forall₂ (fun start e => IsOwner start e.file) starts fs := by
  induction h generalizing starts with
  | nil => exact howner
  | cons hstart _ ih =>
    cases howner with
    | cons hfirst hrest => exact .cons (hstart.file ▸ hfirst) (ih hrest)

/-- All messages are reported, but for the last one perhaps. -/
theorem finish_eq_map {s : Session} (h : s.HasPending) : ∃ es, es <+: s.messages ∧
    s.messages.length ≤ es.length + 1 ∧ s.finish.2 = es.map Entry.diagnostic := by
  rw [finish_eq h]
  split
  · exact ⟨_, List.dropLast_prefix _, by rw [List.length_dropLast]; omega, rfl⟩
  · exact ⟨_, List.prefix_refl _, Nat.le_succ _, rfl⟩

theorem isOwner_finish {lines : List Text} {rootFile : Text} {working : Path.WorkingDirectory} {s : Session}
    (h : feedAll lines (new rootFile working) = .ok s) :
    let starts := starters lines (new rootFile working)
    starts.length ≤ s.finish.2.length + 1 ∧
      List.Forall₂ (fun start d => IsOwner start d.file) (starts.take s.finish.2.length) s.finish.2 := by
  intro starts
  have howner : List.Forall₂ (fun start e => IsOwner start e.file) starts s.messages :=
    isOwner_of_areStartsOf (messages_feedAll h) (isOwner_started lines (new rootFile working))
  have hpending : s.HasPending := feedAll_induction hasPending_pass h fun _ => rfl
  obtain ⟨es, ⟨last, hes⟩, hlength, hreported⟩ := finish_eq_map hpending
  rw [hreported, List.length_map, howner.length_eq, List.forall₂_map_right_iff]
  refine ⟨hlength, ?_⟩
  have hfront := List.forall₂_take es.length howner
  rwa [← hes, List.take_left' rfl] at hfront

end Session

/-- Every message of a log is reported for a file that is named by its absolute and normal path, whatever the
path of the main file, or for none. It is the file of the notice that starts the message; for none are the
messages that a notice about an unlisted key starts, and no others. Notices and messages stand in the same
order, and at most the last notice has no message. -/
theorem files_normal_but_for_keys {log rootFile : Text} {working : Path.WorkingDirectory}
    {ds : List Diagnostic} (h : diagnosticsOf log rootFile working = .ok ds) :
    (∀ d ∈ ds, Path.IsNormal d.file ∨ d.file = []) ∧
      let starts := Session.starters (linesOfEither log) (Session.new rootFile working)
      starts.length ≤ ds.length + 1 ∧
        List.Forall₂ (fun (start : Notice × Session) d =>
          d.file = start.1.owner start.2 ∧ (d.file = [] ↔ start.1.IsUnlistedKey)) (starts.take ds.length) ds := by
  obtain ⟨s, hs, rfl⟩ := Session.exists_of_diagnosticsOf h
  obtain ⟨hlength, howner⟩ := Session.isOwner_finish hs
  have hfiles : List.Forall₂ (fun (d : Diagnostic) (start : Notice × Session) =>
      (Path.IsNormal d.file ∨ d.file = []) ∧ d.file = start.1.owner start.2 ∧
        (d.file = [] ↔ start.1.IsUnlistedKey)) s.finish.2
      ((Session.starters (linesOfEither log) (Session.new rootFile working)).take s.finish.2.length) := by
    refine List.Forall₂.flip (howner.imp fun start d hfile => ?_)
    rw [flip, hfile]
    rcases start.1.owner_cases start.2 with ⟨hkey, hnone⟩ | ⟨hkey, hnormal⟩
    · exact ⟨.inr hnone, rfl, iff_of_true hnone hkey⟩
    · exact ⟨.inl hnormal, rfl, iff_of_false hnormal.ne_nil hkey⟩
  obtain ⟨hall, hstarts⟩ := (List.forall₂_and_left _ _).mp hfiles
  exact ⟨hall, hlength, hstarts.flip⟩

/-- A file in another directory, an error in a file of its own, and a key that is not listed. -/
def scatteredLog : Text := Text.join ['\n']
  ["(./b/../c.tex".toList, "Biber warning: a: WARN - I didn't find a database entry for 'k'".toList,
    "..//d.tex:3: e".toList, [], "LaTeX Warning: f".toList]

/-- The main file is given by a relative path. -/
theorem scatteredLog_files : ∃ ds, diagnosticsOf scatteredLog "x/./main.tex".toList = .ok ds ∧
    ds.map Diagnostic.file = [[], "/cwd/d.tex".toList, "/cwd/x/c.tex".toList] ∧
    (∀ d ∈ ds, Path.IsNormal d.file ∨ d.file = []) ∧
    ∃ start ∈ (Session.starters (linesOfEither scatteredLog) (Session.new "x/./main.tex".toList)).head?,
      start.1.IsUnlistedKey := by
  have hfiles : (diagnosticsOf scatteredLog "x/./main.tex".toList).toOption.map (·.map Diagnostic.file) =
      some [[], "/cwd/d.tex".toList, "/cwd/x/c.tex".toList] := by decide +kernel
  cases h : diagnosticsOf scatteredLog "x/./main.tex".toList with
  | error fault => rw [h] at hfiles; cases hfiles
  | ok ds =>
    rw [h] at hfiles
    have hfiles : ds.map Diagnostic.file = [[], "/cwd/d.tex".toList, "/cwd/x/c.tex".toList] :=
      Option.some.inj hfiles
    obtain ⟨hnormal, -, hstarts⟩ := files_normal_but_for_keys h
    refine ⟨ds, rfl, hfiles, hnormal, ?_⟩
    cases ds with
    | nil => cases hfiles
    | cons d ds =>
      revert hstarts
      cases Session.starters (linesOfEither scatteredLog) (Session.new "x/./main.tex".toList) with
      | nil => exact fun hstarts => nomatch hstarts
      | cons start rest =>
        intro hstarts
        rw [List.length_cons, List.take_succ_cons, List.forall₂_cons] at hstarts
        exact ⟨start, rfl, hstarts.1.2.mp (List.cons.inj hfiles).1⟩

end TypesetTrace.Log
