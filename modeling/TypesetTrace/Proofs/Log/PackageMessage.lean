import TypesetTrace.Proofs.Log.Endings
import TypesetTrace.Proofs.Log.Growth
import TypesetTrace.Proofs.Log.Switches

/-! A package's message is read in full, on however many lines it is printed. The number of the line in
the source stands on the last of them, and a full stop behind it. -/
namespace TypesetTrace.Log
open Text

/-- The message of a package, with the number of the line in the source that it speaks about. -/
structure PackageMessage where
  name : Text
  isWarning : Bool
  first : Text
  /-- The texts of the further lines, each with the number of spaces in front of it beyond the first. -/
  more : List (Nat × Text)
  number : Text
  deriving DecidableEq, Repr

namespace PackageMessage

def emitter (name : Text) : Text := "Package ".toList ++ name

def word (isWarning : Bool) : Text := if isWarning then " Warning:".toList else " Info:".toList

def kind (isWarning : Bool) : Kind := if isWarning then .warning else .info

def announced (name : Text) (isWarning : Bool) (b : Text) : Text :=
  emitter name ++ (word isWarning ++ ' ' :: b)

def continued (name : Text) (spaces : Nat) (b : Text) : Text :=
  '(' :: (name ++ ')' :: (List.replicate (spaces + 1) ' ' ++ b))

/-- The last line ends with the number. -/
def numbered (number : Text) : List Text → List Text
  | [] => []
  | [line] => [line ++ ending number]
  | line :: rest => line :: numbered number rest

def lines (m : PackageMessage) : List Text :=
  numbered m.number (announced m.name m.isWarning m.first :: m.more.map fun l => continued m.name l.1 l.2)

/-- What a further line adds to the message. -/
def added (name b : Text) : Text := '\n' :: '(' :: (name ++ ')' :: '\t' :: b)

def text (m : PackageMessage) : Text :=
  emitter m.name ++ ':' :: ' ' :: (m.first ++ (m.more.flatMap (fun l => added m.name l.2) ++ ['.']))

def entry (file : Text) (m : PackageMessage) : Entry :=
  ⟨kind m.isWarning, file, m.text, digitsValue m.number, none⟩

/-- The texts are such that their ends can be told. -/
structure IsWellFormed (m : PackageMessage) : Prop where
  name : ∀ c ∈ m.name, isBlank c = false
  first : IsBody m.first
  more : ∀ l ∈ m.more, IsBody l.2 ∧ ')' ∉ l.2
  number : IsNumeral m.number

theorem isWellFormed_iff {m : PackageMessage} : m.IsWellFormed ↔ m.name.all (!isBlank ·) ∧ IsBody m.first ∧
    (∀ l ∈ m.more, IsBody l.2 ∧ ')' ∉ l.2) ∧ IsNumeral m.number := by
  simp only [List.all_eq_true, Bool.not_eq_true']
  exact ⟨fun h => ⟨h.name, h.first, h.more, h.number⟩, fun ⟨hname, hfirst, hmore, hnumber⟩ =>
    ⟨hname, hfirst, hmore, hnumber⟩⟩

instance (m : PackageMessage) : Decidable m.IsWellFormed := decidable_of_iff _ isWellFormed_iff.symm

theorem numbered_cons (number line : Text) {rest : List Text} (h : rest ≠ []) :
    numbered number (line :: rest) = line :: numbered number rest := by
  cases rest with
  | nil => exact absurd rfl h
  | cons _ _ => rfl

theorem announced_append (name : Text) (isWarning : Bool) (b t : Text) :
    announced name isWarning b ++ t = announced name isWarning (b ++ t) := by
  simp only [announced, List.append_assoc, List.cons_append]

theorem continued_append (name : Text) (spaces : Nat) (b t : Text) :
    continued name spaces b ++ t = continued name spaces (b ++ t) := by
  simp only [continued, List.append_assoc, List.cons_append]

theorem added_append (name b t : Text) : added name (b ++ t) = added name b ++ t := by
  simp only [added, List.append_assoc, List.cons_append]

section Lines
variable {name b body : Text} {line : Option Text}

theorem emitters_package (hname : ∀ c ∈ name, isBlank c = false) (rest : Text) :
    emitters (emitter name ++ ' ' :: rest) = [(emitter name, ' ' :: rest)] := by
  have hword : ∀ c ∈ name, isWordChar c = true := fun c hc => by rw [isWordChar, hname c hc]; rfl
  have hboundary : ∀ c ∈ (' ' :: rest).head?, isWordChar c = false := by
    rintro c hc
    cases hc
    decide
  obtain ⟨htake, hdrop⟩ := span_append hword hboundary
  have honly : emitters (emitter name ++ ' ' :: rest) =
      [("Package ".toList ++ (name ++ ' ' :: rest).takeWhile isWordChar,
        (name ++ ' ' :: rest).dropWhile isWordChar)] := rfl
  rw [honly, htake, hdrop]
  rfl

theorem afterBlanks?_append {blanks : Text} (hne : blanks ≠ []) (hblanks : ∀ c ∈ blanks, isBlank c)
    (hb : ∃ c ∈ b.head?, isBlank c = false) : afterBlanks? (blanks ++ b) = some b := by
  obtain ⟨c, hc, hcb⟩ := hb
  have hrun : run? isBlank (blanks ++ b) = some (blanks, b) :=
    run?_append hne hblanks fun d hd => (Option.mem_unique hc hd) ▸ hcb
  rw [afterBlanks?, hrun]
  rfl

theorem ofLine?_announced (hname : ∀ c ∈ name, isBlank c = false) {isWarning : Bool} {stop : Text}
    (hb : ∃ c ∈ b.head?, isBlank c = false)
    (hread : shortest isInLine announcementEnd? b = some (body, line, stop, [])) :
    Notice.ofLine? (announced name isWarning b) =
      some (.announcement ⟨emitter name, isWarning, body, line, stop⟩) := by
  have hword (rest : Text) : seriousness? (word isWarning ++ rest) = some (isWarning, rest) := by
    cases isWarning <;> rfl
  have hblank : afterBlanks? (' ' :: b) = some b :=
    afterBlanks?_append (List.cons_ne_nil ' ' []) (fun c hc => List.mem_singleton.mp hc ▸ rfl) hb
  have hannounced : Announcement.ofLine? (announced name isWarning b) =
      some (⟨emitter name, isWarning, body, line, stop⟩, []) := by
    obtain ⟨rest, hrest⟩ : ∃ rest, word isWarning ++ ' ' :: b = ' ' :: rest := by
      cases isWarning <;> exact ⟨_, rfl⟩
    rw [announced, hrest, Announcement.ofLine?, emitters_package hname, ← hrest]
    simp [hword, hblank, hread]
  have hearlier : announced name isWarning b ≠ Notice.summaryLine ∧
      Unresolved.ofLine? (announced name isWarning b) = none ∧
      BoxNotice.ofLine? (announced name isWarning b) = none ∧
      Notice.noPages? (announced name isWarning b) = none ∧
      missingCharacter? (announced name isWarning b) = none := ⟨nofun, rfl, rfl, rfl, rfl⟩
  obtain ⟨hsummary, hunresolved, hbox, hpages, hcharacter⟩ := hearlier
  rw [Notice.ofLine?, if_neg hsummary, hunresolved, hbox, hpages, hcharacter, hannounced]

theorem ofLine?_continued (hname : '\n' ∉ name) {spaces : Nat} {stopped : Bool} (hclose : ')' ∉ b)
    (hb : ∃ c ∈ b.head?, isBlank c = false)
    (hread : shortest isInLine continuationEnd? b = some (body, line, stopped, [])) :
    Continuation.ofLine? (continued name spaces b) = some (⟨name, body, line, stopped⟩, []) := by
  have hspaces : ∀ c ∈ List.replicate (spaces + 1) ' ', c = ' ' := fun c hc => List.eq_of_mem_replicate hc
  have hblanks : afterBlanks? (List.replicate (spaces + 1) ' ' ++ b) = some b :=
    afterBlanks?_append (List.cons_ne_nil _ _) (fun c hc => hspaces c hc ▸ by decide) hb
  have hbehind : ')' ∉ List.replicate (spaces + 1) ' ' ++ b :=
    List.not_mem_append (fun hc => absurd (hspaces _ hc) (by decide)) hclose
  rw [continued, Continuation.ofLine?, longest_append (a := (body, line, stopped, []))]
  · rfl
  · exact fun c hc => bne_iff_ne.mpr fun he => hname (he ▸ hc)
  · simp only [hblanks, Option.bind_eq_bind, Option.bind_some, hread]
  -- Behind the name no other parenthesis is closed.
  · intro v hv hne
    rcases List.suffix_cons_iff.mp hv with rfl | hv
    · exact absurd rfl hne
    · cases v with
      | nil => rfl
      | cons c v =>
        have hc : c ≠ ')' := fun hc => hbehind (hv.subset (hc ▸ List.mem_cons_self))
        split
        · rename_i heq
          exact absurd (List.cons.inj heq).1 hc
        · rfl

end Lines

theorem strip_text (m : PackageMessage) : strip m.text = m.text := by
  refine strip_eq_self ?_ ?_
  · rintro c hc
    cases hc
    decide
  · have hlast : m.text.getLast? = some '.' := by
      rw [text, ← List.cons_append, ← List.cons_append, ← List.append_assoc, ← List.append_assoc,
        List.getLast?_concat]
    rintro c hc
    rw [hlast] at hc
    cases hc
    decide

/-- The empty line does not show in the report. -/
theorem diagnostic_entry (file : Text) (m : PackageMessage) :
    Entry.diagnostic { m.entry file with text := m.text ++ ['\n'] } =
      ⟨file, digitsValue m.number, if m.isWarning then .warning else .info, m.text, none⟩ := by
  have hseverity : (kind m.isWarning).severity = if m.isWarning then .warning else .info := by
    cases m.isWarning <;> rfl
  have htext : strip (m.text ++ ['\n']) = m.text := (strip_concat (by decide) _).trans m.strip_text
  rw [Entry.diagnostic, htext, entry, hseverity]

end PackageMessage

namespace Session
open PackageMessage
variable {s : Session} {name b number : Text}

def announcing (name : Text) (isWarning : Bool) (b : Text) (line : Nat) (s : Session) : Session :=
  { s.start ⟨kind isWarning, s.currentFile, emitter name ++ ':' :: ' ' :: b, line, none⟩ with
    mode := .message false }

def continuing (more : Text) (line : Nat) (s : Session) : Session :=
  { s with draft := { s.draft with text := s.draft.text ++ more, line } }

theorem continuing_continuing (t u : Text) (n k : Nat) (s : Session) :
    (s.continuing t n).continuing u k = s.continuing (t ++ u) k := by
  simp only [continuing, List.append_assoc]

private theorem feed_announced_of_read (hm : s.mode = .idle) (hname : ∀ c ∈ name, isBlank c = false)
    (isWarning : Bool) {body stop : Text} {line : Option Text} {n : Nat}
    (hb : ∃ c ∈ b.head?, isBlank c = false)
    (hread : shortest isInLine announcementEnd? b = some (body, line, stop, []))
    (hline : lineNumber line = .ok n) :
    feed (announced name isWarning b) s = (s.announcing name isWarning (body ++ stop) n, none) := by
  have htext : emitter name ++ [':', ' '] ++ body ++ stop = emitter name ++ ':' :: ' ' :: (body ++ stop) := by
    simp
  simp only [feed_eq, pass, hm, ofLine?_announced hname hb hread, accept, acceptAnnouncement, withLine, hline,
    htext]
  rfl

theorem feed_announced (hm : s.mode = .idle) (hname : ∀ c ∈ name, isBlank c = false) (isWarning : Bool)
    (hb : IsBody b) : feed (announced name isWarning b) s = (s.announcing name isWarning b 1, none) := by
  obtain ⟨body, stop, hread, htext⟩ := hb.read_alone readsEnds_announcementEnd? rfl
  rw [feed_announced_of_read hm hname isWarning hb.head hread rfl, show body ++ stop = b from htext]

theorem feed_announced_ending (hm : s.mode = .idle) (hname : ∀ c ∈ name, isBlank c = false)
    (isWarning : Bool) (hb : IsBody b) (hnumber : IsNumeral number) :
    feed (announced name isWarning (b ++ ending number)) s =
      (s.announcing name isWarning (b ++ ['.']) (digitsValue number), none) := by
  have hline : lineNumber (some number) = .ok (digitsValue number) := if_pos hnumber.length_le
  exact feed_announced_of_read hm hname isWarning (hb.head_append _) (hb.announced_ending hnumber) hline

private theorem feed_continued_of_read (hm : s.mode = .message false) (hname : '\n' ∉ name)
    (spaces : Nat) {body : Text} {line : Option Text} {stopped : Bool} (hclose : ')' ∉ b)
    (hb : ∃ c ∈ b.head?, isBlank c = false)
    (hread : shortest isInLine continuationEnd? b = some (body, line, stopped, []))
    (hline : ∀ digits ∈ line, digits.length ≤ maxDigits) :
    feed (continued name spaces b) s =
      (s.continuing (added name (body ++ dot stopped)) ((line.map digitsValue).getD s.draft.line), none) := by
  have hopen : endsMessage false (continued name spaces b) = false := rfl
  have htext : "\n(".toList ++ name ++ ")\t".toList ++ body ++ dot stopped = added name (body ++ dot stopped) := by
    simp [added]
  have hcontinued : continueWith ⟨name, body, line, stopped⟩ s =
      (s.continuing (added name (body ++ dot stopped)) ((line.map digitsValue).getD s.draft.line),
        .finished) := by
    rw [← htext]
    cases line with
    | none => rfl
    | some digits =>
      have hdigits : lineNumber (some digits) = .ok (digitsValue digits) := if_pos (hline digits rfl)
      simp only [continueWith, withLine, hdigits]
      rfl
  rw [feed_eq, pass, hm]
  dsimp only
  rw [continueMessage, hopen, if_neg Bool.false_ne_true, ofLine?_continued hname hclose hb hread]
  dsimp only
  rw [hcontinued]

theorem feed_continued (hm : s.mode = .message false) (hname : '\n' ∉ name) (spaces : Nat) (hb : IsBody b)
    (hclose : ')' ∉ b) :
    feed (continued name spaces b) s = (s.continuing (added name b) s.draft.line, none) := by
  obtain ⟨body, stopped, hread, htext⟩ := hb.read_alone readsEnds_continuationEnd? rfl
  rw [feed_continued_of_read hm hname spaces hclose hb.head hread nofun, htext]
  rfl

theorem feed_continued_ending (hm : s.mode = .message false) (hname : '\n' ∉ name) (spaces : Nat)
    (hb : IsBody b) (hclose : ')' ∉ b) (hnumber : IsNumeral number) :
    feed (continued name spaces (b ++ ending number)) s =
      (s.continuing (added name (b ++ ['.'])) (digitsValue number), none) := by
  have hnone : ')' ∉ b ++ ending number :=
    List.not_mem_append hclose (hnumber.not_mem_ending (by decide) (by decide))
  refine feed_continued_of_read hm hname spaces hnone (hb.head_append _) (hb.continued_ending hnumber) ?_
  intro digits hdigits
  cases hdigits
  exact hnumber.length_le

/-- The further lines lengthen the message, and the last of them says which line it speaks about. -/
theorem feedAll_continued {more : List (Nat × Text)} (hne : more ≠ []) (hm : s.mode = .message false)
    (hname : '\n' ∉ name) (hmore : ∀ l ∈ more, IsBody l.2 ∧ ')' ∉ l.2) (hnumber : IsNumeral number) :
    feedAll (numbered number (more.map fun l => continued name l.1 l.2)) s =
      .ok (s.continuing (more.flatMap (fun l => added name l.2) ++ ['.']) (digitsValue number)) := by
  induction more generalizing s with
  | nil => exact absurd rfl hne
  | cons l rest ih =>
    obtain ⟨⟨hbody, hclose⟩, hrest⟩ := List.forall_mem_cons.mp hmore
    cases rest with
    | nil =>
      rw [List.map_singleton, numbered, continued_append, feedAll,
        feed_continued_ending hm hname l.1 hbody hclose hnumber, added_append, List.flatMap_singleton]
      rfl
    | cons l' rest =>
      rw [List.map_cons, numbered_cons _ _ (mt List.map_eq_nil_iff.mp (List.cons_ne_nil _ _)), feedAll,
        feed_continued hm hname l.1 hbody hclose]
      dsimp only
      rw [ih (s := s.continuing _ _) (List.cons_ne_nil _ _) hm hrest, continuing_continuing,
        List.flatMap_cons (x := l), List.append_assoc]

/-- All lines of a message start one entry, which then holds the whole of it. -/
theorem feedAll_package {m : PackageMessage} (h : m.IsWellFormed) (hm : s.mode = .idle) :
    feedAll m.lines s = .ok { s.start (m.entry s.currentFile) with mode := .message false } := by
  rw [PackageMessage.lines, entry, text]
  by_cases hmore : m.more = []
  · rw [hmore, List.map_nil, numbered, announced_append, feedAll,
      feed_announced_ending hm h.name m.isWarning h.first h.number]
    rfl
  · have hname : '\n' ∉ m.name := fun hn => absurd (h.name '\n' hn) (by decide)
    rw [numbered_cons _ _ (mt List.map_eq_nil_iff.mp hmore), feedAll,
      feed_announced hm h.name m.isWarning h.first]
    dsimp only
    rw [feedAll_continued hmore rfl hname h.more h.number]
    simp only [continuing, announcing, start, Entry.toDraft, List.append_assoc, List.cons_append]

/-- A package's message starts one entry, whatever was read before and however many lines it has. It is
reported with its kind, the file that is open, the number on its last line and the texts of all lines,
and leaves the session as ready for any notice as it was. What comes later does not change it: it is only
left out of a report if it is the last message and says that the bibliography is empty. -/
theorem package_message_in_full (rootFile : Text) (working : Path.WorkingDirectory) (before : List Text)
    {m : PackageMessage} (h : m.IsWellFormed) (hm : (feeds before (new rootFile working)).mode = .idle) :
    let s := feeds before (new rootFile working)
    let d : Diagnostic := ⟨s.currentFile, digitsValue m.number,
      if m.isWarning then .warning else .info, m.text, none⟩
    ∃ s' e, feedAll (m.lines ++ [[]]) s = .ok s' ∧ (started (m.lines ++ [[]]) s).length = 1 ∧
      s'.messages = s.messages ++ [e] ∧ e.diagnostic = d ∧ s'.nesting = s.nesting ∧ s'.mode = .idle ∧
      ∀ rest t, feedAll rest s' = .ok t → s'.messages <+: t.messages ∧
        (t.finish.2[s.messages.length]? = some d ∨ t.messages = s'.messages ∧ EndsEmpty s'.messages) := by
  intro s d
  let e : Entry := { m.entry s.currentFile with text := m.text ++ ['\n'] }
  let s₁ : Session := { s.start (m.entry s.currentFile) with mode := .message false }
  have hfiles : s.nesting.files ≠ [] :=
    (isConsistent_feeds before (isConsistent_new rootFile working)).files
  have hpending : s.HasPending := feeds_induction hasPending_pass before fun _ => rfl
  have hread : feedAll (m.lines ++ [[]]) s = .ok s₁.ended := by
    rw [feedAll_append (feedAll_package h hm), feedAll, feed_nil (s := s₁) hfiles]
    rfl
  have hmessages : s₁.ended.messages = s.messages ++ [e] := messages_start e s
  have hd : e.diagnostic = d := m.diagnostic_entry s.currentFile
  refine ⟨s₁.ended, e, hread, length_started_eq hread hmessages, hmessages, hd, rfl, rfl, fun rest t ht => ?_⟩
  have hended : s₁.ended.HasPending := feedAll_induction hasPending_pass hread hpending
  exact hd ▸ complete_is_reported (s := s₁.ended) rfl hended hmessages ht

/-- Three lines, the first of which ends like the words in front of a number. -/
def threeLines : PackageMessage :=
  { name := "a)b".toList, isWarning := true, first := "c on input".toList
    more := [(0, "(d.".toList), (12, "e?".toList)], number := "007".toList }

theorem threeLines_in_full :
    let s := feeds ["(./b.tex".toList] (new "/a.tex".toList)
    threeLines.IsWellFormed ∧ s.mode = .idle ∧ ∃ s' e, feedAll (threeLines.lines ++ [[]]) s = .ok s' ∧
      s'.messages = [e] ∧ e.diagnostic = ⟨"/b.tex".toList, 7, .warning,
        "Package a)b: c on input\n(a)b)\t(d.\n(a)b)\te?.".toList, none⟩ ∧ s'.nesting = s.nesting := by
  intro s
  have hformed : threeLines.IsWellFormed := by decide +kernel
  have hm : s.mode = .idle := by decide +kernel
  obtain ⟨s', e, hread, -, hmessages, hd, hnesting, -⟩ :=
    package_message_in_full "/a.tex".toList .usual ["(./b.tex".toList] hformed hm
  have hnone : s.messages = [] := by decide +kernel
  have hfile : s.currentFile = "/b.tex".toList := by decide +kernel
  have htext : threeLines.text = "Package a)b: c on input\n(a)b)\t(d.\n(a)b)\te?.".toList := by decide +kernel
  refine ⟨hformed, hm, s', e, hread, ?_, ?_, hnesting⟩
  · rw [hmessages, hnone, List.nil_append]
  · rw [hd, hfile, htext]
    rfl

end Session
end TypesetTrace.Log
