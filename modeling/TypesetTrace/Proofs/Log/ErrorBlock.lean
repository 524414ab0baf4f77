import TypesetTrace.Proofs.Log.ErrorText
import TypesetTrace.Proofs.Log.SourceMark
import TypesetTrace.Proofs.Text.Lines

/-! An error is read in full. Its text may go on over any number of lines, up to the one that shows the source
text at the error and the number of the line in the source. -/
namespace TypesetTrace.Log
open Text

/-- An error with further lines of text and the source text at it. -/
structure ErrorBlock where
  /-- The file and the number that the first line begins with, or else an exclamation mark stands there. -/
  place : Option (Text × Text)
  first : Text
  more : List Text
  number : Text
  source : Text
  deriving DecidableEq, Repr

namespace ErrorBlock

def head (place : Option (Text × Text)) (first : Text) : Text :=
  match place with
  | none => '!' :: ' ' :: first
  | some (path, number) => path ++ ':' :: (number ++ ':' :: ' ' :: first)

def mark (number source : Text) : Text := "l.".toList ++ (number ++ ' ' :: source)

def lines (b : ErrorBlock) : List Text := head b.place b.first :: (b.more ++ [mark b.number b.source])

def placed (rootFile : Text) (working : Path.WorkingDirectory) (currentFile : Text) :
    Option (Text × Text) → Text
  | none => currentFile
  | some (path, _) => Path.absolute working (Path.join (Path.directory rootFile) path)

def text (b : ErrorBlock) : Text := Text.join ['\n'] (b.first :: b.more)

/-- The entry that holds the error. -/
def entry (rootFile : Text) (working : Path.WorkingDirectory) (currentFile : Text) (b : ErrorBlock) : Entry :=
  ⟨.error, placed rootFile working currentFile b.place, b.text, digitsValue b.number,
    some (shownText b.source)⟩

structure IsPath (path : Text) : Prop where
  inLine : '\n' ∉ path
  rooted : "./".toList <+: path ∨ "/".toList <+: path

/-- A further line of text. It neither ends the text nor looks like more of a package's message. -/
structure IsMore (line : Text) : Prop where
  inLine : '\n' ∉ line
  head : ∃ c ∈ line.head?, isBlank c = false ∧ c ≠ '('
  notShown : ¬ ShowsSource line

/-- The parts are such that their ends can be told. -/
structure IsWellFormed (b : ErrorBlock) : Prop where
  place : ∀ p ∈ b.place, IsPath p.1 ∧ IsNumeral p.2
  first : b.first ≠ [] ∧ ':' ∉ b.first ∧ '\n' ∉ b.first
  more : ∀ line ∈ b.more, IsMore line
  number : IsNumeral b.number
  source : '\n' ∉ b.source

theorem isMore_iff {line : Text} : IsMore line ↔ '\n' ∉ line ∧
    line.head?.any (fun c => !isBlank c && c != '(') ∧ ¬ (SourceMark.ofLine? line).isSome := by
  simp only [Option.any_eq_true, Bool.and_eq_true, Bool.not_eq_true', bne_iff_ne]
  constructor
  · rintro ⟨hline, hhead, hshown⟩
    exact ⟨hline, hhead, mt (SourceMark.ofLine?_isSome_iff hline).mp hshown⟩
  · rintro ⟨hline, hhead, hshown⟩
    exact ⟨hline, hhead, mt (SourceMark.ofLine?_isSome_iff hline).mpr hshown⟩

instance (line : Text) : Decidable (IsMore line) := decidable_of_iff _ isMore_iff.symm

instance (path : Text) : Decidable (IsPath path) :=
  decidable_of_iff ('\n' ∉ path ∧ ("./".toList <+: path ∨ "/".toList <+: path))
    ⟨fun ⟨hline, hrooted⟩ => ⟨hline, hrooted⟩, fun ⟨hline, hrooted⟩ => ⟨hline, hrooted⟩⟩

theorem isWellFormed_iff {b : ErrorBlock} : b.IsWellFormed ↔ (∀ p ∈ b.place, IsPath p.1 ∧ IsNumeral p.2) ∧
    (b.first ≠ [] ∧ ':' ∉ b.first ∧ '\n' ∉ b.first) ∧ (∀ line ∈ b.more, IsMore line) ∧ IsNumeral b.number ∧
      '\n' ∉ b.source :=
  ⟨fun h => ⟨h.place, h.first, h.more, h.number, h.source⟩,
    fun ⟨hplace, hfirst, hmore, hnumber, hsource⟩ => ⟨hplace, hfirst, hmore, hnumber, hsource⟩⟩

instance (b : ErrorBlock) : Decidable b.IsWellFormed := decidable_of_iff _ isWellFormed_iff.symm

end ErrorBlock

namespace Failure

/-- The file name reaches to the last number between colons. -/
theorem ofLine?_placed {path number b : Text} (hpath : '\n' ∉ path) (hnumber : IsNumeral number)
    (hne : b ≠ []) (hcolon : ':' ∉ b) (hline : '\n' ∉ b) :
    ofLine? (path ++ ':' :: (number ++ ':' :: ' ' :: b)) = some (⟨some (path, number), none, b⟩, []) := by
  have hnowhere : ¬ NamesEmitter (' ' :: b) := by
    intro h
    rcases List.mem_cons.mp h.mem_colon with hspace | hb
    · cases hspace
    · exact hcolon hb
  have hrun : run? isDigit (number ++ ':' :: ' ' :: b) = some (number, ':' :: ' ' :: b) := by
    refine run?_append hnumber.ne_nil hnumber.digits fun c hc => ?_
    cases hc
    rfl
  have hread : numbered? (':' :: (number ++ ':' :: ' ' :: b)) = some (number, none, b, []) := by
    have hbehind : after? ":".toList (':' :: ' ' :: b) = some (' ' :: b) := after?_append [':'] (' ' :: b)
    rw [numbered?, hrun]
    simp only [Option.bind_eq_bind, Option.bind_some, hbehind, failureText?_body hne hline hnowhere]
  have hlater : ∀ v, v <:+ ':' :: (number ++ ':' :: ' ' :: b) → v ≠ ':' :: (number ++ ':' :: ' ' :: b) →
      numbered? v = none := by
    intro v hv hlt
    rw [Option.eq_none_iff_forall_ne_some]
    intro found hfound
    -- A number between colons needs two of them, and only one is left.
    rcases List.suffix_cons_iff.mp hv with rfl | hv
    · exact hlt rfl
    · have hdigits : number.count ':' = 0 :=
        List.count_eq_zero.mpr fun h => absurd (hnumber.digits ':' h) (by decide)
      have hcount := hv.sublist.count_le ':'
      rw [List.count_append, hdigits, List.count_cons_self, List.count_cons_of_ne (by decide),
        List.count_eq_zero.mpr hcolon] at hcount
      exact not_namesLine_of_count hcount (namesLine_of_numbered? hfound)
  rw [ofLine?, longest_append (fun _ => isInLine_of_mem hpath) hread hlater]

end Failure

namespace ErrorBlock
variable {place : Option (Text × Text)} {first : Text}

theorem ofLine?_head (hplace : ∀ p ∈ place, IsPath p.1 ∧ IsNumeral p.2) (hne : first ≠ [])
    (hcolon : ':' ∉ first) (hline : '\n' ∉ first) :
    Notice.ofLine? (head place first) = some (.failure ⟨place, none, first⟩) := by
  cases place with
  | none =>
    have hnone : ':' ∉ ' ' :: first := List.not_mem_cons_of_ne_of_not_mem (by decide) hcolon
    have hnowhere : ¬ NamesLine (' ' :: first) :=
      not_namesLine_of_count (List.count_eq_zero.mpr hnone ▸ Nat.zero_le 1)
    have hemitter : ¬ NamesEmitter (' ' :: first) := fun h => hnone h.mem_colon
    rw [head, Notice.ofLine?_failure (.inl rfl), Failure.ofLine?_exclaimed hnowhere,
      failureText?_body hne hline hemitter]
    rfl
  | some p =>
    obtain ⟨path, number⟩ := p
    obtain ⟨⟨hpath, hrooted⟩, hnumber⟩ := hplace _ rfl
    obtain ⟨c, rest, rfl, hc⟩ : ∃ c rest, path = c :: rest ∧ (c = '!' ∨ c = '.' ∨ c = '/') := by
      rcases hrooted with ⟨rest, rfl⟩ | ⟨rest, rfl⟩
      · exact ⟨'.', '/' :: rest, rfl, .inr (.inl rfl)⟩
      · exact ⟨'/', rest, rfl, .inr (.inr rfl)⟩
    rw [head, List.cons_append, Notice.ofLine?_failure hc, ← List.cons_append,
      Failure.ofLine?_placed hpath hnumber hne hcolon hline]
    rfl

end ErrorBlock

namespace Session
open ErrorBlock
variable {s : Session} {place : Option (Text × Text)} {first line number source : Text}

theorem feed_head (hm : s.mode = .idle) (hplace : ∀ p ∈ place, IsPath p.1 ∧ IsNumeral p.2) (hne : first ≠ [])
    (hcolon : ':' ∉ first) (hline : '\n' ∉ first) :
    ∃ n, feed (head place first) s =
      ({ s.start ⟨.error, placed s.rootFile s.working s.currentFile place, first, n, none⟩ with
        mode := .message true }, none) := by
  have hread := ofLine?_head hplace hne hcolon hline
  cases place with
  | none => exact ⟨1, feed_failure hm hread rfl⟩
  | some p =>
    obtain ⟨path, number⟩ := p
    obtain ⟨⟨-, hrooted⟩, hnumber⟩ := hplace _ rfl
    have hnumbered : lineNumber (some number) = .ok (digitsValue number) := if_pos hnumber.length_le
    refine ⟨digitsValue number, ?_⟩
    rw [feed_failure hm hread hnumbered]
    rcases hrooted with ⟨rest, rfl⟩ | ⟨rest, rfl⟩ <;> rfl

theorem feed_more (hm : s.mode = .message true) (h : IsMore line) :
    feed line s = (appended ('\n' :: line) s, none) := by
  obtain ⟨hline, ⟨c, hc, hblank, hparenthesis⟩, hshown⟩ := h
  cases line with
  | nil => cases hc
  | cons d line =>
    cases hc
    have hopen : endsMessage true (c :: line) = false := by
      rw [endsMessage, List.all_cons, List.head?_cons, Option.any_some, hblank]
      rfl
    have hcontinuation : Continuation.ofLine? (c :: line) = none := by
      unfold Continuation.ofLine?
      split
      · rename_i heq
        exact absurd (List.cons.inj heq).1 hparenthesis
      · rfl
    have hmark : SourceMark.ofLine? (c :: line) = none := by
      rw [← Option.not_isSome_iff_eq_none]
      exact mt (SourceMark.ofLine?_isSome_iff hline).mp hshown
    rw [feed_eq, pass, hm]
    dsimp only
    rw [continueMessage, hopen, if_neg Bool.false_ne_true, hcontinuation]
    dsimp only
    rw [if_pos rfl, hmark]

theorem feedAll_more {more : List Text} (hm : s.mode = .message true) (hmore : ∀ line ∈ more, IsMore line) :
    feedAll more s = .ok (appended (more.flatMap (['\n'] ++ ·)) s) := by
  induction more generalizing s with
  | nil =>
    rw [List.flatMap_nil, appended, List.append_nil]
    rfl
  | cons line rest ih =>
    obtain ⟨hline, hrest⟩ := List.forall_mem_cons.mp hmore
    rw [feedAll, feed_more hm hline]
    dsimp only
    rw [ih (s := s.appended _) hm hrest]
    simp only [appended, List.flatMap_cons, List.append_assoc, List.cons_append, List.nil_append]

theorem feed_mark (hm : s.mode = .message true) (hnumber : IsNumeral number) (hsource : '\n' ∉ source) :
    feed (mark number source) s =
      ({ s with draft := { s.draft with line := digitsValue number, context := some (shownText source) }
                mode := .idle }, none) := by
  obtain ⟨shortened, hread⟩ :=
    SourceMark.ofLine?_mark hnumber.ne_nil hnumber.digits (c := ' ') (by decide) hsource
  have hopen : endsMessage true (mark number source) = false := rfl
  have hcontinuation : Continuation.ofLine? (mark number source) = none := rfl
  have hmark : SourceMark.ofLine? (mark number source) = some (⟨number, shortened, shownText source⟩, []) := hread
  have hnumbered : lineNumber (some number) = .ok (digitsValue number) := if_pos hnumber.length_le
  rw [feed_eq, pass, hm]
  dsimp only
  rw [continueMessage, hopen, if_neg Bool.false_ne_true, hcontinuation]
  dsimp only
  rw [if_pos rfl, hmark]
  simp only [withLine, hnumbered]

/-- All lines of an error start one entry, which then holds the whole of it. -/
theorem feedAll_errorBlock {b : ErrorBlock} (h : b.IsWellFormed) (hm : s.mode = .idle) :
    feedAll b.lines s = .ok (s.start (b.entry s.rootFile s.working s.currentFile)) := by
  obtain ⟨hne, hcolon, hline⟩ := h.first
  obtain ⟨n, hhead⟩ := feed_head hm h.place hne hcolon hline
  rw [ErrorBlock.lines, feedAll, hhead]
  dsimp only
  rw [feedAll_append (feedAll_more rfl h.more), feedAll, feed_mark rfl h.number h.source, entry, ErrorBlock.text,
    join_cons]
  simp only [feedAll, appended, start, Entry.toDraft, hm]

/-- An error starts one entry, whatever was read before and however many lines of text it has. It is reported
with the file that it names or else the one that is open, with the number in front of the source text at the
error, its whole text and that source text. It leaves the session as ready for any notice as it was. What
comes later does not change it: it is only left out of a report if it is the last message and says that the
bibliography is empty. -/
theorem error_block_in_full (rootFile : Text) (working : Path.WorkingDirectory) (before : List Text)
    {b : ErrorBlock} (h : b.IsWellFormed) (hm : (feeds before (new rootFile working)).mode = .idle) :
    let s := feeds before (new rootFile working)
    let d : Diagnostic := ⟨placed rootFile working s.currentFile b.place, digitsValue b.number, .error,
      strip (Text.join ['\n'] (b.first :: b.more)), some (shownText b.source)⟩
    ∃ s' e, feedAll b.lines s = .ok s' ∧ (started b.lines s).length = 1 ∧
      s'.messages = s.messages ++ [e] ∧ e.diagnostic = d ∧ s'.nesting = s.nesting ∧ s'.mode = .idle ∧
      ∀ rest t, feedAll rest s' = .ok t → s'.messages <+: t.messages ∧
        (t.finish.2[s.messages.length]? = some d ∨ t.messages = s'.messages ∧ EndsEmpty s'.messages) := by
  intro s d
  let e : Entry := b.entry rootFile working s.currentFile
  have hroot : s.IsOpenWith rootFile working :=
    feeds_induction isOpenWith_pass before ⟨rfl, rfl, List.cons_ne_nil _ _⟩
  have hpending : s.HasPending := feeds_induction hasPending_pass before fun _ => rfl
  have hread : feedAll b.lines s = .ok (s.start e) := by
    rw [feedAll_errorBlock h hm, hroot.rootFile, hroot.working]
  have hmessages : (s.start e).messages = s.messages ++ [e] := messages_start e s
  refine ⟨s.start e, e, hread, length_started_eq hread hmessages, hmessages, rfl, rfl, hm, fun rest t ht => ?_⟩
  have hcomplete : (s.start e).HasPending := feedAll_induction hasPending_pass hread hpending
  exact complete_is_reported (s := s.start e) hm hcomplete hmessages ht

/-- An error in a file with a number between colons in its name, with text that looks like its source text. -/
def twoMarks : ErrorBlock :=
  { place := some ("./x:1: y.tex".toList, "3".toList), first := "a b ".toList
    more := ["l.x".toList, ")".toList], number := "012".toList, source := "......c".toList }

theorem twoMarks_in_full :
    let s := feeds ["(./b.tex".toList] (new "/d/a.tex".toList)
    twoMarks.IsWellFormed ∧ s.mode = .idle ∧ ∃ s' e, feedAll twoMarks.lines s = .ok s' ∧ s'.messages = [e] ∧
      e.diagnostic = ⟨"/d/x:1: y.tex".toList, 12, .error, "a b \nl.x\n)".toList, some "...c".toList⟩ ∧
        s'.nesting = s.nesting := by
  intro s
  have hformed : twoMarks.IsWellFormed := by decide +kernel
  have hm : s.mode = .idle := by decide +kernel
  obtain ⟨s', e, hread, -, hmessages, hd, hnesting, -⟩ :=
    error_block_in_full "/d/a.tex".toList .usual ["(./b.tex".toList] hformed hm
  have hnone : s.messages = [] := by decide +kernel
  have hreported : (⟨placed "/d/a.tex".toList .usual s.currentFile twoMarks.place,
      digitsValue twoMarks.number, .error, strip (Text.join ['\n'] (twoMarks.first :: twoMarks.more)),
      some (shownText twoMarks.source)⟩ : Diagnostic) =
        ⟨"/d/x:1: y.tex".toList, 12, .error, "a b \nl.x\n)".toList, some "...c".toList⟩ := by decide +kernel
  refine ⟨hformed, hm, s', e, hread, ?_, hd.trans hreported, hnesting⟩
  rw [hmessages, hnone, List.nil_append]

end Session
end TypesetTrace.Log
