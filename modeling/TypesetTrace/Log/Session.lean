import TypesetTrace.Log.Entry
import TypesetTrace.Log.Nesting
import TypesetTrace.Log.Notice
import TypesetTrace.Path
import TypesetTrace.Text.Numeral

/-! Reading a log line by line. A session keeps the message that is being put together, since a
message may go on over several lines, and the files that are open, since a message belongs to
the innermost of them. -/
namespace TypesetTrace.Log
open Text

inductive Mode where
  | idle
  /-- The line shows the content of a bad box and is passed over. -/
  | boxContent
  /-- The line belongs to the message, which ends at an empty line; in an error also at a line
  that starts with a blank or shows the source text. -/
  | message (inError : Bool)
  deriving DecidableEq, Repr

structure Session where
  working : Path.WorkingDirectory
  rootFile : Text
  nesting : Nesting
  mode : Mode := .idle
  draft : Draft := {}
  /-- The completed messages, newest first. -/
  entries : List Entry := []
  deriving DecidableEq, Repr

inductive Pass where
  | finished
  | again (rest : Text)
  | failed (fault : Fault)
  deriving DecidableEq, Repr

namespace Session

/-- Before the first line the main file is open. -/
def new (rootFile : Text) (working : Path.WorkingDirectory := .usual) : Session :=
  { working, rootFile, nesting := { files := [rootFile] } }

def resolve (s : Session) (path : Text) : Text :=
  Path.absolute s.working (Path.join (Path.directory s.rootFile) path)

def currentFile (s : Session) : Text := s.resolve (s.nesting.files.head?.getD s.rootFile)

def flushed (s : Session) : List Entry := s.draft.complete?.toList ++ s.entries

def start (e : Entry) (s : Session) : Session :=
  { s with entries := s.flushed, draft := e.toDraft }

def failing (s : Session) (fault : Fault) : Session × Pass := (s, .failed fault)

/-- The line number in a notice; line 1 where there is none. -/
def lineNumber (digits : Option Text) : Except Fault Nat :=
  match digits with
  | none => .ok 1
  | some digits => toNat digits

def withLine (s : Session) (digits : Option Text) (k : Nat → Session × Pass) :
    Session × Pass :=
  match lineNumber digits with
  | .ok line => k line
  | .error fault => failing s fault

def acceptUnresolved (u : Unresolved) (s : Session) : Session × Pass :=
  withLine s (some u.line) fun line =>
    let text := "Cannot find ".toList ++ u.kind.inSentence ++ [' ', '\x60'] ++ u.key ++ ['\x60', '.']
    (s.start ⟨.warning, s.currentFile, text, line, some u.key⟩, .finished)

def acceptBox (b : BoxNotice) (rest : Text) (s : Session) : Session × Pass :=
  let started (line : Nat) (text : Text) := s.start ⟨.typesetting, s.currentFile, text, line, none⟩
  match b.place with
  | .paragraph line _ | .detected line =>
    withLine s (some line) fun line => ({ started line b.heading with mode := .boxContent }, .finished)
  | .output none => (started 1 b.heading, .again rest)
  | .output (some page) => (started 1 (b.heading ++ " in page ".toList ++ page), .again rest)

def acceptAnnouncement (a : Announcement) (s : Session) : Session × Pass :=
  withLine s a.line fun line =>
    let kind := if a.isWarning then .warning else .info
    let text := a.emitter ++ [':', ' '] ++ a.body ++ a.stop
    ({ s.start ⟨kind, s.currentFile, text, line, none⟩ with mode := .message false }, .finished)

/-- The kernel is not named in front of its own errors. -/
def failureText (f : Failure) : Text :=
  match f.emitter with
  | none => f.body
  | some emitter => if emitter = "LaTeX".toList then f.body else emitter ++ [':', ' '] ++ f.body

def failureFile (f : Failure) (s : Session) : Text :=
  match f.place with
  | none => s.currentFile
  | some ([], _) => s.currentFile
  | some (path, _) => s.resolve path

def acceptFailure (f : Failure) (s : Session) : Session × Pass :=
  withLine s (f.place.map (·.2)) fun line =>
    ({ s.start ⟨.error, failureFile f s, failureText f, line, none⟩ with mode := .message true },
      .finished)

/-- What a notice does. A number that cannot be converted leaves the session as it was. -/
def accept (notice : Notice) (s : Session) : Session × Pass :=
  match notice with
  | .summary => (s, .finished)
  | .unresolved u => acceptUnresolved u s
  | .box b rest => acceptBox b rest s
  | .noPages =>
    ({ s.start ⟨.error, s.currentFile, Notice.noPagesText, 1, none⟩ with mode := .message true },
      .finished)
  | .missingCharacter text => (s.start ⟨.warning, s.currentFile, text, 1, none⟩, .finished)
  | .announcement a => acceptAnnouncement a s
  | .unlistedKey key rest =>
    let text := "No bib entry found for '".toList ++ key ++ ['\x27']
    (s.start ⟨.warning, [], text, 1, none⟩, .again rest)
  | .failure f => acceptFailure f s

/-- A line that is no notice only opens and closes files; the main file never closes. -/
def track (line : Text) (s : Session) : Session :=
  let nesting := s.nesting.scan line
  { s with nesting := if nesting.files = [] then { nesting with files := [s.rootFile] } else nesting }

def appended (text : Text) (s : Session) : Session :=
  { s with draft := { s.draft with text := s.draft.text ++ text } }

def endsMessage (inError : Bool) (line : Text) : Bool :=
  line.all isBlank || (inError && line.head?.any isBlank)

def continueWith (c : Continuation) (s : Session) : Session × Pass :=
  let dot := if c.stopped then ['.'] else []
  let s := appended ("\n(".toList ++ c.name ++ ")\t".toList ++ c.body ++ dot) s
  match c.line with
  | none => (s, .finished)
  | some digits => withLine s (some digits) fun line =>
    ({ s with draft := { s.draft with line } }, .finished)

/-- A line inside a message: its end, more of a package's text, the source text at an error, or
text that is taken as it stands. -/
def continueMessage (inError : Bool) (line : Text) (s : Session) : Session × Pass :=
  if endsMessage inError line then ({ appended ['\n'] s with mode := .idle }, .finished)
  else match Continuation.ofLine? line with
  | some (c, _) => continueWith c s
  | none =>
    match if inError then SourceMark.ofLine? line else none with
    | some (mark, _) => withLine s (some mark.line) fun n =>
      ({ s with draft := { s.draft with line := n, context := some mark.text }, mode := .idle },
        .finished)
    | none => (appended ('\n' :: line) s, .finished)

def pass (line : Text) (s : Session) : Session × Pass :=
  match s.mode with
  | .boxContent => ({ s with mode := .idle }, .finished)
  | .message inError => continueMessage inError line s
  | .idle =>
    match Notice.ofLine? line with
    | some notice => accept notice s
    | none => (track line s, .finished)

def passes : Nat → Text → Session → Session × Option Fault
  | 0, _, s => (s, none)
  | n + 1, line, s =>
    match pass line s with
    | (s, .finished) => (s, none)
    | (s, .failed fault) => (s, some fault)
    | (s, .again rest) => passes n rest s

/-- Reads one line. What a look leaves over is shorter than what it was given, so one more look
than the line has characters is enough. -/
def feed (line : Text) (s : Session) : Session × Option Fault := passes (line.length + 1) line s

/-- A message that says this at the very end of a log is not worth reporting. -/
def emptyBibliography : Text := "Empty \x60thebibliography' environment".toList

def mentionsEmptyBibliography (text : Text) : Bool :=
  (anywhere (after? emptyBibliography) text).isSome

/-- The pending message joins the entries, unless it only says that the bibliography is empty. -/
def close (s : Session) : Session :=
  { s with
    entries := if mentionsEmptyBibliography s.draft.text then s.entries else s.flushed
    draft := {} }

def diagnostics (s : Session) : List Diagnostic := s.entries.reverse.map Entry.diagnostic

/-- Ends the log here and reports its messages. More lines may follow. -/
def finish (s : Session) : Session × List Diagnostic := (s.close, s.close.diagnostics)

def feedAll : List Text → Session → Except Fault Session
  | [], s => .ok s
  | line :: rest, s =>
    match feed line s with
    | (s, none) => feedAll rest s
    | (_, some fault) => .error fault

end Session

/-- The messages of a whole log, in the order in which they start. `rootFile` is the main
document; the paths that the log prints are taken from its directory. -/
def diagnosticsOf (log rootFile : Text) (working : Path.WorkingDirectory := .usual) :
    Except Fault (List Diagnostic) :=
  (Session.feedAll (linesOfEither log) (Session.new rootFile working)).map fun s => s.finish.2

end TypesetTrace.Log
