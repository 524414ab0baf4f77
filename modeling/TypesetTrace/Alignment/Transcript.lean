import TypesetTrace.Alignment.Report

/-! The text that a run of the survey prints, and how the run ends. -/
namespace TypesetTrace.Alignment
open Navigation Service

inductive Ending where
  | finished
  | exit (code : Nat)
  | failed (failure : Failure)
  deriving DecidableEq, Repr

/-- What was printed, each text with a line break behind it, and the end. -/
structure Run where
  printed : List Text
  ending : Ending

def text (s : String) : Text := s.toList

def padLeft (width : Nat) (s : Text) : Text := List.replicate (width - s.length) ' ' ++ s

def number (n : Nat) : Text := Text.ofNat n

def points (x : Float) : Text := Binary64.toFixed 1 x

def rule : Text := List.replicate 60 '='

def listed (ns : List Int) : Text :=
  '[' :: Text.join [',', ' '] (ns.map Text.ofInt) ++ [']']

/-- The pages of the anchors in order, each once. -/
def pagesCovered (anchors : List (Anchor Float)) : List Int :=
  (anchors.map (·.page)).mergeSort (fun a b => a ≤ b) |>.eraseDups

def heading (anchors : List (Anchor Float)) (lineCount : Nat) : List Text :=
  let lineOf (a : Option (Anchor Float)) : Text := Text.ofInt ((a.map (·.line)).getD 0)
  [text "\nline map entries: " ++ number anchors.length ++ text " (source lines: " ++
      number lineCount ++ [')'],
    text "Line range: " ++ lineOf anchors.head? ++ ['-'] ++ lineOf anchors.getLast?,
    text "Pages covered: " ++ listed (pagesCovered anchors),
    text "\nQuerying forward sync for lines 1-" ++ number lineCount ++ text "..."]

/-- Only the first few errors are printed. -/
def printedErrors : Nat := 3

/-- What is printed while lines are asked about: the first errors, if the question did not get
through, and every fiftieth line that was compared. `errors` counts the errors so far. -/
def progress (lineCount : Nat) : Nat → List (Int × Outcome) → List Text
  | _, [] => []
  | errors, (line, outcome) :: rest =>
    let here : List Text := match outcome with
      | .unreachable =>
        if errors < printedErrors then
          [text "  Error at line " ++ Text.ofInt line ++ text ": connection refused"]
        else []
      | .compared _ =>
        if line % 50 = 0 then
          [text "  ... line " ++ Text.ofInt line ++ ['/'] ++ number lineCount]
        else []
      | .noData | .refused => []
    here ++ progress lineCount (if outcome.isError then errors + 1 else errors) rest

def percentage (part whole : Nat) : Text :=
  match Binary64.quotient (100 * part : Nat) whole with
  | .ok x => Binary64.toFixed 0 x
  | .error _ => []

def withinLine (label : String) (count total : Nat) : Text :=
  text label ++ number count ++ ['/'] ++ number total ++ text " (" ++ percentage count total ++
    text "%)"

def comparisonLine (c : Comparison) : Text :=
  text "  " ++ padLeft 5 (Text.ofInt c.line) ++ text "  " ++ padLeft 4 (Text.ofInt c.exactPage) ++
    text "  " ++ padLeft 8 (points c.exactY) ++ text "  " ++ padLeft 8 (points c.estimatedY) ++
    text "  " ++ padLeft 6 (points c.deviation)

def deviationSection (r : Report) : List Text :=
  let total := r.deviations.length
  if total = 0 then []
  else
    [text "\nY deviation (same page, PDF points):",
      text "  Average: " ++ points r.average ++ text " pt",
      text "  Median:  " ++ points r.median ++ text " pt",
      text "  Max:     " ++ points r.greatest ++ text " pt",
      withinLine "  Within 1 line (14pt): " (r.countWithin Report.lineHeight) total,
      withinLine "  Within 2 lines (28pt): " (r.countWithin (2 * Report.lineHeight)) total,
      text "\nTop 10 worst deviations:",
      text "  " ++ padLeft 5 (text "Line") ++ text "  " ++ padLeft 4 (text "Page") ++ text "  " ++
        padLeft 8 (text "Exact Y") ++ text "  " ++ padLeft 8 (text "Interp Y") ++ text "  " ++
        padLeft 6 (text "Dev")] ++
      r.worst.map comparisonLine

def mismatchSection (r : Report) : List Text :=
  if r.mismatches.isEmpty then []
  else text "\nPage mismatch examples:" :: (r.mismatches.take 10).map fun c =>
    text "  Line " ++ Text.ofInt c.line ++ text ": exact page=" ++ Text.ofInt c.exactPage ++
      text ", interp page=" ++ Text.ofInt c.estimatedPage

def verdictText : Report.Verdict → Text
  | .good => text "RESULT: GOOD (average deviation under one line, no page mismatches)"
  | .acceptable => text "RESULT: ACCEPTABLE (average deviation under two lines)"
  | .poor => text "RESULT: NEEDS IMPROVEMENT"

def Report.render (r : Report) : List Text :=
  ['\n' :: rule, text "ALIGNMENT VERIFICATION REPORT", rule,
    text "Total lines tested: " ++ number r.tested,
    text "Lines without sync data: " ++ Text.ofInt r.withoutData,
    text "API errors: " ++ number r.errors,
    text "Page mismatches: " ++ number r.mismatches.length] ++
    deviationSection r ++ mismatchSection r ++
    ['\n' :: rule, verdictText r.verdict, rule]

def survey (conditions : Conditions) (fs : Files) (source : Text) (lineCount : Nat)
    (anchors : List (Anchor Float)) (slot : Slot Float) : Run :=
  let (outcomes, failure) :=
    visitAll conditions fs source anchors (lineNumbers lineCount) slot
  let started := heading anchors lineCount ++ progress lineCount 0 outcomes
  match failure with
  | some failure => ⟨started, .failed failure⟩
  | none => ⟨started ++ (Report.ofOutcomes lineCount (outcomes.map (·.2))).render, .finished⟩

def run (conditions : Conditions) (fs : Files) (arguments : List Text) : Run :=
  match arguments with
  | [] => ⟨[text "usage: verify_sync_alignment.py /abs/path/to/main.tex"], .exit 2⟩
  | path :: _ =>
    let source := Path.absolute fs.working path
    match fs.readText source with
    | .error e => ⟨[], .failed (.cannotOpen e)⟩
    | .ok content =>
      match answer fs (lineMapRequest source) none with
      | (.lineMap found, slot) =>
        let anchors := found.mergeSort fun a b => a.line ≤ b.line
        if anchors.isEmpty then
          ⟨[text "No SyncTeX data for " ++ source ++ text ". Compile it first."], .exit 1⟩
        else survey conditions fs source (countLines content) anchors slot
      | (a, _) => ⟨[], .failed (.noLineMap a.status)⟩

def Run.transcript (r : Run) : Text := r.printed.flatMap (· ++ ['\n'])

end TypesetTrace.Alignment
