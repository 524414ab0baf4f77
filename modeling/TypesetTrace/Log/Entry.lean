import TypesetTrace.Text.Basic

/-! The messages that are taken out of a log: a draft while lines are still being added to it,
an entry once it is complete, and the diagnostic that is reported for it. -/
namespace TypesetTrace.Log

/-- What sort of message an entry is; `typesetting` is a box that came out badly. -/
inductive Kind where
  | error | warning | info | typesetting
  deriving DecidableEq, Repr

inductive Severity where
  | error | warning | info
  deriving DecidableEq, Repr

def Kind.name : Kind → String
  | .error => "error"
  | .warning => "warning"
  | .info => "info"
  | .typesetting => "typesetting"

def Kind.ofName? (name : String) : Option Kind :=
  [Kind.error, .warning, .info, .typesetting].find? (·.name == name)

def Severity.name : Severity → String
  | .error => "error"
  | .warning => "warning"
  | .info => "info"

def Kind.severity : Kind → Severity
  | .error => .error
  | .warning => .warning
  | .info | .typesetting => .info

/-- A name that is no kind of message counts as information. -/
def Severity.ofKindName (name : String) : Severity :=
  ((Kind.ofName? name).map Kind.severity).getD .info

structure Entry where
  kind : Kind
  file : Text
  text : Text
  line : Nat := 1
  /-- The source text at the error, or the key that was not found. -/
  context : Option Text := none
  deriving DecidableEq, Repr

/-- The message that is being put together. Without a kind there is none, and whatever is
written to it is dropped when the next one starts. -/
structure Draft where
  kind : Option Kind := none
  file : Text := []
  text : Text := []
  line : Nat := 1
  context : Option Text := none
  deriving DecidableEq, Repr

def Entry.toDraft (e : Entry) : Draft := ⟨some e.kind, e.file, e.text, e.line, e.context⟩

def Draft.complete? (d : Draft) : Option Entry :=
  d.kind.map fun kind => ⟨kind, d.file, d.text, d.line, d.context⟩

structure Diagnostic where
  file : Text
  line : Nat
  severity : Severity
  message : Text
  context : Option Text
  deriving DecidableEq, Repr

def Entry.diagnostic (e : Entry) : Diagnostic :=
  ⟨e.file, e.line, e.kind.severity, Text.strip e.text, e.context⟩

def countOf (severity : Severity) (ds : List Diagnostic) : Nat :=
  ds.countP (·.severity == severity)

end TypesetTrace.Log
