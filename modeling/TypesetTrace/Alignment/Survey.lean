import TypesetTrace.Alignment.Interpolation
import TypesetTrace.Service.Endpoint

/-! Asking the service for the exact position of every line of a source file, and setting the
estimate beside it. -/
namespace TypesetTrace.Alignment
open Navigation Service

/-- What the way to the service does to the questions about single lines: some do not get through,
and some are answered with an empty answer of the given status. -/
structure Conditions where
  unreachable : List Int := []
  replaced : List (Int × Nat) := []

structure Comparison where
  line : Int
  exactPage : Int
  exactY : Float
  estimatedPage : Int
  estimatedY : Float

def Comparison.isMismatch (c : Comparison) : Bool := c.exactPage != c.estimatedPage

def Comparison.deviation (c : Comparison) : Float := (c.exactY - c.estimatedY).abs

inductive Outcome where
  | compared (c : Comparison)
  | noData
  /-- The service answered with another status. -/
  | refused
  | unreachable

def Outcome.isError : Outcome → Bool
  | .refused | .unreachable => true
  | .compared _ | .noData => false

/-- Why a survey ends before its report. -/
inductive Failure where
  | cannotOpen (e : OpenError)
  | noLineMap (status : Nat)
  /-- A line was answered with success and without content. -/
  | emptyAnswer
  | fault (f : Fault)
  deriving DecidableEq, Repr

def forwardRequest (source : Text) (line : Int) : Request :=
  { method := "GET", path := Endpoint.forward.path
    query := [("file".toList, source), ("line".toList, Text.ofInt line)] }

def lineMapRequest (source : Text) : Request :=
  { method := "GET", path := Endpoint.lineMap.path, query := [("file".toList, source)] }

def compare (anchors : List (Anchor Float)) (line : Int) (p : Position Float) :
    Except Failure Outcome :=
  match estimate anchors line with
  | .ok e => .ok (.compared ⟨line, p.page, p.y, e.page, e.y⟩)
  | .error f => .error (.fault f)

def outcomeOf (anchors : List (Anchor Float)) (line : Int) (a : Answer Float) :
    Except Failure Outcome :=
  match a with
  | .position p => compare anchors line p
  | a => .ok (if a.status = 404 then .noData else .refused)

def replacedOutcome (status : Nat) : Except Failure Outcome :=
  if status = 404 then .ok .noData
  else if status = 200 then .error .emptyAnswer
  else .ok .refused

variable (conditions : Conditions) (fs : Files) (source : Text) (anchors : List (Anchor Float))

def visit (line : Int) (slot : Slot Float) : Except Failure Outcome × Slot Float :=
  if line ∈ conditions.unreachable then (.ok .unreachable, slot)
  else match conditions.replaced.lookup line with
    | some status => (replacedOutcome status, slot)
    | none =>
      let (a, slot) := answer fs (forwardRequest source line) slot
      (outcomeOf anchors line a, slot)

/-- Asks about lines in order, up to the first failure. -/
def visitAll : List Int → Slot Float → List (Int × Outcome) × Option Failure
  | [], _ => ([], none)
  | line :: rest, slot =>
    match visit conditions fs source anchors line slot with
    | (.error failure, _) => ([], some failure)
    | (.ok outcome, slot) =>
      let (outcomes, failure) := visitAll rest slot
      ((line, outcome) :: outcomes, failure)

def lineNumbers (count : Nat) : List Int := (List.range count).map fun (i : Nat) => (i : Int) + 1

/-- The number of lines of a text; one that does not end in a line break counts. -/
def countLines (s : Text) : Nat :=
  let pieces := Text.lines s
  if pieces.getLast? = some [] then pieces.length - 1 else pieces.length

end TypesetTrace.Alignment
