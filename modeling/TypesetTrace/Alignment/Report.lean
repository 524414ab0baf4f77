import TypesetTrace.Alignment.Survey

/-! The report on a survey: how many lines were compared, how far estimates were off, and which
lines were the worst. -/
namespace TypesetTrace.Alignment

structure Report where
  lineCount : Nat
  comparisons : List Comparison
  errors : Nat

namespace Report

def ofOutcomes (lineCount : Nat) (outcomes : List Outcome) : Report where
  lineCount
  comparisons := outcomes.filterMap fun
    | .compared c => some c
    | _ => none
  errors := outcomes.countP Outcome.isError

variable (r : Report)

def tested : Nat := r.comparisons.length

/-- The lines that are neither compared nor in error. -/
def withoutData : Int := (r.lineCount : Int) - r.tested - r.errors

def mismatches : List Comparison := r.comparisons.filter Comparison.isMismatch

def samePage : List Comparison := r.comparisons.filter fun c => !c.isMismatch

def deviations : List Float := r.samePage.map Comparison.deviation

def countWithin (limit : Float) : Nat := r.deviations.countP fun d => d ≤ limit

def average : Float := r.deviations.foldl (· + ·) 0.0 / Float.ofNat r.deviations.length

/-- The deviation in the middle of the sorted ones, the later of two. -/
def median : Float :=
  ((r.deviations.mergeSort fun a b => a ≤ b)[r.deviations.length / 2]?).getD 0.0

def greatest : Float :=
  match r.deviations with
  | [] => 0.0
  | d :: ds => ds.foldl Scalar.larger d

/-- The ten largest deviations, larger ones first, equal ones in the order of their lines. -/
def worst : List Comparison :=
  (r.samePage.mergeSort fun a b => b.deviation ≤ a.deviation).take 10

def lineHeight : Float := 14.0

inductive Verdict where
  | good | acceptable | poor
  deriving DecidableEq, Repr

def verdict : Verdict :=
  if r.deviations.isEmpty then .poor
  else if r.average < lineHeight ∧ r.mismatches.length = 0 then .good
  else if r.average < 2 * lineHeight then .acceptable
  else .poor

end Report
end TypesetTrace.Alignment
