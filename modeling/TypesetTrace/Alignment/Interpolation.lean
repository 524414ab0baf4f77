import TypesetTrace.Navigation.Position

/-! Estimating where a line stands from the anchors around it. -/
namespace TypesetTrace.Alignment
open Navigation

inductive Estimate (K : Type) where
  | anchor (a : Anchor K)
  | between (page : Int) (y : K)

variable {K : Type}

def Estimate.page : Estimate K → Int
  | .anchor a => a.page
  | .between page _ => page

def Estimate.y : Estimate K → K
  | .anchor a => a.y
  | .between _ y => y

/-- The place of the last anchor, of those at the front of the list, that is not behind the line;
the first place if there is none. -/
def lowerIndex (anchors : List (Anchor K)) (line : Int) : Nat :=
  (anchors.takeWhile fun a => a.line ≤ line).length - 1

def upperIndex (anchors : List (Anchor K)) (line : Int) : Nat :=
  anchors.length - max 1 (anchors.reverse.takeWhile fun a => line ≤ a.line).length

/-- Between two anchors on one page the height is in proportion to the lines. Otherwise the line
stands at the nearer anchor, the lower one if both are equally near. -/
def estimate [Scalar K] (anchors : List (Anchor K)) (line : Int) : Except Fault (Estimate K) :=
  let i := lowerIndex anchors line
  let j := upperIndex anchors line
  match anchors[i]?, anchors[j]? with
  | some lower, some upper =>
    if i = j ∨ lower.page ≠ upper.page then
      .ok (.anchor (if line - lower.line ≤ upper.line - line then lower else upper))
    else do
      let t ← Scalar.ratio (line - lower.line) (upper.line - lower.line)
      return .between lower.page (lower.y + t * (upper.y - lower.y))
  | _, _ => .error .noSuchEntry

end TypesetTrace.Alignment
