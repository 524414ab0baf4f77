import TypesetTrace.Sync.Block

/-! Rectangles on a page. Heights are counted downwards, so the top of a rectangle has the smaller
number. -/
namespace TypesetTrace.Sync
variable {K : Type} [Scalar K]

structure Rectangle (K : Type) where
  top : K
  bottom : K
  left : K
  right : K

namespace Rectangle

/-- The other rectangle lies inside; edges may touch. -/
def includes (r other : Rectangle K) : Bool :=
  decide (r.left ≤ other.left) && decide (other.right ≤ r.right) &&
    decide (other.bottom ≤ r.bottom) && decide (r.top ≤ other.top)

def distanceFromCentre (r : Rectangle K) (x y : K) : K :=
  Scalar.hypot (Scalar.half (r.left + r.right) - x) (Scalar.half (r.bottom + r.top) - y)

def rightEdge (b : Block K) : K :=
  match b.width with
  | none => b.left
  | some width => if Scalar.isZero width then b.left else b.left + width

/-- The rectangle that a block covers; without a width it is an upright line. -/
def ofBlock (b : Block K) : Rectangle K :=
  { top := b.bottom - b.height, bottom := b.bottom, left := b.left, right := rightEdge b }

def inverted : Rectangle K := { top := Scalar.far, bottom := 0, left := Scalar.far, right := 0 }

/-- The box widened by an eligible block. A block without a width does not move the right edge. -/
def widen (r : Rectangle K) (b : Block K) : Rectangle K :=
  if b.isEligible then
    { bottom := Scalar.larger b.bottom r.bottom
      top := Scalar.smaller (b.bottom - b.height) r.top
      left := Scalar.smaller b.left r.left
      right := match b.width with
        | none => r.right
        | some width => Scalar.larger (b.left + width) r.right }
  else r

def ofBlocks (bs : List (Block K)) : Rectangle K := bs.foldl widen inverted

end Rectangle
end TypesetTrace.Sync
