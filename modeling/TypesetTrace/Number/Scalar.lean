import TypesetTrace.Number.Binary64

/-! The numbers that coordinates are made of. All geometry is written for any such numbers: with
doubles it runs, with exact numbers its laws can be stated without rounding. -/
namespace TypesetTrace

class Scalar (K : Type) extends Zero K, Add K, Sub K, Mul K, LE K, LT K where
  decideLE : DecidableLE K
  decideLT : DecidableLT K
  half : K → K
  /-- The number counts as absent where zero means absence. -/
  isZero : K → Bool
  /-- The distance of two points whose coordinates differ by the two numbers. -/
  hypot : K → K → K
  /-- Larger than any coordinate. -/
  far : K
  ofScaledPoints : Int → Except Fault K
  ratio : Int → Int → Except Fault K

namespace Scalar

instance {K : Type} [Scalar K] : DecidableLE K := decideLE
instance {K : Type} [Scalar K] : DecidableLT K := decideLT

/-- The larger number; `a` where the two cannot be told apart. -/
def larger {K : Type} [Scalar K] (a b : K) : K := if a < b then b else a

def smaller {K : Type} [Scalar K] (a b : K) : K := if b < a then b else a

end Scalar

def scaledPointsPerUnit : Float := 65781.76

instance : Scalar Float where
  zero := 0.0
  decideLE := fun a b => Float.decLe a b
  decideLT := fun a b => Float.decLt a b
  half x := x / 2.0
  isZero x := x == 0.0
  hypot := Binary64.hypot
  far := 2e16
  ofScaledPoints n := (Binary64.ofInt n).map (· / scaledPointsPerUnit)
  ratio := Binary64.quotient

end TypesetTrace
