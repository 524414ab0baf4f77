import TypesetTrace.Number.Scalar
import TypesetTrace.Sync.Record

/-! Boxes and elements of a page, with the place of the source that they come from. -/
namespace TypesetTrace.Sync

/-- A box holds other things; an element carries the character that its record starts with. -/
inductive Role where
  | box (kind : BoxKind)
  | element (symbol : Text)
  deriving DecidableEq, Repr

structure Block (K : Type) where
  role : Role
  fileNumber : Nat := 0
  file : Option Text := none
  line : Int
  left : K
  bottom : K
  height : K
  width : Option K := none
  depth : Option Int := none
  page : Int
  /-- The box that this lies in directly. -/
  enclosing : Option (Block K) := none

def Role.name : Role → Text
  | .box .vertical => "vertical".toList
  | .box .horizontal => "horizontal".toList
  | .element symbol => symbol

/-- Kerns and rules are space and lines between the things a reader sees. -/
def isSpacing (symbol : Text) : Bool := symbol == ['k'] || symbol == ['r']

/-- Something to navigate to: an element that shows text. -/
def Block.isEligible {K : Type} (b : Block K) : Bool :=
  match b.role with
  | .box _ => false
  | .element symbol => !isSpacing symbol

structure Box (K : Type) where
  head : Block K
  elements : List (Block K)
  boxes : List (Box K)

structure Page (K : Type) where
  number : Int
  boxes : List (Box K)

end TypesetTrace.Sync
