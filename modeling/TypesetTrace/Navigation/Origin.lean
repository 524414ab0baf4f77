import TypesetTrace.Files
import TypesetTrace.Sync.Document
import TypesetTrace.Sync.Rectangle

/-! From a point on a page to the source line that it comes from. -/
namespace TypesetTrace.Navigation
open Sync

structure Origin where
  file : Text
  line : Int
  column : Nat := 0
  deriving DecidableEq, Repr

/-- The best block so far: the file and line it is recorded under, how far its middle is from the
point, and its rectangle. -/
structure Best (K : Type) where
  file : Text
  line : Int
  distance : K
  rect : Rectangle K

variable {K : Type}

/-- The eligible blocks of a page with the files and lines they are recorded under, in the order
of the index. -/
def blocksOn (page : Int) (index : Keyed Text (Lines K)) : List (Text × Int × Block K) :=
  index.pairs.flatMap fun (path, lines) =>
    lines.pairs.flatMap fun (line, pages) =>
      (((pages.get? page).getD []).filter Block.isEligible).map fun b => (path, line, b)

variable [Scalar K]

/-- Before any block: no file, and the whole page. -/
def Best.none : Best K :=
  ⟨[], 0, Scalar.far, { top := 0, bottom := Scalar.far, left := 0, right := Scalar.far }⟩

/-- A block takes over if it lies inside the best one, or if its middle is nearer and it does not
enclose the best one. -/
def Best.consider (x y : K) (best : Best K) (candidate : Text × Int × Block K) : Best K :=
  let (path, line, b) := candidate
  let rect := Rectangle.ofBlock b
  let distance := rect.distanceFromCentre x y
  if best.rect.includes rect || (decide (distance < best.distance) && !rect.includes best.rect)
  then ⟨path, line, distance, rect⟩
  else best

def bestAt (d : Document K) (page : Int) (x y : K) : Best K :=
  (blocksOn page d.index).foldl (Best.consider (x - d.offsetX) (y - d.offsetY)) Best.none

def origin? (fs : Files) (source : Text) (page : Int) (x y : K) (d : Document K) : Option Origin :=
  let best := bestAt d page x y
  let directory := Path.directory (Path.absolute fs.working source)
  let file := Path.absolute fs.working (Path.join directory best.file)
  if best.file = [] then none
  else if fs.exists? file then some { file, line := best.line }
  else none

end TypesetTrace.Navigation
