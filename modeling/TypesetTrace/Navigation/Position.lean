import TypesetTrace.Path
import TypesetTrace.Sync.Document
import TypesetTrace.Text.LowerCase

/-! From the lines of a source file to positions on pages. -/
namespace TypesetTrace.Navigation
open Sync

structure Position (K : Type) where
  page : Int
  x : K
  y : K

structure Anchor (K : Type) where
  line : Int
  page : Int
  y : K

variable {K : Type}

/-- The first thing to navigate to on the lowest page, in the order of the records. -/
def firstEligible? (pages : Keyed Int (List (Block K))) : Option (Block K) := do
  let lowest ← pages.keys.min?
  (← pages.get? lowest).find? Block.isEligible

/-- The path under which a document records a source file. Recorded paths are taken from the
directory of the source file, and capitals do not matter. -/
def recordedPath? (working : Path.WorkingDirectory) (source : Text) (d : Document K) : Option Text :=
  let directory := Path.directory (Path.absolute working source)
  let wanted := Text.lower (Path.absolute working source)
  d.index.keys.find? fun path =>
    Text.lower (Path.absolute working (Path.join directory path)) = wanted

def linesOf? (working : Path.WorkingDirectory) (source : Text) (d : Document K) : Option (Lines K) := do
  d.index.get? (← recordedPath? working source d)

def target? (lines : Lines K) (line : Int) : Option (Block K) :=
  (lines.get? line).bind firstEligible?

def lineBefore? (lines : Lines K) (line : Int) : Option Int :=
  (lines.keys.filter (· < line)).max?

def lineFrom? (lines : Lines K) (line : Int) : Option Int :=
  (lines.keys.filter (line ≤ ·)).min?

variable [Scalar K]

def positionOf (d : Document K) (b : Block K) : Position K :=
  ⟨b.page, b.left + d.offsetX, b.bottom + d.offsetY⟩

/-- The height of a line between two recorded ones, in proportion to the lines, as long as the
later one stands lower on the page. -/
def heightBetween (line before next : Int) (above : Option (Block K)) (below : Block K) :
    Except Fault K :=
  match above with
  | none => .ok below.bottom
  | some above =>
    if above.bottom < below.bottom then do
      let ratio ← Scalar.ratio (line - before) (next - before)
      return above.bottom + (below.bottom - above.bottom) * ratio
    else .ok below.bottom

/-- The position of a line. A line that was not recorded stands beside the next recorded one, at a
height between the lines around it; after the last recorded line there is only that one. -/
def positionOn (d : Document K) (lines : Lines K) (line : Int) :
    Except Fault (Option (Position K)) :=
  match lineFrom? lines line with
  | none => .ok (((lines.keys.max?).bind (target? lines)).map (positionOf d))
  | some next =>
    match lineBefore? lines line with
    | none => .ok ((target? lines next).map (positionOf d))
    | some before =>
      if next = line then .ok ((target? lines next).map (positionOf d))
      else match target? lines next with
        | none => .ok none
        | some below => do
          let bottom ← heightBetween line before next (target? lines before) below
          return some ⟨below.page, below.left + d.offsetX, bottom + d.offsetY⟩

def position (working : Path.WorkingDirectory) (source : Text) (line : Int) (d : Document K) :
    Except Fault (Option (Position K)) :=
  match linesOf? working source d with
  | none => .ok none
  | some lines => positionOn d lines line

def anchorsOn (d : Document K) (lines : Lines K) : List (Anchor K) :=
  (lines.keys.mergeSort fun a b => a ≤ b).filterMap fun line =>
    (target? lines line).map fun b => ⟨line, b.page, b.bottom + d.offsetY⟩

def anchors (working : Path.WorkingDirectory) (source : Text) (d : Document K) : List (Anchor K) :=
  match linesOf? working source d with
  | none => []
  | some lines => anchorsOn d lines

end TypesetTrace.Navigation
