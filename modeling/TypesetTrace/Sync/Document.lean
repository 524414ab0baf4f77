import TypesetTrace.Keyed
import TypesetTrace.Sync.Block

/-! A synchronisation file as a whole: the tree of its pages, and two flat views of the same
things for navigation. -/
namespace TypesetTrace.Sync
open Text

/-- The elements of a source file by line, and of a line by page, in the order of their records. -/
abbrev Lines (K : Type) := Keyed Int (Keyed Int (List (Block K)))

structure Document (K : Type) where
  version : Text := []
  offsetX : K
  offsetY : K
  files : Keyed Nat Text := .empty
  /-- The pages by the number that their closing record gives. -/
  pages : Keyed Int (Page K) := .empty
  index : Keyed Text (Lines K) := .empty
  /-- The horizontal boxes, and the elements that stand for an empty one. -/
  horizontals : List (Block K) := []
  pageCount : Int := 0

inductive Stop where
  | fault (f : Fault)
  | unknownAxis (axis : Char)
  deriving DecidableEq, Repr

structure OpenBox (K : Type) where
  head : Block K
  elements : List (Block K) := []
  boxes : List (Box K) := []

structure OpenPage (K : Type) where
  number : Int
  boxes : List (Box K) := []
  stack : List (OpenBox K) := []

/-- What was read of a file so far. Boxes are open only on a page. -/
structure Reading (K : Type) where
  document : Document K
  page : Option (OpenPage K) := none

variable {K : Type} [Scalar K]

def Document.blank : Document K := { offsetX := 0, offsetY := 0 }

def Document.record (d : Document K) (path : Text) (e : Block K) : Document K :=
  { d with
    index := d.index.alter path fun lines => (lines.getD .empty).alter e.line fun pages =>
      (pages.getD .empty).alter e.page fun bucket => bucket.getD [] ++ [e] }

def Document.addHorizontal (d : Document K) (b : Block K) : Document K :=
  { d with horizontals := d.horizontals ++ [b] }

def converted {α : Type} (r : Except Fault α) : Except Stop α := r.mapError .fault

def natural (digits : Text) : Except Stop Nat := converted (toNat digits)

def integer (digits : Text) : Except Stop Int := converted (toInt digits)

def scaled (digits : Text) : Except Stop K := do
  converted (Scalar.ofScaledPoints (← integer digits))

def BoxFields.block (f : BoxFields) (kind : BoxKind) (d : Document K) (p : OpenPage K) :
    Except Stop (Block K) := do
  let fileNumber ← natural f.file
  let line ← natural f.line
  let left ← scaled f.left
  let bottom ← scaled f.bottom
  let width ← scaled f.width
  let height ← scaled f.height
  let depth ← integer f.depth
  return { role := .box kind, fileNumber, file := d.files.get? fileNumber, line, left, bottom,
           height, width := some width, depth := some depth, page := p.number,
           enclosing := p.stack.head?.map (·.head) }

/-- The element on page `page` in the box `box`. It is as high as its box. -/
def ElementFields.block (f : ElementFields) (fileNumber : Nat) (path : Text) (page : Int)
    (box : Block K) : Except Stop (Block K) := do
  let line ← natural f.line
  let left ← scaled f.left
  let bottom ← scaled f.bottom
  let width ← f.width.mapM scaled
  return { role := .element [f.symbol], fileNumber, file := some path, line, left, bottom,
           height := box.height, width, page, enclosing := some box }

namespace Reading

def setOffset (axis : Char) (value : K) (r : Reading K) : Except Stop (Reading K) :=
  if axis = 'X' ∨ axis = 'x' then .ok { r with document := { r.document with offsetX := value } }
  else if axis = 'Y' ∨ axis = 'y' then
    .ok { r with document := { r.document with offsetY := value } }
  else .error (.unknownAxis axis)

/-- A new page takes the place of one that was not closed. -/
def openPage (number : Int) (r : Reading K) : Reading K :=
  { document := { r.document with
      pageCount := if r.document.pageCount < number then number else r.document.pageCount }
    page := some { number } }

/-- Only a page that is closed becomes part of the document, without its open boxes. -/
def closePage (number : Text) (r : Reading K) : Except Stop (Reading K) :=
  match r.page with
  | none => .ok r
  | some p => do
    let key : Int := ← natural number
    return { document := { r.document with pages := r.document.pages.put key ⟨p.number, p.boxes⟩ } }

def openBox (kind : BoxKind) (f : BoxFields) (r : Reading K) : Except Stop (Reading K) :=
  match r.page with
  | none => .ok r
  | some p => do
    let head ← f.block kind r.document p
    let page := some { p with stack := { head } :: p.stack }
    match kind with
    | .vertical => return { r with page }
    | .horizontal => return { document := r.document.addHorizontal head, page }

/-- The innermost open box is closed, whatever its kind, and becomes part of the box or page that
it lies in. -/
def closeBox (r : Reading K) : Reading K :=
  match r.page with
  | none => r
  | some p =>
    match p.stack with
    | [] => r
    | box :: stack =>
      let closed : Box K := ⟨box.head, box.elements, box.boxes⟩
      match stack with
      | [] => { r with page := some { p with boxes := p.boxes ++ [closed], stack := [] } }
      | outer :: stack =>
        { r with page := some { p with
            stack := { outer with boxes := outer.boxes ++ [closed] } :: stack } }

/-- An element counts only in an open box, and only if its file is known. -/
def addElement (f : ElementFields) (r : Reading K) : Except Stop (Reading K) :=
  match r.page with
  | none => .ok r
  | some p =>
    match p.stack with
    | [] => .ok r
    | box :: stack => do
      let fileNumber ← natural f.file
      match r.document.files.get? fileNumber with
      | none => return r
      | some path =>
        let e ← f.block fileNumber path p.number box.head
        let document := r.document.record path e
        return {
          document := if f.symbol = 'h' then document.addHorizontal e else document
          page := some { p with stack := { box with elements := box.elements ++ [e] } :: stack } }

def step (r : Reading K) : Record → Except Stop (Reading K)
  | .input number path => do
    let number ← natural number
    return { r with document := { r.document with files := r.document.files.put number path } }
  | .offset axis value => do r.setOffset axis (← scaled value)
  | .openPage number => do return r.openPage (← natural number)
  | .closePage number => r.closePage number
  | .openBox kind fields => r.openBox kind fields
  | .closeBox => .ok r.closeBox
  | .element fields => r.addElement fields

def run : List Record → Reading K → Except Stop (Reading K)
  | [], r => .ok r
  | record :: rest, r => do run rest (← r.step record)

end Reading

def versionLabel : Text := "SyncTeX Version:".toList

def versionOf (line : Text) : Text := strip (remove versionLabel 0 line)

/-- The record on a line, carriage returns at its end aside. -/
def recordOf? (line : Text) : Option Record := Record.ofLine? (trimEnd (· == '\r') line)

/-- The document that a whole file describes. An empty file describes the blank one. -/
def Document.ofText (body : Text) : Except Stop (Document K) :=
  match body, lines body with
  | [], _ | _, [] => .ok .blank
  | _, first :: rest => do
    let start : Reading K := { document := { Document.blank with version := versionOf first } }
    return (← Reading.run (rest.filterMap recordOf?) start).document

end TypesetTrace.Sync
