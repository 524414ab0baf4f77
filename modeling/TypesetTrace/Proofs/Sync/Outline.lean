import TypesetTrace.Proofs.Keyed
import TypesetTrace.Proofs.Text.Numeral
import TypesetTrace.Sync.Document

/-! Synchronisation files before they are printed: what is written on each line, and the document
that a reader should get back, described from the tree of boxes without reading a line. -/
namespace TypesetTrace.Sync
open Text

structure BoxOutline where
  kind : BoxKind
  file : Nat
  line : Nat
  left : Int
  bottom : Int
  width : Int
  height : Int
  depth : Int

structure ElementOutline where
  symbol : Char
  file : Nat
  line : Nat
  left : Int
  bottom : Int
  width : Option Int

/-- What stands on a page or in a box, in order: elements, and boxes with what stands in them. -/
inductive Forest where
  | nil
  | element (e : ElementOutline) (rest : Forest)
  | box (b : BoxOutline) (content rest : Forest)

structure Outline where
  version : Text
  files : Keyed Nat Text
  offsetX : Int
  offsetY : Int
  pages : Keyed Nat Forest

/-- A file, a line and a corner: `1,20:300,400`. -/
def cornerText (file line : Nat) (left bottom : Int) : Text :=
  ofNat file ++ ',' :: (ofNat line ++ ':' :: (ofInt left ++ ',' :: ofInt bottom))

/-- `[1,20:300,400:50,60,7` or the same with a parenthesis. -/
def BoxOutline.text (b : BoxOutline) : Text :=
  b.kind.bracket :: (cornerText b.file b.line b.left b.bottom ++
    ':' :: (ofInt b.width ++ ',' :: (ofInt b.height ++ ',' :: ofInt b.depth)))

def ElementOutline.widthText (e : ElementOutline) : Text :=
  match e.width with
  | none => []
  | some width => ':' :: ofInt width

/-- `x1,20:300,400` or `x1,20:300,400:50`. -/
def ElementOutline.text (e : ElementOutline) : Text :=
  e.symbol :: (cornerText e.file e.line e.left e.bottom ++ e.widthText)

/-- One line for an element, and for a box one line before its content and one after it. -/
def Forest.lines : Forest → List Text
  | .nil => []
  | .element e rest => e.text :: rest.lines
  | .box b content rest => b.text :: (content.lines ++ [b.kind.closingBracket] :: rest.lines)

def inputText (number : Nat) (path : Text) : Text := "Input:".toList ++ (ofNat number ++ ':' :: path)

def offsetText (axis : Char) (value : Int) : Text := axis :: (" Offset:".toList ++ ofInt value)

def pageLines (number : Nat) (f : Forest) : List Text :=
  ('\x7b' :: ofNat number) :: (f.lines ++ ['\x7d' :: ofNat number])

def Outline.lines (o : Outline) : List Text :=
  (versionLabel ++ o.version) ::
    (o.files.pairs.map (fun (number, path) => inputText number path) ++
      offsetText 'X' o.offsetX :: offsetText 'Y' o.offsetY ::
        o.pages.pairs.flatMap fun (number, f) => pageLines number f)

def Outline.text (o : Outline) : Text := Text.join ['\n'] o.lines

section
variable (K : Type) [Scalar K]

/-- The length is a number of the coordinates and is written with few enough digits. -/
def IsConvertible (i : Int) : Prop :=
  IsWritable i.natAbs ∧ (Scalar.ofScaledPoints i : Except Fault K).isOk

instance (i : Int) : Decidable (IsConvertible K i) := inferInstanceAs (Decidable (_ ∧ _))

def BoxOutline.IsPrintable (b : BoxOutline) : Prop :=
  (∀ n ∈ [b.file, b.line, b.depth.natAbs], IsWritable n) ∧
    ∀ i ∈ [b.left, b.bottom, b.width, b.height], IsConvertible K i

instance (b : BoxOutline) : Decidable (b.IsPrintable K) := inferInstanceAs (Decidable (_ ∧ _))

def ElementOutline.IsPrintable (e : ElementOutline) : Prop :=
  e.symbol ≠ '\n' ∧ (∀ n ∈ [e.file, e.line], IsWritable n) ∧
    ∀ i ∈ e.left :: e.bottom :: e.width.toList, IsConvertible K i

instance (e : ElementOutline) : Decidable (e.IsPrintable K) := inferInstanceAs (Decidable (_ ∧ _))

def Forest.IsPrintable : Forest → Prop
  | .nil => True
  | .element e rest => e.IsPrintable K ∧ rest.IsPrintable
  | .box b content rest => b.IsPrintable K ∧ content.IsPrintable ∧ rest.IsPrintable

instance Forest.decidableIsPrintable : (f : Forest) → Decidable (f.IsPrintable K)
  | .nil => isTrue trivial
  | .element _ rest =>
    have := rest.decidableIsPrintable
    inferInstanceAs (Decidable (_ ∧ _))
  | .box _ content rest =>
    have := content.decidableIsPrintable
    have := rest.decidableIsPrintable
    inferInstanceAs (Decidable (_ ∧ _ ∧ _))

/-- A path that a line can end with. -/
def IsPathText (path : Text) : Prop := path ≠ [] ∧ '\n' ∉ path ∧ path.getLast? ≠ some '\r'

instance (path : Text) : Decidable (IsPathText path) := inferInstanceAs (Decidable (_ ∧ _ ∧ _))

/-- Every line can be read as what it was printed for. -/
structure Outline.IsPrintable (o : Outline) : Prop where
  version_inLine : '\n' ∉ o.version
  version_stripped : strip o.version = o.version
  version_unlabelled : ¬ versionLabel <:+: o.version
  files : ∀ f ∈ o.files.pairs, IsWritable f.1 ∧ IsPathText f.2
  offsets : IsConvertible K o.offsetX ∧ IsConvertible K o.offsetY
  pages : ∀ p ∈ o.pages.pairs, IsWritable p.1 ∧ p.2.IsPrintable K

end

section
variable {K : Type} [Scalar K]

def coordinate (i : Int) : K :=
  match (Scalar.ofScaledPoints i : Except Fault K) with
  | .ok k => k
  | .error _ => 0

def BoxOutline.block (b : BoxOutline) (files : Keyed Nat Text) (page : Nat)
    (enclosing : Option (Block K)) : Block K :=
  { role := .box b.kind, fileNumber := b.file, file := files.get? b.file, line := b.line
    left := coordinate b.left, bottom := coordinate b.bottom, height := coordinate b.height
    width := some (coordinate b.width), depth := some b.depth, page, enclosing }

/-- The element as a block in a box, as high as the box; none if its file is not known. -/
def ElementOutline.block? (e : ElementOutline) (files : Keyed Nat Text) (page : Nat)
    (box : Block K) : Option (Block K) :=
  (files.get? e.file).map fun path =>
    { role := .element [e.symbol], fileNumber := e.file, file := some path, line := e.line
      left := coordinate e.left, bottom := coordinate e.bottom, height := box.height
      width := e.width.map coordinate, page, enclosing := some box }

namespace Forest

def elements (files : Keyed Nat Text) (page : Nat) (box : Block K) : Forest → List (Block K)
  | .nil => []
  | .element e rest => (e.block? files page box).toList ++ rest.elements files page box
  | .box _ _ rest => rest.elements files page box

/-- The boxes directly in a box, or on the page where `enclosing` is `none`. -/
def boxes (files : Keyed Nat Text) (page : Nat) (enclosing : Option (Block K)) :
    Forest → List (Box K)
  | .nil => []
  | .element _ rest => rest.boxes files page enclosing
  | .box b content rest =>
    let head : Block K := b.block files page enclosing
    ⟨head, content.elements files page head, content.boxes files page (some head)⟩ ::
      rest.boxes files page enclosing

/-- All boxes and elements at every depth, each box before its content. An element outside every
box counts for nothing. -/
def blocks (files : Keyed Nat Text) (page : Nat) (enclosing : Option (Block K)) :
    Forest → List (Block K)
  | .nil => []
  | .element e rest =>
    (enclosing.bind (e.block? files page)).toList ++ rest.blocks files page enclosing
  | .box b content rest =>
    let head : Block K := b.block files page enclosing
    head :: (content.blocks files page (some head) ++ rest.blocks files page enclosing)

end Forest

def Block.isElement (b : Block K) : Bool :=
  match b.role with
  | .element _ => true
  | .box _ => false

/-- A horizontal box, or an element that stands for an empty one. -/
def Block.isHorizontal (b : Block K) : Bool :=
  match b.role with
  | .element symbol => symbol == ['h']
  | .box kind => kind == .horizontal

def indexOf (es : List (Block K)) : Keyed Text (Lines K) :=
  .grouped (fun e => e.file.getD [])
    (.grouped (fun e => e.line) (.grouped (fun e => e.page) fun bucket => bucket)) es

namespace Outline

/-- All boxes and elements of known files on all pages, in the order of their lines. -/
def blocks (o : Outline) : List (Block K) :=
  o.pages.pairs.flatMap fun (number, f) => f.blocks o.files number none

def document (o : Outline) : Document K where
  version := o.version
  offsetX := coordinate o.offsetX
  offsetY := coordinate o.offsetY
  files := o.files
  pages := o.pages.renamed Int.ofNat (fun _ _ => Int.ofNat.inj) fun number f =>
    ⟨number, f.boxes o.files number none⟩
  index := indexOf (o.blocks.filter Block.isElement)
  horizontals := o.blocks.filter Block.isHorizontal
  pageCount := (o.pages.keys.max?).getD 0

end Outline
end
end TypesetTrace.Sync
