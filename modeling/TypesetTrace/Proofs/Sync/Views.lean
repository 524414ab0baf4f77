import Mathlib.Algebra.Order.Group.Multiset
import Mathlib.Data.List.Forall2
import Mathlib.Tactic.Abel
import TypesetTrace.Proofs.Sync.Outline

/-! The tree of the pages and the two flat views speak of the same boxes and elements. A record adds
at most one of them, to all views at once; from then on only the tree can lose it, with a page that is
not closed, a box that is open when its page is closed, or a page that another one replaces. -/
namespace TypesetTrace.Sync
open Text
variable {K : Type}

/-- What stands in the tree: a box without its content, or an element in a box. -/
inductive Part (K : Type) where
  | box (head : Block K)
  | element (e : Block K)

namespace Part

def block : Part K → Block K
  | .box head => head
  | .element e => e

def box? : Part K → Option (Block K)
  | .box head => some head
  | .element _ => none

def element? : Part K → Option (Block K)
  | .box _ => none
  | .element e => some e

/-- The boxes and the elements are all there is. -/
theorem boxes_append_elements (ps : List (Part K)) :
    (ps.filterMap box? ++ ps.filterMap element?).Perm (ps.map block) := by
  induction ps with
  | nil => exact .nil
  | cons p ps ih =>
    cases p with
    | box head => exact ih.cons head
    | element e => exact List.perm_middle.trans (ih.cons e)

end Part

mutual

/-- A box, the elements in it, and the same for the boxes in it. -/
def Box.parts : Box K → List (Part K)
  | ⟨head, elements, boxes⟩ => .box head :: (elements.map .element ++ Box.partsOfAll boxes)

def Box.partsOfAll : List (Box K) → List (Part K)
  | [] => []
  | box :: boxes => box.parts ++ Box.partsOfAll boxes

end

theorem Box.partsOfAll_append (bs cs : List (Box K)) :
    Box.partsOfAll (bs ++ cs) = Box.partsOfAll bs ++ Box.partsOfAll cs := by
  induction bs with
  | nil => rfl
  | cons b bs ih => simp only [List.cons_append, partsOfAll, ih, List.append_assoc]

def Page.parts (p : Page K) : List (Part K) := Box.partsOfAll p.boxes

namespace Document

/-- All that stands on the pages, at every depth. -/
def parts (d : Document K) : List (Part K) := d.pages.contents Page.parts

/-- The elements that the boxes on the pages hold. -/
def treeElements (d : Document K) : List (Block K) := d.parts.filterMap Part.element?

def treeBoxes (d : Document K) : List (Block K) := d.parts.filterMap Part.box?

def indexed (d : Document K) : List (Block K) :=
  d.index.contents fun lines => lines.contents fun pages => pages.contents fun bucket => bucket

/-- An element comes into the bucket of its file, line and page. -/
theorem indexed_record (d : Document K) (path : Text) (e : Block K) :
    (d.record path e).indexed.Perm (d.indexed ++ [e]) := by
  -- One alteration in another: of the file, of the line, and of the page.
  refine Keyed.contents_alter_concat _ _ fun lines => ?_
  refine (Keyed.contents_alter_concat _ _ fun pages => ?_).trans (by cases lines <;> rfl)
  refine (Keyed.contents_alter_concat _ _ fun bucket => ?_).trans (by cases pages <;> rfl)
  cases bucket <;> exact .refl _

end Document

def OpenBox.parts (b : OpenBox K) : List (Part K) :=
  .box b.head :: (b.elements.map .element ++ Box.partsOfAll b.boxes)

private theorem OpenBox.parts_addBox (outer b : OpenBox K) :
    parts { outer with boxes := outer.boxes ++ [⟨b.head, b.elements, b.boxes⟩] } =
      outer.parts ++ b.parts := by
  simp [parts, Box.partsOfAll_append, Box.partsOfAll, Box.parts]

private theorem OpenBox.parts_addElement (b : OpenBox K) (e : Block K) :
    (parts { b with elements := b.elements ++ [e] }).Perm (b.parts ++ [.element e]) := by
  rw [parts, parts, List.map_append, List.append_assoc, List.cons_append, List.append_assoc]
  exact (List.perm_append_comm.append_left _).cons _

def OpenPage.openParts (p : OpenPage K) : List (Part K) := p.stack.flatMap OpenBox.parts

def OpenPage.parts (p : OpenPage K) : List (Part K) := Box.partsOfAll p.boxes ++ p.openParts

namespace Reading

/-- What stands on the closed pages and on the open one. -/
def parts (r : Reading K) : List (Part K) := r.document.parts ++ (r.page.map OpenPage.parts).getD []

/-- All that comes into the views is `added`, and all that goes out of the tree is `dropped`. -/
structure Gains (r r' : Reading K) (added dropped : List (Part K)) : Prop where
  parts : (r'.parts ++ dropped).Perm (r.parts ++ added)
  indexed : r'.document.indexed.Perm (r.document.indexed ++ added.filterMap Part.element?)
  horizontals : r'.document.horizontals =
    r.document.horizontals ++ (added.map Part.block).filter Block.isHorizontal

variable {r r' : Reading K}

theorem Gains.trans {r'' : Reading K} {added added' dropped dropped' : List (Part K)}
    (h : Gains r r' added dropped) (h' : Gains r' r'' added' dropped') :
    Gains r r'' (added ++ added') (dropped ++ dropped') where
  parts := by
    have hfirst := h.parts
    have hsecond := h'.parts
    simp only [← Multiset.coe_eq_coe, ← Multiset.coe_add] at hfirst hsecond ⊢
    calc (r''.parts + (dropped + dropped') : Multiset (Part K))
        = r''.parts + dropped' + dropped := by abel
      _ = r'.parts + dropped + added' := by rw [hsecond]; abel
      _ = r.parts + (added + added') := by rw [hfirst]; abel
  indexed := by
    rw [List.filterMap_append, ← List.append_assoc]
    exact h'.indexed.trans (h.indexed.append_right _)
  horizontals := by
    rw [h'.horizontals, h.horizontals, List.map_append, List.filter_append, List.append_assoc]

/-- A step that only moves things within the tree, or out of it. -/
private theorem Gains.of_moved {dropped : List (Part K)} (hparts : (r'.parts ++ dropped).Perm r.parts)
    (hindex : r'.document.index = r.document.index)
    (hhorizontals : r'.document.horizontals = r.document.horizontals) : Gains r r' [] dropped where
  parts := by rwa [List.append_nil]
  indexed := by rw [Document.indexed, hindex, List.filterMap_nil, List.append_nil]; rfl
  horizontals := by rw [hhorizontals]; exact (List.append_nil _).symm

private theorem Gains.refl (r : Reading K) : Gains r r [] [] :=
  .of_moved (.of_eq (List.append_nil _)) rfl rfl

private theorem parts_of_page {p p' : OpenPage K} {added : List (Part K)} (hp : r.page = some p)
    (hp' : r'.page = some p') (hpages : r'.document.pages = r.document.pages)
    (h : p'.parts.Perm (p.parts ++ added)) : (r'.parts ++ []).Perm (r.parts ++ added) := by
  rw [parts, parts, hp, hp', Document.parts, hpages, List.append_nil, List.append_assoc]
  exact h.append_left _

def dropped (r : Reading K) : Record → List (Part K)
  | .openPage _ => (r.page.map OpenPage.parts).getD []
  | .closePage number =>
    match r.page with
    | none => []
    | some p =>
      let key : Int := digitsValue number
      p.openParts ++ ((r.document.pages.get? key).map Page.parts).getD []
  | _ => []

theorem bind_ok {α β : Type} {x : Except Stop α} {f : α → Except Stop β} {b : β}
    (h : x >>= f = .ok b) : ∃ a, x = .ok a ∧ f a = .ok b := by
  cases x with
  | error _ => cases h
  | ok a => exact ⟨a, rfl, h⟩

theorem run_append_eq [Scalar K] (before after : List Record) (r : Reading K) :
    run (before ++ after) r = run before r >>= run after := by
  induction before generalizing r with
  | nil => rfl
  | cons record before ih =>
    rw [List.cons_append, run, run]
    cases r.step record with
    | error stop => rfl
    | ok r' => exact ih r'

theorem eq_of_natural {digits : Text} {n : Nat} (h : natural digits = .ok n) :
    n = digitsValue digits := by
  rw [natural, Text.toNat] at h
  split at h <;> cases h
  rfl

theorem eq_of_setOffset [Scalar K] {axis : Char} {value : K} (h : r.setOffset axis value = .ok r') :
    ∃ x y, r' = { r with document := { r.document with offsetX := x, offsetY := y } } := by
  rw [setOffset] at h
  split at h
  · cases h
    exact ⟨value, r.document.offsetY, rfl⟩
  · split at h <;> cases h
    exact ⟨r.document.offsetX, value, rfl⟩

theorem closePage_cases {number : Text} (h : r.closePage number = .ok r') :
    r.page = none ∧ r' = r ∨
      ∃ p, r.page = some p ∧ r' = { document := { r.document with
        pages := r.document.pages.put (digitsValue number) ⟨p.number, p.boxes⟩ } } := by
  rw [closePage] at h
  split at h
  · rename_i hp
    cases h
    exact .inl ⟨hp, rfl⟩
  · rename_i p hp
    obtain ⟨n, hn, h⟩ := bind_ok h
    cases h
    exact .inr ⟨p, hp, by rw [eq_of_natural hn]⟩

/-- The innermost open box, if there is one, is closed into the next one or onto the page. -/
theorem closeBox_cases (r : Reading K) :
    (∀ p ∈ r.page, p.stack = []) ∧ r.closeBox = r ∨
      (∃ p box, r.page = some p ∧ p.stack = [box] ∧ r.closeBox = { r with
        page := some { p with
          boxes := p.boxes ++ [⟨box.head, box.elements, box.boxes⟩], stack := [] } }) ∨
      ∃ p box outer stack, r.page = some p ∧ p.stack = box :: outer :: stack ∧ r.closeBox = { r with
        page := some { p with stack := { outer with
          boxes := outer.boxes ++ [⟨box.head, box.elements, box.boxes⟩] } :: stack } } := by
  rw [closeBox]
  split
  · rename_i hp
    exact .inl ⟨by simp [hp], rfl⟩
  · rename_i p hp
    split
    · rename_i hs
      exact .inl ⟨by simp [hp, hs], rfl⟩
    · rename_i box stack hs
      cases stack with
      | nil => exact .inr (.inl ⟨p, box, hp, hs, rfl⟩)
      | cons outer stack => exact .inr (.inr ⟨p, box, outer, stack, hp, hs, rfl⟩)

private theorem gains_closePage {number : Text} (h : r.closePage number = .ok r') :
    Gains r r' [] (r.dropped (.closePage number)) := by
  rcases closePage_cases h with ⟨hp, rfl⟩ | ⟨p, hp, rfl⟩
  · exact .of_moved (by rw [dropped, hp, List.append_nil]) rfl rfl
  · refine .of_moved ?_ rfl rfl
    -- The page goes in with its closed boxes, and the one that had its number goes out.
    have hput := r.document.pages.contents_put Page.parts (digitsValue number : Int) ⟨p.number, p.boxes⟩
    simp only [parts, dropped, hp, Document.parts, OpenPage.parts, Option.map_none, Option.map_some,
      Option.getD_none, Option.getD_some, List.append_nil]
    simp only [← Multiset.coe_eq_coe, ← Multiset.coe_add] at hput ⊢
    rw [add_left_comm, hput, Page.parts]
    abel

private theorem gains_closeBox (r : Reading K) : Gains r r.closeBox [] [] := by
  rcases closeBox_cases r with ⟨-, hclose⟩ | ⟨p, box, hp, hs, hclose⟩ |
    ⟨p, box, outer, stack, hp, hs, hclose⟩ <;> rw [hclose]
  · exact .refl r
  · refine ⟨parts_of_page hp rfl rfl (.of_eq ?_), .of_eq (List.append_nil _).symm,
      (List.append_nil _).symm⟩
    simp [OpenPage.parts, OpenPage.openParts, hs, Box.partsOfAll_append, Box.partsOfAll, Box.parts,
      OpenBox.parts]
  · refine ⟨parts_of_page hp rfl rfl ?_, .of_eq (List.append_nil _).symm, (List.append_nil _).symm⟩
    simp only [OpenPage.parts, OpenPage.openParts, hs, List.flatMap_cons, OpenBox.parts_addBox,
      List.append_nil]
    -- The inner box changes places with what stood in the outer one already.
    rw [← List.append_assoc box.parts]
    exact (List.perm_append_comm.append_right _).append_left _

end Reading

variable [Scalar K]

/-- The record names what it adds, and says where in the source and on the page that is. -/
def Record.Shows : Record → Part K → Prop
  | .openBox kind f, .box b =>
    b.role = .box kind ∧ b.fileNumber = digitsValue f.file ∧ b.line = digitsValue f.line ∧
      scaled f.left = .ok b.left ∧ scaled f.bottom = .ok b.bottom
  | .element f, .element e =>
    e.role = .element [f.symbol] ∧ e.fileNumber = digitsValue f.file ∧ e.line = digitsValue f.line ∧
      scaled f.left = .ok e.left ∧ scaled f.bottom = .ok e.bottom
  | _, _ => False

namespace Reading
variable {r r' : Reading K}

def part? (r : Reading K) : Record → Option (Part K)
  | .openBox kind f => do
    let p ← r.page
    let head ← (f.block kind r.document p).toOption
    return .box head
  | .element f => do
    let p ← r.page
    let box ← p.stack.head?
    let fileNumber ← (natural f.file).toOption
    let path ← r.document.files.get? fileNumber
    let e ← (f.block fileNumber path p.number box.head).toOption
    return .element e
  | _ => none

/-- What the records add, in their order. -/
def met : List Record → Reading K → List (Part K)
  | [], _ => []
  | record :: rest, r =>
    (r.part? record).toList ++
      match r.step record with
      | .ok r' => met rest r'
      | .error _ => []

def droppedBy : List Record → Reading K → List (Part K)
  | [], _ => []
  | record :: rest, r =>
    r.dropped record ++
      match r.step record with
      | .ok r' => droppedBy rest r'
      | .error _ => []

private theorem shows_box {kind : BoxKind} {f : BoxFields} {d : Document K} {p : OpenPage K}
    {b : Block K} (h : f.block kind d p = .ok b) : (Record.openBox kind f).Shows (.box b) := by
  obtain ⟨fileNumber, hfile, h⟩ := bind_ok h
  obtain ⟨line, hline, h⟩ := bind_ok h
  obtain ⟨left, hleft, h⟩ := bind_ok h
  obtain ⟨bottom, hbottom, h⟩ := bind_ok h
  obtain ⟨width, -, h⟩ := bind_ok h
  obtain ⟨height, -, h⟩ := bind_ok h
  obtain ⟨depth, -, h⟩ := bind_ok h
  cases h
  exact ⟨rfl, eq_of_natural hfile, congrArg _ (eq_of_natural hline), hleft, hbottom⟩

private theorem shows_element {f : ElementFields} {n : Nat} {path : Text} {page : Int}
    {box e : Block K} (hn : natural f.file = .ok n) (h : f.block n path page box = .ok e) :
    (Record.element f).Shows (.element e) := by
  obtain ⟨line, hline, h⟩ := bind_ok h
  obtain ⟨left, hleft, h⟩ := bind_ok h
  obtain ⟨bottom, hbottom, h⟩ := bind_ok h
  obtain ⟨width, -, h⟩ := bind_ok h
  cases h
  exact ⟨rfl, eq_of_natural hn, congrArg _ (eq_of_natural hline), hleft, hbottom⟩

private theorem toOption_eq_some {α : Type} {x : Except Stop α} {a : α} :
    x.toOption = some a ↔ x = .ok a := by
  cases x <;> simp [Except.toOption]

theorem shows_part {record : Record} {part : Part K} (h : r.part? record = some part) :
    record.Shows part := by
  cases record with
  | openBox kind f =>
    simp only [part?, Option.bind_eq_bind, Option.bind_eq_some_iff, toOption_eq_some] at h
    obtain ⟨p, -, head, hhead, h⟩ := h
    cases h
    exact shows_box hhead
  | element f =>
    simp only [part?, Option.bind_eq_bind, Option.bind_eq_some_iff, toOption_eq_some] at h
    obtain ⟨p, -, box, -, n, hn, path, -, e, he, h⟩ := h
    cases h
    exact shows_element hn he
  | _ => cases h

/-- What is met stands in the order of the records that show it. -/
theorem met_shown (records : List Record) (r : Reading K) :
    ∃ shown, shown.Sublist records ∧ List.Forall₂ Record.Shows shown (met records r) := by
  induction records generalizing r with
  | nil => exact ⟨[], .slnil, .nil⟩
  | cons record rest ih =>
    have hrest : ∃ shown, shown.Sublist rest ∧ List.Forall₂ Record.Shows shown
        (match r.step record with
          | .ok r' => met rest r'
          | .error _ => []) := by
      split
      · exact ih _
      · exact ⟨[], List.nil_sublist _, .nil⟩
    obtain ⟨shown, hsub, hshown⟩ := hrest
    rw [met]
    cases hpart : r.part? record with
    | none => exact ⟨shown, hsub.cons record, hshown⟩
    | some part => exact ⟨record :: shown, hsub.cons_cons record, .cons (shows_part hpart) hshown⟩

/-- A box is opened only on a page, and counts among the horizontal ones if it is one. -/
theorem openBox_cases {kind : BoxKind} {f : BoxFields} (h : r.openBox kind f = .ok r') :
    r.page = none ∧ r.part? (.openBox kind f) = none ∧ r' = r ∨
      ∃ p head, r.page = some p ∧ r.part? (.openBox kind f) = some (.box head) ∧
        r' = { document := if kind = .horizontal then r.document.addHorizontal head else r.document
               page := some { p with stack := { head } :: p.stack } } := by
  rw [openBox] at h
  split at h
  · rename_i hp
    cases h
    exact .inl ⟨hp, by simp [part?, hp], rfl⟩
  · rename_i p hp
    obtain ⟨head, hhead, h⟩ := bind_ok h
    refine .inr ⟨p, head, hp, by simp [part?, hp, hhead, Except.toOption], ?_⟩
    cases kind <;> cases h <;> rfl

/-- An element record that adds nothing changes nothing, and one that adds an element adds it to all
the views. -/
theorem addElement_cases {f : ElementFields} (h : r.addElement f = .ok r') :
    (∀ p ∈ r.page, p.stack ≠ [] → r.document.files.get? (digitsValue f.file) = none) ∧
        r.part? (.element f) = none ∧ r' = r ∨
      ∃ p box stack path e, r.page = some p ∧ p.stack = box :: stack ∧
        r.part? (.element f) = some (.element e) ∧
        r.document.files.get? (digitsValue f.file) = some path ∧
        f.block (digitsValue f.file) path p.number box.head = .ok e ∧
        r' = { document := if f.symbol = 'h' then (r.document.record path e).addHorizontal e
                           else r.document.record path e
               page := some { p with
                 stack := { box with elements := box.elements ++ [e] } :: stack } } := by
  rw [addElement] at h
  split at h
  · rename_i hp
    cases h
    exact .inl ⟨by simp [hp], by simp [part?, hp], rfl⟩
  · rename_i p hp
    split at h
    · rename_i hs
      cases h
      exact .inl ⟨by simp [hp, hs], by simp [part?, hp, hs], rfl⟩
    · rename_i box stack hs
      obtain ⟨n, hn, h⟩ := bind_ok h
      split at h
      · rename_i hfile
        cases h
        exact .inl ⟨fun _ _ _ => eq_of_natural hn ▸ hfile,
          by simp [part?, hp, hn, hfile, Except.toOption], rfl⟩
      · rename_i path hfile
        obtain ⟨e, he, h⟩ := bind_ok h
        cases h
        have hpart : r.part? (.element f) = some (.element e) := by
          simp [part?, hp, hs, hn, hfile, he, Except.toOption]
        rw [eq_of_natural hn] at hfile he
        exact .inr ⟨p, box, stack, path, e, hp, hs, hpart, hfile, he, rfl⟩

private theorem gains_openBox {kind : BoxKind} {f : BoxFields} (h : r.openBox kind f = .ok r') :
    Gains r r' (r.part? (.openBox kind f)).toList [] := by
  rcases openBox_cases h with ⟨-, hpart, rfl⟩ | ⟨p, head, hp, hpart, rfl⟩ <;> rw [hpart]
  · exact .refl r'
  · refine ⟨parts_of_page hp rfl (by split <;> rfl) ?_, ?_, ?_⟩
    · simp only [OpenPage.parts, OpenPage.openParts, List.append_assoc]
      exact (List.perm_append_singleton _ _).symm.append_left _
    · split <;> exact .of_eq (List.append_nil _).symm
    · cases kind <;> simp [Part.block, Block.isHorizontal, (shows_part hpart).1, Document.addHorizontal]

private theorem gains_element {f : ElementFields} (h : r.addElement f = .ok r') :
    Gains r r' (r.part? (.element f)).toList [] := by
  rcases addElement_cases h with ⟨-, hpart, rfl⟩ | ⟨p, box, stack, path, e, hp, hs, hpart, -, -, rfl⟩ <;>
    rw [hpart]
  · exact .refl r'
  · refine ⟨parts_of_page hp rfl (by split <;> rfl) ?_, ?_, ?_⟩
    · have hbox := box.parts_addElement e
      simp only [OpenPage.parts, OpenPage.openParts, hs, List.flatMap_cons, Option.toList_some]
      simp only [← Multiset.coe_eq_coe, ← Multiset.coe_add] at hbox ⊢
      rw [hbox]
      abel
    · split <;> exact Document.indexed_record r.document path e
    · split <;> rename_i hsymbol <;>
        simp [Part.block, Block.isHorizontal, (shows_part hpart).1, hsymbol, Document.addHorizontal,
          Document.record]

/-- One record adds what it adds to every view, and takes from the tree what it drops. -/
theorem gains_step {record : Record} (h : r.step record = .ok r') :
    Gains r r' (r.part? record).toList (r.dropped record) := by
  cases record with
  | input number path =>
    obtain ⟨n, -, h⟩ := bind_ok h
    cases h
    exact .of_moved (.of_eq (List.append_nil _)) rfl rfl
  | offset axis value =>
    obtain ⟨v, -, h⟩ := bind_ok h
    obtain ⟨x, y, rfl⟩ := eq_of_setOffset h
    exact .of_moved (.of_eq (List.append_nil _)) rfl rfl
  | openPage number =>
    obtain ⟨n, -, h⟩ := bind_ok h
    cases h
    refine .of_moved (.of_eq ?_) rfl rfl
    rw [parts, parts, dropped, List.append_assoc]
    rfl
  | closePage number => exact gains_closePage h
  | openBox kind f => exact gains_openBox h
  | closeBox =>
    cases h
    exact gains_closeBox r
  | element f => exact gains_element h

/-- Over a whole run nothing else comes into the views, and nothing else goes out of the tree. -/
theorem gains_run {records : List Record} (h : run records r = .ok r') :
    Gains r r' (met records r) (droppedBy records r) := by
  induction records generalizing r with
  | nil =>
    cases h
    exact .refl r'
  | cons record rest ih =>
    obtain ⟨r₁, hstep, h⟩ := bind_ok h
    rw [met, droppedBy, hstep]
    exact (gains_step hstep).trans (ih h)

end Reading
end TypesetTrace.Sync
