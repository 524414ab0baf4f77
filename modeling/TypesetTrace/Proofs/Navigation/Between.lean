import TypesetTrace.Proofs.Navigation.Freshness
import TypesetTrace.Proofs.Navigation.Targets
import TypesetTrace.Proofs.Sync.Outline

/-! Positions of lines between two recorded ones. Page and left edge are those of the later line;
the height is taken from both lines as soon as the earlier one has the smaller height, also where a
page ends between them. -/
namespace TypesetTrace.Navigation
open Sync
variable {K : Type}

/-- Recorded lines with no other recorded line between them. -/
structure AreNeighbours (lines : Lines K) (before next : Int) : Prop where
  before_mem : before ∈ lines.keys
  next_mem : next ∈ lines.keys
  lt : before < next
  gap : ∀ l ∈ lines.keys, l ≤ before ∨ next ≤ l

section
variable {lines : Lines K} {before next line : Int}

theorem lineBefore?_eq_some (h : AreNeighbours lines before next) (hb : before < line)
    (hn : line ≤ next) : lineBefore? lines line = some before := by
  refine lineBefore?_eq_some_iff.mpr ⟨h.before_mem, hb, fun l hl hlt => ?_⟩
  rcases h.gap l hl with hle | hle
  · exact hle
  · omega

theorem lineFrom?_eq_some (h : AreNeighbours lines before next) (hb : before < line)
    (hn : line ≤ next) : lineFrom? lines line = some next := by
  refine lineFrom?_eq_some_iff.mpr ⟨h.next_mem, hn, fun l hl hle => ?_⟩
  rcases h.gap l hl with hlt | hle
  · omega
  · exact hle

end

variable [Scalar K]

theorem positionOn_between {lines : Lines K} {before next line : Int} {above below : Block K}
    (d : Document K) (h : AreNeighbours lines before next) (hb : before < line) (hn : line < next)
    (ha : target? lines before = some above) (ht : target? lines next = some below) :
    positionOn d lines line =
      if above.bottom < below.bottom then
        (Scalar.ratio (line - before) (next - before)).map fun t => some
          { positionOf d below with
            y := above.bottom + (below.bottom - above.bottom) * t + d.offsetY }
      else .ok (some (positionOf d below)) := by
  have hne : next ≠ line := by omega
  have hle := Int.le_of_lt hn
  rw [positionOn, lineFrom?_eq_some h hb hle, lineBefore?_eq_some h hb hle]
  simp only [if_neg hne, ht, ha, heightBetween]
  split
  · cases Scalar.ratio (K := K) (line - before) (next - before) <;> rfl
  · rfl

/-- Between neighbours the position is that of the later line, at a height between the two lines if
the earlier one has the smaller height, and unchanged otherwise. Nothing is said about pages: where
the neighbours stand on different ones, the heights of both enter all the same. -/
theorem Navigator.forward_between (nav : Navigator) (fs : Files) (source : Text) (slot : Slot K)
    {d : Document K} (hd : (nav.load fs source slot).result = .ok (some d)) {lines : Lines K}
    (hl : linesOf? fs.working source d = some lines) {before next line : Int}
    (h : AreNeighbours lines before next) (hb : before < line) (hn : line < next)
    {above below : Block K} (ha : target? lines before = some above)
    (ht : target? lines next = some below) :
    (nav.forward fs source line slot).result =
      if above.bottom < below.bottom then
        (Scalar.ratio (line - before) (next - before)).map fun t => some
          { positionOf d below with
            y := above.bottom + (below.bottom - above.bottom) * t + d.offsetY }
      else .ok (some (positionOf d below)) := by
  rw [← positionOn_between d h hb hn ha ht, forward, Access.bind, hd]
  show position fs.working source line d = _
  rw [position, hl]

/-- The first page ends behind line 10, and line 20 stands lower on the second page. -/
def pageBreak : Outline where
  version := ['1']
  files := ⟨[(1, "a.tex".toList)], by decide⟩
  offsetX := 0
  offsetY := 0
  pages := ⟨[
    (1, .box ⟨.vertical, 1, 10, 0, 0, 0, 0, 0⟩ (.element ⟨'x', 1, 10, 0, 6578176, none⟩ .nil) .nil),
    (2, .box ⟨.vertical, 1, 20, 0, 0, 0, 0, 0⟩ (.element ⟨'x', 1, 20, 0, 13156352, none⟩ .nil) .nil)],
    by decide⟩

/-- The page break as a file beside `/a.tex`. -/
def pageBreakFiles : Files :=
  ({} : Files).write "/a.sync".toList (.bytes (pageBreak.text.map fun c => UInt8.ofNat c.toNat))

def pageBreakLines : Lines Float :=
  ((pageBreak.document : Document Float).index.get? "a.tex".toList).getD .empty

/-- The element of a line of the page break. -/
def pageBreakElement (line : Nat) (page : Nat) (bottom : Int) : Block Float :=
  let box : Block Float := BoxOutline.block ⟨.vertical, 1, line, 0, 0, 0, 0, 0⟩ pageBreak.files page none
  { role := .element ['x'], fileNumber := 1, file := some "a.tex".toList, line, left := coordinate 0
    bottom := coordinate bottom, height := box.height, page, enclosing := some box }

private theorem pageBreak_loaded :
    (({} : Navigator).load pageBreakFiles "/a.tex".toList (none : Slot Float)).result =
      .ok (some pageBreak.document) :=
  rfl

private theorem pageBreak_neighbours : AreNeighbours pageBreakLines 10 20 := by
  constructor <;> decide

private theorem pageBreak_targets :
    target? pageBreakLines 10 = some (pageBreakElement 10 1 6578176) ∧
      target? pageBreakLines 20 = some (pageBreakElement 20 2 13156352) :=
  ⟨rfl, rfl⟩

/-- Line 15 stands at 150 on the second page, between 100 on the first and 200 on the second. -/
theorem pageBreak_mixed :
    ¬ ∀ (nav : Navigator) (fs : Files) (source : Text) (slot : Slot Float) (d : Document Float)
      (lines : Lines Float) (before next line : Int) (above below : Block Float),
      (nav.load fs source slot).result = .ok (some d) → linesOf? fs.working source d = some lines →
        AreNeighbours lines before next → before < line → line < next →
          target? lines before = some above → target? lines next = some below →
            above.page ≠ below.page →
              (nav.forward fs source line slot).result = .ok (some (positionOf d below)) := by
  intro h
  have hunchanged := h {} pageBreakFiles "/a.tex".toList none pageBreak.document pageBreakLines
    10 20 15 _ _ pageBreak_loaded rfl pageBreak_neighbours (by decide) (by decide)
    pageBreak_targets.1 pageBreak_targets.2 (by decide)
  have hlow := congrArg (fun r => r.toOption.join.any fun p => decide (p.y < 160.0)) hunchanged
  exact absurd hlow (by decide +kernel)

theorem forward_pageBreak :
    AreNeighbours pageBreakLines 10 20 ∧
      (({} : Navigator).forward pageBreakFiles "/a.tex".toList 15 (none : Slot Float)).result =
        .ok (some ⟨2, coordinate 0 + coordinate 0,
          coordinate 6578176 + (coordinate 13156352 - coordinate 6578176) * 0.5 + coordinate 0⟩) := by
  have hheights : (pageBreakElement 10 1 6578176).bottom < (pageBreakElement 20 2 13156352).bottom := by
    decide +kernel
  have hratio : (Scalar.ratio (15 - 10) (20 - 10) : Except Fault Float) = .ok 0.5 := by rfl
  have h := Navigator.forward_between {} pageBreakFiles "/a.tex".toList none pageBreak_loaded rfl
    pageBreak_neighbours (by decide : 10 < (15 : Int)) (by decide) pageBreak_targets.1
    pageBreak_targets.2
  rw [if_pos hheights, hratio] at h
  exact ⟨pageBreak_neighbours, h⟩

end TypesetTrace.Navigation
