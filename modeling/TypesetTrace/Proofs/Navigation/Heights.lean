import Mathlib.Tactic.Linarith
import TypesetTrace.Proofs.Navigation.Between
import TypesetTrace.Proofs.Number.Scalar

/-! The heights of the lines from one recorded line to the next. If the earlier one has the smaller height
they lie on the straight line through both and rise with the lines; otherwise all of them are the height of
the later one. The later line itself, whose height is looked up and not computed, is the last of them. -/
namespace TypesetTrace.Navigation
open Sync
variable {K : Type}

/-- How far a line is on the way from one line to another. -/
noncomputable def portion (before next line : Int) : ℝ :=
  ((line - before : Int) : ℝ) / ((next - before : Int) : ℝ)

section
variable {before next line : Int}

theorem portion_pos (h : before < line) (hnext : line ≤ next) : 0 < portion before next line :=
  div_pos (Int.cast_pos.mpr (by omega)) (Int.cast_pos.mpr (by omega))

theorem portion_next (h : before < next) : portion before next next = 1 :=
  div_self (Int.cast_ne_zero.mpr (by omega))

theorem portion_strictMono (h : before < next) : StrictMono (portion before next) := by
  intro l m hlt
  have hwhole : (0 : ℝ) < (next - before : Int) := Int.cast_pos.mpr (by omega)
  exact div_lt_div_of_pos_right (Int.cast_lt.mpr (by omega)) hwhole

theorem portion_lt_one (h : before < next) (hnext : line < next) : portion before next line < 1 :=
  portion_next h ▸ portion_strictMono h hnext

end

variable [Scalar K] [Scalar.HasProportions K] {d : Document K} {lines : Lines K}
  {before next line : Int} {above below : Block K}

/-- Up to the later line there is a position, on its page and at its left edge. -/
theorem positionOn_upTo (h : AreNeighbours lines before next) (ha : target? lines before = some above)
    (hb : target? lines next = some below) (hline : line ∈ Set.Ioc before next) :
    ∃ p, positionOn d lines line = .ok (some p) ∧ p.page = below.page ∧
      p.x = below.left + d.offsetX ∧
      (¬ above.bottom < below.bottom → p.y = below.bottom + d.offsetY) ∧
      (above.bottom < below.bottom → ∀ exact : Scalar.Exact K, exact.value p.y =
        exact.value above.bottom + (exact.value below.bottom - exact.value above.bottom) *
          portion before next line + exact.value d.offsetY) := by
  obtain ⟨hbefore, hnext⟩ := hline
  rcases hnext.lt_or_eq with hlt | rfl
  · obtain ⟨t, ht⟩ := Scalar.ratio_of_lt (K := K) (Int.sub_pos_of_lt hbefore)
      (Int.sub_lt_sub_right hlt before)
    rw [positionOn_between d h hbefore hlt ha hb, ht]
    by_cases hrises : above.bottom < below.bottom
    · rw [if_pos hrises]
      refine ⟨_, rfl, rfl, rfl, fun hflat => absurd hrises hflat, fun _ exact => ?_⟩
      rw [exact.value_add, exact.value_add, exact.value_mul, exact.value_sub,
        exact.value_ratio (by omega) ht]
      rfl
    · rw [if_neg hrises]
      exact ⟨_, rfl, rfl, rfl, fun _ => rfl, fun h => absurd h hrises⟩
  · rw [positionOn_of_mem d h.next_mem, hb]
    refine ⟨_, rfl, rfl, rfl, fun _ => rfl, fun _ exact => ?_⟩
    rw [portion_next h.lt, mul_one, add_sub_cancel]
    exact exact.value_add _ _

/-- From a recorded line to the next one every line has a position, on the page and at the left edge of the
later one; no ratio of lines fails to be formed. If the earlier line has the smaller height, the heights lie
on the straight line through both, strictly between them until the later line is reached, and rise strictly
with the lines. Otherwise they are all the height of the later line. -/
theorem Navigator.forward_straight (nav : Navigator) (fs : Files) (source : Text) (slot : Slot K)
    (hd : (nav.load fs source slot).result = .ok (some d)) (hl : linesOf? fs.working source d = some lines)
    (h : AreNeighbours lines before next) (ha : target? lines before = some above)
    (hb : target? lines next = some below) :
    ∃ p : Int → Position K,
      (∀ line ∈ Set.Ioc before next,
        (nav.forward fs source line slot).result = .ok (some (p line)) ∧
          (p line).page = below.page ∧ (p line).x = below.left + d.offsetX) ∧
      (¬ above.bottom < below.bottom →
        ∀ line ∈ Set.Ioc before next, (p line).y = below.bottom + d.offsetY) ∧
      (above.bottom < below.bottom → ∀ exact : Scalar.Exact K,
        (∀ line ∈ Set.Ioc before next, exact.value (p line).y - exact.value d.offsetY =
          exact.value above.bottom + (exact.value below.bottom - exact.value above.bottom) *
            portion before next line) ∧
        (∀ line ∈ Set.Ioo before next, exact.value (p line).y - exact.value d.offsetY ∈
          Set.Ioo (exact.value above.bottom) (exact.value below.bottom)) ∧
        StrictMonoOn (fun line => exact.value (p line).y) (Set.Ioc before next)) := by
  have hforward (line : Int) : (nav.forward fs source line slot).result = positionOn d lines line := by
    rw [forward_of_load hd, position, hl]
  have : Nonempty (Position K) := ⟨positionOf d below⟩
  choose! p hp hpage hx hflat hrising using fun line (hline : line ∈ Set.Ioc before next) =>
    positionOn_upTo (d := d) h ha hb hline
  refine ⟨p, fun line hline => ⟨?_, hpage line hline, hx line hline⟩, fun hle line hline =>
    hflat line hline hle, fun hlt exact => ?_⟩
  · rw [hforward, hp line hline]
  have hrise : 0 < exact.value below.bottom - exact.value above.bottom :=
    sub_pos.mpr (exact.lt_iff.mp hlt)
  have hheight (line : Int) (hline : line ∈ Set.Ioc before next) :
      exact.value (p line).y - exact.value d.offsetY =
        exact.value above.bottom + (exact.value below.bottom - exact.value above.bottom) *
          portion before next line :=
    sub_eq_of_eq_add (hrising line hline hlt exact)
  refine ⟨hheight, fun line hline => ?_, fun l hl m hm hless => ?_⟩
  · have hpart := mul_lt_of_lt_one_right hrise (portion_lt_one h.lt hline.2)
    rw [hheight line ⟨hline.1, hline.2.le⟩]
    exact ⟨lt_add_of_pos_right _ (mul_pos hrise (portion_pos hline.1 hline.2.le)), by linarith⟩
  · have hpart := mul_lt_mul_of_pos_left (portion_strictMono h.lt hless) hrise
    have hl := hheight l hl
    have hm := hheight m hm
    show exact.value (p l).y < exact.value (p m).y
    linarith

/-- Also where a page ends between two lines. -/
theorem pageBreak_straight : ∃ p : Int → Position ℝ,
    (∀ line ∈ Set.Ioc 10 20,
      (({} : Navigator).forward pageBreakFiles "/a.tex".toList line (none : Slot ℝ)).result =
        .ok (some (p line)) ∧ (p line).page = 2) ∧
      (p 15).y - coordinate 0 ∈ Set.Ioo (coordinate 6578176) (coordinate 13156352) ∧
      StrictMonoOn (fun line => (p line).y) (Set.Ioc 10 20) := by
  have hneighbours : AreNeighbours
      (((pageBreak.document : Document ℝ).index.get? "a.tex".toList).getD .empty) 10 20 := by
    constructor <;> decide
  obtain ⟨p, hp, -, hrising⟩ := Navigator.forward_straight {} pageBreakFiles "/a.tex".toList
    (none : Slot ℝ) (d := pageBreak.document) rfl rfl hneighbours rfl rfl
  have hheights : ((6578176 : Int) : ℝ) / 65781.76 < ((13156352 : Int) : ℝ) / 65781.76 := by norm_num
  obtain ⟨-, hbetween, hmono⟩ := hrising hheights Scalar.exactReal
  exact ⟨p, fun line hline => ⟨(hp line hline).1, (hp line hline).2.1⟩,
    hbetween 15 ⟨by decide, by decide⟩, hmono⟩

end TypesetTrace.Navigation
