import Mathlib
import TypesetTrace.Proofs.Sync.Inclusion

/-! The box around the blocks of a list. Three of its edges lie at or beyond those of every eligible block.
The right edge starts at zero and is moved by blocks with a width alone, so that a block without one can stick
out to the right of the box. -/
namespace TypesetTrace.Scalar.Exact
variable {K : Type} [Scalar K] (exact : Exact K)
include exact

theorem le_larger_iff {a b c : K} : a ≤ larger b c ↔ a ≤ b ∨ a ≤ c := by
  simp only [larger, exact.le_iff, exact.lt_iff]
  split
  · rename_i hlt
    rw [or_iff_right_of_imp fun h => h.trans hlt.le]
  · rename_i hge
    rw [or_iff_left_of_imp fun h => h.trans (not_lt.mp hge)]

theorem smaller_le_iff {a b c : K} : smaller b c ≤ a ↔ b ≤ a ∨ c ≤ a := by
  simp only [smaller, exact.le_iff, exact.lt_iff]
  split
  · rename_i hlt
    rw [or_iff_right_of_imp fun h => hlt.le.trans h]
  · rename_i hge
    rw [or_iff_left_of_imp fun h => (not_lt.mp hge).trans h]

end TypesetTrace.Scalar.Exact

namespace TypesetTrace.Sync.Rectangle
variable {K : Type} [Scalar K] {r : Rectangle K} {b : Block K} {bs : List (Block K)} {a : K}

/-- What is true of a widened box exactly if it was before, or if the block makes it so, is true of the box
around a list exactly if it was at the start, or if one of the eligible blocks makes it so. -/
theorem foldl_widen_iff {P : Rectangle K → Prop} {Q : Block K → Prop}
    (hstep : ∀ r b, b.isEligible → (P (r.widen b) ↔ P r ∨ Q b)) (bs : List (Block K)) (r : Rectangle K) :
    P (bs.foldl widen r) ↔ P r ∨ ∃ b ∈ bs, b.isEligible ∧ Q b := by
  induction bs generalizing r with
  | nil => simp
  | cons b bs ih =>
    have hfirst : P (r.widen b) ↔ P r ∨ b.isEligible ∧ Q b := by
      by_cases he : b.isEligible
      · rw [hstep r b he, and_iff_right he]
      · rw [widen, if_neg he]
        exact (or_iff_left fun h => he h.1).symm
    rw [List.foldl_cons, ih, hfirst, or_assoc]
    simp only [List.mem_cons, or_and_right, exists_or, exists_eq_left]

section
variable (exact : Scalar.Exact K)
include exact

theorem le_right_ofBlocks_iff : a ≤ (ofBlocks bs).right ↔
    a ≤ 0 ∨ ∃ b ∈ bs, b.isEligible ∧ ∃ width ∈ b.width, a ≤ b.left + width := by
  refine foldl_widen_iff (P := fun r => a ≤ r.right) (fun r b he => ?_) bs inverted
  rw [widen, if_pos he]
  cases hwidth : b.width with
  | none => simp
  | some width => simp [exact.le_larger_iff, or_comm]

theorem le_bottom_ofBlocks_iff : a ≤ (ofBlocks bs).bottom ↔
    a ≤ 0 ∨ ∃ b ∈ bs, b.isEligible ∧ a ≤ b.bottom := by
  refine foldl_widen_iff (P := fun r => a ≤ r.bottom) (fun r b he => ?_) bs inverted
  rw [widen, if_pos he, exact.le_larger_iff, or_comm]

theorem left_ofBlocks_le_iff : (ofBlocks bs).left ≤ a ↔
    Scalar.far ≤ a ∨ ∃ b ∈ bs, b.isEligible ∧ b.left ≤ a := by
  refine foldl_widen_iff (P := fun r => r.left ≤ a) (fun r b he => ?_) bs inverted
  rw [widen, if_pos he, exact.smaller_le_iff, or_comm]

theorem top_ofBlocks_le_iff : (ofBlocks bs).top ≤ a ↔
    Scalar.far ≤ a ∨ ∃ b ∈ bs, b.isEligible ∧ b.bottom - b.height ≤ a := by
  refine foldl_widen_iff (P := fun r => r.top ≤ a) (fun r b he => ?_) bs inverted
  rw [widen, if_pos he, exact.smaller_le_iff, or_comm]

/-- A width of zero counts as none, which makes no difference. -/
theorem rightEdge_of_width {width : K} (h : b.width = some width) : rightEdge b = b.left + width := by
  rw [rightEdge, h]
  dsimp only
  split
  · rename_i hzero
    apply exact.value_injective
    rw [exact.value_add, exact.isZero_iff.mp hzero, add_zero]
  · rfl

/-- The box around a list of blocks has every eligible one of them inside, whatever their order and
coordinates, except that one without a width can stand to the right of all that moves the right edge. -/
theorem ofBlocks_includes_iff (hb : b ∈ bs) (he : b.isEligible) : (ofBlocks bs).includes (ofBlock b) ↔
    (b.width = none → b.left ≤ 0 ∨ ∃ c ∈ bs, c.isEligible ∧ ∃ width ∈ c.width, b.left ≤ c.left + width) := by
  have hleft : (ofBlocks bs).left ≤ b.left :=
    (left_ofBlocks_le_iff exact).mpr (.inr ⟨b, hb, he, exact.le_refl _⟩)
  have hbottom : b.bottom ≤ (ofBlocks bs).bottom :=
    (le_bottom_ofBlocks_iff exact).mpr (.inr ⟨b, hb, he, exact.le_refl _⟩)
  have htop : (ofBlocks bs).top ≤ b.bottom - b.height :=
    (top_ofBlocks_le_iff exact).mpr (.inr ⟨b, hb, he, exact.le_refl _⟩)
  have hright : rightEdge b ≤ (ofBlocks bs).right ↔ (b.width = none →
      b.left ≤ 0 ∨ ∃ c ∈ bs, c.isEligible ∧ ∃ width ∈ c.width, b.left ≤ c.left + width) := by
    cases hwidth : b.width with
    | none =>
      have hedge : rightEdge b = b.left := by rw [rightEdge, hwidth]
      rw [hedge, le_right_ofBlocks_iff exact]
      exact (imp_iff_right rfl).symm
    | some width =>
      rw [rightEdge_of_width exact hwidth, le_right_ofBlocks_iff exact]
      exact iff_of_true (.inr ⟨b, hb, he, width, hwidth, exact.le_refl _⟩) nofun
  rw [includes_iff]
  constructor
  · rintro ⟨-, hinside, -, -⟩
    exact hright.mp hinside
  · intro h
    exact ⟨hleft, hright.mpr h, hbottom, htop⟩

end

/-- A block at the given place of the baseline at the top of a page. -/
noncomputable def onTopLine (left : ℝ) (width : Option ℝ) : Block ℝ :=
  { role := .element ['x'], line := 1, left, bottom := 0, height := 0, width, page := 1 }

theorem onTopLine_included : (ofBlocks [onTopLine 5 none, onTopLine 1 (some 9)]).includes
    (ofBlock (onTopLine 5 none)) := by
  refine (ofBlocks_includes_iff Scalar.exactReal List.mem_cons_self rfl).mpr fun _ => .inr ?_
  refine ⟨onTopLine 1 (some 9), List.mem_cons_of_mem _ (List.mem_singleton_self _), rfl, 9, rfl, ?_⟩
  show (5 : ℝ) ≤ 1 + 9
  norm_num

/-- A block without a width that stands alone is not inside the box around it. -/
theorem onTopLine_outside : ¬ ∀ bs : List (Block ℝ),
    (∀ b ∈ bs, ∀ k ∈ b.left :: b.bottom :: b.height :: b.width.toList,
      |k| < Scalar.far ∧ ∃ q : ℚ, (q : ℝ) = k) →
    ∀ b ∈ bs, b.isEligible → (ofBlocks bs).includes (ofBlock b) := by
  intro h
  have hinside := h [onTopLine 5 none] ?_ _ (List.mem_singleton_self _) rfl
  · have hright : (5 : ℝ) ≤ 0 := (includes_iff.mp hinside).2.1
    norm_num at hright
  · have hplain : ∀ k ∈ [(5 : ℝ), 0, 0], |k| < 2 * 10 ^ 16 ∧ ∃ q : ℚ, (q : ℝ) = k := by
      simp only [List.forall_mem_cons]
      exact ⟨⟨by norm_num, 5, by norm_num⟩, ⟨by norm_num, 0, by norm_num⟩, ⟨by norm_num, 0, by norm_num⟩, nofun⟩
    exact List.forall_mem_singleton.mpr hplain

end TypesetTrace.Sync.Rectangle
