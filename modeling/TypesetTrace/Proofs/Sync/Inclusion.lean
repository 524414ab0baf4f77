import TypesetTrace.Proofs.Number.Scalar
import TypesetTrace.Sync.Rectangle

/-! Rectangles inside each other, and how far points are from their middles. Lying inside is transitive, and
of two rectangles inside each other no edge differs. Where numbers are exact these are the same, so that lying
inside is a partial order, and only the middle is no distance away from itself. -/
namespace TypesetTrace.Scalar.Exact
variable {K : Type} [Scalar K] (exact : Exact K)
include exact

theorem le_refl (a : K) : a ≤ a := exact.le_iff.mpr le_rfl

theorem le_antisymm {a b : K} (h : a ≤ b) (h' : b ≤ a) : a = b :=
  exact.value_injective ((exact.le_iff.mp h).antisymm (exact.le_iff.mp h'))

theorem not_le_of_lt {a b : K} (h : a < b) : ¬ b ≤ a := fun h' =>
  ((exact.lt_iff.mp h).trans_le (exact.le_iff.mp h')).false

theorem add_sub_cancel (a b : K) : a + b - b = a := by
  apply exact.value_injective
  rw [exact.value_sub, exact.value_add, add_sub_cancel_right]

end TypesetTrace.Scalar.Exact

namespace TypesetTrace.Sync.Rectangle
variable {K : Type} [Scalar K] {r s t : Rectangle K}

theorem includes_iff : r.includes s ↔
    r.left ≤ s.left ∧ s.right ≤ r.right ∧ s.bottom ≤ r.bottom ∧ r.top ≤ s.top := by
  simp only [includes, Bool.and_eq_true, decide_eq_true_eq, and_assoc]

/-- The other rectangle lies inside, and is not the same. -/
def Surrounds (r s : Rectangle K) : Prop := r.includes s ∧ r ≠ s

/-- Neither rectangle has an edge that the other one has elsewhere. Two zeros of different sign are one
place. -/
def Coincides (r s : Rectangle K) : Prop :=
  (r.left ≤ s.left ∧ s.left ≤ r.left) ∧ (r.right ≤ s.right ∧ s.right ≤ r.right) ∧
    (r.bottom ≤ s.bottom ∧ s.bottom ≤ r.bottom) ∧ r.top ≤ s.top ∧ s.top ≤ r.top

instance : Decidable (r.Coincides s) := inferInstanceAs (Decidable (_ ∧ _))

theorem coincides_of_includes (h : r.includes s) (h' : s.includes r) : r.Coincides s := by
  obtain ⟨hleft, hright, hbottom, htop⟩ := includes_iff.mp h
  obtain ⟨hleft', hright', hbottom', htop'⟩ := includes_iff.mp h'
  exact ⟨⟨hleft, hleft'⟩, ⟨hright', hright⟩, ⟨hbottom', hbottom⟩, htop, htop'⟩

section
variable [Scalar.IsOrdered K]

theorem includes_trans (h : r.includes s) (h' : s.includes t) : r.includes t := by
  obtain ⟨hleft, hright, hbottom, htop⟩ := includes_iff.mp h
  obtain ⟨hleft', hright', hbottom', htop'⟩ := includes_iff.mp h'
  exact includes_iff.mpr ⟨Scalar.IsOrdered.le_trans hleft hleft', Scalar.IsOrdered.le_trans hright' hright,
    Scalar.IsOrdered.le_trans hbottom' hbottom, Scalar.IsOrdered.le_trans htop htop'⟩

/-- What lies inside anything lies inside itself. -/
theorem includes_self (h : r.includes s) : s.includes s := by
  obtain ⟨hleft, hright, hbottom, htop⟩ := includes_iff.mp h
  exact includes_iff.mpr ⟨(Scalar.IsOrdered.le_self_of_le hleft).2, (Scalar.IsOrdered.le_self_of_le hright).1,
    (Scalar.IsOrdered.le_self_of_le hbottom).1, (Scalar.IsOrdered.le_self_of_le htop).2⟩

end

/-- The middle, as its distance from the left and from the top of the page. -/
def centre (r : Rectangle K) : K × K :=
  (Scalar.half (r.left + r.right), Scalar.half (r.bottom + r.top))

section
variable (exact : Scalar.Exact K)
include exact

theorem includes_refl (r : Rectangle K) : r.includes r :=
  includes_iff.mpr ⟨exact.le_refl _, exact.le_refl _, exact.le_refl _, exact.le_refl _⟩

theorem Coincides.eq (h : r.Coincides s) : r = s := by
  obtain ⟨⟨hleft, hleft'⟩, ⟨hright, hright'⟩, ⟨hbottom, hbottom'⟩, htop, htop'⟩ := h
  cases r
  cases s
  rw [mk.injEq]
  exact ⟨exact.le_antisymm htop htop', exact.le_antisymm hbottom hbottom',
    exact.le_antisymm hleft hleft', exact.le_antisymm hright hright'⟩

/-- What lies inside a rectangle does not surround it. -/
theorem not_surrounds_of_includes (h : r.includes s) : ¬ s.Surrounds r :=
  fun ⟨h', hne⟩ => hne ((coincides_of_includes h' h).eq exact)

theorem value_distance (r : Rectangle K) (x y : K) : exact.value (r.distanceFromCentre x y) =
    √((exact.value r.centre.1 - exact.value x) ^ 2 + (exact.value r.centre.2 - exact.value y) ^ 2) := by
  rw [distanceFromCentre, exact.value_hypot, exact.value_sub, exact.value_sub, centre]

theorem distance_centre (r : Rectangle K) : r.distanceFromCentre r.centre.1 r.centre.2 = 0 := by
  apply exact.value_injective
  rw [value_distance exact, exact.value_zero, sub_self, sub_self]
  norm_num

theorem not_distance_lt_zero (r : Rectangle K) (x y : K) : ¬ r.distanceFromCentre x y < 0 := by
  rw [exact.lt_iff, value_distance exact, exact.value_zero, not_lt]
  exact Real.sqrt_nonneg _

theorem distance_pos {x y : K} (h : r.centre ≠ (x, y)) : 0 < r.distanceFromCentre x y := by
  rw [exact.lt_iff, value_distance exact, exact.value_zero, Real.sqrt_pos]
  by_cases hx : exact.value r.centre.1 = exact.value x
  · have hy : exact.value r.centre.2 ≠ exact.value y := fun hy =>
      h (Prod.ext (exact.value_injective hx) (exact.value_injective hy))
    have := sub_ne_zero.mpr hy
    positivity
  · have := sub_ne_zero.mpr hx
    positivity

end
end TypesetTrace.Sync.Rectangle
