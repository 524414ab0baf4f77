import TypesetTrace.Navigation.Origin
import TypesetTrace.Proofs.Sync.Inclusion

/-! The scan for the block under a point. A step compares a block with the best one alone. So the best
rectangle only shrinks as long as no block takes over for its distance alone, and blocks that were given
up before such a step may lie inside the block that is found. -/
namespace TypesetTrace.Navigation
open Sync
variable {K : Type} [Scalar K]

def rectOf (c : Text × Int × Block K) : Rectangle K := .ofBlock c.2.2

def Best.of (x y : K) (c : Text × Int × Block K) : Best K :=
  ⟨c.1, c.2.1, (rectOf c).distanceFromCentre x y, rectOf c⟩

def scan (x y : K) (candidates : List (Text × Int × Block K)) : Best K :=
  candidates.foldl (Best.consider x y) Best.none

theorem scan_append (x y : K) (before after : List (Text × Int × Block K)) :
    scan x y (before ++ after) = after.foldl (Best.consider x y) (scan x y before) :=
  List.foldl_append

namespace Best

/-- The block is nearer to the point than the best one, and neither lies inside the other. -/
def IsOutrunBy (x y : K) (best : Best K) (c : Text × Int × Block K) : Prop :=
  ¬ best.rect.includes (rectOf c) ∧ (rectOf c).distanceFromCentre x y < best.distance ∧
    ¬ (rectOf c).includes best.rect

/-- While these blocks are met, none takes over for its distance alone. -/
def IsNeverOutrun (x y : K) : Best K → List (Text × Int × Block K) → Prop
  | _, [] => True
  | best, c :: rest => ¬ best.IsOutrunBy x y c ∧ (best.consider x y c).IsNeverOutrun x y rest

theorem consider_eq (x y : K) (best : Best K) (c : Text × Int × Block K) :
    best.consider x y c = if best.rect.includes (rectOf c) ∨
      ((rectOf c).distanceFromCentre x y < best.distance ∧ ¬ (rectOf c).includes best.rect) then
        Best.of x y c else best := by
  simp only [consider, Best.of, rectOf, Bool.or_eq_true, Bool.and_eq_true, decide_eq_true_eq,
    Bool.not_eq_true', Bool.not_eq_true]

/-- A block takes over from one that it lies inside, or for its distance alone. -/
theorem consider_cases (x y : K) (best : Best K) (c : Text × Int × Block K) :
    (best.rect.includes (rectOf c) ∧ best.consider x y c = Best.of x y c) ∨
      (best.IsOutrunBy x y c ∧ best.consider x y c = Best.of x y c) ∨
      (¬ best.rect.includes (rectOf c) ∧ ¬ best.IsOutrunBy x y c ∧ best.consider x y c = best) := by
  rw [consider_eq]
  by_cases hwithin : best.rect.includes (rectOf c)
  · exact .inl ⟨hwithin, if_pos (.inl hwithin)⟩
  · by_cases hnear : (rectOf c).distanceFromCentre x y < best.distance ∧ ¬ (rectOf c).includes best.rect
    · exact .inr (.inl ⟨⟨hwithin, hnear⟩, if_pos (.inr hnear)⟩)
    · exact .inr (.inr ⟨hwithin, fun h => hnear h.2, if_neg (not_or.mpr ⟨hwithin, hnear⟩)⟩)

/-- A scan ends with the best block before it, or with one that was met. -/
theorem foldl_consider_eq (x y : K) (candidates : List (Text × Int × Block K)) (best : Best K) :
    candidates.foldl (consider x y) best = best ∨
      ∃ c ∈ candidates, candidates.foldl (consider x y) best = Best.of x y c := by
  induction candidates generalizing best with
  | nil => exact .inl rfl
  | cons c candidates ih =>
    rw [List.foldl_cons]
    rcases ih (best.consider x y c) with h | ⟨c', hc', h⟩
    · rw [h, consider_eq]
      split
      · exact .inr ⟨c, List.mem_cons_self, rfl⟩
      · exact .inl rfl
    · exact .inr ⟨c', List.mem_cons_of_mem c hc', h⟩

section
variable {x y : K} {best : Best K} {c : Text × Int × Block K} {candidates : List (Text × Int × Block K)}

/-- Where the best block is outrun there is a last block that outruns it. -/
theorem exists_last_turn (h : ¬ best.IsNeverOutrun x y candidates) :
    ∃ before turn after, candidates = before ++ turn :: after ∧
      (before.foldl (consider x y) best).IsOutrunBy x y turn ∧
      ((before ++ [turn]).foldl (consider x y) best).IsNeverOutrun x y after := by
  induction candidates generalizing best with
  | nil => exact absurd trivial h
  | cons c rest ih =>
    by_cases hrest : (best.consider x y c).IsNeverOutrun x y rest
    · have hturn : best.IsOutrunBy x y c := by
        by_contra hturn
        exact h ⟨hturn, hrest⟩
      exact ⟨[], c, rest, rfl, hturn, hrest⟩
    · obtain ⟨before, turn, after, rfl, hturn, hafter⟩ := ih hrest
      exact ⟨c :: before, turn, after, rfl, hturn, hafter⟩

/-- Blocks any two of which lie inside each other are searched to the innermost one. -/
theorem foldl_consider_of_nested [Scalar.IsOrdered K] (x y : K)
    (hnested : ∀ a ∈ c :: candidates, ∀ b ∈ c :: candidates,
      (rectOf a).includes (rectOf b) ∨ (rectOf b).includes (rectOf a)) :
    ∃ inner ∈ c :: candidates, (∀ a ∈ c :: candidates, (rectOf a).includes (rectOf inner)) ∧
      candidates.foldl (consider x y) (Best.of x y c) = Best.of x y inner := by
  induction candidates generalizing c with
  | nil =>
    have hself : (rectOf c).includes (rectOf c) := or_self_iff.mp (hnested c (by simp) c (by simp))
    exact ⟨c, List.mem_cons_self, List.forall_mem_singleton.mpr hself, rfl⟩
  | cons c' rest ih =>
    rw [List.foldl_cons]
    rcases consider_cases x y (Best.of x y c) c' with ⟨hwithin, hstep⟩ | ⟨⟨hout, -, hout'⟩, -⟩ |
      ⟨hout, -, hstep⟩
    · obtain ⟨inner, hmem, hinner, hfold⟩ := ih fun a ha b hb =>
        hnested a (List.mem_cons_of_mem c ha) b (List.mem_cons_of_mem c hb)
      rw [hstep, hfold]
      refine ⟨inner, List.mem_cons_of_mem c hmem, List.forall_mem_cons.mpr ⟨?_, hinner⟩, rfl⟩
      exact Rectangle.includes_trans hwithin (hinner c' List.mem_cons_self)
    · rcases hnested c (by simp) c' (by simp) with h | h
      · exact absurd h hout
      · exact absurd h hout'
    · have hwithin : (rectOf c').includes (rectOf c) :=
        (hnested c (by simp) c' (by simp)).resolve_left hout
      have hsub : (c :: rest) ⊆ c :: c' :: rest := by simp
      obtain ⟨inner, hmem, hinner, hfold⟩ := ih fun a ha b hb => hnested a (hsub ha) b (hsub hb)
      rw [hstep, hfold]
      refine ⟨inner, hsub hmem, List.forall_mem_cons.mpr ⟨hinner c List.mem_cons_self,
        List.forall_mem_cons.mpr ⟨?_, fun a ha => hinner a (List.mem_cons_of_mem c ha)⟩⟩, rfl⟩
      exact Rectangle.includes_trans hwithin (hinner c List.mem_cons_self)

variable (exact : Scalar.Exact K)
include exact

/-- What lies inside the best rectangle after a step surrounds neither of the two that were compared. -/
theorem not_surrounds_of_step {r : Rectangle K} (h : (best.consider x y c).rect.includes r) :
    ¬ r.Surrounds best.rect ∧ ¬ r.Surrounds (rectOf c) := by
  have := exact.isOrdered
  rcases consider_cases x y best c with ⟨hwithin, hstep⟩ | ⟨⟨-, -, houtside⟩, hstep⟩ |
    ⟨houtside, -, hstep⟩ <;> rw [hstep] at h
  · exact ⟨Rectangle.not_surrounds_of_includes exact (Rectangle.includes_trans hwithin h),
      Rectangle.not_surrounds_of_includes exact h⟩
  · exact ⟨fun hr => houtside (Rectangle.includes_trans h hr.1),
      Rectangle.not_surrounds_of_includes exact h⟩
  · exact ⟨Rectangle.not_surrounds_of_includes exact h,
      fun hr => houtside (Rectangle.includes_trans h hr.1)⟩

theorem includes_of_isNeverOutrun (h : best.IsNeverOutrun x y candidates) :
    best.rect.includes (candidates.foldl (consider x y) best).rect := by
  have := exact.isOrdered
  induction candidates generalizing best with
  | nil => exact Rectangle.includes_refl exact _
  | cons c rest ih =>
    obtain ⟨hc, hrest⟩ := h
    have hshrunk := ih hrest
    rw [List.foldl_cons]
    rcases consider_cases x y best c with ⟨hwithin, hstep⟩ | ⟨hturn, -⟩ | ⟨-, -, hstep⟩
    · rw [hstep] at hshrunk ⊢
      exact Rectangle.includes_trans hwithin hshrunk
    · exact absurd hturn hc
    · rwa [hstep] at hshrunk ⊢

/-- None of the blocks met since lies strictly inside the block that is found. -/
theorem not_surrounds_of_isNeverOutrun (h : best.IsNeverOutrun x y candidates) (hc : c ∈ candidates) :
    ¬ (candidates.foldl (consider x y) best).rect.Surrounds (rectOf c) := by
  induction candidates generalizing best with
  | nil => cases hc
  | cons c' rest ih =>
    rcases List.mem_cons.mp hc with rfl | hc
    · exact (not_surrounds_of_step exact (includes_of_isNeverOutrun exact h.2)).2
    · exact ih h.2 hc

end
end Best
end TypesetTrace.Navigation
