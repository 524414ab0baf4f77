import TypesetTrace.Proofs.Alignment.Estimation
import TypesetTrace.Proofs.Navigation.Heights

/-! The anchors that an estimate is made from. In ascending anchors the two searches, which start at opposite
ends, meet at one anchor or at two that follow each other, so that no place outside of the anchors is asked
for and no ratio of equal lines is formed. -/
namespace TypesetTrace.Alignment
open Navigation
variable {K : Type}

abbrev AreAscending (anchors : List (Anchor K)) : Prop := anchors.Pairwise fun a b => a.line < b.line

/-- The line is that of an anchor, or lies before all of them, or behind all of them. -/
def IsAtOrOutside (anchors : List (Anchor K)) (line : Int) : Prop :=
  (∃ a ∈ anchors, a.line = line) ∨ (∀ a ∈ anchors, line < a.line) ∨ ∀ a ∈ anchors, a.line < line

/-- The anchors are cut where the line lies between two of them. -/
structure IsCutAt (front : List (Anchor K)) (a b : Anchor K) (back : List (Anchor K)) (line : Int) : Prop where
  front_le : ∀ c ∈ front ++ [a], c.line ≤ a.line
  lt : a.line < line
  gt : line < b.line
  le_back : ∀ c ∈ b :: back, b.line ≤ c.line

section
variable {anchors front back : List (Anchor K)} {a b : Anchor K} {line : Int}

theorem AreAscending.exists_split (h : AreAscending anchors) (line : Int) :
    ∃ front back, anchors = front ++ back ∧ (∀ c ∈ front, c.line ≤ line) ∧
      ∀ c ∈ back, line < c.line := by
  induction anchors with
  | nil => exact ⟨[], [], rfl, List.forall_mem_nil _, List.forall_mem_nil _⟩
  | cons a rest ih =>
    obtain ⟨hfirst, hrest⟩ := List.pairwise_cons.mp h
    by_cases hle : a.line ≤ line
    · obtain ⟨front, back, rfl, hfront, hback⟩ := ih hrest
      exact ⟨a :: front, back, rfl, List.forall_mem_cons.mpr ⟨hle, hfront⟩, hback⟩
    · have hlt : line < a.line := not_le.mp hle
      exact ⟨[], a :: rest, rfl, List.forall_mem_nil _,
        List.forall_mem_cons.mpr ⟨hlt, fun c hc => hlt.trans (hfirst c hc)⟩⟩

namespace IsCutAt

theorem front_lt (h : IsCutAt front a b back line) : ∀ c ∈ front ++ [a], c.line < line :=
  fun c hc => (h.front_le c hc).trans_lt h.lt

theorem lt_back (h : IsCutAt front a b back line) : ∀ c ∈ b :: back, line < c.line :=
  fun c hc => h.gt.trans_le (h.le_back c hc)

theorem not_isAtOrOutside (h : IsCutAt front a b back line) :
    ¬ IsAtOrOutside (front ++ [a] ++ b :: back) line := by
  rintro (⟨c, hc, hline⟩ | hbefore | hbehind)
  · rcases List.mem_append.mp hc with hc | hc
    · exact (h.front_lt c hc).ne hline
    · exact (h.lt_back c hc).ne' hline
  · exact lt_asymm h.lt (hbefore a (by simp))
  · exact lt_asymm h.gt (hbehind b (by simp))

/-- No anchor is nearer to the line than the nearer one of the two around it. -/
theorem nearest (h : IsCutAt front a b back line) :
    ∀ c ∈ front ++ [a] ++ b :: back,
      (line - (if line - a.line ≤ b.line - line then a else b).line).natAbs ≤ (line - c.line).natAbs := by
  obtain ⟨hfront, hlt, hgt, hback⟩ := h
  intro c hc
  have hside : c.line ≤ a.line ∨ b.line ≤ c.line :=
    (List.mem_append.mp hc).imp (hfront c) (hback c)
  split <;> omega

end IsCutAt

variable [Scalar K]

structure MeetAt (anchors : List (Anchor K)) (line : Int) (a : Anchor K) : Prop where
  place : IsAtOrOutside anchors line
  lower : anchors[lowerIndex anchors line]? = some a
  upper : upperIndex anchors line = lowerIndex anchors line
  estimate : estimate anchors line = .ok (.anchor a)

theorem AreAscending.meet_or_cut (h : AreAscending anchors) (hne : anchors ≠ []) (line : Int) :
    (∃ a, MeetAt anchors line a) ∨
      ∃ front a b back, anchors = front ++ [a] ++ b :: back ∧ IsCutAt front a b back line := by
  obtain ⟨front, back, rfl, hfront, hback⟩ := h.exists_split line
  rcases List.eq_nil_or_concat front with rfl | ⟨front, a, rfl⟩
  · rw [List.nil_append] at hne ⊢
    obtain ⟨b, back, rfl⟩ := List.exists_cons_of_ne_nil hne
    obtain ⟨hlower, hupper⟩ := indices_before hback
    exact .inl ⟨b, .inr (.inl hback), by rw [hlower]; rfl, by rw [hlower, hupper], estimate_before hback⟩
  rw [List.concat_eq_append] at h hfront ⊢
  obtain ⟨hbefore, hbehind, -⟩ := List.pairwise_append.mp h
  have hlast : ∀ c ∈ front, c.line < a.line := fun c hc =>
    (List.pairwise_append.mp hbefore).2.2 c hc a (List.mem_singleton_self a)
  have hle : ∀ c ∈ front ++ [a], c.line ≤ a.line := by
    intro c hc
    rcases List.mem_append.mp hc with hc | hc
    · exact (hlast c hc).le
    · rw [List.mem_singleton.mp hc]
  rcases (hfront a (by simp)).lt_or_eq with hlt | rfl
  · cases back with
    | nil =>
      have hall : ∀ c ∈ front ++ [a], c.line < line := fun c hc => (hle c hc).trans_lt hlt
      obtain ⟨hlower, hupper⟩ := indices_behind hall
      rw [List.append_nil]
      exact .inl ⟨a, .inr (.inr hall), by rw [hlower]; simp, by rw [hlower, hupper], estimate_behind hall⟩
    | cons b back =>
      have hnext : ∀ c ∈ b :: back, b.line ≤ c.line :=
        List.forall_mem_cons.mpr ⟨le_rfl, fun c hc => ((List.pairwise_cons.mp hbehind).1 c hc).le⟩
      exact .inr ⟨front, a, b, back, rfl, hle, hlt, hback b List.mem_cons_self, hnext⟩
  · obtain ⟨hlower, hupper⟩ := indices_at hlast hback
    rw [List.append_assoc, List.singleton_append]
    exact .inl ⟨a, .inl ⟨a, by simp, rfl⟩, by rw [hlower]; simp, by rw [hlower, hupper],
      estimate_at hlast hback⟩

/-- A height that is interpolated lies between the two that it is interpolated from. -/
theorem IsCutAt.height_mem (h : IsCutAt front a b back line) (exact : Scalar.Exact K) {t : K}
    (ht : Scalar.ratio (line - a.line) (b.line - a.line) = .ok t) :
    exact.value (a.y + t * (b.y - a.y)) ∈ Set.uIcc (exact.value a.y) (exact.value b.y) := by
  have hvalue : exact.value t = portion a.line b.line line :=
    exact.value_ratio (by have := h.lt; have := h.gt; omega) ht
  have hlt := h.lt.trans h.gt
  rw [exact.value_add, exact.value_mul, exact.value_sub, hvalue, ← segment_eq_uIcc]
  refine ⟨1 - portion a.line b.line line, portion a.line b.line line, ?_, ?_, sub_add_cancel _ _, ?_⟩
  · exact sub_nonneg.mpr (portion_lt_one hlt h.gt).le
  · exact (portion_pos h.lt h.gt.le).le
  · rw [smul_eq_mul, smul_eq_mul]
    ring

/-- In ascending anchors, of which there is at least one, every line is estimated. The searches end at one
anchor or at two that follow each other; at one exactly if the line is that of an anchor or outside of all of
them. Between anchors on different pages the line is taken to stand at the nearer one, which is as near as any,
and at the lower one if both are; between anchors on one page it is on that page, with exact numbers at a
height between theirs. -/
theorem AreAscending.estimated_from_neighbours [Scalar.HasProportions K] (h : AreAscending anchors)
    (hne : anchors ≠ []) (line : Int) :
    ∃ lower upper e, anchors[lowerIndex anchors line]? = some lower ∧
      anchors[upperIndex anchors line]? = some upper ∧ estimate anchors line = .ok e ∧
      lowerIndex anchors line ≤ upperIndex anchors line ∧
      upperIndex anchors line ≤ lowerIndex anchors line + 1 ∧
      (lowerIndex anchors line = upperIndex anchors line ↔ IsAtOrOutside anchors line) ∧
      (lower.page ≠ upper.page → ∃ a ∈ anchors, e = .anchor a ∧
        (∀ c ∈ anchors, (line - a.line).natAbs ≤ (line - c.line).natAbs) ∧
        ((line - lower.line).natAbs = (line - upper.line).natAbs → a = lower)) ∧
      (lower.page = upper.page → e.page = lower.page ∧ ∀ exact : Scalar.Exact K,
        exact.value e.y ∈ Set.uIcc (exact.value lower.y) (exact.value upper.y)) := by
  rcases h.meet_or_cut hne line with ⟨a, hmeet⟩ | ⟨front, a, b, back, rfl, hcut⟩
  · refine ⟨a, a, .anchor a, hmeet.lower, hmeet.upper ▸ hmeet.lower, hmeet.estimate, hmeet.upper.ge,
      by rw [hmeet.upper]; exact Nat.le_succ _, iff_of_true hmeet.upper.symm hmeet.place, fun hpage => ?_,
      fun _ => ⟨rfl, fun exact => Set.left_mem_uIcc⟩⟩
    exact absurd rfl hpage
  · obtain ⟨hlower, hupper⟩ := indices_between hcut.front_lt hcut.lt_back
    have hestimate := estimate_between hcut.front_lt hcut.lt_back
    have hlt := hcut.lt
    have hgt := hcut.gt
    obtain ⟨t, ht⟩ := Scalar.ratio_of_lt (K := K) (Int.sub_pos_of_lt hlt) (Int.sub_lt_sub_right hgt a.line)
    rw [hlower, hupper, hestimate, ht]
    refine ⟨a, b, if a.page = b.page then .between a.page (a.y + t * (b.y - a.y)) else
      .anchor (if line - a.line ≤ b.line - line then a else b), by simp, ?_, ?_, Nat.le_succ _, le_rfl,
      iff_of_false (Nat.lt_succ_self _).ne hcut.not_isAtOrOutside, fun hpage => ?_, fun hpage => ?_⟩
    · rw [List.getElem?_append_right (by simp)]
      simp
    · split <;> rfl
    · rw [if_neg hpage]
      refine ⟨_, ?_, rfl, hcut.nearest, fun htie => if_pos (by omega)⟩
      split <;> simp
    · rw [if_pos hpage]
      exact ⟨rfl, fun exact => hcut.height_mem exact ht⟩

end

def threeAnchors : List (Anchor ℝ) := [⟨10, 1, 100⟩, ⟨20, 1, 200⟩, ⟨30, 2, 50⟩]

/-- Line 15 stands between the first two heights, and line 25, which is as near to both pages, on the
first. -/
theorem threeAnchors_estimated : AreAscending threeAnchors ∧
    (∃ e, estimate threeAnchors 15 = .ok e ∧ e.page = 1 ∧ e.y ∈ Set.uIcc 100 200) ∧
      estimate threeAnchors 25 = .ok (.anchor ⟨20, 1, 200⟩) := by
  have hascending : AreAscending threeAnchors := by simp [AreAscending, threeAnchors]
  have hne : threeAnchors ≠ [] := List.cons_ne_nil _ _
  refine ⟨hascending, ?_, ?_⟩
  · obtain ⟨lower, upper, e, hlower, hupper, he, -, -, -, -, hpage⟩ :=
      hascending.estimated_from_neighbours hne 15
    cases (Option.some.inj hlower : ⟨10, 1, 100⟩ = lower)
    cases (Option.some.inj hupper : ⟨20, 1, 200⟩ = upper)
    obtain ⟨hpage, hy⟩ := hpage rfl
    exact ⟨e, he, hpage, hy Scalar.exactReal⟩
  · obtain ⟨lower, upper, e, hlower, hupper, he, -, -, -, hpages, -⟩ :=
      hascending.estimated_from_neighbours hne 25
    cases (Option.some.inj hlower : ⟨20, 1, 200⟩ = lower)
    cases (Option.some.inj hupper : ⟨30, 2, 50⟩ = upper)
    obtain ⟨a, -, rfl, -, htie⟩ := hpages (by decide)
    rw [he, htie rfl]

end TypesetTrace.Alignment
