import TypesetTrace.Proofs.Navigation.Eligible
import TypesetTrace.Proofs.Sync.RoundTrip

/-! Which block of a page is found among overlapping ones. It surrounds none of those met since the last
one took over for its distance alone, and where any two lie inside each other it is the innermost one. -/
namespace TypesetTrace.Navigation
open Sync
variable {K : Type} [Scalar K]

/-- Elements side by side, each with its line, left edge and width. -/
def sideBySide : List (Nat × Int × Int) → Forest
  | [] => .nil
  | (line, left, width) :: rest => .element ⟨'x', 1, line, left, 6578176, some width⟩ (sideBySide rest)

/-- A page with these elements, all from its top down to 100 units. -/
def rowOf (elements : List (Nat × Int × Int)) : Outline where
  version := ['1']
  files := .ofList [(1, "a.tex".toList)]
  offsetX := 0
  offsetY := 0
  pages := .ofList [(1, .box ⟨.vertical, 1, 1, 0, 0, 0, 6578176, 0⟩ (sideBySide elements) .nil)]

def inRow (line : Nat) (left width : Int) : Text × Int × Block K :=
  let box : Block K := BoxOutline.block ⟨.vertical, 1, 1, 0, 0, 0, 6578176, 0⟩ (rowOf []).files 1 none
  ("a.tex".toList, line,
    { role := .element ['x'], fileNumber := 1, file := some "a.tex".toList, line, left := coordinate left
      bottom := coordinate 6578176, height := box.height, width := some (coordinate width), page := 1
      enclosing := some box })

theorem coordinate_real (i : Int) : (coordinate i : ℝ) = i / 65781.76 := rfl

theorem coordinate_zero : coordinate 0 = (0 : ℝ) := by
  rw [coordinate_real, Int.cast_zero, zero_div]

section
variable {line line' : Nat} {left left' width width' : Int}

theorem rectOf_inRow (h : width ≠ 0) : rectOf (inRow line left width) =
    (⟨0, 100, left / 65781.76, (left + width) / 65781.76⟩ : Rectangle ℝ) := by
  have hzero : Scalar.isZero ((width : ℝ) / 65781.76) = false := by
    refine decide_eq_false ?_
    rw [div_eq_zero_iff, not_or]
    exact ⟨Int.cast_ne_zero.mpr h, by norm_num⟩
  have hright : Rectangle.rightEdge (inRow (K := ℝ) line left width).2.2 =
      left / 65781.76 + width / 65781.76 := if_neg (by rw [coordinate_real, hzero]; decide)
  have hbottom : ((6578176 : Int) : ℝ) / 65781.76 = 100 := by norm_num
  show Rectangle.mk ((coordinate 6578176 : ℝ) - coordinate 6578176) (coordinate 6578176) (coordinate left)
    (Rectangle.rightEdge (inRow (K := ℝ) line left width).2.2) = _
  rw [hright, coordinate_real, coordinate_real, hbottom, sub_self, add_div]

theorem includes_inRow (h : width ≠ 0) (h' : width' ≠ 0) :
    (rectOf (inRow (K := ℝ) line left width)).includes (rectOf (inRow line' left' width')) ↔
      left ≤ left' ∧ left' + width' ≤ left + width := by
  rw [rectOf_inRow h, rectOf_inRow h', Rectangle.includes_iff]
  show (left / 65781.76 : ℝ) ≤ left' / 65781.76 ∧
    ((left' + width') / 65781.76 : ℝ) ≤ (left + width) / 65781.76 ∧ (100 : ℝ) ≤ 100 ∧ (0 : ℝ) ≤ 0 ↔ _
  rw [div_le_div_iff_of_pos_right (by norm_num), div_le_div_iff_of_pos_right (by norm_num)]
  norm_cast
  simp

theorem eq_of_rectOf_inRow (h : width ≠ 0) (h' : width' ≠ 0)
    (heq : rectOf (inRow (K := ℝ) line left width) = rectOf (inRow line' left' width')) :
    left = left' ∧ width = width' := by
  have hwithin : (rectOf (inRow (K := ℝ) line left width)).includes (rectOf (inRow line' left' width')) := by
    rw [heq]
    exact Rectangle.includes_refl Scalar.exactReal _
  have haround : (rectOf (inRow (K := ℝ) line' left' width')).includes (rectOf (inRow line left width)) := by
    rw [heq]
    exact Rectangle.includes_refl Scalar.exactReal _
  rw [includes_inRow h h'] at hwithin
  rw [includes_inRow h' h] at haround
  omega

/-- Elements as far to the right as 10^9 scaled points lie on the page. -/
theorem page_includes_inRow (h : width ≠ 0) (hleft : 0 ≤ left) (hright : left + width ≤ 10 ^ 9) :
    (Best.none : Best ℝ).rect.includes (rectOf (inRow line left width)) := by
  have hfar : ((left + width : Int) : ℝ) ≤ ((10 ^ 9 : Int) : ℝ) := Int.cast_le.mpr hright
  have hzero : (0 : ℝ) ≤ left := Int.cast_nonneg hleft
  rw [rectOf_inRow h, Rectangle.includes_iff]
  show (0 : ℝ) ≤ left / 65781.76 ∧ ((left + width) / 65781.76 : ℝ) ≤ 2 * 10 ^ 16 ∧
    (100 : ℝ) ≤ 2 * 10 ^ 16 ∧ (0 : ℝ) ≤ 0
  refine ⟨by positivity, ?_, by norm_num, le_rfl⟩
  push_cast at hfar
  rw [div_le_iff₀ (by norm_num)]
  linarith

/-- Level with the row a distance is one from left to right. -/
theorem distance_inRow (h : width ≠ 0) (x : ℝ) :
    (rectOf (inRow line left width)).distanceFromCentre x 50 =
      |(left + width / 2) / 65781.76 - x| := by
  rw [rectOf_inRow h]
  show √((((left : ℝ) / 65781.76 + (left + width) / 65781.76) / 2 - x) ^ 2 +
    ((100 + 0) / 2 - 50) ^ 2) = _
  rw [← Real.sqrt_sq_eq_abs]
  congr 1
  ring

/-- The nearer element takes over, unless it goes around the other one. -/
theorem consider_inRow (h : width ≠ 0) (h' : width' ≠ 0) {x : ℝ}
    (hnear : |(left' + width' / 2) / 65781.76 - x| < |(left + width / 2) / 65781.76 - x|)
    (hout : ¬ (left' ≤ left ∧ left + width ≤ left' + width')) :
    (Best.of x 50 (inRow line left width)).consider x 50 (inRow line' left' width') =
      .of x 50 (inRow line' left' width') := by
  have hdistance : (rectOf (inRow line' left' width')).distanceFromCentre x 50 <
      (Best.of x 50 (inRow line left width)).distance := by
    rwa [Best.of, distance_inRow h, distance_inRow h', Scalar.exactReal.lt_iff]
  rw [Best.consider_eq, if_pos (.inr ⟨hdistance, mt (includes_inRow h' h).mp hout⟩)]

end

/-- Line 10 twice, and line 20 across its first element and half of its second. -/
def crossing : Outline := rowOf [(10, 0, 6578176), (10, 32890880, 13156352), (20, 0, 39469056)]

def across : Text × Int × Block K := inRow 20 0 39469056

def apart : List (Text × Int × Block K) := [inRow 10 0 6578176, inRow 10 32890880 13156352]

theorem crossing_blocks :
    blocksOn 1 (crossing.document : Document ℝ).index = apart ++ [across] := rfl

theorem crossing_shows {c : Text × Int × Block ℝ} :
    (crossing.document : Document ℝ).Shows 1 c ↔ c ∈ apart ++ [across] := by
  rw [← mem_blocksOn_iff, crossing_blocks]

theorem across_surrounds : (rectOf (across (K := ℝ))).Surrounds (rectOf (inRow 10 0 6578176)) :=
  ⟨(includes_inRow (by decide) (by decide)).mpr (by decide),
    fun heq => absurd (eq_of_rectOf_inRow (by decide) (by decide) heq).2 (by decide)⟩

theorem crossing_read : Document.ofText crossing.text = .ok (crossing.document : Document ℝ) := rfl

/-- From its first element the second one takes over, and from this line 20. -/
private theorem scan_crossing : scan (350 : ℝ) 50 (apart ++ [across]) = .of 350 50 across := by
  have hfirst : (Best.none : Best ℝ).consider 350 50 (inRow 10 0 6578176) =
      .of 350 50 (inRow 10 0 6578176) := by
    rw [Best.consider_eq, if_pos (.inl (page_includes_inRow (by decide) (by decide) (by decide)))]
  have hsecond : (Best.of (350 : ℝ) 50 (inRow 10 0 6578176)).consider 350 50
      (inRow 10 32890880 13156352) = .of 350 50 (inRow 10 32890880 13156352) :=
    consider_inRow (by decide) (by decide) (by norm_num) (by decide)
  have hthird : (Best.of (350 : ℝ) 50 (inRow 10 32890880 13156352)).consider 350 50 across =
      .of 350 50 across :=
    consider_inRow (by decide) (by decide) (by norm_num) (by decide)
  rw [apart, scan]
  simp only [List.cons_append, List.nil_append, List.foldl_cons, List.foldl_nil, hfirst, hsecond, hthird]

private theorem crossing_best : bestAt (crossing.document : Document ℝ) 1 350 50 =
    .of (350 - coordinate 0) (50 - coordinate 0) across := by
  have hoffset (k : ℝ) : k - coordinate 0 = k := by
    rw [coordinate_zero]
    exact sub_zero k
  have hx : (crossing.document : Document ℝ).offsetX = coordinate 0 := rfl
  have hy : (crossing.document : Document ℝ).offsetY = coordinate 0 := rfl
  rw [bestAt, hx, hy, hoffset, hoffset, crossing_blocks]
  exact scan_crossing

section
variable (exact : Scalar.Exact K)
include exact

/-- The block that is found surrounds none of those met since the last block that took over for its
distance alone, or since the first block of the page, and not the best block until then either. What was
given up before that is forgotten, and may lie inside. -/
theorem bestAt_surrounds_forgotten_only (d : Document K) (page : Int) (x y : K)
    {winner : Text × Int × Block K} (hwinner : d.Shows page winner)
    (hbest : bestAt d page x y = Best.of (x - d.offsetX) (y - d.offsetY) winner) :
    let u := x - d.offsetX
    let v := y - d.offsetY
    ∃ before turn after, blocksOn page d.index = before ++ turn :: after ∧
      (before = [] ∨ (scan u v before).IsOutrunBy u v turn) ∧
      (scan u v (before ++ [turn])).IsNeverOutrun u v after ∧
      ¬ (rectOf winner).Surrounds (scan u v before).rect ∧
      (∀ c ∈ turn :: after, ¬ (rectOf winner).Surrounds (rectOf c)) ∧
      ∀ c, d.Shows page c → (rectOf winner).Surrounds (rectOf c) → c ∈ before := by
  intro u v
  obtain ⟨before, turn, after, hblocks, hturn, hafter⟩ : ∃ before turn after,
      blocksOn page d.index = before ++ turn :: after ∧
        (before = [] ∨ (scan u v before).IsOutrunBy u v turn) ∧
        (scan u v (before ++ [turn])).IsNeverOutrun u v after := by
    obtain ⟨first, rest, hfirst⟩ :=
      List.exists_cons_of_ne_nil (List.ne_nil_of_mem (mem_blocksOn_iff.mpr hwinner))
    by_cases hrest : (scan u v [first]).IsNeverOutrun u v rest
    · exact ⟨[], first, rest, hfirst, .inl rfl, hrest⟩
    · obtain ⟨before, turn, after, rfl, hturn, hafter⟩ := Best.exists_last_turn hrest
      exact ⟨first :: before, turn, after, hfirst, .inr hturn, hafter⟩
  have hfound : after.foldl (Best.consider u v) ((scan u v before).consider u v turn) =
      Best.of u v winner := by
    rw [← hbest, bestAt, hblocks, ← scan, scan_append, List.foldl_cons]
  have hstart : scan u v (before ++ [turn]) = (scan u v before).consider u v turn :=
    scan_append u v before [turn]
  rw [hstart] at hafter
  have hshrunk := Best.includes_of_isNeverOutrun exact hafter
  rw [hfound] at hshrunk
  obtain ⟨hbefore, hlast⟩ := Best.not_surrounds_of_step exact hshrunk
  have hlater : ∀ c ∈ turn :: after, ¬ (rectOf winner).Surrounds (rectOf c) := by
    refine List.forall_mem_cons.mpr ⟨hlast, fun c hc => ?_⟩
    have hmet := Best.not_surrounds_of_isNeverOutrun exact hafter hc
    rwa [hfound] at hmet
  refine ⟨before, turn, after, hblocks, hturn, hstart ▸ hafter, hbefore, hlater, fun c hc hinside => ?_⟩
  have hmem : c ∈ before ++ turn :: after := hblocks ▸ mem_blocksOn_iff.mpr hc
  rcases List.mem_append.mp hmem with hmem | hmem
  · exact hmem
  · exact absurd hinside (hlater c hmem)

end

/-- A number of a page that is a quotient of integers. -/
def IsPlain (k : ℝ) : Prop := |k| < Scalar.far ∧ ∃ q : ℚ, (q : ℝ) = k

/-- The numbers that a block is placed with. -/
def coordinatesOf (b : Block K) : List K := b.left :: b.bottom :: b.height :: b.width.toList

private theorem isPlain_coordinate {i : Int} (h : |i| ≤ 10 ^ 9) : IsPlain (coordinate i) := by
  rw [coordinate_real]
  refine ⟨?_, i / 65781.76, by push_cast; norm_num⟩
  have hi : |(i : ℝ)| ≤ 10 ^ 9 := by exact_mod_cast h
  rw [abs_div, abs_of_pos (by norm_num : (0 : ℝ) < 65781.76), div_lt_iff₀ (by norm_num)]
  show |(i : ℝ)| < 2 * 10 ^ 16 * 65781.76
  linarith

private theorem isPlain_inRow {line : Nat} {left width : Int} (hleft : |left| ≤ 10 ^ 9) (hwidth : |width| ≤ 10 ^ 9) :
    ∀ k ∈ coordinatesOf (inRow (K := ℝ) line left width).2.2, IsPlain k := by
  have hcoordinates : coordinatesOf (inRow (K := ℝ) line left width).2.2 =
      [left, 6578176, 6578176, width].map coordinate := rfl
  rw [hcoordinates, List.forall_mem_map]
  intro i hi
  apply isPlain_coordinate
  simp only [List.mem_cons, List.not_mem_nil, or_false] at hi
  rcases hi with rfl | rfl | rfl | rfl
  · exact hleft
  · decide
  · decide
  · exact hwidth

/-- The first element is given up for the second one, and is forgotten when line 20 takes over from that. -/
theorem crossing_surrounds_forgotten :
    ¬ ∀ (body : Text) (d : Document ℝ) (page : Int) (x y : ℝ) (winner other : Text × Int × Block ℝ),
      Document.ofText body = .ok d → IsPlain d.offsetX → IsPlain d.offsetY → IsPlain x → IsPlain y →
        (∀ c, d.Shows page c → ∀ k ∈ coordinatesOf c.2.2, IsPlain k) → d.Shows page winner →
          bestAt d page x y = Best.of (x - d.offsetX) (y - d.offsetY) winner →
            d.Shows page other → ¬ (rectOf winner).Surrounds (rectOf other) := by
  intro h
  have hoffset : IsPlain (coordinate 0) := isPlain_coordinate (by decide)
  have hpoint (n : Nat) (hn : n < 1000) : IsPlain (n : ℝ) := by
    have hsmall : (n : ℝ) < 1000 := by exact_mod_cast hn
    refine ⟨?_, n, by norm_num⟩
    rw [abs_of_nonneg (Nat.cast_nonneg n)]
    show (n : ℝ) < 2 * 10 ^ 16
    linarith
  refine h crossing.text crossing.document 1 350 50 across (inRow 10 0 6578176) crossing_read hoffset hoffset
    (hpoint 350 (by decide)) (hpoint 50 (by decide)) ?_ (crossing_shows.mpr (by simp)) crossing_best
    (crossing_shows.mpr (by simp [apart])) across_surrounds
  simp only [crossing_shows]
  simp only [apart, across, List.cons_append, List.nil_append, List.forall_mem_cons]
  exact ⟨isPlain_inRow (by decide) (by decide), isPlain_inRow (by decide) (by decide),
    isPlain_inRow (by decide) (by decide), nofun⟩

theorem crossing_surrounds_no_later :
    bestAt (crossing.document : Document ℝ) 1 350 50 = .of (350 - coordinate 0) (50 - coordinate 0) across ∧
      ∃ before turn after, blocksOn 1 (crossing.document : Document ℝ).index = before ++ turn :: after ∧
        inRow 10 0 6578176 ∈ before ∧ ∀ c ∈ turn :: after, ¬ (rectOf across).Surrounds (rectOf c) := by
  obtain ⟨before, turn, after, hblocks, -, -, -, hlater, hforgotten⟩ :=
    bestAt_surrounds_forgotten_only Scalar.exactReal (crossing.document : Document ℝ) 1 350 50
      (crossing_shows.mpr (by simp)) crossing_best
  have hfirst : inRow 10 0 6578176 ∈ before :=
    hforgotten _ (crossing_shows.mpr (by simp [apart])) across_surrounds
  exact ⟨crossing_best, before, turn, after, hblocks, hfirst, hlater⟩

/-- On a page that shows blocks any two of which lie inside each other, without covering the same place, the
innermost one is found, from every point and in whatever order they are met. It takes an order of the numbers
alone, so that it holds of doubles as they are. -/
theorem innermost_found [Scalar.IsOrdered K] (d : Document K) (page : Int) (hshown : ∃ c, d.Shows page c)
    (hdistinct : ∀ a b, d.Shows page a → d.Shows page b → a ≠ b → ¬ (rectOf a).Coincides (rectOf b))
    (hnested : ∀ a b, d.Shows page a → d.Shows page b → a ≠ b →
      (rectOf a).includes (rectOf b) ∨ (rectOf b).includes (rectOf a))
    (hedges : ∀ c, d.Shows page c → (Best.none : Best K).rect.includes (rectOf c)) :
    ∃ inner, d.Shows page inner ∧ (∀ c, d.Shows page c → (rectOf c).includes (rectOf inner)) ∧
      (∀ order, (∀ c, c ∈ order ↔ d.Shows page c) → ∀ u v, scan u v order = Best.of u v inner) ∧
      ∀ x y, bestAt d page x y = Best.of (x - d.offsetX) (y - d.offsetY) inner := by
  have hpair : ∀ a, d.Shows page a → ∀ b, d.Shows page b →
      (rectOf a).includes (rectOf b) ∨ (rectOf b).includes (rectOf a) := by
    intro a ha b hb
    by_cases hsame : a = b
    · rw [← hsame]
      exact .inl (Rectangle.includes_self (hedges a ha))
    · exact hnested a b ha hb hsame
  have hfound (order : List (Text × Int × Block K)) (horder : ∀ c, c ∈ order ↔ d.Shows page c) (u v : K) :
      ∃ inner, d.Shows page inner ∧ (∀ c, d.Shows page c → (rectOf c).includes (rectOf inner)) ∧
        scan u v order = Best.of u v inner := by
    cases order with
    | nil =>
      obtain ⟨c, hc⟩ := hshown
      cases (horder c).mpr hc
    | cons first rest =>
      have hfirst : Best.none.consider u v first = Best.of u v first := by
        rw [Best.consider_eq, if_pos (.inl (hedges first ((horder first).mp List.mem_cons_self)))]
      obtain ⟨inner, hmem, hinner, hscan⟩ := Best.foldl_consider_of_nested u v
        fun a ha b hb => hpair a ((horder a).mp ha) b ((horder b).mp hb)
      refine ⟨inner, (horder inner).mp hmem, fun c hc => hinner c ((horder c).mpr hc), ?_⟩
      rw [scan, List.foldl_cons, hfirst, hscan]
  obtain ⟨inner, hshows, hinner, -⟩ := hfound (blocksOn page d.index) (fun _ => mem_blocksOn_iff) 0 0
  -- Innermost blocks that two orders lead to lie inside each other, so they are one block.
  have hscan (order : List (Text × Int × Block K)) (horder : ∀ c, c ∈ order ↔ d.Shows page c) (u v : K) :
      scan u v order = Best.of u v inner := by
    obtain ⟨other, hshows', hinner', hscan⟩ := hfound order horder u v
    have hsame : other = inner := by
      by_contra hne
      exact hdistinct other inner hshows' hshows hne
        (Rectangle.coincides_of_includes (hinner other hshows') (hinner' inner hshows))
    rw [hscan, hsame]
  exact ⟨inner, hshows, hinner, hscan, fun x y => hscan _ (fun _ => mem_blocksOn_iff) _ _⟩

/-- Three lines that start together, the shortest in the middle. -/
def startingTogether : Outline := rowOf [(10, 0, 19734528), (20, 0, 6578176), (30, 0, 13156352)]

def together : List (Text × Int × Block Float) :=
  [inRow 10 0 19734528, inRow 20 0 6578176, inRow 30 0 13156352]

private theorem startingTogether_shows (c : Text × Int × Block Float) :
    (startingTogether.document : Document Float).Shows 1 c ↔ c ∈ together :=
  mem_blocksOn_iff.symm

/-- From far below to their right, where the longest one is the nearest, the shortest one is found, and so it
is in the reverse order. -/
theorem startingTogether_shortest :
    (bestAt (startingTogether.document : Document Float) 1 9000.0 7000.0).line = 20 ∧
      (scan 9000.0 7000.0 together.reverse).line = 20 := by
  have hlines : (together.map (·.2.1)).Nodup := by decide
  have hcompared : ∀ a ∈ together, ∀ b ∈ together, a.2.1 ≠ b.2.1 → ¬ (rectOf a).Coincides (rectOf b) ∧
      ((rectOf a).includes (rectOf b) ∨ (rectOf b).includes (rectOf a)) := by decide +kernel
  have hedges : ∀ c ∈ together, (Best.none : Best Float).rect.includes (rectOf c) := by decide +kernel
  have hpair (a b : Text × Int × Block Float) (ha : (startingTogether.document : Document Float).Shows 1 a)
      (hb : (startingTogether.document : Document Float).Shows 1 b) (hne : a ≠ b) :
      ¬ (rectOf a).Coincides (rectOf b) ∧
        ((rectOf a).includes (rectOf b) ∨ (rectOf b).includes (rectOf a)) := by
    rw [startingTogether_shows] at ha hb
    exact hcompared a ha b hb fun hline => hne (List.inj_on_of_nodup_map hlines ha hb hline)
  obtain ⟨inner, hshows, hinner, hscan, hbest⟩ :=
    innermost_found (startingTogether.document : Document Float) 1
      ⟨inRow 10 0 19734528, (startingTogether_shows _).mpr List.mem_cons_self⟩
      (fun a b ha hb hne => (hpair a b ha hb hne).1) (fun a b ha hb hne => (hpair a b ha hb hne).2)
      fun c hc => hedges c ((startingTogether_shows c).mp hc)
  have hshortest : inner.2.1 = 20 := by
    have honly : ∀ c ∈ together, (rectOf (inRow 20 0 6578176)).includes (rectOf c) → c.2.1 = 20 := by
      decide +kernel
    refine honly inner ((startingTogether_shows inner).mp hshows) (hinner _ ?_)
    exact (startingTogether_shows _).mpr (List.mem_cons_of_mem _ List.mem_cons_self)
  have hreversed : ∀ c, c ∈ together.reverse ↔ (startingTogether.document : Document Float).Shows 1 c :=
    fun c => List.mem_reverse.trans (startingTogether_shows c).symm
  rw [hbest, hscan together.reverse hreversed]
  exact ⟨hshortest, hshortest⟩

end TypesetTrace.Navigation
