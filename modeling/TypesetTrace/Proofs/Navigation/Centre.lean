import TypesetTrace.Proofs.Navigation.Eligible
import TypesetTrace.Proofs.Navigation.Innermost
import TypesetTrace.Proofs.Sync.UnknownAxis

/-! From the middle of a block back to its line. No other middle is as near as its own, so the block takes
over whatever was best before it, and after it only a block inside could take over. -/
namespace TypesetTrace.Navigation
open Sync
variable {K : Type} [Scalar K]

theorem path_ne_nil_of_shows {body : Text} {d : Document K} (hbody : Document.ofText body = .ok d)
    {page line : Int} {path : Text} {b : Block K} (h : d.Shows page (path, line, b)) : path ≠ [] := by
  have hentry := (Document.everyEntry_of_ofText hbody).of_isIndexed h.1
  obtain ⟨_, f, after, hrecords, -, before, digits, between, rfl, -, -⟩ := hentry.given
  have hinput : .input digits path ∈ recordsOf body := by
    rw [hrecords]
    simp
  obtain ⟨text, -, hline⟩ := List.mem_filterMap.mp hinput
  exact Record.path_ne_nil_of_ofLine? hline

section
variable (exact : Scalar.Exact K)
include exact

/-- No distance is smaller than none, so only a block inside takes over. If it is the best one again, nothing
changes. -/
theorem Best.foldl_consider_of_no_distance {x y : K} {best : Best K} (hbest : best.distance = 0)
    {candidates : List (Text × Int × Block K)}
    (hout : ∀ c ∈ candidates, Best.of x y c = best ∨ ¬ best.rect.includes (rectOf c)) :
    candidates.foldl (Best.consider x y) best = best := by
  induction candidates with
  | nil => rfl
  | cons c rest ih =>
    obtain ⟨hc, hrest⟩ := List.forall_mem_cons.mp hout
    have hfar : ¬ (rectOf c).distanceFromCentre x y < best.distance := by
      rw [hbest]
      exact Rectangle.not_distance_lt_zero exact _ x y
    have hstep : best.consider x y c = best := by
      rw [Best.consider_eq]
      rcases hc with hsame | hc
      · rw [hsame, ite_self]
      · exact if_neg (not_or.mpr ⟨hc, fun h => hfar h.1⟩)
    rw [List.foldl_cons, hstep]
    exact ih hrest

/-- The block takes over from any other one, and from the whole page. -/
theorem scan_consider_of_centre {c : Text × Int × Block K} {before : List (Text × Int × Block K)}
    (hfinest : ∀ c' ∈ before, ¬ (rectOf c).includes (rectOf c'))
    (hcentre : ∀ c' ∈ before, (rectOf c').centre ≠ (rectOf c).centre) (hpage : (rectOf c).bottom < Scalar.far) :
    (scan (rectOf c).centre.1 (rectOf c).centre.2 before).consider (rectOf c).centre.1 (rectOf c).centre.2 c =
      .of (rectOf c).centre.1 (rectOf c).centre.2 c := by
  have htakes {best : Best K} (hnear : 0 < best.distance) (hout : ¬ (rectOf c).includes best.rect) :
      best.consider (rectOf c).centre.1 (rectOf c).centre.2 c =
        .of (rectOf c).centre.1 (rectOf c).centre.2 c := by
    rw [Best.consider_eq, Rectangle.distance_centre exact, if_pos (.inr ⟨hnear, hout⟩)]
  rw [scan]
  rcases Best.foldl_consider_eq (rectOf c).centre.1 (rectOf c).centre.2 before Best.none with h | ⟨c', hc', h⟩ <;>
    rw [h]
  · refine htakes ?_ fun hall => exact.not_le_of_lt hpage (Rectangle.includes_iff.mp hall).2.2.1
    rw [exact.lt_iff, exact.value_zero, Best.none, exact.value_far]
    norm_num
  · exact htakes (Rectangle.distance_pos exact (hcentre c' hc')) (hfinest c' hc')

/-- In the list of the blocks that are met, the one comes before the other. -/
def IsMetBefore (d : Document K) (page : Int) (c c' : Text × Int × Block K) : Prop :=
  [c, c'].Sublist (blocksOn page d.index)

theorem bestAt_centre {d : Document K} {page : Int} {c : Text × Int × Block K} (hshown : d.Shows page c)
    (hfinest : ∀ c', d.Shows page c' → c' ≠ c → ¬ (rectOf c).includes (rectOf c'))
    (hcentre : ∀ c', IsMetBefore d page c' c → c' ≠ c → (rectOf c').centre ≠ (rectOf c).centre)
    (hpage : (rectOf c).bottom < Scalar.far) :
    bestAt d page ((rectOf c).centre.1 + d.offsetX) ((rectOf c).centre.2 + d.offsetY) =
      .of (rectOf c).centre.1 (rectOf c).centre.2 c := by
  -- The block may be recorded again. Where it comes first, no block before it is the same.
  obtain ⟨before, after, hblocks, hfirst⟩ := List.eq_append_cons_of_mem (mem_blocksOn_iff.mpr hshown)
  have hshows : ∀ c' ∈ before ++ c :: after, d.Shows page c' := fun c' hc' =>
    mem_blocksOn_iff.mp (hblocks ▸ hc')
  have hmiddle : (scan (rectOf c).centre.1 (rectOf c).centre.2 before).consider (rectOf c).centre.1
      (rectOf c).centre.2 c = .of (rectOf c).centre.1 (rectOf c).centre.2 c := by
    refine scan_consider_of_centre exact (fun c' hc' => ?_) (fun c' hc' => ?_) hpage
    · exact hfinest c' (hshows c' (List.mem_append_left _ hc')) (ne_of_mem_of_not_mem hc' hfirst)
    · have hmet : IsMetBefore d page c' c := by
        rw [IsMetBefore, hblocks]
        exact (List.singleton_sublist.mpr hc').append (List.singleton_sublist.mpr List.mem_cons_self)
      exact hcentre c' hmet (ne_of_mem_of_not_mem hc' hfirst)
  rw [bestAt, exact.add_sub_cancel, exact.add_sub_cancel, hblocks, ← scan, scan_append, List.foldl_cons, hmiddle]
  refine Best.foldl_consider_of_no_distance exact (Rectangle.distance_centre exact _) fun c' hc' => ?_
  by_cases hsame : c' = c
  · rw [hsame]
    exact .inl rfl
  · exact .inr (hfinest c' (hshows c' (List.mem_append_right _ (List.mem_cons_of_mem _ hc'))) hsame)

/-- The middle of a block leads back to its file and line, if no other block of its page lies inside and
none before it has the same middle. One with the same middle may come after it. -/
theorem Navigator.inverse_at_centre (nav : Navigator) (fs : Files) (source : Text) {slot : Slot K}
    {d : Document K} (hd : (nav.load fs source slot).result = .ok (some d)) {body : Text}
    (hbody : Document.ofText body = .ok d) {page line : Int} {path : Text} {b : Block K}
    (hshown : d.Shows page (path, line, b))
    (hfinest : ∀ c, d.Shows page c → c ≠ (path, line, b) → ¬ (Rectangle.ofBlock b).includes (rectOf c))
    (hcentre : ∀ c, IsMetBefore d page c (path, line, b) → c ≠ (path, line, b) →
      (rectOf c).centre ≠ (Rectangle.ofBlock b).centre) (hpage : b.bottom < Scalar.far) :
    let centre := (Rectangle.ofBlock b).centre
    let file := Path.absolute fs.working (Path.join (Path.directory (Path.absolute fs.working source)) path)
    (nav.inverse fs source page (centre.1 + d.offsetX) (centre.2 + d.offsetY) slot).result =
      .ok (if fs.exists? file then some { file, line } else none) := by
  intro centre file
  have hbest := bestAt_centre exact hshown hfinest hcentre hpage
  show (nav.inverse fs source page ((rectOf (path, line, b)).centre.1 + d.offsetX)
    ((rectOf (path, line, b)).centre.2 + d.offsetY) slot).result = _
  rw [inverse_of_load hd, origin?, hbest]
  exact congrArg Except.ok (if_neg (path_ne_nil_of_shows hbody hshown))

end

def crossingFiles : Files :=
  (({} : Files).write "/a.tex".toList (.bytes [])).write "/a.sync".toList
    (.bytes (crossing.text.map fun c => UInt8.ofNat c.toNat))

private theorem crossing_loaded : (({} : Navigator).load crossingFiles "/a.tex".toList (none : Slot ℝ)).result =
    .ok (some crossing.document) := rfl

private theorem centre_inRow {line : Nat} {left width : Int} (h : width ≠ 0) :
    (rectOf (inRow (K := ℝ) line left width)).centre =
      (((left + width / 2) / 65781.76, 50) : ℝ × ℝ) := by
  rw [rectOf_inRow h]
  show ((((left : ℝ) / 65781.76 + (left + width) / 65781.76) / 2, (100 + 0) / 2) : ℝ × ℝ) = _
  rw [Prod.mk.injEq]
  constructor <;> ring

/-- The second element of line 10 is found, though line 20 covers its left half. -/
theorem crossing_centre_answered :
    (({} : Navigator).inverse crossingFiles "/a.tex".toList 1 600 50 (none : Slot ℝ)).result =
      .ok (some { file := "/a.tex".toList, line := 10 }) := by
  have hshown : (crossing.document : Document ℝ).Shows 1 (inRow 10 32890880 13156352) :=
    crossing_shows.mpr (by simp [apart])
  have hother {c : Text × Int × Block ℝ} (hc : (crossing.document : Document ℝ).Shows 1 c)
      (hne : c ≠ inRow 10 32890880 13156352) : c = inRow 10 0 6578176 ∨ c = across := by
    have hmem := crossing_shows.mp hc
    simp only [apart, List.cons_append, List.nil_append, List.mem_cons, List.not_mem_nil, or_false] at hmem
    exact hmem.imp_right fun hmem => hmem.resolve_left hne
  have hfinest : ∀ c, (crossing.document : Document ℝ).Shows 1 c → c ≠ inRow 10 32890880 13156352 →
      ¬ (rectOf (inRow (K := ℝ) 10 32890880 13156352)).includes (rectOf c) := by
    intro c hc hne
    rcases hother hc hne with rfl | rfl
    · exact mt (includes_inRow (by decide) (by decide)).mp (by decide)
    · exact mt (includes_inRow (by decide) (by decide)).mp (by decide)
  have hmiddle : (rectOf (inRow (K := ℝ) 10 32890880 13156352)).centre = (600, 50) := by
    rw [centre_inRow (by decide)]
    norm_num
  have hcentre : ∀ c, IsMetBefore (crossing.document : Document ℝ) 1 c (inRow 10 32890880 13156352) →
      c ≠ inRow 10 32890880 13156352 →
        (rectOf c).centre ≠ (rectOf (inRow (K := ℝ) 10 32890880 13156352)).centre := by
    intro c hmet hne
    have hc : (crossing.document : Document ℝ).Shows 1 c :=
      mem_blocksOn_iff.mp (hmet.subset List.mem_cons_self)
    rw [hmiddle]
    rcases hother hc hne with rfl | rfl
    · rw [centre_inRow (by decide)]
      norm_num
    · rw [across, centre_inRow (by decide)]
      norm_num
  have hpage : (inRow (K := ℝ) 10 32890880 13156352).2.2.bottom < Scalar.far := by
    show ((6578176 : Int) / 65781.76 : ℝ) < 2 * 10 ^ 16
    norm_num
  have hfound := Navigator.inverse_at_centre Scalar.exactReal {} crossingFiles "/a.tex".toList crossing_loaded
    crossing_read hshown hfinest hcentre hpage
  have hoffset (k : ℝ) : k + coordinate 0 = k := by
    rw [coordinate_zero]
    exact add_zero k
  have hx : (rectOf (inRow 10 32890880 13156352)).centre.1 + (crossing.document : Document ℝ).offsetX = 600 := by
    rw [hmiddle]
    exact hoffset 600
  have hy : (rectOf (inRow 10 32890880 13156352)).centre.2 + (crossing.document : Document ℝ).offsetY = 50 := by
    rw [hmiddle]
    exact hoffset 50
  have hfile : Path.absolute crossingFiles.working (Path.join
      (Path.directory (Path.absolute crossingFiles.working "/a.tex".toList)) "a.tex".toList) =
      "/a.tex".toList := by decide +kernel
  have hexists : crossingFiles.exists? "/a.tex".toList := by decide +kernel
  rw [← hx, ← hy]
  refine hfound.trans (congrArg Except.ok ?_)
  rw [hfile, if_pos hexists]
  rfl

end TypesetTrace.Navigation
