import TypesetTrace.Alignment.Survey
import TypesetTrace.Proofs.Navigation.LineMap
import TypesetTrace.Proofs.Sync.Lengths

/-! Estimates from the line map against positions. The two searches, one over anchors and one over recorded
lines, stop at the same neighbours, and interpolating between shifted heights is shifting what was
interpolated between the heights themselves. Where both stop at one anchor there is nothing to round: the
heights are the same number, and no deviation is reported. -/
namespace TypesetTrace.Alignment
open Navigation Sync
variable {K : Type}

section
variable {front back : List (Anchor K)} {line : Int}

theorem lowerIndex_append (hfront : ∀ a ∈ front, a.line ≤ line) (hback : ∀ a ∈ back, line < a.line) :
    lowerIndex (front ++ back) line = front.length - 1 := by
  have hstop : back.takeWhile (fun a => a.line ≤ line) = [] := by
    cases back with
    | nil => rfl
    | cons a back =>
      have hlt := hback a List.mem_cons_self
      exact List.takeWhile_cons_of_neg (by simpa using hlt)
  rw [lowerIndex, List.takeWhile_append_of_pos (by simpa using hfront), hstop, List.append_nil]

theorem upperIndex_append (hfront : ∀ a ∈ front, a.line < line) (hback : ∀ a ∈ back, line ≤ a.line) :
    upperIndex (front ++ back) line = front.length + back.length - max 1 back.length := by
  have hstop : front.reverse.takeWhile (fun a => line ≤ a.line) = [] := by
    rcases List.eq_nil_or_concat front with rfl | ⟨rest, a, rfl⟩
    · rfl
    · have hlt := hfront a (by simp)
      rw [List.concat_eq_append, List.reverse_concat]
      exact List.takeWhile_cons_of_neg (by simpa using hlt)
  rw [upperIndex, List.reverse_append, List.takeWhile_append_of_pos (by simpa using hback), hstop,
    List.append_nil, List.length_reverse, List.length_append]

end

theorem isIndexed_of_target? {d : Document K} {lines : Lines K} {working : Path.WorkingDirectory}
    {source : Text} {line : Int} {b : Block K} (hl : linesOf? working source d = some lines)
    (hb : target? lines line = some b) :
    ∃ path page, d.IsIndexed path line page b := by
  obtain ⟨path, -, hpath⟩ := Option.bind_eq_some_iff.mp hl
  obtain ⟨pages, lowest, bucket, hpages, -, -, hbucket, hmem, -⟩ := isTarget_of_target? hb
  exact ⟨path, lowest, lines, pages, bucket, hpath, hpages, hbucket, hmem⟩

variable {front back : List (Anchor K)} {line : Int} {a b : Anchor K}

theorem indices_at (hfront : ∀ c ∈ front, c.line < a.line) (hback : ∀ c ∈ back, a.line < c.line) :
    lowerIndex (front ++ a :: back) a.line = front.length ∧
      upperIndex (front ++ a :: back) a.line = front.length := by
  constructor
  · rw [List.append_cons, lowerIndex_append _ hback]
    · simp
    · intro c hc
      rcases List.mem_append.mp hc with hc | hc
      · exact (hfront c hc).le
      · rw [List.mem_singleton.mp hc]
  · rw [upperIndex_append hfront]
    · simp
    · intro c hc
      rcases List.mem_cons.mp hc with rfl | hc
      · exact le_rfl
      · exact (hback c hc).le

theorem indices_before (h : ∀ c ∈ a :: back, line < c.line) :
    lowerIndex (a :: back) line = 0 ∧ upperIndex (a :: back) line = 0 := by
  constructor
  · exact lowerIndex_append (List.forall_mem_nil _) h
  · rw [← List.nil_append (a :: back), upperIndex_append (by simp) fun c hc => (h c hc).le]
    simp

theorem indices_behind (h : ∀ c ∈ front ++ [a], c.line < line) :
    lowerIndex (front ++ [a]) line = front.length ∧ upperIndex (front ++ [a]) line = front.length := by
  constructor
  · rw [← List.append_nil (front ++ [a]), lowerIndex_append (fun c hc => (h c hc).le) (by simp)]
    simp
  · rw [← List.append_nil (front ++ [a]), upperIndex_append h (by simp)]
    simp

theorem indices_between (hfront : ∀ c ∈ front ++ [a], c.line < line)
    (hback : ∀ c ∈ b :: back, line < c.line) :
    lowerIndex (front ++ [a] ++ b :: back) line = front.length ∧
      upperIndex (front ++ [a] ++ b :: back) line = front.length + 1 := by
  constructor
  · rw [lowerIndex_append (fun c hc => (hfront c hc).le) hback]
    simp
  · rw [upperIndex_append hfront fun c hc => (hback c hc).le]
    simp

variable [Scalar K]

/-- If both searches end at one anchor, the line stands there. -/
private theorem estimate_eq_anchor {anchors : List (Anchor K)} {i : Nat} (hi : anchors[i]? = some a)
    (h : lowerIndex anchors line = i ∧ upperIndex anchors line = i) :
    estimate anchors line = .ok (.anchor a) := by
  simp [estimate, h.1, h.2, hi]

theorem estimate_at (hfront : ∀ c ∈ front, c.line < a.line) (hback : ∀ c ∈ back, a.line < c.line) :
    estimate (front ++ a :: back) a.line = .ok (.anchor a) :=
  estimate_eq_anchor (by simp) (indices_at hfront hback)

theorem estimate_before (h : ∀ c ∈ a :: back, line < c.line) :
    estimate (a :: back) line = .ok (.anchor a) :=
  estimate_eq_anchor rfl (indices_before h)

theorem estimate_behind (h : ∀ c ∈ front ++ [a], c.line < line) :
    estimate (front ++ [a]) line = .ok (.anchor a) :=
  estimate_eq_anchor (by simp) (indices_behind h)

theorem estimate_between (hfront : ∀ c ∈ front ++ [a], c.line < line)
    (hback : ∀ c ∈ b :: back, line < c.line) :
    estimate (front ++ [a] ++ b :: back) line =
      if a.page = b.page then
        (Scalar.ratio (line - a.line) (b.line - a.line)).map fun t =>
          .between a.page (a.y + t * (b.y - a.y))
      else .ok (.anchor (if line - a.line ≤ b.line - line then a else b)) := by
  obtain ⟨hlower, hupper⟩ := indices_between hfront hback
  have ha : (front ++ [a] ++ b :: back)[front.length]? = some a := by simp
  have hb : (front ++ [a] ++ b :: back)[front.length + 1]? = some b := by
    rw [List.getElem?_append_right (by simp)]
    simp
  rw [estimate, hlower, hupper]
  simp only [ha, hb]
  by_cases hpage : a.page = b.page
  · rw [if_neg (by simp [hpage]), if_pos hpage]
    cases Scalar.ratio (K := K) (line - a.line) (b.line - a.line) <;> rfl
  · rw [if_pos (.inr hpage), if_neg hpage]

section
variable {d : Document K} {lines : Lines K}

def anchorAt (d : Document K) (line : Int) (b : Block K) : Anchor K := ⟨line, b.page, b.bottom + d.offsetY⟩

theorem line_mem_of_mem_anchorsOn {c : Anchor K} (h : c ∈ anchorsOn d lines) : c.line ∈ lines.keys := by
  obtain ⟨b, hb, -⟩ := mem_anchorsOn.mp h
  exact mem_keys_of_target? hb

/-- An anchor stands between those of earlier and those of later lines. -/
theorem anchorsOn_eq_append {b : Block K} (h : target? lines line = some b) :
    ∃ front back, anchorsOn d lines = front ++ anchorAt d line b :: back ∧
      (∀ c ∈ front, c.line < line ∧ c.line ∈ lines.keys) ∧
      ∀ c ∈ back, line < c.line ∧ c.line ∈ lines.keys := by
  have hmem : anchorAt d line b ∈ anchorsOn d lines := mem_anchorsOn.mpr ⟨b, h, rfl⟩
  obtain ⟨front, back, hsplit⟩ := List.append_of_mem hmem
  have hrecorded : ∀ c ∈ front ++ anchorAt d line b :: back, c.line ∈ lines.keys := fun c hc =>
    line_mem_of_mem_anchorsOn (hsplit ▸ hc)
  have hascending := anchorsOn_ascending d lines
  rw [hsplit, List.pairwise_append, List.pairwise_cons] at hascending
  obtain ⟨-, ⟨hback, -⟩, hfront⟩ := hascending
  exact ⟨front, back, hsplit,
    fun c hc => ⟨hfront c hc _ List.mem_cons_self, hrecorded c (by simp [hc])⟩,
    fun c hc => ⟨hback c hc, hrecorded c (by simp [hc])⟩⟩

theorem estimate_of_target {b : Block K} (h : target? lines line = some b) :
    estimate (anchorsOn d lines) line = .ok (.anchor (anchorAt d line b)) := by
  obtain ⟨front, back, hsplit, hfront, hback⟩ := anchorsOn_eq_append (d := d) h
  rw [hsplit]
  exact estimate_at (a := anchorAt d line b) (fun c hc => (hfront c hc).1) fun c hc => (hback c hc).1

theorem estimate_of_first {first : Int} {b : Block K} (hb : target? lines first = some b)
    (hfirst : ∀ l ∈ lines.keys, first ≤ l) (h : line < first) :
    estimate (anchorsOn d lines) line = .ok (.anchor (anchorAt d first b)) := by
  obtain ⟨front, back, hsplit, hfront, -⟩ := anchorsOn_eq_append (d := d) hb
  have hempty : front = [] := List.eq_nil_iff_forall_not_mem.mpr fun c hc =>
    absurd (hfront c hc).1 (not_lt.mpr (hfirst _ (hfront c hc).2))
  rw [hempty, List.nil_append] at hsplit
  rw [hsplit]
  refine estimate_before fun c hc => h.trans_le (hfirst _ ?_)
  exact line_mem_of_mem_anchorsOn (hsplit ▸ hc)

theorem estimate_of_last {last : Int} {b : Block K} (hb : target? lines last = some b)
    (hlast : ∀ l ∈ lines.keys, l ≤ last) (h : last < line) :
    estimate (anchorsOn d lines) line = .ok (.anchor (anchorAt d last b)) := by
  obtain ⟨front, back, hsplit, -, hback⟩ := anchorsOn_eq_append (d := d) hb
  have hempty : back = [] := List.eq_nil_iff_forall_not_mem.mpr fun c hc =>
    absurd (hback c hc).1 (not_lt.mpr (hlast _ (hback c hc).2))
  rw [hempty] at hsplit
  rw [hsplit]
  refine estimate_behind fun c hc => lt_of_le_of_lt (hlast _ ?_) h
  exact line_mem_of_mem_anchorsOn (hsplit ▸ hc)

theorem estimate_of_neighbours {before next : Int} {above below : Block K}
    (h : AreNeighbours lines before next) (ha : target? lines before = some above)
    (hb : target? lines next = some below) (hpage : above.page = below.page) (hbefore : before < line)
    (hnext : line < next) :
    estimate (anchorsOn d lines) line =
      (Scalar.ratio (line - before) (next - before)).map fun t =>
        .between above.page (above.bottom + d.offsetY +
          t * (below.bottom + d.offsetY - (above.bottom + d.offsetY))) := by
  obtain ⟨front, back, hsplit, hfront, hback⟩ := anchorsOn_eq_append (d := d) ha
  have hmem : anchorAt d next below ∈ back := by
    have hmem : anchorAt d next below ∈ anchorsOn d lines := mem_anchorsOn.mpr ⟨below, hb, rfl⟩
    rw [hsplit] at hmem
    rcases List.mem_append.mp hmem with hmem | hmem
    · exact absurd (hfront _ hmem).1 (not_lt.mpr h.lt.le)
    · rcases List.mem_cons.mp hmem with hsame | hmem
      · exact absurd (congrArg Anchor.line hsame) h.lt.ne'
      · exact hmem
  obtain ⟨between, behind, rfl⟩ := List.append_of_mem hmem
  have hascending := anchorsOn_ascending d lines
  rw [hsplit, List.pairwise_append, List.pairwise_cons, List.pairwise_append, List.pairwise_cons]
    at hascending
  obtain ⟨-, ⟨-, -, ⟨hbehind, -⟩, hbetween⟩, -⟩ := hascending
  -- No recorded line, so no anchor, lies between the neighbours.
  have hempty : between = [] := by
    refine List.eq_nil_iff_forall_not_mem.mpr fun c hc => ?_
    obtain ⟨hlt, hrecorded⟩ := hback c (List.mem_append_left _ hc)
    have hlt' : c.line < next := hbetween c hc _ List.mem_cons_self
    rcases h.gap c.line hrecorded with hle | hle <;> omega
  rw [hsplit, hempty, List.nil_append, List.append_cons, estimate_between (fun c hc => ?_) fun c hc => ?_]
  · exact if_pos hpage
  · rcases List.mem_append.mp hc with hc | hc
    · exact (hfront c hc).1.trans hbefore
    · rw [List.mem_singleton.mp hc]
      exact hbefore
  · rcases List.mem_cons.mp hc with rfl | hc
    · exact hnext
    · exact hnext.trans (hbehind c hc)

/-- A line that is recorded, or not behind any recorded line, or not before any. -/
def IsAnchored (lines : Lines K) (line : Int) : Prop :=
  line ∈ lines.keys ∨ (∀ l ∈ lines.keys, line ≤ l) ∨ ∀ l ∈ lines.keys, l ≤ line

/-- The estimate and the position of such a line come from one block. -/
theorem IsAnchored.agree (h : IsAnchored lines line) (hne : lines.keys ≠ [])
    (htargets : ∀ l ∈ lines.keys, target? lines l ≠ none) : ∃ recorded b,
      target? lines recorded = some b ∧
        estimate (anchorsOn d lines) line = .ok (.anchor (anchorAt d recorded b)) ∧
        positionOn d lines line = .ok (some (positionOf d b)) := by
  have htarget {l : Int} (hl : l ∈ lines.keys) : ∃ b, target? lines l = some b :=
    Option.ne_none_iff_exists'.mp (htargets l hl)
  by_cases hmem : line ∈ lines.keys
  · obtain ⟨b, hb⟩ := htarget hmem
    exact ⟨line, b, hb, estimate_of_target hb, by rw [positionOn_of_mem d hmem, hb]; rfl⟩
  rcases h with h | h | h
  · exact absurd h hmem
  · obtain ⟨first, hfirst⟩ := Option.isSome_iff_exists.mp (List.isSome_min?_of_ne_nil hne)
    obtain ⟨hrecorded, hleast⟩ := List.min?_eq_some_iff.mp hfirst
    have hlt : line < first := lt_of_le_of_ne (h first hrecorded) fun he => hmem (he ▸ hrecorded)
    obtain ⟨b, hb⟩ := htarget hrecorded
    exact ⟨first, b, hb, estimate_of_first hb hleast hlt,
      by rw [positionOn_of_first d hrecorded hleast hlt, hb]; rfl⟩
  · obtain ⟨last, hlast⟩ := Option.isSome_iff_exists.mp (List.isSome_max?_of_ne_nil hne)
    obtain ⟨hrecorded, hgreatest⟩ := List.max?_eq_some_iff.mp hlast
    have hlt : last < line := lt_of_le_of_ne (h last hrecorded) fun he => hmem (he ▸ hrecorded)
    obtain ⟨b, hb⟩ := htarget hrecorded
    exact ⟨last, b, hb, estimate_of_last hb hgreatest hlt,
      by rw [positionOn_of_last d hrecorded hgreatest hlt, hb]; rfl⟩

/-- The height of an anchor is no distance away from itself. -/
theorem anchorAt_y_sub_self [Scalar.HasDifferences K] {working : Path.WorkingDirectory} {source body : Text}
    {b : Block K} (hd : Document.ofText body = .ok d) (hl : linesOf? working source d = some lines)
    (hb : target? lines line = some b) : (anchorAt d line b).y - (anchorAt d line b).y = 0 := by
  obtain ⟨path, page, hindexed⟩ := isIndexed_of_target? hl hb
  obtain ⟨hoffsets, hplaces⟩ := Document.isLength_of_ofText hd
  exact Scalar.sub_self_of_isLength (hplaces path line page b hindexed).2 hoffsets.offsetY

/-- Interpolating between shifted heights is shifting what was interpolated between the heights. -/
theorem interpolate_shifted (exact : Scalar.Exact K) (y z t o : K) :
    y + o + t * (z + o - (y + o)) = y + (z - y) * t + o := by
  apply exact.value_injective
  simp only [exact.value_add, exact.value_sub, exact.value_mul]
  ring

/-- Between heights that are the same there is nothing to interpolate. -/
theorem interpolate_level (exact : Scalar.Exact K) {y z : K} (hle : y ≤ z) (hlt : ¬ y < z) (t o : K) :
    y + o + t * (z + o - (y + o)) = z + o := by
  have hsame : exact.value y = exact.value z :=
    le_antisymm (exact.le_iff.mp hle) (not_lt.mp fun h => hlt (exact.lt_iff.mpr h))
  rw [exact.value_injective hsame, interpolate_shifted exact]
  apply exact.value_injective
  simp only [exact.value_add, exact.value_sub, exact.value_mul]
  ring

theorem agree_of_neighbours [Scalar.HasProportions K] {before next : Int} {above below : Block K}
    (h : AreNeighbours lines before next) (ha : target? lines before = some above)
    (hb : target? lines next = some below) (hpage : above.page = below.page)
    (hle : above.bottom ≤ below.bottom) (hbefore : before < line) (hnext : line < next) :
    ∃ e p, estimate (anchorsOn d lines) line = .ok e ∧ positionOn d lines line = .ok (some p) ∧
      e.page = p.page ∧ ∀ _ : Scalar.Exact K, e.y = p.y := by
  obtain ⟨t, ht⟩ := Scalar.ratio_of_lt (K := K) (Int.sub_pos_of_lt hbefore) (Int.sub_lt_sub_right hnext before)
  rw [estimate_of_neighbours h ha hb hpage hbefore hnext, positionOn_between d h hbefore hnext ha hb, ht]
  by_cases hlt : above.bottom < below.bottom
  · rw [if_pos hlt]
    exact ⟨_, _, rfl, rfl, hpage, fun exact => interpolate_shifted exact _ _ _ _⟩
  · rw [if_neg hlt]
    exact ⟨_, _, rfl, rfl, hpage, fun exact => interpolate_level exact hle hlt _ _⟩

end

/-- The estimate from the line map agrees with the position of a line, given that every recorded line has
something to navigate to. At recorded lines and outside of them both are one place, with the very same
height; in a document that was read it is no distance away from itself. Between neighbours whose places
are on one page, the later one not above the earlier one, both are on that page, and with exact numbers
at one height. -/
theorem estimate_agrees_with_forward [Scalar.HasProportions K] [Scalar.HasDifferences K] (nav : Navigator)
    (fs : Files) (source : Text) (slot : Slot K) {d : Document K}
    (hd : (nav.load fs source slot).result = .ok (some d)) {lines : Lines K}
    (hl : linesOf? fs.working source d = some lines) (hne : lines.keys ≠ [])
    (htargets : ∀ l ∈ lines.keys, target? lines l ≠ none) :
    ∃ entries, (nav.lineMap fs source slot).result = .ok entries ∧
      (∀ line, IsAnchored lines line → ∃ e p, estimate entries line = .ok e ∧
        (nav.forward fs source line slot).result = .ok (some p) ∧ e.page = p.page ∧ e.y = p.y ∧
          ∀ body, Document.ofText body = .ok d → p.y - e.y = 0) ∧
      ∀ before next above below, AreNeighbours lines before next → target? lines before = some above →
        target? lines next = some below → above.page = below.page → above.bottom ≤ below.bottom →
          ∀ line, before < line → line < next → ∃ e p, estimate entries line = .ok e ∧
            (nav.forward fs source line slot).result = .ok (some p) ∧ e.page = p.page ∧
              ∀ _ : Scalar.Exact K, e.y = p.y := by
  have hforward (line : Int) : (nav.forward fs source line slot).result = positionOn d lines line := by
    rw [Navigator.forward_of_load hd, position, hl]
  simp only [hforward]
  refine ⟨anchorsOn d lines, ?_, fun line hline => ?_, ?_⟩
  · rw [Navigator.lineMap_of_load hd, anchors, hl]
  · obtain ⟨recorded, b, hb, hestimate, hposition⟩ := hline.agree (d := d) hne htargets
    exact ⟨_, _, hestimate, hposition, rfl, rfl, fun body hbody => anchorAt_y_sub_self hbody hl hb⟩
  · intro before next above below h ha hb hpage hle line hbefore hnext
    exact agree_of_neighbours h ha hb hpage hle hbefore hnext

/-- Lines 10 and 20 at heights 100 and 200 of one page. -/
def onePage : Outline where
  version := ['1']
  files := .ofList [(1, "a.tex".toList)]
  offsetX := 0
  offsetY := 6578176
  pages := .ofList [
    (1, .box ⟨.vertical, 1, 1, 0, 0, 0, 0, 0⟩ (.element ⟨'x', 1, 10, 0, 6578176, none⟩
      (.element ⟨'x', 1, 20, 0, 13156352, none⟩ .nil)) .nil)]

def onePageFiles : Files :=
  ({} : Files).write "/a.sync".toList (.bytes (onePage.text.map fun c => UInt8.ofNat c.toNat))

def onePageLines (K : Type) [Scalar K] : Lines K :=
  ((onePage.document : Document K).index.get? "a.tex".toList).getD .empty

def onePageElement (K : Type) [Scalar K] (line : Nat) (bottom : Int) : Block K :=
  let box : Block K := BoxOutline.block ⟨.vertical, 1, 1, 0, 0, 0, 0, 0⟩ onePage.files 1 none
  { role := .element ['x'], fileNumber := 1, file := some "a.tex".toList, line, left := coordinate 0
    bottom := coordinate bottom, height := box.height, page := 1, enclosing := some box }

/-- Behind the last line doubles agree, and between the lines real numbers do. -/
theorem onePage_estimated :
    (∃ entries e p,
      (({} : Navigator).lineMap onePageFiles "/a.tex".toList (none : Slot Float)).result = .ok entries ∧
        estimate entries 25 = .ok e ∧
        (({} : Navigator).forward onePageFiles "/a.tex".toList 25 (none : Slot Float)).result = .ok (some p) ∧
        e.page = p.page ∧ e.y = p.y ∧ p.y - e.y = 0) ∧
      ∃ entries e p,
        (({} : Navigator).lineMap onePageFiles "/a.tex".toList (none : Slot ℝ)).result = .ok entries ∧
          estimate entries 15 = .ok e ∧
          (({} : Navigator).forward onePageFiles "/a.tex".toList 15 (none : Slot ℝ)).result = .ok (some p) ∧
          e.page = p.page ∧ e.y = p.y := by
  constructor
  · obtain ⟨entries, hentries, hanchored, -⟩ := estimate_agrees_with_forward {} onePageFiles "/a.tex".toList
      (none : Slot Float) (d := onePage.document) rfl (rfl : _ = some (onePageLines Float)) (by decide) (by decide)
    obtain ⟨e, p, hestimate, hforward, hpage, hy, hzero⟩ := hanchored 25 (.inr (.inr (by decide)))
    exact ⟨entries, e, p, hentries, hestimate, hforward, hpage, hy, hzero onePage.text rfl⟩
  · obtain ⟨entries, hentries, -, hbetween⟩ := estimate_agrees_with_forward {} onePageFiles "/a.tex".toList
      (none : Slot ℝ) (d := onePage.document) rfl (rfl : _ = some (onePageLines ℝ)) (by decide) (by decide)
    have hneighbours : AreNeighbours (onePageLines ℝ) 10 20 := by constructor <;> decide
    have hheights : (onePageElement ℝ 10 6578176).bottom ≤ (onePageElement ℝ 20 13156352).bottom := by
      show ((6578176 : Int) : ℝ) / 65781.76 ≤ ((13156352 : Int) : ℝ) / 65781.76
      norm_num
    obtain ⟨e, p, hestimate, hforward, hpage, hy⟩ := hbetween 10 20 (onePageElement ℝ 10 6578176)
      (onePageElement ℝ 20 13156352) hneighbours rfl rfl rfl hheights 15 (by decide) (by decide)
    exact ⟨entries, e, p, hentries, hestimate, hforward, hpage, hy Scalar.exactReal⟩

end TypesetTrace.Alignment
