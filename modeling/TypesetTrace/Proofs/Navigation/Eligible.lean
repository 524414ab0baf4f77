import TypesetTrace.Proofs.Navigation.LineMap
import TypesetTrace.Proofs.Navigation.Scan
import TypesetTrace.Proofs.Sync.Coherence

/-! Kerns, rules and boxes do not steer navigation: every answer comes from an element that shows text,
and a document without the others gives the same answers. -/
namespace TypesetTrace.Sync
variable {K : Type}

/-- The lines of a file with nothing but eligible blocks. Lists may become empty, but stay. -/
def eligibleLines (lines : Lines K) : Lines K :=
  lines.mapValues fun pages => pages.mapValues (List.filter Block.isEligible)

def Document.onlyEligible (d : Document K) : Document K :=
  { d with index := d.index.mapValues eligibleLines }

/-- The page shows the text of a block that is indexed on it, under the file and the line it comes with. -/
def Document.Shows (d : Document K) (page : Int) (c : Text × Int × Block K) : Prop :=
  d.IsIndexed c.1 c.2.1 page c.2.2 ∧ c.2.2.ShowsText

end TypesetTrace.Sync

namespace TypesetTrace.Navigation
open Sync
variable {K : Type}

theorem firstEligible?_filter (pages : Keyed Int (List (Block K))) :
    firstEligible? (pages.mapValues (List.filter Block.isEligible)) = firstEligible? pages := by
  rw [firstEligible?, firstEligible?, Keyed.keys_mapValues]
  cases pages.keys.min? with
  | none => rfl
  | some lowest =>
    rw [Option.bind_eq_bind, Option.bind_some, Option.bind_eq_bind, Option.bind_some, Keyed.get?_mapValues]
    cases pages.get? lowest with
    | none => rfl
    | some bucket =>
      show (bucket.filter Block.isEligible).find? Block.isEligible = bucket.find? Block.isEligible
      simp [List.find?_filter]

theorem target?_eligibleLines (lines : Lines K) : target? (eligibleLines lines) = target? lines := by
  funext line
  rw [target?, target?, eligibleLines, Keyed.get?_mapValues]
  cases lines.get? line with
  | none => rfl
  | some pages => exact firstEligible?_filter pages

theorem linesOf?_onlyEligible (working : Path.WorkingDirectory) (source : Text) (d : Document K) :
    linesOf? working source d.onlyEligible = (linesOf? working source d).map eligibleLines := by
  have hpath : recordedPath? working source d.onlyEligible = recordedPath? working source d := by
    rw [recordedPath?, recordedPath?, Document.onlyEligible, Keyed.keys_mapValues]
  rw [linesOf?, linesOf?, hpath]
  cases recordedPath? working source d with
  | none => rfl
  | some path => exact Keyed.get?_mapValues eligibleLines d.index path

theorem blocksOn_onlyEligible (page : Int) (d : Document K) :
    blocksOn page d.onlyEligible.index = blocksOn page d.index := by
  rw [blocksOn, blocksOn, Document.onlyEligible, Keyed.pairs_mapValues, List.flatMap_map]
  congr 1
  funext entry
  simp only [eligibleLines, Keyed.pairs_mapValues, List.flatMap_map]
  congr 1
  funext recorded
  simp only [Keyed.get?_mapValues]
  cases recorded.2.get? page with
  | none => rfl
  | some bucket => simp [List.filter_filter]

/-- The blocks of a page are those that show text and are indexed on it. -/
theorem mem_blocksOn_iff {page : Int} {d : Document K} {c : Text × Int × Block K} :
    c ∈ blocksOn page d.index ↔ d.Shows page c := by
  simp only [blocksOn, List.mem_flatMap, List.mem_map, List.mem_filter]
  constructor
  · rintro ⟨⟨path, lines⟩, hpath, ⟨line, pages⟩, hline, b, ⟨hb, htext⟩, rfl⟩
    cases hpage : pages.get? page with
    | none => rw [hpage] at hb; cases hb
    | some bucket =>
      rw [hpage] at hb
      exact ⟨⟨lines, pages, bucket, Keyed.mem_pairs_iff.mp hpath, Keyed.mem_pairs_iff.mp hline, hpage, hb⟩,
        Block.isEligible_iff.mp htext⟩
  · obtain ⟨path, line, b⟩ := c
    rintro ⟨⟨lines, pages, bucket, hpath, hline, hpage, hb⟩, htext⟩
    refine ⟨(path, lines), Keyed.mem_pairs_iff.mpr hpath, (line, pages), Keyed.mem_pairs_iff.mpr hline, b,
      ⟨?_, Block.isEligible_iff.mpr htext⟩, rfl⟩
    rw [hpage]
    exact hb

variable [Scalar K]

theorem isIndexed_of_origin? {fs : Files} {source : Text} {page : Int} {x y : K} {d : Document K}
    {o : Origin} (h : origin? fs source page x y d = some o) :
    ∃ path b, d.IsIndexed path o.line page b ∧ b.ShowsText ∧
      o.file = Path.absolute fs.working (Path.join (Path.directory (Path.absolute fs.working source)) path) := by
  simp only [origin?] at h
  split at h
  · cases h
  · rename_i hnamed
    split at h <;> cases h
    rcases Best.foldl_consider_eq (x - d.offsetX) (y - d.offsetY) (blocksOn page d.index) Best.none with
      hnone | ⟨⟨path, line, b⟩, hc, hfound⟩
    · exact absurd (congrArg Best.file hnone) hnamed
    · have hfile : (bestAt d page x y).file = path := congrArg Best.file hfound
      have hline : (bestAt d page x y).line = line := congrArg Best.line hfound
      obtain ⟨hindexed, htext⟩ := mem_blocksOn_iff.mp hc
      refine ⟨path, b, ?_, htext, ?_⟩
      · rwa [hline]
      · rw [hfile]

/-- A position depends on the recorded lines, their targets and the offsets only. -/
theorem positionOn_congr {d d' : Document K} (hx : d'.offsetX = d.offsetX) (hy : d'.offsetY = d.offsetY)
    {lines lines' : Lines K} (hkeys : lines'.keys = lines.keys) (htarget : target? lines' = target? lines)
    (line : Int) : positionOn d' lines' line = positionOn d lines line := by
  have hposition : positionOf d' = positionOf d := by
    funext b
    rw [positionOf, positionOf, hx, hy]
  simp only [positionOn, lineFrom?, lineBefore?, hkeys, htarget, hposition, hx, hy]

theorem position_onlyEligible (working : Path.WorkingDirectory) (source : Text) (line : Int) (d : Document K) :
    position working source line d.onlyEligible = position working source line d := by
  rw [position, position, linesOf?_onlyEligible]
  cases linesOf? working source d with
  | none => rfl
  | some lines =>
    exact positionOn_congr rfl rfl (Keyed.keys_mapValues _ lines) (target?_eligibleLines lines) line

theorem anchors_onlyEligible (working : Path.WorkingDirectory) (source : Text) (d : Document K) :
    anchors working source d.onlyEligible = anchors working source d := by
  rw [anchors, anchors, linesOf?_onlyEligible]
  cases linesOf? working source d with
  | none => rfl
  | some lines =>
    show anchorsOn d.onlyEligible (eligibleLines lines) = anchorsOn d lines
    rw [anchorsOn, anchorsOn, target?_eligibleLines, eligibleLines, Keyed.keys_mapValues]
    rfl

theorem origin?_onlyEligible (fs : Files) (source : Text) (page : Int) (x y : K) (d : Document K) :
    origin? fs source page x y d.onlyEligible = origin? fs source page x y d := by
  have hbest : bestAt d.onlyEligible page x y = bestAt d page x y := by
    rw [bestAt, bestAt, blocksOn_onlyEligible]
    rfl
  rw [origin?, origin?, hbest]

/-- Every position and every anchor comes from an element that shows text and stands on the lowest page
of a recorded line, and every origin names the file and the line under which such an element of the
page is indexed; in a document that was read these are its own. Where a document has nothing else the
answers are the same. -/
theorem Navigator.answers_from_eligible (nav : Navigator) (fs : Files) (source : Text)
    {slot : Slot K} {d : Document K} (hd : (nav.load fs source slot).result = .ok (some d)) :
    (∀ line p, (nav.forward fs source line slot).result = .ok (some p) →
        ∃ lines recorded b, linesOf? fs.working source d = some lines ∧ IsTarget lines recorded b ∧
          p.page = b.page ∧ p.x = b.left + d.offsetX) ∧
      (∀ entries, (nav.lineMap fs source slot).result = .ok entries → ∀ a ∈ entries,
        ∃ lines b, linesOf? fs.working source d = some lines ∧ IsTarget lines a.line b ∧
          a.page = b.page ∧ a.y = b.bottom + d.offsetY) ∧
      (∀ page x y o, (nav.inverse fs source page x y slot).result = .ok (some o) →
        ∃ path b, d.IsIndexed path o.line page b ∧ b.ShowsText ∧
          o.file = Path.absolute fs.working (Path.join (Path.directory (Path.absolute fs.working source)) path) ∧
          ∀ body, Document.ofText body = .ok d →
            b.file = some path ∧ b.line = o.line ∧ b.page = page) ∧
      ∀ slot' : Slot K, (nav.load fs source slot').result = .ok (some d.onlyEligible) →
        (∀ line, (nav.forward fs source line slot').result =
            (nav.forward fs source line slot).result) ∧
          (nav.lineMap fs source slot').result = (nav.lineMap fs source slot).result ∧
          ∀ page x y, (nav.inverse fs source page x y slot').result =
            (nav.inverse fs source page x y slot).result := by
  refine ⟨fun line p hp => ?_, fun entries hentries a ha => ?_, fun page x y o ho => ?_,
    fun slot' hd' => ⟨fun line => ?_, ?_, fun page x y => ?_⟩⟩
  · rw [forward_of_load hd, position] at hp
    cases hl : linesOf? fs.working source d with
    | none => rw [hl] at hp; cases hp
    | some lines =>
      rw [hl] at hp
      obtain ⟨recorded, b, hb, hsame⟩ := target?_of_positionOn hp
      exact ⟨lines, recorded, b, rfl, isTarget_of_target? hb, hsame⟩
  · rw [lineMap_of_load hd] at hentries
    cases hentries
    cases hl : linesOf? fs.working source d with
    | none => rw [anchors, hl] at ha; cases ha
    | some lines =>
      rw [anchors, hl] at ha
      obtain ⟨b, hb, he⟩ := mem_anchorsOn.mp ha
      exact ⟨lines, b, rfl, isTarget_of_target? hb, congrArg Anchor.page he, congrArg Anchor.y he⟩
  · rw [inverse_of_load hd] at ho
    obtain ⟨path, b, hindexed, htext, hfile⟩ := isIndexed_of_origin? (Except.ok.inj ho)
    refine ⟨path, b, hindexed, htext, hfile, fun body hbody => ?_⟩
    have hentry := (Document.everyEntry_of_ofText hbody).of_isIndexed hindexed
    exact ⟨hentry.file_eq, hentry.line_eq, hentry.page_eq⟩
  · rw [forward_of_load hd, forward_of_load hd', position_onlyEligible]
  · rw [lineMap_of_load hd, lineMap_of_load hd', anchors_onlyEligible]
  · rw [inverse_of_load hd, inverse_of_load hd', origin?_onlyEligible]

/-- The slot with nothing but what shows text of the spaced lines. -/
def spacedSlot : Slot Float := some ("/a.tex".toList, (spaced.document : Document Float).onlyEligible)

private theorem spaced_position : ∃ p,
    (({} : Navigator).forward spacedFiles "/a.tex".toList 6 (none : Slot Float)).result =
      .ok (some p) :=
  ⟨_, rfl⟩

private theorem spaced_origin :
    (({} : Navigator).inverse spacedFiles "/a.tex".toList 2 0.0 100.0 (none : Slot Float)).result =
      .ok (some ⟨"/a.tex".toList, 8, 0⟩) := by
  rw [Navigator.inverse_of_load spaced_loaded]
  exact congrArg Except.ok (by decide +kernel)

theorem answers_spaced :
    (({} : Navigator).load spacedFiles "/a.tex".toList (none : Slot Float)).result =
        .ok (some spaced.document) ∧
      (({} : Navigator).load spacedFiles "/a.tex".toList spacedSlot).result =
        .ok (some (spaced.document : Document Float).onlyEligible) ∧
      (∃ p lines recorded b,
        (({} : Navigator).forward spacedFiles "/a.tex".toList 6 (none : Slot Float)).result =
            .ok (some p) ∧
          linesOf? .usual "/a.tex".toList (spaced.document : Document Float) = some lines ∧
          IsTarget lines recorded b ∧ p.page = b.page) ∧
      (∃ path b, (spaced.document : Document Float).IsIndexed path 8 2 b ∧ b.ShowsText) ∧
      (({} : Navigator).inverse spacedFiles "/a.tex".toList 2 0.0 100.0 spacedSlot).result =
        (({} : Navigator).inverse spacedFiles "/a.tex".toList 2 0.0 100.0 none).result := by
  have honly : (({} : Navigator).load spacedFiles "/a.tex".toList spacedSlot).result =
      .ok (some (spaced.document : Document Float).onlyEligible) := rfl
  obtain ⟨hforward, -, hinverse, hsame⟩ :=
    Navigator.answers_from_eligible {} spacedFiles "/a.tex".toList spaced_loaded
  obtain ⟨p, hp⟩ := spaced_position
  obtain ⟨lines, recorded, b, hl, hb, hpage, -⟩ := hforward 6 p hp
  obtain ⟨path, e, hindexed, htext, -⟩ := hinverse 2 0.0 100.0 _ spaced_origin
  exact ⟨spaced_loaded, honly, ⟨p, lines, recorded, b, hp, hl, hb, hpage⟩,
    ⟨path, e, hindexed, htext⟩, (hsame spacedSlot honly).2.2 2 0.0 100.0⟩

end TypesetTrace.Navigation
