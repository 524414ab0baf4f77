import TypesetTrace.Proofs.Navigation.Between
import TypesetTrace.Proofs.Navigation.Targets

/-! The anchors of a source file against the positions of its lines: one anchor for each recorded line
that has a position, at that position. -/
namespace TypesetTrace.Navigation
open Sync
variable {K : Type} [Scalar K] {d : Document K} {lines : Lines K}

theorem mem_anchorsOn {a : Anchor K} :
    a ∈ anchorsOn d lines ↔
      ∃ b, target? lines a.line = some b ∧ a = ⟨a.line, b.page, b.bottom + d.offsetY⟩ := by
  rw [anchorsOn, List.mem_filterMap]
  constructor
  · rintro ⟨line, -, h⟩
    obtain ⟨b, hb, rfl⟩ := Option.map_eq_some_iff.mp h
    exact ⟨b, hb, rfl⟩
  · rintro ⟨b, hb, ha⟩
    refine ⟨a.line, List.mem_mergeSort.mpr (mem_keys_of_target? hb), ?_⟩
    rw [hb, ha]
    rfl

theorem anchorsOn_ascending (d : Document K) (lines : Lines K) :
    (anchorsOn d lines).Pairwise fun a b => a.line < b.line := by
  have hsorted : (lines.keys.mergeSort fun a b => a ≤ b).Pairwise fun a b => decide (a ≤ b) :=
    List.pairwise_mergeSort (by simpa using fun a b c => Int.le_trans)
      (by simpa using Int.le_total) lines.keys
  have hdistinct : (lines.keys.mergeSort fun a b => a ≤ b).Nodup :=
    (List.mergeSort_perm _ _).nodup_iff.mpr lines.distinct
  have hascending : (lines.keys.mergeSort fun a b => a ≤ b).Pairwise (· < ·) := by
    refine (hsorted.and hdistinct).imp fun ⟨hle, hne⟩ => ?_
    have hle := of_decide_eq_true hle
    omega
  refine hascending.filterMap _ fun l m hlt a ha b hb => ?_
  obtain ⟨_, -, rfl⟩ := Option.map_eq_some_iff.mp ha
  obtain ⟨_, -, rfl⟩ := Option.map_eq_some_iff.mp hb
  exact hlt

/-- A recorded line has an anchor exactly if it has a position, and both say the same. -/
theorem mem_anchorsOn_iff_position {line : Int} (h : line ∈ lines.keys) :
    ∃ found, positionOn d lines line = .ok found ∧
      ∀ a : Anchor K, a.line = line →
        (a ∈ anchorsOn d lines ↔ ∃ p, found = some p ∧ a.page = p.page ∧ a.y = p.y) := by
  refine ⟨_, positionOn_of_mem d h, fun a ha => ?_⟩
  subst ha
  rw [mem_anchorsOn]
  constructor
  · rintro ⟨b, hb, ha⟩
    refine ⟨positionOf d b, by rw [hb]; rfl, ?_, ?_⟩ <;> rw [ha] <;> rfl
  · rintro ⟨p, hp, hpage, hy⟩
    obtain ⟨b, hb, rfl⟩ := Option.map_eq_some_iff.mp hp
    refine ⟨b, hb, ?_⟩
    cases a
    cases hpage
    cases hy
    rfl

/-- The anchors of a source file ascend and belong to recorded lines. A recorded line has one exactly if
it has a position, with the same page and height. Lines behind the last recorded one have its
position, and lines before the first one the position of that. -/
theorem Navigator.lineMap_agrees_with_forward (nav : Navigator) (fs : Files) (source : Text)
    (slot : Slot K) {d : Document K} (hd : (nav.load fs source slot).result = .ok (some d)) :
    ∃ entries, (nav.lineMap fs source slot).result = .ok entries ∧
      (entries.Pairwise fun a b => a.line < b.line) ∧
      (∀ a ∈ entries, ∃ lines, linesOf? fs.working source d = some lines ∧ a.line ∈ lines.keys) ∧
      ∀ lines, linesOf? fs.working source d = some lines →
        (∀ line ∈ lines.keys, ∃ found, (nav.forward fs source line slot).result = .ok found ∧
          ((∃ a ∈ entries, a.line = line) ↔ found ≠ none) ∧
          ∀ a ∈ entries, a.line = line → ∀ p ∈ found, a.page = p.page ∧ a.y = p.y) ∧
        (∀ last ∈ lines.keys, (∀ l ∈ lines.keys, l ≤ last) → ∀ line, last < line →
          (nav.forward fs source line slot).result = (nav.forward fs source last slot).result) ∧
        ∀ first ∈ lines.keys, (∀ l ∈ lines.keys, first ≤ l) → ∀ line, line < first →
          (nav.forward fs source line slot).result = (nav.forward fs source first slot).result := by
  refine ⟨anchors fs.working source d, lineMap_of_load hd, ?_⟩
  cases hl : linesOf? fs.working source d with
  | none =>
    have hempty : anchors fs.working source d = [] := by rw [anchors, hl]
    rw [hempty]
    refine ⟨.nil, fun a ha => ?_, fun lines h => ?_⟩
    · cases ha
    · cases h
  | some lines =>
    have hentries : anchors fs.working source d = anchorsOn d lines := by rw [anchors, hl]
    have hforward (line : Int) :
        (nav.forward fs source line slot).result = positionOn d lines line := by
      rw [forward_of_load hd, position, hl]
    rw [hentries]
    refine ⟨anchorsOn_ascending d lines, fun a ha => ?_, fun _ h => ?_⟩
    · obtain ⟨b, hb, -⟩ := mem_anchorsOn.mp ha
      exact ⟨lines, rfl, mem_keys_of_target? hb⟩
    cases h
    simp only [hforward]
    refine ⟨fun line hline => ?_, fun last hmem hlast line hlt => ?_, fun first hmem hfirst line hlt => ?_⟩
    · obtain ⟨found, hfound, hiff⟩ := mem_anchorsOn_iff_position (d := d) hline
      refine ⟨found, hfound, ⟨?_, ?_⟩, ?_⟩
      · rintro ⟨a, ha, hline⟩
        obtain ⟨p, hp, -⟩ := (hiff a hline).mp ha
        rw [hp]
        exact Option.some_ne_none p
      · intro hne
        obtain ⟨p, hp⟩ := Option.ne_none_iff_exists'.mp hne
        exact ⟨⟨line, p.page, p.y⟩, (hiff _ rfl).mpr ⟨p, hp, rfl, rfl⟩, rfl⟩
      · intro a ha hline p hp
        obtain ⟨q, hq, hsame⟩ := (hiff a hline).mp ha
        rw [hq] at hp
        cases hp
        exact hsame
    · rw [positionOn_of_last d hmem hlast hlt, positionOn_of_mem d hmem]
    · rw [positionOn_of_first d hmem hfirst hlt, positionOn_of_mem d hmem]

/-- Line 5 has only a kern, and line 8 stands on the second page, behind a rule. -/
def spaced : Outline where
  version := ['1']
  files := .ofList [(1, "a.tex".toList)]
  offsetX := 0
  offsetY := 0
  pages := .ofList [
    (1, .box ⟨.vertical, 1, 1, 0, 0, 0, 0, 0⟩ (.element ⟨'x', 1, 3, 0, 6578176, none⟩
      (.element ⟨'k', 1, 5, 0, 6578176, some 0⟩ .nil)) .nil),
    (2, .box ⟨.vertical, 1, 1, 0, 0, 0, 0, 0⟩ (.element ⟨'r', 1, 8, 0, 0, none⟩
      (.element ⟨'x', 1, 8, 0, 6578176, none⟩ .nil)) .nil)]

def spacedFiles : Files :=
  (({} : Files).write "/a.tex".toList (.bytes [])).write "/a.sync".toList
    (.bytes (spaced.text.map fun c => UInt8.ofNat c.toNat))

theorem spaced_loaded :
    (({} : Navigator).load spacedFiles "/a.tex".toList (none : Slot Float)).result =
      .ok (some spaced.document) :=
  rfl

theorem lineMap_spaced : ∃ entries,
    (({} : Navigator).load spacedFiles "/a.tex".toList (none : Slot Float)).result =
        .ok (some spaced.document) ∧
      (({} : Navigator).lineMap spacedFiles "/a.tex".toList (none : Slot Float)).result = .ok entries ∧
      (∃ a ∈ entries, a.line = 8) ∧ (¬ ∃ a ∈ entries, a.line = 5) ∧
      (({} : Navigator).forward spacedFiles "/a.tex".toList 9 (none : Slot Float)).result =
        (({} : Navigator).forward spacedFiles "/a.tex".toList 8 (none : Slot Float)).result := by
  obtain ⟨entries, hentries, -, -, h⟩ :=
    Navigator.lineMap_agrees_with_forward {} spacedFiles "/a.tex".toList none spaced_loaded
  obtain ⟨hrecorded, hlast, -⟩ :=
    h (((spaced.document : Document Float).index.get? "a.tex".toList).getD .empty) rfl
  obtain ⟨found, hfound, hshown, -⟩ := hrecorded 8 (by decide)
  obtain ⟨missed, hmissed, hkern, -⟩ := hrecorded 5 (by decide)
  refine ⟨entries, spaced_loaded, hentries, hshown.mpr ?_, ?_,
    hlast 8 (by decide) (by decide) 9 (by decide)⟩
  · rintro rfl
    cases hfound
  · rw [hkern, not_not]
    exact Except.ok.inj hmissed.symm

end TypesetTrace.Navigation
