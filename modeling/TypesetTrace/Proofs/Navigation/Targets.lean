import TypesetTrace.Navigation.Navigator
import TypesetTrace.Proofs.Keyed

/-! What a position is made of. Whichever line is asked for, page and left edge come from the target
of one recorded line: the line itself, the next one, or the last. -/
namespace TypesetTrace.Sync
variable {K : Type}

/-- An element that is neither a kern nor a rule. -/
def Block.ShowsText (b : Block K) : Prop :=
  ∃ symbol, b.role = .element symbol ∧ symbol ≠ ['k'] ∧ symbol ≠ ['r']

theorem Block.isEligible_iff {b : Block K} : b.isEligible ↔ b.ShowsText := by
  cases hrole : b.role with
  | box kind => simp [isEligible, ShowsText, hrole]
  | element symbol => simp [isEligible, ShowsText, hrole, isSpacing]

end TypesetTrace.Sync

namespace TypesetTrace.Navigation
open Sync
variable {K : Type}

/-- The block shows text, and stands on the lowest page of a recorded line. -/
def IsTarget (lines : Lines K) (line : Int) (b : Block K) : Prop :=
  ∃ pages lowest bucket, lines.get? line = some pages ∧
    lowest ∈ pages.keys ∧ (∀ page ∈ pages.keys, lowest ≤ page) ∧
    pages.get? lowest = some bucket ∧ b ∈ bucket ∧ b.ShowsText

section
variable {lines : Lines K} {line : Int} {b : Block K}

theorem isTarget_of_target? (h : target? lines line = some b) : IsTarget lines line b := by
  obtain ⟨pages, hpages, h⟩ := Option.bind_eq_some_iff.mp h
  obtain ⟨lowest, hlowest, h⟩ := Option.bind_eq_some_iff.mp h
  obtain ⟨bucket, hbucket, h⟩ := Option.bind_eq_some_iff.mp h
  obtain ⟨hmem, hleast⟩ := List.min?_eq_some_iff.mp hlowest
  have htext : b.ShowsText := Block.isEligible_iff.mp (List.find?_some h)
  exact ⟨pages, lowest, bucket, hpages, hmem, hleast, hbucket, List.mem_of_find?_eq_some h, htext⟩

theorem mem_keys_of_target? (h : target? lines line = some b) : line ∈ lines.keys := by
  obtain ⟨pages, hpages, -⟩ := Option.bind_eq_some_iff.mp h
  exact Keyed.mem_keys_iff.mpr ⟨pages, hpages⟩

theorem lineFrom?_eq_some_iff {next : Int} : lineFrom? lines line = some next ↔
    next ∈ lines.keys ∧ line ≤ next ∧ ∀ l ∈ lines.keys, line ≤ l → next ≤ l := by
  rw [lineFrom?, List.min?_eq_some_iff]
  simp only [List.mem_filter, decide_eq_true_eq, and_imp, and_assoc]

theorem lineBefore?_eq_some_iff {before : Int} : lineBefore? lines line = some before ↔
    before ∈ lines.keys ∧ before < line ∧ ∀ l ∈ lines.keys, l < line → l ≤ before := by
  rw [lineBefore?, List.max?_eq_some_iff]
  simp only [List.mem_filter, decide_eq_true_eq, and_imp, and_assoc]

theorem lineFrom?_eq_none (h : ∀ l ∈ lines.keys, l < line) : lineFrom? lines line = none := by
  rw [lineFrom?, List.min?_eq_none_iff, List.filter_eq_nil_iff]
  intro l hl
  have hlt := h l hl
  simp only [decide_eq_true_eq]
  omega

theorem lineBefore?_eq_none (h : ∀ l ∈ lines.keys, line ≤ l) : lineBefore? lines line = none := by
  rw [lineBefore?, List.max?_eq_none_iff, List.filter_eq_nil_iff]
  intro l hl
  have hle := h l hl
  simp only [decide_eq_true_eq]
  omega

end

variable [Scalar K] {d : Document K} {lines : Lines K} {line : Int}

/-- A recorded line stands where its target does. -/
theorem positionOn_of_mem (d : Document K) (h : line ∈ lines.keys) :
    positionOn d lines line = .ok ((target? lines line).map (positionOf d)) := by
  have hfrom : lineFrom? lines line = some line :=
    lineFrom?_eq_some_iff.mpr ⟨h, Int.le_refl line, fun _ _ hle => hle⟩
  rw [positionOn, hfrom]
  cases lineBefore? lines line with
  | none => rfl
  | some before => exact if_pos rfl

theorem positionOn_of_last (d : Document K) {last : Int} (hmem : last ∈ lines.keys)
    (hlast : ∀ l ∈ lines.keys, l ≤ last) (h : last < line) :
    positionOn d lines line = .ok ((target? lines last).map (positionOf d)) := by
  have hmax : lines.keys.max? = some last := List.max?_eq_some_iff.mpr ⟨hmem, hlast⟩
  rw [positionOn, lineFrom?_eq_none fun l hl => Int.lt_of_le_of_lt (hlast l hl) h, hmax]
  rfl

theorem positionOn_of_first (d : Document K) {first : Int} (hmem : first ∈ lines.keys)
    (hfirst : ∀ l ∈ lines.keys, first ≤ l) (h : line < first) :
    positionOn d lines line = .ok ((target? lines first).map (positionOf d)) := by
  have hle : ∀ l ∈ lines.keys, line ≤ l := fun l hl => Int.le_trans (Int.le_of_lt h) (hfirst l hl)
  have hfrom : lineFrom? lines line = some first :=
    lineFrom?_eq_some_iff.mpr ⟨hmem, hle first hmem, fun l hl _ => hfirst l hl⟩
  rw [positionOn, hfrom, lineBefore?_eq_none hle]

/-- Every position has its page and its left edge from the target of a recorded line. -/
theorem target?_of_positionOn {p : Position K} (h : positionOn d lines line = .ok (some p)) :
    ∃ recorded b, target? lines recorded = some b ∧ p.page = b.page ∧ p.x = b.left + d.offsetX := by
  have hplain {found : Option (Block K)} (hp : found.map (positionOf d) = some p) :
      ∃ b, found = some b ∧ p.page = b.page ∧ p.x = b.left + d.offsetX := by
    obtain ⟨b, hb, rfl⟩ := Option.map_eq_some_iff.mp hp
    exact ⟨b, hb, rfl, rfl⟩
  cases hfrom : lineFrom? lines line with
  | none =>
    rw [positionOn, hfrom] at h
    obtain ⟨b, hb, hp⟩ := hplain (Except.ok.inj h)
    obtain ⟨last, -, hb⟩ := Option.bind_eq_some_iff.mp hb
    exact ⟨last, b, hb, hp⟩
  | some next =>
    refine ⟨next, ?_⟩
    cases hbefore : lineBefore? lines line with
    | none =>
      rw [positionOn, hfrom, hbefore] at h
      exact hplain (Except.ok.inj h)
    | some before =>
      simp only [positionOn, hfrom, hbefore] at h
      split at h
      · exact hplain (Except.ok.inj h)
      · cases hbelow : target? lines next with
        | none => rw [hbelow] at h; cases h
        | some below =>
          rw [hbelow] at h
          cases hheight : heightBetween line before next (target? lines before) below with
          | error fault => simp only [hheight] at h; cases h
          | ok bottom =>
            simp only [hheight] at h
            cases h
            exact ⟨below, rfl, rfl, rfl⟩

namespace Navigator
variable {nav : Navigator} {fs : Files} {source : Text} {slot : Slot K}

theorem forward_of_load (hd : (nav.load fs source slot).result = .ok (some d)) (line : Int) :
    (nav.forward fs source line slot).result = position fs.working source line d := by
  rw [forward, Access.bind, hd]
  rfl

theorem lineMap_of_load (hd : (nav.load fs source slot).result = .ok (some d)) :
    (nav.lineMap fs source slot).result = .ok (anchors fs.working source d) := by
  rw [lineMap, Access.bind, hd]
  rfl

theorem inverse_of_load (hd : (nav.load fs source slot).result = .ok (some d)) (page : Int)
    (x y : K) : (nav.inverse fs source page x y slot).result = .ok (origin? fs source page x y d) := by
  rw [inverse, Access.bind, hd]
  rfl

end Navigator
end TypesetTrace.Navigation
