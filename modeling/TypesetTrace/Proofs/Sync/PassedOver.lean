import TypesetTrace.Proofs.Sync.Agreement
import TypesetTrace.Proofs.Text.Lines

/-! Lines of a file at which nothing happens: those that hold no record, and records that stand where there is
nothing for them to act on. Most records need an open page, and the end of a box and elements need an open box;
without it their numbers are not even looked at. -/
namespace TypesetTrace.Sync
open Text

namespace Record

/-- What a line is tried for, in order: whether one kind of record stands on it. -/
def trials : List (Text → Bool) :=
  [fun s => (find? inputAt? s).isSome, fun s => (find? offsetAt? s).isSome,
    fun s => (find? (pageAt? '\x7b') s).isSome, fun s => (find? (pageAt? '\x7d') s).isSome,
    fun s => (find? (boxAt? .vertical) s).isSome, fun s => (find? (closeAt? .vertical) s).isSome,
    fun s => (find? (closeAt? .horizontal) s).isSome, fun s => (find? (boxAt? .horizontal) s).isSome,
    fun s => (find? elementAt? s).isSome]

/-- A line holds no record if none is found on it in any of the trials. -/
theorem ofLine?_eq_none {s : Text} (h : ∀ isFound ∈ trials, isFound s = false) : ofLine? s = none := by
  simp only [trials, List.forall_mem_cons, Option.isSome_eq_false_iff, Option.isNone_iff_eq_none] at h
  obtain ⟨hinput, hoffset, hopen, hclose, hvertical, hbracket, hparenthesis, hhorizontal, helement, -⟩ := h
  rw [ofLine?, hinput, hoffset, hopen, hclose, hvertical, hbracket, hparenthesis, hhorizontal, helement]
  rfl

/-- Only input files, offsets and pages count where no page is open. -/
def NeedsPage : Record → Prop
  | .input _ _ | .offset _ _ | .openPage _ => False
  | .closePage _ | .openBox _ _ | .closeBox | .element _ => True

def NeedsBox : Record → Prop
  | .closeBox | .element _ => True
  | .input _ _ | .offset _ _ | .openPage _ | .closePage _ | .openBox _ _ => False

instance : DecidablePred NeedsPage
  | .input _ _ | .offset _ _ | .openPage _ => .isFalse id
  | .closePage _ | .openBox _ _ | .closeBox | .element _ => .isTrue trivial

instance : DecidablePred NeedsBox
  | .closeBox | .element _ => .isTrue trivial
  | .input _ _ | .offset _ _ | .openPage _ | .closePage _ | .openBox _ _ => .isFalse id

end Record

variable {K : Type} [Scalar K]

namespace Reading

/-- The line is passed over where the reading has come to. -/
inductive PassesOver (r : Reading K) (line : Text) : Prop where
  | noRecord (h : ∀ isFound ∈ Record.trials, isFound (trimEnd (· == '\r') line) = false)
  | offPage (hpage : r.depth = none) (h : ∀ record ∈ recordOf? line, record.NeedsPage)
  | offBox (hbox : r.depth = some 0) (h : ∀ record ∈ recordOf? line, record.NeedsBox)

variable {r : Reading K}

theorem step_of_needsPage (hpage : r.depth = none) {record : Record} (h : record.NeedsPage) :
    r.step record = .ok r := by
  have hpage : r.page = none := Option.map_eq_none_iff.mp hpage
  cases record with
  | input number path => cases h
  | offset axis value => cases h
  | openPage number => cases h
  | closePage number => rw [step, closePage, hpage]
  | openBox kind f => rw [step, openBox, hpage]
  | closeBox => rw [step, closeBox, hpage]
  | element f => rw [step, addElement, hpage]

theorem step_of_needsBox (hbox : r.depth = some 0) {record : Record} (h : record.NeedsBox) :
    r.step record = .ok r := by
  obtain ⟨p, hpage, hlength⟩ := Option.map_eq_some_iff.mp hbox
  have hstack : p.stack = [] := List.length_eq_zero_iff.mp hlength
  cases record with
  | closeBox =>
    rw [step, closeBox, hpage]
    dsimp only
    rw [hstack]
  | element f =>
    rw [step, addElement, hpage]
    dsimp only
    rw [hstack]
  | _ => cases h

/-- The record on a line that is passed over, if it has one, leaves everything as it was. -/
theorem PassesOver.step {line : Text} (h : r.PassesOver line) :
    ∀ record ∈ recordOf? line, r.step record = .ok r := by
  intro record hrecord
  cases h with
  | noRecord h =>
    rw [recordOf?, Record.ofLine?_eq_none h] at hrecord
    cases hrecord
  | offPage hpage h => exact step_of_needsPage hpage (h record hrecord)
  | offBox hbox h => exact step_of_needsBox hbox (h record hrecord)

theorem run_of_passesOver {lines : List Text} (h : ∀ line ∈ lines, r.PassesOver line) :
    run (lines.filterMap recordOf?) r = .ok r := by
  induction lines with
  | nil => rfl
  | cons line lines ih =>
    obtain ⟨hline, hlines⟩ := List.forall_mem_cons.mp h
    rw [List.filterMap_cons]
    cases hrecord : recordOf? line with
    | none => exact ih hlines
    | some record =>
      dsimp only
      rw [run, hline.step record hrecord]
      exact ih hlines

/-- What was read of a file, up to a place between two lines. -/
def upTo (first : Text) (before : List Text) : Except Stop (Reading K) :=
  run (before.filterMap recordOf?) { document := { Document.blank with version := versionOf first } }

/-- Lines that are passed over change nothing about what is read, also if the reading is given up before
or behind them. -/
theorem upTo_append_passed {first : Text} {before passed : List Text} (after : List Text)
    (h : ∀ r : Reading K, upTo first before = .ok r → ∀ line ∈ passed, r.PassesOver line) :
    (upTo first (before ++ passed ++ after) : Except Stop (Reading K)) = upTo first (before ++ after) := by
  rw [upTo, upTo, List.filterMap_append, List.filterMap_append, List.filterMap_append, run_append_eq,
    run_append_eq, run_append_eq]
  rw [upTo] at h
  cases hrun : run (before.filterMap recordOf?)
      ({ document := { Document.blank with version := versionOf first } } : Reading K) with
  | error stop => rfl
  | ok r =>
    have hpassed := run_of_passesOver (h r hrun)
    show run _ r >>= run _ = run _ r
    rw [hpassed]
    rfl

end Reading

theorem Document.ofText_of_lines {body first : Text} {rest : List Text} (h : lines body = first :: rest) :
    (Document.ofText body : Except Stop (Document K)) = (Reading.upTo first rest).map (·.document) := by
  rw [Document.ofText_eq, recordsOf, Reading.start, h]
  rfl

/-- Lines that are passed over where they stand can be put into a file anywhere below its first line, in any
number: the same document is read, or the reading is given up for the same reason. -/
theorem Document.ofText_insert_passed {body first : Text} {before after passed : List Text}
    (hbody : lines body = first :: (before ++ after)) (hlines : ∀ line ∈ passed, '\n' ∉ line)
    (hpassed : ∀ r : Reading K, Reading.upTo first before = .ok r → ∀ line ∈ passed, r.PassesOver line) :
    (Document.ofText (join ['\n'] (first :: (before ++ passed ++ after))) : Except Stop (Document K)) =
      Document.ofText body := by
  have hinside : ∀ line ∈ first :: (before ++ after), '\n' ∉ line := fun line hline hbreak =>
    absurd (not_mem_of_mem_cutAt (hbody ▸ hline) '\n' hbreak) (by decide)
  have hwith : lines (join ['\n'] (first :: (before ++ passed ++ after))) =
      first :: (before ++ passed ++ after) := by
    apply lines_join (List.cons_ne_nil _ _)
    intro line hline
    rcases List.mem_cons.mp hline with rfl | hline
    · exact hinside line List.mem_cons_self
    · rcases List.mem_append.mp hline with hline | hline
      · rcases List.mem_append.mp hline with hline | hline
        · exact hinside line (List.mem_cons_of_mem _ (List.mem_append_left _ hline))
        · exact hlines line hline
      · exact hinside line (List.mem_cons_of_mem _ (List.mem_append_right _ hline))
  rw [Document.ofText_of_lines hwith, Document.ofText_of_lines hbody, Reading.upTo_append_passed after hpassed]

def boxedLines : List Text := ["Input:1:a.tex", "\x7b1", "[1,1:0,0:0,0,0", "x1,2:3,4", "]", "\x7d1"].map
  String.toList

/-- Records that need a page; the last one has a number that could not be converted. -/
def pagelessLines : List Text := ["]".toList, "\x7d7\r".toList, "x9,9:9,9".toList,
  "(1,1:0,0:".toList ++ List.replicate 400 '9' ++ ",0,0".toList]

theorem Document.ofText_boxedLines :
    (Document.ofText (join ['\n'] ([] :: (boxedLines.take 1 ++ pagelessLines ++ boxedLines.drop 1))) :
        Except Stop (Document Float)) = Document.ofText (join ['\n'] ([] :: boxedLines)) ∧
      (Document.ofText (join ['\n'] ([] :: (boxedLines.take 5 ++ [")".toList, "x1,1:3,4".toList] ++
        boxedLines.drop 5))) : Except Stop (Document Float)) =
          Document.ofText (join ['\n'] ([] :: boxedLines)) := by
  have hlines : lines (join ['\n'] ([] :: boxedLines)) = [] :: boxedLines := by decide +kernel
  have hpage : (Reading.upTo [] (boxedLines.take 1) : Except Stop (Reading Float)).toOption.map Reading.depth =
      some none := rfl
  have hbox : (Reading.upTo [] (boxedLines.take 5) : Except Stop (Reading Float)).toOption.map Reading.depth =
      some (some 0) := rfl
  constructor
  · refine Document.ofText_insert_passed hlines (by decide +kernel) fun r hr line hline => .offPage ?_ ?_
    · rw [hr] at hpage
      exact Option.some.inj hpage
    · revert line
      decide +kernel
  · refine Document.ofText_insert_passed hlines (by decide +kernel) fun r hr line hline => .offBox ?_ ?_
    · rw [hr] at hbox
      exact Option.some.inj hbox
    · revert line
      decide +kernel

end TypesetTrace.Sync
