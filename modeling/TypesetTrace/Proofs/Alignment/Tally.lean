import TypesetTrace.Alignment.Transcript
import TypesetTrace.Proofs.Alignment.Estimation
import TypesetTrace.Proofs.Alignment.Survey
import TypesetTrace.Proofs.Text.Match

/-! The figures of a report as they are printed, each behind a label of its own. Nothing that is printed above a
figure starts with its label, so the figures can be read off again. The lines that they count are all the lines
of the source file, each once. -/
namespace TypesetTrace.Alignment
open Navigation Service

/-- What stands behind a label in the first text that starts with it. -/
def Run.figure? (r : Run) (label : String) : Option Text := r.printed.findSome? (Text.after? (text label))

/-- Neither text starts with the other. -/
def Apart (s t : Text) : Prop := ¬ s <+: t ∧ ¬ t <+: s

instance (s t : Text) : Decidable (Apart s t) := inferInstanceAs (Decidable (_ ∧ _))

theorem Apart.after?_eq_none {label lead s : Text} (h : Apart label lead) (hs : lead <+: s) :
    Text.after? label s = none := by
  rw [← Option.not_isSome_iff_eq_none, Text.after?_isSome_iff]
  intro hlabel
  rcases List.prefix_or_prefix_of_prefix hlabel hs with hle | hle
  · exact h.1 hle
  · exact h.2 hle

def shown (figure : String × Text) : Text := text figure.1 ++ figure.2

/-- Of labels that are apart each leads to its own figure. -/
theorem findSome?_shown {label : String} {figures : List (String × Text)}
    (h : ∀ name ∈ figures.map Prod.fst, name = label ∨ Apart (text label) (text name)) :
    (figures.map shown).findSome? (Text.after? (text label)) = figures.lookup label := by
  induction figures with
  | nil => rfl
  | cons figure figures ih =>
    obtain ⟨name, s⟩ := figure
    obtain ⟨hname, hfigures⟩ := List.forall_mem_cons.mp h
    rw [List.map_cons, List.findSome?_cons, shown]
    by_cases heq : name = label
    · rw [heq, Text.after?_append, List.lookup_cons_self]
    · rw [(hname.resolve_left heq).after?_eq_none (List.prefix_append _ _), ih hfigures, List.lookup_cons,
        beq_eq_false_iff_ne.mpr (Ne.symm heq)]

def withinFigure (count total : Nat) : Text :=
  number count ++ ['/'] ++ number total ++ text " (" ++ percentage count total ++ text "%)"

def labels : List String := ["Total lines tested: ", "Lines without sync data: ", "API errors: ",
  "Page mismatches: ", "  Within 1 line (14pt): ", "  Within 2 lines (28pt): "]

/-- How the other texts of a run start. -/
def otherLeads : List String := ["\nline map entries: ", "Line range: ", "Pages covered: ",
  "\nQuerying forward sync for lines 1-", "  Error at line ", "  ... line ", "\n=", "=",
  "ALIGNMENT VERIFICATION REPORT", "\nY deviation (same page, PDF points):", "  Average: ", "  Median:  ",
  "  Max:     ", "\nPage mismatch examples:", "  Line ", "RESULT: "]

theorem apart_labels : ∀ label ∈ labels,
    (∀ other ∈ labels, other = label ∨ Apart (text label) (text other)) ∧
      ∀ lead ∈ otherLeads, Apart (text label) (text lead) := by
  decide +kernel

/-- The text starts like none that has a figure. -/
def IsOther (s : Text) : Prop := ∃ lead ∈ otherLeads, text lead <+: s

theorem isOther_append {lead : String} (h : lead ∈ otherLeads) (s : Text) : IsOther (text lead ++ s) :=
  ⟨lead, h, List.prefix_append _ _⟩

theorem findSome?_of_isOther {label : String} (hlabel : label ∈ labels) {printed : List Text}
    (hprinted : ∀ s ∈ printed, IsOther s) : printed.findSome? (Text.after? (text label)) = none := by
  refine List.findSome?_eq_none_iff.mpr fun s hs => ?_
  obtain ⟨lead, hlead, hprefix⟩ := hprinted s hs
  exact ((apart_labels label hlabel).2 lead hlead).after?_eq_none hprefix

theorem isOther_of_mem_heading {anchors : List (Anchor Float)} {lineCount : Nat} :
    ∀ s ∈ heading anchors lineCount, IsOther s := by
  simp only [heading, List.append_assoc, List.forall_mem_cons]
  exact ⟨isOther_append (by simp [otherLeads]) _, isOther_append (by simp [otherLeads]) _,
    isOther_append (by simp [otherLeads]) _, isOther_append (by simp [otherLeads]) _, nofun⟩

theorem isOther_of_mem_progress {lineCount errors : Nat} {outcomes : List (Int × Outcome)} :
    ∀ s ∈ progress lineCount errors outcomes, IsOther s := by
  induction outcomes generalizing errors with
  | nil => nofun
  | cons o outcomes ih =>
    intro s hs
    rw [progress.eq_def] at hs
    rcases List.mem_append.mp hs with hs | hs
    · split at hs
      · split at hs
        · rw [List.mem_singleton.mp hs, List.append_assoc]
          exact isOther_append (by simp [otherLeads]) _
        · cases hs
      · split at hs
        · rw [List.mem_singleton.mp hs, List.append_assoc, List.append_assoc]
          exact isOther_append (by simp [otherLeads]) _
        · cases hs
      · cases hs
      · cases hs
    · exact ih s hs

namespace Report
variable (r : Report)

def counts : List (String × Text) :=
  [("Total lines tested: ", number r.tested), ("Lines without sync data: ", Text.ofInt r.withoutData),
    ("API errors: ", number r.errors), ("Page mismatches: ", number r.mismatches.length)]

def nearness : List (String × Text) :=
  [("  Within 1 line (14pt): ", withinFigure (r.countWithin lineHeight) r.deviations.length),
    ("  Within 2 lines (28pt): ", withinFigure (r.countWithin (2 * lineHeight)) r.deviations.length)]

def figures : List (String × Text) := r.counts ++ if r.deviations.length = 0 then [] else r.nearness

/-- What a report says of deviations before it says how many are small. -/
def extremes : List Text :=
  [text "\nY deviation (same page, PDF points):", text "  Average: " ++ (points r.average ++ text " pt"),
    text "  Median:  " ++ (points r.median ++ text " pt"), text "  Max:     " ++ (points r.greatest ++ text " pt")]

variable {r}

theorem isOther_of_mem_extremes : ∀ s ∈ r.extremes, IsOther s := by
  simp only [extremes, List.forall_mem_cons]
  exact ⟨⟨_, by simp [otherLeads], List.prefix_refl _⟩, isOther_append (by simp [otherLeads]) _,
    isOther_append (by simp [otherLeads]) _, isOther_append (by simp [otherLeads]) _, nofun⟩

theorem exists_deviationSection (h : r.deviations.length ≠ 0) :
    ∃ rows, deviationSection r = r.extremes ++ (r.nearness.map shown ++ rows) := by
  rw [deviationSection, if_neg h]
  simp only [withinLine, extremes, nearness, withinFigure, shown, List.append_assoc, List.map_cons, List.map_nil,
    List.cons_append, List.nil_append]
  exact ⟨_, rfl⟩

theorem isOther_of_mem_mismatchSection : ∀ s ∈ mismatchSection r, IsOther s := by
  intro s hs
  rw [mismatchSection] at hs
  split at hs
  · cases hs
  · rcases List.mem_cons.mp hs with rfl | hs
    · exact ⟨"\nPage mismatch examples:", by simp [otherLeads], List.prefix_refl _⟩
    · obtain ⟨c, -, rfl⟩ := List.mem_map.mp hs
      simp only [List.append_assoc]
      exact isOther_append (by simp [otherLeads]) _

theorem isOther_verdictText (v : Verdict) : IsOther (verdictText v) :=
  ⟨"RESULT: ", by simp [otherLeads], by cases v <;> decide +kernel⟩

theorem labels_eq : r.counts.map Prod.fst ++ r.nearness.map Prod.fst = labels := rfl

theorem findSome?_counts {label : String} (hlabel : label ∈ labels) :
    (r.counts.map shown).findSome? (Text.after? (text label)) = r.counts.lookup label := by
  apply findSome?_shown
  intro name hname
  have hmem : name ∈ labels := labels_eq (r := r) ▸ List.mem_append_left _ hname
  exact (apart_labels label hlabel).1 name hmem

theorem findSome?_nearness {label : String} (hlabel : label ∈ labels) :
    (r.nearness.map shown).findSome? (Text.after? (text label)) = r.nearness.lookup label := by
  apply findSome?_shown
  intro name hname
  have hmem : name ∈ labels := labels_eq (r := r) ▸ List.mem_append_right _ hname
  exact (apart_labels label hlabel).1 name hmem

theorem isSome_lookup {label : String} (hlabel : label ∈ labels) :
    ((r.counts ++ r.nearness).lookup label).isSome := by
  simp only [labels, List.mem_cons, List.not_mem_nil, or_false] at hlabel
  rcases hlabel with rfl | rfl | rfl | rfl | rfl | rfl <;> rfl

theorem findSome?_render {label : String} (hlabel : label ∈ labels) :
    r.render.findSome? (Text.after? (text label)) = r.figures.lookup label := by
  have hrule : IsOther ('\n' :: rule) ∧ IsOther rule :=
    ⟨⟨"\n=", by simp [otherLeads], by decide +kernel⟩, ⟨"=", by simp [otherLeads], by decide +kernel⟩⟩
  have hopening : ∀ s ∈ ['\n' :: rule, text "ALIGNMENT VERIFICATION REPORT", rule], IsOther s := by
    simp only [List.forall_mem_cons]
    exact ⟨hrule.1, ⟨_, by simp [otherLeads], List.prefix_refl _⟩, hrule.2, nofun⟩
  have hclosing : ∀ s ∈ ['\n' :: rule, verdictText r.verdict, rule], IsOther s := by
    simp only [List.forall_mem_cons]
    exact ⟨hrule.1, isOther_verdictText _, hrule.2, nofun⟩
  have hrender : r.render = ['\n' :: rule, text "ALIGNMENT VERIFICATION REPORT", rule] ++ r.counts.map shown ++
      deviationSection r ++ mismatchSection r ++ ['\n' :: rule, verdictText r.verdict, rule] := rfl
  simp only [hrender, List.findSome?_append, findSome?_of_isOther hlabel hopening, findSome?_counts hlabel,
    findSome?_of_isOther hlabel isOther_of_mem_mismatchSection, findSome?_of_isOther hlabel hclosing,
    Option.none_or, Option.or_none]
  rw [figures]
  by_cases htotal : r.deviations.length = 0
  · rw [deviationSection, if_pos htotal, if_pos htotal, List.append_nil]
    exact Option.or_none
  · -- The rows below the figures need not be looked at: every label has been found above them.
    obtain ⟨rows, hrows⟩ := exists_deviationSection htotal
    rw [hrows, if_neg htotal, List.findSome?_append, findSome?_of_isOther hlabel isOther_of_mem_extremes,
      Option.none_or, List.findSome?_append, findSome?_nearness hlabel, ← Option.or_assoc, ← List.lookup_append]
    exact Option.or_of_isSome (isSome_lookup hlabel)

theorem tested_ofOutcomes (lineCount : Nat) (outcomes : List Outcome) :
    (ofOutcomes lineCount outcomes).tested = (outcomes.map Outcome.kind).count .tested := by
  rw [tested, ofOutcomes, List.length_filterMap_eq_countP, List.count, List.countP_map]
  exact List.countP_congr fun outcome _ => by cases outcome <;> simp [Outcome.kind]

theorem errors_ofOutcomes (lineCount : Nat) (outcomes : List Outcome) :
    (ofOutcomes lineCount outcomes).errors = (outcomes.map Outcome.kind).count .error := by
  rw [ofOutcomes, List.count, List.countP_map]
  exact List.countP_congr fun outcome _ => by cases outcome <;> simp [Outcome.isError, Outcome.kind]

/-- What is compared is on one page or a mismatch. -/
theorem mismatches_add_deviations : r.mismatches.length + r.deviations.length = r.tested := by
  rw [deviations, List.length_map, mismatches, samePage, tested]
  exact (List.length_eq_length_filter_add _).symm

theorem countWithin_le (limit : Float) : r.countWithin limit ≤ r.deviations.length := List.countP_le_length

end Report

/-- Nothing is counted without data, but what is left over is that. -/
theorem Report.withoutData_ofOutcomes {lineCount : Nat} {outcomes : List Outcome}
    (h : outcomes.length = lineCount) : (Report.ofOutcomes lineCount outcomes).withoutData =
      ((outcomes.map Outcome.kind).count .withoutData : Nat) := by
  have hsum := Kind.count_add (outcomes.map Outcome.kind)
  rw [List.length_map] at hsum
  rw [Report.withoutData, Report.tested_ofOutcomes, Report.errors_ofOutcomes]
  show (lineCount : Int) - _ - _ = _
  omega

section
variable {conditions : Conditions} {fs : Files} {source : Text} {lineCount : Nat}

/-- A survey that comes to its end prints a report last, on outcomes of the kinds that the statuses of the
answers say. -/
theorem exists_report {anchors : List (Anchor Float)} {slot : Slot Float} (hf : slot.IsFresh defaultSuffixes fs)
    (hfinished : (survey conditions fs source lineCount anchors slot).ending = .finished) :
    ∃ started outcomes, (∀ s ∈ started, IsOther s) ∧
      (survey conditions fs source lineCount anchors slot).printed =
        started ++ (Report.ofOutcomes lineCount outcomes).render ∧
      outcomes.map Outcome.kind = (statusesOf conditions fs source lineCount).map Kind.ofStatus? := by
  have hkinds : (visitAll conditions fs source anchors (lineNumbers lineCount) slot).2 = none →
      (visitAll conditions fs source anchors (lineNumbers lineCount) slot).1.map (·.2.kind) =
        (statusesOf conditions fs source lineCount).map Kind.ofStatus? := kinds_of_visitAll hf
  rw [survey] at hfinished ⊢
  rcases hvisit : visitAll conditions fs source anchors (lineNumbers lineCount) slot with ⟨outcomes, failure⟩
  rw [hvisit] at hfinished hkinds
  cases failure with
  | some failure => cases hfinished
  | none =>
    dsimp only
    refine ⟨heading anchors lineCount ++ progress lineCount 0 outcomes, outcomes.map (·.2), ?_, ?_, ?_⟩
    · intro s hs
      rcases List.mem_append.mp hs with hs | hs
      · exact isOther_of_mem_heading s hs
      · exact isOther_of_mem_progress s hs
    · rfl
    · rw [List.map_map]
      exact hkinds rfl

/-- A run that comes to its end has surveyed the file, with what the line map left in the slot. -/
theorem run_eq_survey {path content : Text} {more : List Text}
    (hread : fs.readText (Path.absolute fs.working path) = .ok content)
    (hfinished : (run conditions fs (path :: more)).ending = .finished) :
    ∃ anchors slot, slot.IsFresh defaultSuffixes fs ∧ run conditions fs (path :: more) =
      survey conditions fs (Path.absolute fs.working path) (countLines content) anchors slot := by
  rw [run] at hfinished ⊢
  dsimp only at hfinished ⊢
  rw [hread] at hfinished ⊢
  dsimp only at hfinished ⊢
  have hfresh := (isSteady_service fs (lineMapRequest (Path.absolute fs.working path))).isFresh
    (Slot.isFresh_none defaultSuffixes fs)
  rcases hanswer : answer fs (lineMapRequest (Path.absolute fs.working path)) none with ⟨a, slot⟩
  rw [hanswer] at hfinished hfresh
  cases a with
  | lineMap found =>
    dsimp only at hfinished ⊢
    split at hfinished
    · cases hfinished
    · rename_i hne
      exact ⟨_, slot, hfresh, if_neg hne⟩
  | _ => cases hfinished

end

/-- A report counts every line of the source file once: as tested, as one without data, which is answered with
404, or as an error, which is not answered or with a status that is neither 200 nor 404. What is tested is on
different pages, or counts towards the figures on deviations, which are missing if there is nothing to count. -/
theorem accounts_for_lines {conditions : Conditions} {fs : Files} {path content : Text} {more : List Text}
    (hread : fs.readText (Path.absolute fs.working path) = .ok content)
    (hfinished : (run conditions fs (path :: more)).ending = .finished) :
    let r := run conditions fs (path :: more)
    let statuses := statusesOf conditions fs (Path.absolute fs.working path) (countLines content)
    ∃ tested withoutData errors mismatches total withinOne withinTwo : Nat,
      r.figure? "Total lines tested: " = some (number tested) ∧
      r.figure? "Lines without sync data: " = some (number withoutData) ∧
      r.figure? "API errors: " = some (number errors) ∧
      r.figure? "Page mismatches: " = some (number mismatches) ∧
      r.figure? "  Within 1 line (14pt): " = (if total = 0 then none else some (withinFigure withinOne total)) ∧
      r.figure? "  Within 2 lines (28pt): " =
        (if total = 0 then none else some (withinFigure withinTwo total)) ∧
      tested + withoutData + errors = countLines content ∧
      withoutData = statuses.count (some 404) ∧
      errors = statuses.countP (fun status => status ≠ some 200 ∧ status ≠ some 404) ∧
      mismatches + total = tested ∧ withinOne ≤ total ∧ withinTwo ≤ total := by
  intro r statuses
  obtain ⟨anchors, slot, hf, hr⟩ := run_eq_survey hread hfinished
  rw [hr] at hfinished
  obtain ⟨started, outcomes, hstarted, hprinted, hkinds⟩ := exists_report hf hfinished
  let report := Report.ofOutcomes (countLines content) outcomes
  have hfigure (label : String) (hlabel : label ∈ labels) : r.figure? label = report.figures.lookup label := by
    show (run conditions fs (path :: more)).figure? label = _
    rw [hr, Run.figure?, hprinted, List.findSome?_append, findSome?_of_isOther hlabel hstarted, Option.none_or,
      Report.findSome?_render hlabel]
  have hlength : outcomes.length = countLines content := by
    rw [← List.length_map Outcome.kind, hkinds, List.length_map, length_statusesOf]
  have htested : report.tested = (statuses.map Kind.ofStatus?).count .tested := by
    rw [← hkinds, Report.tested_ofOutcomes]
  have herrors : report.errors = (statuses.map Kind.ofStatus?).count .error := by
    rw [← hkinds, Report.errors_ofOutcomes]
  have hwithout : report.withoutData = ((statuses.map Kind.ofStatus?).count .withoutData : Nat) := by
    rw [← hkinds, Report.withoutData_ofOutcomes hlength]
  refine ⟨report.tested, (statuses.map Kind.ofStatus?).count .withoutData, report.errors,
    report.mismatches.length, report.deviations.length, report.countWithin Report.lineHeight,
    report.countWithin (2 * Report.lineHeight), hfigure _ (by decide), ?_, hfigure _ (by decide),
    hfigure _ (by decide), ?_, ?_, ?_, Kind.count_withoutData statuses, herrors.trans (Kind.count_error statuses),
    Report.mismatches_add_deviations, Report.countWithin_le _, Report.countWithin_le _⟩
  · rw [hfigure _ (by decide)]
    show some (Text.ofInt report.withoutData) = _
    rw [hwithout]
    rfl
  · rw [hfigure _ (by decide), Report.figures]
    split <;> rfl
  · rw [hfigure _ (by decide), Report.figures]
    split <;> rfl
  · rw [htested, herrors, Kind.count_add, List.length_map, length_statusesOf]

def sourceFiles : Files := onePageFiles.write "/a.tex".toList (.bytes (List.replicate 5 10))

/-- Only the questions about the first line and the last one are left to the service. -/
def obstructed : Conditions := { unreachable := [2], replaced := [(3, 404), (4, 503)] }

def onePageAnchors : List (Anchor Float) :=
  [anchorAt onePage.document 10 (onePageElement Float 10 6578176),
    anchorAt onePage.document 20 (onePageElement Float 20 13156352)]

theorem onePage_lineMap : (({} : Navigator).lineMap sourceFiles "/a.tex".toList (none : Slot Float)).result =
    .ok onePageAnchors := by
  have hlines : linesOf? sourceFiles.working "/a.tex".toList (onePage.document : Sync.Document Float) =
      some (onePageLines Float) := rfl
  have hkeys : (onePageLines Float).keys = [10, 20] := rfl
  rw [Navigator.lineMap_of_load (d := onePage.document) rfl, anchors, hlines]
  dsimp only
  rw [anchorsOn, hkeys, List.mergeSort_of_pairwise (by decide)]
  rfl

theorem sourceFiles_read :
    sourceFiles.readText (Path.absolute sourceFiles.working "/a.tex".toList) = .ok (List.replicate 5 '\n') := by
  decide +kernel

theorem obstructed_finished : (run obstructed sourceFiles ["/a.tex".toList]).ending = .finished := by
  have hanswer : answer sourceFiles (lineMapRequest "/a.tex".toList) none =
      (.lineMap onePageAnchors,
        (({} : Navigator).lineMap sourceFiles "/a.tex".toList (none : Slot Float)).slot) := by
    rw [answer_of_get (e := .lineMap) (by decide +kernel) rfl (by decide +kernel)]
    show answered (({} : Navigator).lineMap sourceFiles "/a.tex".toList (none : Slot Float)) .lineMap = _
    rw [answered, onePage_lineMap]
  have hpath : Path.absolute sourceFiles.working "/a.tex".toList = "/a.tex".toList := by decide +kernel
  rw [run]
  dsimp only
  rw [sourceFiles_read]
  dsimp only
  rw [hpath, hanswer]
  dsimp only
  rw [List.mergeSort_of_pairwise (by decide), if_neg (by decide)]
  decide +kernel

/-- Two of the five lines are tested, one has no data and two are errors. -/
theorem obstructed_accounted :
    let r := run obstructed sourceFiles ["/a.tex".toList]
    r.ending = .finished ∧ r.figure? "Total lines tested: " = some ['2'] ∧
      r.figure? "Lines without sync data: " = some ['1'] ∧ r.figure? "API errors: " = some ['2'] := by
  obtain ⟨tested, withoutData, errors, _, _, _, _, htested, hwithout, herrors, -, -, -, hsum, hwithoutCount,
    herrorsCount, -⟩ := accounts_for_lines sourceFiles_read obstructed_finished
  have hstatuses : statusesOf obstructed sourceFiles (Path.absolute sourceFiles.working "/a.tex".toList)
      (countLines (List.replicate 5 '\n')) = [some 200, none, some 404, some 503, some 200] := by
    decide +kernel
  have hlines : countLines (List.replicate 5 '\n') = 5 := by decide +kernel
  rw [hstatuses] at hwithoutCount herrorsCount
  obtain rfl : withoutData = 1 := hwithoutCount
  obtain rfl : errors = 2 := herrorsCount
  obtain rfl : tested = 2 := by omega
  exact ⟨obstructed_finished, htested, hwithout, herrors⟩

end TypesetTrace.Alignment
