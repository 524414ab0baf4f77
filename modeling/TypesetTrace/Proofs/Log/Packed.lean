import TypesetTrace.Proofs.Log.Switches

/-! Several notices on one line. A key without an entry and a bad box on a page leave the rest of their line
to be read, and each ends exactly where the next one begins. So a line on which they follow each other is read
like as many lines. -/
namespace TypesetTrace.Log
open Text

namespace BoxNotice

/-- The heading of a bad box, with what stands in its parentheses. -/
def headingText (fullness : Fullness) (isVertical : Bool) (inside : Text) : Text :=
  fullness.word ++ ((if isVertical then "\\v".toList else "\\h".toList) ++
    ("box (".toList ++ (inside ++ [')'])))

def outputWords : Text := " has occurred while \\output is active".toList

def pageText (page : Text) : Text := ' ' :: '[' :: (page ++ [']'])

theorem heading?_headingText (fullness : Fullness) (isVertical : Bool) {inside : Text}
    (h : ')' ∉ inside) (rest : Text) :
    heading? fullness (headingText fullness isVertical inside ++ rest) =
      some (headingText fullness isVertical inside, rest) := by
  have hboundary : ∀ c ∈ (')' :: rest).head?, (c != ')') = false := by
    rintro c hc
    cases hc
    decide
  obtain ⟨htake, hdrop⟩ := span_append (p := (· != ')')) (t := inside)
    (fun c hc => bne_iff_ne.mpr fun he => h (he ▸ hc)) hboundary
  cases isVertical <;> simp [heading?, headingText, after?_append, after?, htake, hdrop]

/-- The two sorts of headings are told apart by their first words. -/
theorem eitherHeading?_headingText (fullness : Fullness) (isVertical : Bool) {inside : Text}
    (h : ')' ∉ inside) (rest : Text) :
    (heading? .overfull (headingText fullness isVertical inside ++ rest)).or
        (heading? .underfull (headingText fullness isVertical inside ++ rest)) =
      some (headingText fullness isVertical inside, rest) := by
  have hheading := heading?_headingText fullness isVertical h rest
  cases fullness with
  | overfull => rw [hheading, Option.some_or]
  | underfull =>
    have hother : heading? .overfull (headingText .underfull isVertical inside ++ rest) = none := rfl
    rw [hother, Option.none_or, hheading]

theorem place?_outputWords {page : Text} (hne : page ≠ []) (hpage : ∀ c ∈ page, isDigit c)
    (rest : Text) : place? (outputWords ++ (pageText page ++ rest)) = some (.output (some page), rest) := by
  have hbracket : ∀ c ∈ (']' :: rest).head?, isDigit c = false := by
    rintro c hc
    cases hc
    decide
  have hmark : pageMark? (pageText page ++ rest) = some (page, rest) := by
    have hrun := run?_append hne hpage hbracket
    simp [pageMark?, pageText, after?, hrun]
  have hwords : after? " has occurred while \\output is active".toList
      (outputWords ++ (pageText page ++ rest)) = some (pageText page ++ rest) := after?_append outputWords _
  have hparagraph : paragraph? (outputWords ++ (pageText page ++ rest)) = none := rfl
  have hdetected : detected? (outputWords ++ (pageText page ++ rest)) = none := rfl
  rw [place?, hparagraph, hdetected, Option.none_or, Option.none_or, output?, hwords]
  simp only [Option.bind_eq_bind, Option.bind_some, hmark]

theorem ofLine?_output (fullness : Fullness) (isVertical : Bool) {inside page : Text}
    (h : ')' ∉ inside) (hne : page ≠ []) (hpage : ∀ c ∈ page, isDigit c) (rest : Text) :
    ofLine? (headingText fullness isVertical inside ++ (outputWords ++ (pageText page ++ rest))) =
      some (⟨headingText fullness isVertical inside, .output (some page)⟩, rest) := by
  rw [ofLine?, eitherHeading?_headingText fullness isVertical h]
  simp only [Option.bind_eq_bind, Option.bind_some, place?_outputWords hne hpage]

end BoxNotice

/-- What a notice about a key without an entry starts with. -/
def programText : Text := "Biber warning:".toList

def wantingText : Text := "WARN - I didn't find a database entry for '".toList

theorem unlistedKey?_append {passed key : Text} (hline : '\n' ∉ passed) (h : ¬ wantingText <:+: passed)
    (hne : key ≠ []) (hkey : '\x27' ∉ key) (rest : Text) :
    unlistedKey? (programText ++ (passed ++ (wantingText ++ (key ++ '\x27' :: rest)))) =
      some (key, rest) := by
  have hrun : run? (· != '\x27') (key ++ '\x27' :: rest) = some (key, '\x27' :: rest) :=
    run?_append hne (fun c hc => bne_iff_ne.mpr fun he => hkey (he ▸ hc))
      fun c hc => (Option.some.inj hc : '\x27' = c) ▸ by decide
  have hprogram : after? "Biber warning:".toList
      (programText ++ (passed ++ (wantingText ++ (key ++ '\x27' :: rest)))) =
        some (passed ++ (wantingText ++ (key ++ '\x27' :: rest))) := after?_append programText _
  have hwords : after? "WARN - I didn't find a database entry for '".toList
      (wantingText ++ (key ++ '\x27' :: rest)) = some (key ++ '\x27' :: rest) := after?_append wantingText _
  simp only [unlistedKey?, hprogram, Option.bind_eq_bind, Option.bind_some]
  rw [shortest_append (a := (key, rest))]
  · rfl
  · exact fun c hc => bne_iff_ne.mpr fun he => hline (he ▸ hc)
  · rw [hwords, Option.bind_some, hrun]
    rfl
  -- Those words neither stand in what is passed over nor reach from there into themselves.
  · intro v hv hsuffix
    have hfront : ¬ wantingText <+: v := fun hstarts => h (hstarts.isInfix.trans hsuffix.isInfix)
    obtain ⟨w, hw, hfirst⟩ : ∃ w, wantingText = 'W' :: w ∧ 'W' ∉ w := ⟨_, rfl, by decide⟩
    have hnone : after? wantingText (v ++ (wantingText ++ (key ++ '\x27' :: rest))) = none := by
      rw [← Option.not_isSome_iff_eq_none, after?_isSome_iff]
      rw [hw] at hfront ⊢
      exact not_prefix_append hfirst hv hfront
    have hwords : after? "WARN - I didn't find a database entry for '".toList
        (v ++ (wantingText ++ (key ++ '\x27' :: rest))) = none := hnone
    rw [hwords, Option.bind_none]

/-- A notice that leaves the rest of its line to be read. -/
inductive PackedNotice where
  | unlistedKey (passed key : Text)
  | box (fullness : Fullness) (isVertical : Bool) (inside page : Text)
  deriving DecidableEq, Repr

namespace PackedNotice

def text : PackedNotice → Text
  | unlistedKey passed key => programText ++ (passed ++ (wantingText ++ (key ++ ['\x27'])))
  | box fullness isVertical inside page =>
    BoxNotice.headingText fullness isVertical inside ++ (BoxNotice.outputWords ++ BoxNotice.pageText page)

/-- The parts do not hold what ends them. -/
def IsWellFormed : PackedNotice → Prop
  | unlistedKey passed key =>
    '\n' ∉ passed ∧ ¬ wantingText <:+: passed ∧ key ≠ [] ∧ '\x27' ∉ key
  | box _ _ inside page => ')' ∉ inside ∧ page ≠ [] ∧ ∀ c ∈ page, isDigit c

instance : DecidablePred IsWellFormed
  | unlistedKey passed key =>
    decidable_of_iff (_ ∧ ¬ (anywhere (after? wantingText) passed).isSome ∧ key ≠ [] ∧ _)
      (and_congr_right' (and_congr_left' (not_congr anywhere_after?_isSome_iff)))
  | box _ _ _ page =>
    decidable_of_iff (_ ∧ page ≠ [] ∧ page.all isDigit)
      (and_congr_right' (and_congr_right' List.all_eq_true))

def notice (rest : Text) : PackedNotice → Notice
  | unlistedKey _ key => .unlistedKey key rest
  | box fullness isVertical inside page =>
    .box ⟨BoxNotice.headingText fullness isVertical inside, .output (some page)⟩ rest

/-- The entry that the notice starts while `file` is open. -/
def entry (file : Text) : PackedNotice → Entry
  | unlistedKey _ key => ⟨.warning, [], "No bib entry found for '".toList ++ key ++ ['\x27'], 1, none⟩
  | box fullness isVertical inside page =>
    ⟨.typesetting, file, BoxNotice.headingText fullness isVertical inside ++ " in page ".toList ++ page, 1,
      none⟩

/-- Whatever follows a notice is left over. -/
theorem ofLine?_append {n : PackedNotice} (h : n.IsWellFormed) (rest : Text) :
    Notice.ofLine? (n.text ++ rest) = some (n.notice rest) := by
  cases n with
  | unlistedKey passed key =>
    obtain ⟨hline, hpassed, hne, hkey⟩ := h
    have hread := unlistedKey?_append hline hpassed hne hkey rest
    have htext : (unlistedKey passed key).text ++ rest =
        programText ++ (passed ++ (wantingText ++ (key ++ '\x27' :: rest))) := by
      simp only [text, List.append_assoc, List.singleton_append]
    have hearlier (s : Text) : programText ++ s ≠ Notice.summaryLine ∧
        Unresolved.ofLine? (programText ++ s) = none ∧ BoxNotice.ofLine? (programText ++ s) = none ∧
        Notice.noPages? (programText ++ s) = none ∧ missingCharacter? (programText ++ s) = none ∧
        Announcement.ofLine? (programText ++ s) = none := ⟨nofun, rfl, rfl, rfl, rfl, rfl⟩
    obtain ⟨hsummary, hunresolved, hbox, hpages, hcharacter, hannouncement⟩ :=
      hearlier (passed ++ (wantingText ++ (key ++ '\x27' :: rest)))
    rw [htext, Notice.ofLine?, if_neg hsummary, hunresolved, hbox, hpages, hcharacter, hannouncement, hread]
    rfl
  | box fullness isVertical inside page =>
    obtain ⟨hinside, hne, hpage⟩ := h
    have hread := BoxNotice.ofLine?_output fullness isVertical hinside hne hpage rest
    have htext : (box fullness isVertical inside page).text ++ rest =
        BoxNotice.headingText fullness isVertical inside ++
          (BoxNotice.outputWords ++ (BoxNotice.pageText page ++ rest)) := by
      simp only [text, List.append_assoc]
    have hearlier : BoxNotice.headingText fullness isVertical inside ++
        (BoxNotice.outputWords ++ (BoxNotice.pageText page ++ rest)) ≠ Notice.summaryLine ∧
        Unresolved.ofLine? (BoxNotice.headingText fullness isVertical inside ++
          (BoxNotice.outputWords ++ (BoxNotice.pageText page ++ rest))) = none := by
      cases fullness <;> exact ⟨nofun, rfl⟩
    rw [htext, Notice.ofLine?, if_neg hearlier.1, hearlier.2, hread]
    rfl

end PackedNotice

namespace Session
variable {s : Session} {n : PackedNotice}

private theorem accept_packed (n : PackedNotice) (rest : Text) (s : Session) :
    accept (n.notice rest) s = (s.start (n.entry s.currentFile), .again rest) := by
  cases n <;> rfl

theorem pass_packed (hm : s.mode = .idle) (h : n.IsWellFormed) (rest : Text) :
    pass (n.text ++ rest) s = (s.start (n.entry s.currentFile), .again rest) := by
  simp only [pass, hm, PackedNotice.ofLine?_append h rest, accept_packed]

theorem feed_packed_append (hm : s.mode = .idle) (h : n.IsWellFormed) (rest : Text) :
    feed (n.text ++ rest) s = feed rest (s.start (n.entry s.currentFile)) := by
  rw [feed_eq, pass_packed hm h]

theorem startedOn_packed_append (hm : s.mode = .idle) (h : n.IsWellFormed) (rest : Text) :
    startedOn (n.text ++ rest) s =
      n.entry s.currentFile :: startedOn rest (s.start (n.entry s.currentFile)) := by
  have hstarted : s.startedBy (n.text ++ rest) = some (n.entry s.currentFile) := by
    simp only [startedBy, hm, PackedNotice.ofLine?_append h rest]
    cases n <;> rfl
  rw [startedOn_eq, hstarted, pass_packed hm h]
  rfl

/-- A notice on a line of its own. Nothing is left over but the end of the line. -/
theorem feed_packed (hm : s.mode = .idle) (hfiles : s.nesting.files ≠ []) (h : n.IsWellFormed) :
    feed n.text s = (s.start (n.entry s.currentFile), none) := by
  have hended : (s.start (n.entry s.currentFile)).ended = s.start (n.entry s.currentFile) := by
    simp only [ended, endedDraft, start, hm]
  have hline := feed_packed_append hm h []
  rw [List.append_nil] at hline
  rw [hline, feed_nil (s := s.start _) hfiles, hended]

theorem feeds_packed_cons (hm : s.mode = .idle) (hfiles : s.nesting.files ≠ []) (h : n.IsWellFormed)
    (lines : List Text) :
    feeds (n.text :: lines) s = feeds lines (s.start (n.entry s.currentFile)) := by
  rw [feeds, List.foldl_cons, feed_packed hm hfiles h]
  rfl

/-- The session that stands before the rest of the line is the one after the notices on lines of their
own. -/
private theorem feed_packed_run {ns : List PackedNotice} (hm : s.mode = .idle)
    (hfiles : s.nesting.files ≠ []) (h : ∀ n ∈ ns, n.IsWellFormed) (rest : Text) :
    feedAll (ns.map PackedNotice.text) s = .ok (feeds (ns.map PackedNotice.text) s) ∧
      feed (ns.flatMap PackedNotice.text ++ rest) s = feed rest (feeds (ns.map PackedNotice.text) s) ∧
      startedOn (ns.flatMap PackedNotice.text ++ rest) s =
        ns.map (·.entry s.currentFile) ++ startedOn rest (feeds (ns.map PackedNotice.text) s) := by
  induction ns generalizing s with
  | nil => exact ⟨rfl, rfl, rfl⟩
  | cons n ns ih =>
    obtain ⟨hn, hns⟩ := List.forall_mem_cons.mp h
    -- The notice changes neither the mode nor the files, so the rest is read as it would be now.
    obtain ⟨hall, hfeed, hstarted⟩ := ih (s := s.start (n.entry s.currentFile)) hm hfiles hns
    rw [List.map_cons, List.flatMap_cons, List.append_assoc, feeds_packed_cons hm hfiles hn]
    refine ⟨?_, ?_, ?_⟩
    · rw [feedAll, feed_packed hm hfiles hn]
      exact hall
    · rw [feed_packed_append hm hn]
      exact hfeed
    · rw [startedOn_packed_append hm hn, hstarted]
      rfl

/-- Notices that follow each other on one line are read as on lines of their own, and so is what stands
behind the last of them, whatever it is. They start one entry each, in order, before it is looked at. -/
theorem packed_as_lines (rootFile : Text) (working : Path.WorkingDirectory) (lines : List Text)
    {ns : List PackedNotice} (hm : (feeds lines (new rootFile working)).mode = .idle)
    (h : ∀ n ∈ ns, n.IsWellFormed) (rest : Text) :
    let s := feeds lines (new rootFile working)
    let s' := feeds (ns.map PackedNotice.text) s
    feedAll (ns.map PackedNotice.text) s = .ok s' ∧
      feed (ns.flatMap PackedNotice.text ++ rest) s = feed rest s' ∧
      startedOn (ns.flatMap PackedNotice.text ++ rest) s =
        ns.map (·.entry s.currentFile) ++ startedOn rest s' :=
  feed_packed_run hm (isConsistent_feeds lines (isConsistent_new rootFile working)).files h rest

def packedNotices : List PackedNotice :=
  [.unlistedKey " bcf: ".toList "a".toList, .unlistedKey " ".toList "b\\c".toList,
    .box .overfull true "3pt too high".toList "3".toList]

theorem packedNotices_as_lines :
    let s := feeds ["(./b.tex".toList] (new "/a.tex".toList)
    let line := packedNotices.flatMap PackedNotice.text ++ "! c".toList
    s.mode = .idle ∧ (∀ n ∈ packedNotices, n.IsWellFormed) ∧
      feed line s = feed "! c".toList (feeds (packedNotices.map PackedNotice.text) s) ∧
      (startedOn line s).map (·.file) = [[], [], "/b.tex".toList, "/b.tex".toList] := by
  intro s line
  have hm : s.mode = .idle := by decide +kernel
  have hformed : ∀ n ∈ packedNotices, n.IsWellFormed := by decide +kernel
  obtain ⟨-, hfeed, hstarted⟩ :=
    packed_as_lines "/a.tex".toList .usual ["(./b.tex".toList] hm hformed "! c".toList
  refine ⟨hm, hformed, hfeed, ?_⟩
  rw [hstarted, startedOn_eq]
  decide +kernel

end Session
end TypesetTrace.Log
