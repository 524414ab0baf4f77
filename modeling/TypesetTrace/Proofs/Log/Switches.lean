import TypesetTrace.Proofs.Log.Depth
import TypesetTrace.Proofs.Log.Limit
import TypesetTrace.Proofs.Log.Resuming

/-! What the mode of a session says about the message that is pending. The modes are three switches, each
of which is set and cleared on its own: that they never come to another combination than those of the
modes, and that a pending message fits them, is an invariant of every look at a line, whether or not it
fails. -/
namespace TypesetTrace.Log
open Text

def Pass.rest? : Pass → Option Text
  | .again rest => some rest
  | .finished | .failed _ => none

namespace Session

/-- The line ends the message that it belongs to: as an empty one does or, in an error, as the mark of
the source line does, if its number can be converted. -/
def closes (inError : Bool) (line : Text) : Bool :=
  endsMessage inError line ||
    match Continuation.ofLine? line with
    | some _ => false
    | none => inError && (SourceMark.ofLine? line).any fun (mark, _) => mark.line.length ≤ maxDigits

end Session

/-- What the next line is taken for, as three switches. -/
structure Switches where
  /-- The line belongs to the message, which ends at an empty line. -/
  searching : Bool := false
  /-- The line is passed over. -/
  skipping : Bool := false
  /-- The message is an error, and ends at other lines too. -/
  inError : Bool := false
  deriving DecidableEq, Repr

namespace Switches

def ofMode : Mode → Switches
  | .idle => {}
  | .boxContent => { skipping := true }
  | .message inError => { searching := true, inError }

def afterNotice (w : Switches) : Notice → Switches
  | .summary | .box ⟨_, .output _⟩ _ => w
  | .unresolved _ | .missingCharacter _ | .unlistedKey _ _ => { w with searching := false }
  | .box ⟨_, .paragraph _ _⟩ _ | .box ⟨_, .detected _⟩ _ =>
    { w with skipping := true, searching := false }
  | .announcement _ => { w with searching := true }
  | .noPages | .failure _ => { w with searching := true, inError := true }

/-- One look at a line, with the rest of the line that is still to be read. A number that cannot be
converted leaves the switches as they were. -/
def look (line : Text) (w : Switches) : Switches × Option Text :=
  if w.skipping then ({ w with skipping := false }, none)
  else if w.searching then
    (if Session.closes w.inError line then { w with searching := false, inError := false } else w, none)
  else match Notice.ofLine? line with
    | none => (w, none)
    | some notice =>
      if (notice.number?.bind overlong?).isSome then (w, none)
      else (w.afterNotice notice, notice.leftOver.rest?)

def looks : Nat → Text → Switches → Switches
  | 0, _, w => w
  | n + 1, line, w =>
    match look line w with
    | (w, none) => w
    | (w, some rest) => looks n rest w

def read (w : Switches) (line : Text) : Switches := looks (line.length + 1) line w

end Switches

theorem Switches.afterNotice_ofMode (notice : Notice) :
    (Switches.ofMode .idle).afterNotice notice = .ofMode (notice.modeAfter .idle) := by
  cases notice with
  | box b rest =>
    obtain ⟨heading, place⟩ := b
    cases place <;> rfl
  | _ => rfl

theorem Switches.inError_ofMode {m : Mode} (h : (ofMode m).inError) : m = .message true := by
  cases m with
  | message inError => exact congrArg Mode.message h
  | _ => cases h

theorem Switches.searching_ofMode {m : Mode} (h : (ofMode m).searching) :
    ∃ inError, m = .message inError := by
  cases m with
  | message inError => exact ⟨inError, rfl⟩
  | _ => cases h

theorem Switches.skipping_ofMode {m : Mode} (h : (ofMode m).skipping) : m = .boxContent := by
  cases m with
  | boxContent => rfl
  | _ => cases h

/-- What is pending while the next line is taken for something else than a notice. A message that is
continued has no context yet, unless it is an error. -/
def Mode.Fits : Mode → Draft → Prop
  | .idle, _ => True
  | .boxContent, d => d.kind = some .typesetting
  | .message true, d => d.kind = some .error
  | .message false, d => (d.kind = some .warning ∨ d.kind = some .info) ∧ d.context = none

theorem Mode.Fits.continued {inError : Bool} {d d' : Draft} (h : (Mode.message inError).Fits d)
    (hkind : d'.kind = d.kind) (hcontext : inError = false → d'.context = d.context) :
    (Mode.message inError).Fits d' := by
  cases inError with
  | true => exact hkind.trans h
  | false =>
    refine ⟨?_, (hcontext rfl).trans h.2⟩
    rw [hkind]
    exact h.1

theorem Mode.Fits.kind_ne_none {inError : Bool} {d : Draft} (h : (Mode.message inError).Fits d) :
    d.kind ≠ none := by
  intro hnone
  cases inError with
  | true => exact nomatch hnone.symm.trans h
  | false => rcases h.1 with h | h <;> exact nomatch hnone.symm.trans h

def unresolvedText (kind : KeyKind) (key : Text) : Text :=
  "Cannot find ".toList ++ kind.inSentence ++ [' ', '\x60'] ++ key ++ ['\x60', '.']

/-- Besides errors only the warnings about keys have a context, which is the key. -/
def Entry.ContextFits (e : Entry) : Prop :=
  ∀ c ∈ e.context, e.kind = .error ∨ e.kind = .warning ∧ ∃ kind, e.text = unresolvedText kind c

theorem Mode.Fits.contextFits {inError : Bool} {d : Draft} {e : Entry}
    (h : (Mode.message inError).Fits d) (he : e ∈ d.complete?) : e.ContextFits := by
  obtain ⟨kind, hkind, rfl⟩ := Option.map_eq_some_iff.mp he
  cases inError with
  | true => exact fun _ _ => .inl (Option.some.inj (hkind.symm.trans h))
  | false =>
    intro c hc
    rw [h.2] at hc
    cases hc

namespace Notice
variable {notice : Notice} {s : Session}

theorem numbered_eq_ok {digits : Option Text} {e : Nat → Entry} {entry : Option Entry}
    (h : numbered digits e = .ok entry) :
    ∃ line, Session.lineNumber digits = .ok line ∧ entry = some (e line) := by
  rw [numbered] at h
  cases hline : Session.lineNumber digits with
  | error fault =>
    rw [hline] at h
    cases h
  | ok line =>
    rw [hline] at h
    exact ⟨line, rfl, (Except.ok.inj h).symm⟩

/-- The closing remark about references is the only notice that starts no entry. Every other starts
one that fits what the next line is taken for. -/
theorem entry?_eq_ok {entry : Option Entry} (h : notice.entry? s = .ok entry) :
    notice = .summary ∧ entry = none ∨
      ∃ e, entry = some e ∧ (notice.modeAfter .idle).Fits e.toDraft ∧ e.ContextFits := by
  cases notice with
  | summary =>
    cases h
    exact .inl ⟨rfl, rfl⟩
  | unresolved u =>
    obtain ⟨line, -, rfl⟩ := numbered_eq_ok h
    refine .inr ⟨_, rfl, trivial, fun c hc => .inr ⟨rfl, u.kind, ?_⟩⟩
    cases hc
    rfl
  | box b rest =>
    obtain ⟨heading, place⟩ := b
    cases place with
    | paragraph first last =>
      obtain ⟨line, -, rfl⟩ := numbered_eq_ok h
      exact .inr ⟨_, rfl, rfl, nofun⟩
    | detected line =>
      obtain ⟨line, -, rfl⟩ := numbered_eq_ok h
      exact .inr ⟨_, rfl, rfl, nofun⟩
    | output page =>
      cases page <;> cases h <;> exact .inr ⟨_, rfl, trivial, nofun⟩
  | noPages =>
    cases h
    exact .inr ⟨_, rfl, rfl, nofun⟩
  | missingCharacter text =>
    cases h
    exact .inr ⟨_, rfl, trivial, nofun⟩
  | announcement a =>
    obtain ⟨line, -, rfl⟩ := numbered_eq_ok h
    refine .inr ⟨_, rfl, ⟨?_, rfl⟩, nofun⟩
    cases a.isWarning
    · exact .inr rfl
    · exact .inl rfl
  | unlistedKey key rest =>
    cases h
    exact .inr ⟨_, rfl, trivial, nofun⟩
  | failure f =>
    obtain ⟨line, -, rfl⟩ := numbered_eq_ok h
    exact .inr ⟨_, rfl, rfl, nofun⟩

end Notice

namespace Session
variable {s : Session} {line : Text}

theorem continueMessage_mode {inError : Bool} (hm : s.mode = .message inError) :
    (continueMessage inError line s).1.mode = if closes inError line then .idle else .message inError := by
  rw [continueMessage, closes]
  split
  · rename_i hends
    rw [hends]
    rfl
  · rename_i hends
    rw [Bool.not_eq_true] at hends
    rw [hends, Bool.false_or]
    split
    · rename_i c rest hc
      rw [hc]
      simp only [continueWith]
      split
      · exact hm
      · rename_i digits _
        rw [withLine]
        cases lineNumber (some digits) <;> exact hm
    · rename_i hc
      rw [hc]
      cases inError with
      | false => exact hm
      | true =>
        cases hmark : SourceMark.ofLine? line with
        | none =>
          rw [if_pos rfl]
          exact hm
        | some found =>
          obtain ⟨mark, rest⟩ := found
          simp only [if_true, withLine, lineNumber, Text.toNat, Option.any_some, Bool.true_and]
          by_cases hshort : mark.line.length ≤ maxDigits
          · simp [hshort]
          · simp [hshort, failing, hm]

/-- The switches go the way of the mode. -/
theorem look_ofMode (line : Text) (s : Session) :
    Switches.look line (.ofMode s.mode) = (.ofMode (pass line s).1.mode, (pass line s).2.rest?) := by
  rw [pass]
  cases hm : s.mode with
  | boxContent => rfl
  | message inError =>
    have hrest : (continueMessage inError line s).2.rest? = none := by
      obtain ⟨d, m, p, hc, -, hp⟩ := continueMessage_cases inError line s
      rw [hc]
      cases p with
      | again rest => exact absurd rfl (hp rest)
      | _ => rfl
    show (if closes inError line then _ else _, none) = _
    rw [continueMessage_mode hm, hrest]
    split <;> rfl
  | idle =>
    rw [Switches.look, if_neg (by decide), if_neg (by decide)]
    cases hn : Notice.ofLine? line with
    | none =>
      show (Switches.ofMode .idle, none) = (Switches.ofMode s.mode, none)
      rw [hm]
    | some notice =>
      dsimp only
      rw [accept_eq]
      rcases hentry : notice.entry? s with fault | entry
      · rw [Notice.entry?_eq_error_iff.mp hentry, if_pos (by rfl)]
        simp only [failing, hm]
        rfl
      · have hshort : notice.number?.bind overlong? = none := by
          rw [Option.eq_none_iff_forall_ne_some]
          intro fault h
          rw [Notice.entry?_eq_error_iff.mpr h] at hentry
          cases hentry
        rw [hshort, if_neg (by decide)]
        rcases Notice.entry?_eq_ok hentry with ⟨rfl, rfl⟩ | ⟨e, rfl, -, -⟩
        · rw [hm]
          rfl
        · rw [hm, Switches.afterNotice_ofMode]

theorem looks_ofMode (n : Nat) (line : Text) (s : Session) :
    Switches.looks n line (.ofMode s.mode) = .ofMode (passes n line s).1.mode := by
  induction n generalizing line s with
  | zero => rfl
  | succ n ih =>
    rw [Switches.looks, look_ofMode, passes]
    rcases pass line s with ⟨s', _ | rest | fault⟩
    · rfl
    · exact ih rest s'
    · rfl

/-- Reads lines in order. A line with a number that cannot be converted does not keep it from going
on. -/
def feeds (lines : List Text) (s : Session) : Session := lines.foldl (fun s line => (feed line s).1) s

/-- What every look keeps is kept over any lines, also where some of them cannot be read. -/
theorem feeds_induction {P : Session → Prop} (hpass : ∀ line s, P s → P (pass line s).1)
    (lines : List Text) {s : Session} (hs : P s) : P (feeds lines s) := by
  induction lines generalizing s with
  | nil => exact hs
  | cons line rest ih => exact ih (passes_induction hpass _ line hs)

theorem foldl_read_ofMode (lines : List Text) (s : Session) :
    lines.foldl Switches.read (.ofMode s.mode) = .ofMode (feeds lines s).mode := by
  induction lines generalizing s with
  | nil => rfl
  | cons line rest ih =>
    rw [List.foldl_cons, Switches.read, looks_ofMode]
    exact ih (feed line s).1

/-- What holds before and after every look at a line. -/
structure IsConsistent (s : Session) : Prop where
  pending : s.mode.Fits s.draft
  contexts : ∀ e ∈ s.flushed, e.ContextFits
  files : s.nesting.files ≠ []
  anonymous : 0 ≤ s.nesting.anonymous

theorem isConsistent_new (rootFile : Text) (working : Path.WorkingDirectory) : (new rootFile working).IsConsistent :=
  ⟨trivial, nofun, List.cons_ne_nil _ _, Int.le_refl _⟩

variable {s : Session}

theorem anonymous_pass (line : Text) (h : 0 ≤ s.nesting.anonymous) :
    0 ≤ (pass line s).1.nesting.anonymous := by
  rcases pass_nesting line s with hn | hn
  · rw [hn]
    exact h
  · rw [hn, track]
    dsimp only
    split <;> exact Nesting.anonymous_scan h line

/-- Only in an error a line adds a context. -/
theorem continueMessage_context (line : Text) (s : Session) :
    (continueMessage false line s).1.draft.context = s.draft.context := by
  rw [continueMessage]
  split
  · rfl
  · split
    · simp only [continueWith]
      split
      · rfl
      · rename_i digits _
        rw [withLine]
        cases lineNumber (some digits) <;> rfl
    · rfl

theorem isConsistent_pass (line : Text) (s : Session) (h : s.IsConsistent) :
    (pass line s).1.IsConsistent := by
  have hfiles : (pass line s).1.nesting.files ≠ [] := (isOpenWith_pass line s ⟨rfl, rfl, h.files⟩).files
  have hanonymous := anonymous_pass line h.anonymous
  suffices hpending : (pass line s).1.mode.Fits (pass line s).1.draft ∧
      ∀ e ∈ (pass line s).1.flushed, e.ContextFits from
    ⟨hpending.1, hpending.2, hfiles, hanonymous⟩
  rw [pass]
  cases hm : s.mode with
  | boxContent => exact ⟨trivial, h.contexts⟩
  | message inError =>
    have hfits : (Mode.message inError).Fits s.draft := hm ▸ h.pending
    have hmode : (continueMessage inError line s).1.mode = _ := continueMessage_mode hm
    have hcontext : inError = false →
        (continueMessage inError line s).1.draft.context = s.draft.context := by
      rintro rfl
      exact continueMessage_context line s
    obtain ⟨d, m, p, hc, hd, -⟩ := continueMessage_cases inError line s
    simp only [hc] at hmode hcontext ⊢
    have hdraft : (Mode.message inError).Fits d := hfits.continued hd.kind hcontext
    constructor
    · rw [hmode]
      split
      · trivial
      · exact hdraft
    · intro e he
      rcases List.mem_append.mp he with he | he
      · exact hdraft.contextFits (Option.mem_toList.mp he)
      · exact h.contexts e (List.mem_append_right _ he)
  | idle =>
    cases hn : Notice.ofLine? line with
    | none => exact ⟨h.pending, h.contexts⟩
    | some notice =>
      dsimp only
      rw [accept_eq]
      rcases hentry : notice.entry? s with fault | entry
      · exact ⟨h.pending, h.contexts⟩
      · rcases Notice.entry?_eq_ok hentry with ⟨rfl, rfl⟩ | ⟨e, rfl, hfits, hcontext⟩
        · exact ⟨h.pending, h.contexts⟩
        · constructor
          · rw [hm]
            exact hfits
          · intro f hf
            rcases List.mem_append.mp hf with hf | hf
            · cases Option.mem_toList.mp hf
              exact hcontext
            · exact h.contexts f hf

theorem isConsistent_feeds (lines : List Text) {s : Session} (h : s.IsConsistent) :
    (feeds lines s).IsConsistent := feeds_induction isConsistent_pass lines h

end Session

theorem strip_unresolvedText (kind : KeyKind) (key : Text) :
    strip (unresolvedText kind key) = unresolvedText kind key := by
  refine strip_eq_self ?_ ?_
  · rintro c hc
    cases hc
    rfl
  · have hlast : (unresolvedText kind key).getLast? = some '.' := by
      unfold unresolvedText
      rw [List.getLast?_append, List.getLast?_cons_cons, List.getLast?_singleton, Option.some_or]
    intro c hc
    rw [hlast] at hc
    cases hc
    rfl

namespace Session

theorem close_entries_suffix (s : Session) : s.close.entries <:+ s.flushed := by
  rw [close]
  dsimp only
  split
  · exact List.suffix_append _ _
  · exact List.suffix_refl _

theorem mem_finish {s : Session} {d : Diagnostic} (h : d ∈ s.finish.2) :
    ∃ e ∈ s.flushed, e.diagnostic = d := by
  obtain ⟨e, he, rfl⟩ := List.mem_map.mp h
  exact ⟨e, s.close_entries_suffix.subset (List.mem_reverse.mp he), rfl⟩

/-- After any lines, also where some of them could not be read, the switches are those of a mode and
fit what is pending: an error that is continued is a message, only messages are continued, and what is
passed over belongs to a bad box. The main file is open and no more parentheses are closed than were
opened. Of the messages that are then reported only errors and warnings about keys have a context. -/
theorem switches_fit_pending (rootFile : Text) (working : Path.WorkingDirectory) (lines : List Text) :
    let s := feeds lines (new rootFile working)
    let w := lines.foldl Switches.read {}
    w = .ofMode s.mode ∧
      (w.inError → w.searching ∧ s.draft.kind = some .error) ∧
      (w.searching → s.draft.kind ≠ none) ∧
      (w.skipping → ¬ w.searching ∧ s.draft.kind = some .typesetting) ∧
      s.nesting.files ≠ [] ∧ 0 ≤ s.nesting.anonymous ∧
      ∀ d ∈ s.finish.2, ∀ c ∈ d.context, d.severity = .error ∨
        d.severity = .warning ∧ ∃ kind, d.message = unresolvedText kind c := by
  intro s w
  have hw : w = .ofMode s.mode := foldl_read_ofMode lines (new rootFile working)
  have hs : s.IsConsistent := isConsistent_feeds lines (isConsistent_new rootFile working)
  have hpending : s.mode.Fits s.draft := hs.pending
  refine ⟨hw, ?_, ?_, ?_, hs.files, hs.anonymous, ?_⟩
  · intro h
    rw [hw] at h ⊢
    have hm : s.mode = .message true := Switches.inError_ofMode h
    rw [hm] at hpending ⊢
    exact ⟨rfl, hpending⟩
  · intro h
    rw [hw] at h
    obtain ⟨inError, hm⟩ := Switches.searching_ofMode h
    rw [hm] at hpending
    exact hpending.kind_ne_none
  · intro h
    rw [hw] at h ⊢
    have hm : s.mode = .boxContent := Switches.skipping_ofMode h
    rw [hm] at hpending ⊢
    exact ⟨Bool.false_ne_true, hpending⟩
  · intro d hd c hc
    obtain ⟨e, he, rfl⟩ := mem_finish hd
    rcases hs.contexts e he c hc with hkind | ⟨hkind, kind, htext⟩
    · exact .inl (congrArg Kind.severity hkind)
    · refine .inr ⟨congrArg Kind.severity hkind, kind, ?_⟩
      show strip e.text = _
      rw [htext, strip_unresolvedText]

def mixedLog : List Text :=
  ["LaTeX Warning: Reference \x60x' on page 1 undefined on input line 3.".toList,
    "Overfull \\hbox (1pt too wide) in paragraph at lines 1--2".toList, "abc".toList,
    "! LaTeX Error: b".toList]

theorem mixedLog_pending :
    let w (n : Nat) := (mixedLog.take n).foldl Switches.read {}
    let s (n : Nat) := feeds (mixedLog.take n) (new "/a.tex".toList)
    ((w 2).skipping ∧ ¬ (w 2).searching ∧ (s 2).draft.kind = some .typesetting) ∧
      ((w 4).inError ∧ (w 4).searching ∧ (s 4).draft.kind = some .error) ∧
      (s 1).finish.2.map (·.context) = [some ['x']] ∧
      ∀ d ∈ (s 1).finish.2, ∀ c ∈ d.context, d.severity = .error ∨
        d.severity = .warning ∧ ∃ kind, d.message = unresolvedText kind c := by
  intro w s
  have hskipping : (w 2).skipping := by decide +kernel
  have hinError : (w 4).inError := by decide +kernel
  obtain ⟨-, -, -, hbox, -⟩ := switches_fit_pending "/a.tex".toList .usual (mixedLog.take 2)
  obtain ⟨-, herror, -⟩ := switches_fit_pending "/a.tex".toList .usual (mixedLog.take 4)
  obtain ⟨-, -, -, -, -, -, hcontext⟩ := switches_fit_pending "/a.tex".toList .usual (mixedLog.take 1)
  exact ⟨⟨hskipping, hbox hskipping⟩, ⟨hinError, herror hinError⟩, by decide +kernel, hcontext⟩

end Session
end TypesetTrace.Log
