import TypesetTrace.Log.Session

/-! What one look at a line does. A notice starts an entry, whatever its kind; any other line leaves
the completed messages alone and at most lengthens the pending one. -/
namespace TypesetTrace.Log
open Text

namespace Notice

def numbered (digits : Option Text) (e : Nat → Entry) : Except Fault (Option Entry) :=
  (Session.lineNumber digits).map fun line => some (e line)

def entry? (s : Session) : Notice → Except Fault (Option Entry)
  | .summary => .ok none
  | .unresolved u => numbered (some u.line) fun line =>
    { kind := .warning, file := s.currentFile, line, context := some u.key
      text := "Cannot find ".toList ++ u.kind.inSentence ++ [' ', '\x60'] ++ u.key ++ ['\x60', '.'] }
  | .box ⟨heading, .paragraph line _⟩ _ | .box ⟨heading, .detected line⟩ _ =>
    numbered (some line) fun line => ⟨.typesetting, s.currentFile, heading, line, none⟩
  | .box ⟨heading, .output none⟩ _ => .ok (some ⟨.typesetting, s.currentFile, heading, 1, none⟩)
  | .box ⟨heading, .output (some page)⟩ _ =>
    .ok (some ⟨.typesetting, s.currentFile, heading ++ " in page ".toList ++ page, 1, none⟩)
  | .noPages => .ok (some ⟨.error, s.currentFile, noPagesText, 1, none⟩)
  | .missingCharacter text => .ok (some ⟨.warning, s.currentFile, text, 1, none⟩)
  | .announcement a => numbered a.line fun line =>
    { kind := if a.isWarning then .warning else .info, file := s.currentFile, line
      text := a.emitter ++ [':', ' '] ++ a.body ++ a.stop }
  | .unlistedKey key _ =>
    .ok (some ⟨.warning, [], "No bib entry found for '".toList ++ key ++ ['\x27'], 1, none⟩)
  | .failure f => numbered (f.place.map (·.2)) fun line =>
    ⟨.error, Session.failureFile f s, Session.failureText f, line, none⟩

def modeAfter (m : Mode) : Notice → Mode
  | .box ⟨_, .paragraph _ _⟩ _ | .box ⟨_, .detected _⟩ _ => .boxContent
  | .announcement _ => .message false
  | .noPages | .failure _ => .message true
  | _ => m

def leftOver : Notice → Pass
  | .box ⟨_, .output _⟩ rest | .unlistedKey _ rest => .again rest
  | _ => .finished

end Notice

namespace Session

private theorem withLine_eq (s : Session) (digits : Option Text) (e : Nat → Entry) (m : Mode)
    (p : Pass) :
    (withLine s digits fun line => ({ s.start (e line) with mode := m }, p)) =
      match Notice.numbered digits e with
      | .error fault => s.failing fault
      | .ok none => (s, .finished)
      | .ok (some e) => ({ s.start e with mode := m }, p) := by
  rw [withLine, Notice.numbered]
  cases lineNumber digits <;> rfl

/-- All kinds of notices start their entry in the same way. -/
theorem accept_eq (notice : Notice) (s : Session) :
    accept notice s =
      match notice.entry? s with
      | .error fault => s.failing fault
      | .ok none => (s, .finished)
      | .ok (some e) => ({ s.start e with mode := notice.modeAfter s.mode }, notice.leftOver) := by
  cases notice with
  | summary => rfl
  | unresolved u => exact withLine_eq s (some u.line) _ s.mode .finished
  | box b rest =>
    obtain ⟨heading, place⟩ := b
    cases place with
    | paragraph line last => exact withLine_eq s (some line) _ .boxContent .finished
    | detected line => exact withLine_eq s (some line) _ .boxContent .finished
    | output page => cases page <;> rfl
  | noPages => rfl
  | missingCharacter text => rfl
  | announcement a => exact withLine_eq s a.line _ (.message false) .finished
  | unlistedKey key rest => rfl
  | failure f => exact withLine_eq s (f.place.map (·.2)) _ (.message true) .finished

end Session

/-- The second draft is the first with more text, or with another line or context. -/
structure Draft.IsContinuedBy (d d' : Draft) : Prop where
  kind : d'.kind = d.kind
  file : d'.file = d.file
  text : d.text <+: d'.text

theorem Draft.isContinuedBy_refl (d : Draft) : d.IsContinuedBy d := ⟨rfl, rfl, List.prefix_refl _⟩

namespace Session

/-- A line inside a message touches nothing but the draft and the mode. -/
theorem continueMessage_cases (inError : Bool) (line : Text) (s : Session) :
    ∃ d m p, continueMessage inError line s = ({ s with draft := d, mode := m }, p) ∧
      s.draft.IsContinuedBy d ∧ ∀ rest, p ≠ .again rest := by
  have hlonger (text : Text) : s.draft.IsContinuedBy (appended text s).draft :=
    ⟨rfl, rfl, List.prefix_append _ _⟩
  rw [continueMessage]
  split
  · exact ⟨_, .idle, _, rfl, hlonger _, nofun⟩
  · split
    · rename_i c r hc
      simp only [continueWith]
      split
      · exact ⟨_, s.mode, _, rfl, hlonger _, nofun⟩
      · rename_i digits hdigits
        rw [withLine]
        split
        · exact ⟨_, s.mode, _, rfl, ⟨rfl, rfl, List.prefix_append _ _⟩, nofun⟩
        · exact ⟨_, s.mode, _, rfl, hlonger _, nofun⟩
    · split
      · rename_i mark r hmark
        rw [withLine]
        split
        · exact ⟨_, .idle, _, rfl, ⟨rfl, rfl, List.prefix_refl _⟩, nofun⟩
        · exact ⟨_, s.mode, _, rfl, s.draft.isContinuedBy_refl, nofun⟩
      · exact ⟨_, s.mode, _, rfl, hlonger _, nofun⟩

/-- The entry that one look at a line starts, if it starts one. -/
def startedBy (line : Text) (s : Session) : Option Entry :=
  match s.mode, Notice.ofLine? line with
  | .idle, some notice => (notice.entry? s).toOption.join
  | _, _ => none

/-- Either an entry starts, or there is nothing more to read on the line and the pending message
is continued at most. -/
theorem pass_cases (line : Text) (s : Session) :
    (∃ notice e, Notice.ofLine? line = some notice ∧ startedBy line s = some e ∧
      pass line s = ({ s.start e with mode := notice.modeAfter s.mode }, notice.leftOver)) ∨
      startedBy line s = none ∧ ∃ d m n p,
        pass line s = ({ s with draft := d, mode := m, nesting := n }, p) ∧
          s.draft.IsContinuedBy d ∧ ∀ rest, p ≠ .again rest := by
  have hrefl := s.draft.isContinuedBy_refl
  rw [pass, startedBy]
  cases hm : s.mode with
  | boxContent => exact .inr ⟨rfl, _, .idle, _, _, rfl, hrefl, nofun⟩
  | message inError =>
    obtain ⟨d, m, p, h, hd, hp⟩ := continueMessage_cases inError line s
    exact .inr ⟨rfl, d, m, _, p, h, hd, hp⟩
  | idle =>
    cases hn : Notice.ofLine? line with
    | none => exact .inr ⟨rfl, _, s.mode, _, _, rfl, hrefl, nofun⟩
    | some notice =>
      simp only [accept_eq, hm]
      rcases notice.entry? s with fault | _ | e
      · exact .inr ⟨rfl, _, s.mode, _, _, rfl, hrefl, nofun⟩
      · exact .inr ⟨rfl, _, s.mode, _, _, rfl, hrefl, nofun⟩
      · exact .inl ⟨notice, e, rfl, rfl, rfl⟩

end Session
end TypesetTrace.Log
