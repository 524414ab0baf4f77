import TypesetTrace.Log.Notice.Box
import TypesetTrace.Log.Notice.Warning
import TypesetTrace.Log.Notice.Failure

/-! The one-line notices that start a message, in the order in which a line is tried for them. -/
namespace TypesetTrace.Log
open Text

inductive Notice where
  /-- The closing remark that some references were not found; each was reported before. -/
  | summary
  | unresolved (u : Unresolved)
  /-- A bad box; after one on a page, `rest` is still to be read. -/
  | box (b : BoxNotice) (rest : Text)
  | noPages
  | missingCharacter (text : Text)
  | announcement (a : Announcement)
  /-- A key without a bibliography entry, with the `rest` that is still to be read. -/
  | unlistedKey (key rest : Text)
  | failure (f : Failure)
  deriving DecidableEq, Repr

namespace Notice

def summaryLine : Text := "LaTeX Warning: There were undefined references.".toList

def noPagesText : Text := "No pages of output.".toList

/-- The line says that nothing was put on paper; what follows on it is at most a line break. -/
def noPages? (s : Text) : Option Text :=
  (after? noPagesText s).bind fun rest => if endsLine rest then some rest else none

def ofLine? (s : Text) : Option Notice :=
  if s = summaryLine then some .summary
  else match Unresolved.ofLine? s with
  | some (u, _) => some (.unresolved u)
  | none => match BoxNotice.ofLine? s with
  | some (b, rest) => some (.box b rest)
  | none => match noPages? s with
  | some _ => some .noPages
  | none => match Log.missingCharacter? s with
  | some (text, _) => some (.missingCharacter text)
  | none => match Announcement.ofLine? s with
  | some (a, _) => some (.announcement a)
  | none => match unlistedKey? s with
  | some (key, rest) => some (.unlistedKey key rest)
  | none => (Failure.ofLine? s).map fun (f, _) => .failure f

end Notice
end TypesetTrace.Log
