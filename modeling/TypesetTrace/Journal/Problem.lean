import TypesetTrace.Journal.Disk
import TypesetTrace.Text.Quoted

/-! What can go wrong with the program's own journal, each cause with its wording. -/
namespace TypesetTrace.Journal

inductive Problem where
  | invalidSettings
  | unusableSource
  | wrongSource
  /-- The name of a level stands for a text that is no level. -/
  | unknownLevel (text : String)
  | noLevel
  | nulInFileName
  | obstacle (o : Obstacle) (path : Text)
  /-- The seconds of a moment do not fit into 64 bits. -/
  | beyondClock
  /-- The year, counted from 1900, does not fit into 32 bits. -/
  | beyondCalendar
  /-- The year itself does not fit into 32 bits. -/
  | beyondYears
  deriving DecidableEq, Repr

def Problem.message : Problem → Option String
  | .unknownLevel text => some s!"Unknown level: '{text}'"
  | .nulInFileName => some "embedded null byte"
  | .obstacle o path => some s!"{o.message}: {String.ofList (Text.quoted path)}"
  | .beyondClock => some "timestamp out of range for platform time_t"
  | .beyondCalendar => some "[Errno 75] Value too large for defined data type"
  | .beyondYears => some "signed integer is greater than maximum"
  | .invalidSettings | .unusableSource | .wrongSource | .noLevel => none

end TypesetTrace.Journal
