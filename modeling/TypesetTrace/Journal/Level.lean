import TypesetTrace.Journal.Problem
import TypesetTrace.Text.Capital
import TypesetTrace.Text.Numeral

/-! How grave a record of the program's own journal is. -/
namespace TypesetTrace.Journal

/-- Levels are numbers; only some of them have names. -/
abbrev Level := Int

def Level.notSet : Level := 0
def Level.debug : Level := 10
def Level.info : Level := 20
def Level.warning : Level := 30
def Level.error : Level := 40
def Level.critical : Level := 50

def named : List (Level × String) :=
  [(Level.notSet, "NOTSET"), (Level.debug, "DEBUG"), (Level.info, "INFO"),
    (Level.warning, "WARNING"), (Level.error, "ERROR"), (Level.critical, "CRITICAL")]

def Level.name (l : Level) : Text :=
  match named.lookup l with
  | some name => name.toList
  | none => "Level ".toList ++ Text.ofInt l

/-- The text that the name of the basic format stands for. -/
def basicFormat : String := "%(levelname)s:%(name)s:%(message)s"

/-- The level that a setting names, in capitals or not. Names have only ASCII letters. What is no
known name means `info`. -/
def Level.ofName (setting : Text) : Except Problem Level :=
  match String.ofList (Text.capitals setting) with
  | "NOTSET" => .ok notSet
  | "DEBUG" => .ok debug
  | "INFO" => .ok info
  | "WARN" | "WARNING" => .ok warning
  | "ERROR" => .ok error
  | "CRITICAL" | "FATAL" => .ok critical
  | "BASIC_FORMAT" => .error (.unknownLevel basicFormat)
  | "_STYLES" => .error .noLevel
  | _ => .ok info

end TypesetTrace.Journal
