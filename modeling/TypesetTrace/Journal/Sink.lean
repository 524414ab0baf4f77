import TypesetTrace.Journal.Level
import TypesetTrace.Journal.Source
import TypesetTrace.Journal.Timestamp
import TypesetTrace.Path
import TypesetTrace.Text.LowerCase

/-! Where the records of the program's own journal go, and how they are written there. -/
namespace TypesetTrace.Journal

structure Settings where
  level : Text := "INFO".toList
  file : Text := "logs/texfeedback.log".toList
  maxBytes : Int := 5 * 1024 * 1024
  backupCount : Int := 3
  deriving DecidableEq, Repr

/-- A number with a fraction part is a whole number only below this. -/
def wordBound : Float := Float.ofNat bound64

/-- A whole number of a setting: a number without a fraction, a text that writes one, or a truth
value. -/
def wholeNumber? : Json → Option Int
  | .bool b => some (if b then 1 else 0)
  | .string s => s.text?.bind fun s => (Service.integer s).toOption
  | .number spelling =>
    match Text.signedRun? spelling with
    | some (digits, []) => (Text.toInt digits).toOption
    | _ => match Service.real spelling with
      | .ok x =>
        if !(x.abs < wordBound) || x != x.floor then none
        else
          let (m, e) := Binary64.magnitude x
          let n : Nat := if 0 ≤ e then m <<< e.toNat else m >>> (-e).toNat
          some (if Binary64.isNegative x then -n else n)
      | .error _ => none
  | _ => none

def texts? : Json → Option (List Text)
  | .array vs => vs.mapM Json.text?
  | _ => none

def settingNames : List Text :=
  ["LOG_LEVEL".toList, "LOG_FILE".toList, "LOG_MAX_BYTES".toList, "LOG_BACKUP_COUNT".toList,
    "CORS_ORIGINS".toList, "SYNCTEX_SUFFIXES".toList]

def isNamed (name : Text) (field : Text × Json) : Bool := Text.lower field.1 == Text.lower name

/-- The value of a setting: the one under its very name, or else the first one. -/
def valueOf? (name : Text) (fields : List (Text × Json)) : Option Json :=
  ((fields.find? (·.1 == name)).or (fields.find? (isNamed name))).map (·.2)

/-- A setting that is not given keeps its value; one that cannot be read is a problem. -/
def setting {α : Type} (fields : List (Text × Json)) (name : String) (read : Json → Option α)
    (usual : α) : Except Problem α :=
  match (valueOf? name.toList fields).map read with
  | none => .ok usual
  | some (some a) => .ok a
  | some none => .error .invalidSettings

def isKnown (field : Text × Json) : Bool :=
  Source.isName field.1 || settingNames.any fun name => isNamed name field

/-- Two of the settings concern other parts of the program and are only looked at. -/
def Settings.ofFields (fields : List (Text × Json)) : Except Problem Settings := do
  let usual : Settings := {}
  if let some problem := Source.problem? fields then throw problem
  if !fields.all isKnown then throw .invalidSettings
  let level ← setting fields "LOG_LEVEL" Json.text? usual.level
  let file ← setting fields "LOG_FILE" Json.text? usual.file
  let maxBytes ← setting fields "LOG_MAX_BYTES" wholeNumber? usual.maxBytes
  let backupCount ← setting fields "LOG_BACKUP_COUNT" wholeNumber? usual.backupCount
  let _ ← setting fields "CORS_ORIGINS" texts? []
  let _ ← setting fields "SYNCTEX_SUFFIXES" texts? []
  return { level, file, maxBytes, backupCount }

inductive Sink where
  | console (level : Level)
  /-- A file that is replaced by a new one when it has grown to a number of bytes. -/
  | rotatingFile (level : Level) (path : Text) (maxBytes backupCount : Int)
  deriving DecidableEq, Repr

def Sink.level : Sink → Level
  | .console level => level
  | .rotatingFile level _ _ _ => level

def checkNames (names : List Text) : Except Problem Unit :=
  if names.any (·.contains '\x00') then .error .nulInFileName else .ok ()

def place (d : Disk) (file : Text) : Except Problem Text := do
  let names := Path.names file
  let path := Path.normalise (Path.join (Path.spell ['/'] d.working) file)
  checkNames names.dropLast
  let d ← (d.makeAll (Path.root file) names.dropLast).mapError fun (o, path) =>
    Problem.obstacle o path
  checkNames names
  (d.openFile path).mapError fun o => Problem.obstacle o path
  return path

def fileSink (d : Disk) (s : Settings) (level : Level) : Except Problem (List Sink) := do
  if s.file = [] then return []
  let path ← place d s.file
  let path := Path.relativeTo (Path.spell ['/'] d.working) path
  return [.rotatingFile level path s.maxBytes s.backupCount]

/-- The console, and the file if one is named. Problems with the file come before those with the
level. -/
def sinks (s : Settings) : Except Problem (List Sink) := do
  let _ ← fileSink .usual s .notSet
  let level ← Level.ofName s.level
  let files ← fileSink .usual s level
  return .console level :: files

structure Record where
  name : Text
  level : Level
  line : Int
  message : Text
  time : Int
  deriving DecidableEq, Repr

def padRight (width : Nat) (s : Text) : Text := s ++ List.replicate (width - s.length) ' '

def Record.render (r : Record) : Except Problem Text := do
  let separator : Text := [' ', '|', ' ']
  let moment ← Timestamp.ofSeconds r.time
  return moment.render ++ separator ++ padRight 7 (Level.name r.level) ++ separator ++ r.name ++
    [':'] ++ Text.ofInt r.line ++ separator ++ r.message

end TypesetTrace.Journal
