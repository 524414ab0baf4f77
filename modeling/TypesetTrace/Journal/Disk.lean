import TypesetTrace.Path
import TypesetTrace.Text.Utf8

/-! The disk that the journal is written to: directories are made where they are missing on the way
to a file, and the file is opened. Every step of it can fail. -/
namespace TypesetTrace.Journal
open Text

inductive Obstacle where
  | missing
  | taken
  /-- A name on the way leads to something that is no directory. -/
  | notDirectory
  | isDirectory
  | tooLong
  deriving DecidableEq, Repr

def Obstacle.message : Obstacle → String
  | .missing => "[Errno 2] No such file or directory"
  | .taken => "[Errno 17] File exists"
  | .notDirectory => "[Errno 20] Not a directory"
  | .isDirectory => "[Errno 21] Is a directory"
  | .tooLong => "[Errno 36] File name too long"

def maxName : Nat := 255

def maxPath : Nat := 4095

def isLongName (name : Text) : Bool := maxName < (toUtf8 name).length

def isLongPath (path : Text) : Bool := maxPath < (toUtf8 path).length

/-- A file, or a directory with what it has. Nothing can be added to a closed directory. -/
inductive Node where
  | file
  | directory (isClosed : Bool) (entries : List (Text × Node))

namespace Node

def empty : Node := .directory false []

def isDirectory : Node → Bool
  | .file => false
  | .directory .. => true

def entries : Node → List (Text × Node)
  | .file => []
  | .directory _ es => es

def entry? (n : Node) (name : Text) : Option Node := n.entries.lookup name

/-- A directory with another entry, in the place of one of the same name. -/
def put (n : Node) (name : Text) (child : Node) : Node :=
  match n with
  | .file => .file
  | .directory isClosed es => .directory isClosed ((name, child) :: es.filter (·.1 ≠ name))

def add (n : Node) (names : List Text) (child : Node) : Node :=
  match names with
  | [] => child
  | name :: rest => n.put name (((n.entry? name).getD empty).add rest child)

def openFile (n : Node) (names : List Text) : Except Obstacle Unit :=
  match n, names with
  | .file, [] => .ok ()
  | .file, _ :: _ => .error .notDirectory
  | .directory .., [] => .error .isDirectory
  | .directory isClosed es, name :: rest =>
    if isLongName name then .error .tooLong
    else match es.lookup name with
      | some n => n.openFile rest
      | none => if rest = [] ∧ !isClosed then .ok () else .error .missing
termination_by structural names

end Node

/-- A place in a tree of directories: what is there, and the way to it, the last step first. A step
is the directory that was left and the name that was followed. -/
structure Standpoint where
  here : Node
  way : List (Node × Text) := []

namespace Standpoint

def enter (p : Standpoint) (name : Text) (n : Node) : Standpoint :=
  { here := n, way := (p.here, name) :: p.way }

/-- One step back. The root is its own way up. -/
def leave (p : Standpoint) : Standpoint :=
  match p.way with
  | [] => p
  | (above, name) :: way => { here := above.put name p.here, way }

def tree (p : Standpoint) : Node :=
  p.way.foldl (fun below (above, name) => above.put name below) p.here

/-- Goes along names, making directories that are missing. From the first one made, each further
one is made by itself, so an obstacle is told with the names up to it. Before, the whole way is
tried at once, and an obstacle is told with all names. -/
def makeAll (whole : List Text) (isMaking : Bool) (past : List Text) (p : Standpoint) :
    List Text → Except (Obstacle × List Text) Standpoint
  | [] => .ok p
  | name :: rest =>
    let past := name :: past
    let told := if isMaking then past.reverse else whole
    if !p.here.isDirectory then .error (.notDirectory, told)
    else if isLongName name then .error (.tooLong, told)
    else if name = Path.up then makeAll whole isMaking past p.leave rest
    else match p.here, p.here.entry? name with
      | _, some n =>
        if !n.isDirectory && (isMaking || rest.isEmpty) then .error (.taken, told)
        else makeAll whole isMaking past (p.enter name n) rest
      | .directory true _, none => .error (.missing, past.reverse)
      | _, none => makeAll whole true past (p.enter name .empty) rest

end Standpoint

structure Disk where
  root : Node
  working : List Text

namespace Disk

def start (d : Disk) (root : Text) : Standpoint :=
  let names := if root = [] then d.working else []
  names.foldl (fun p name => p.enter name ((p.here.entry? name).getD .empty)) { here := d.root }

/-- The disk with the directories along a path. An obstacle is told with the path that it stands
against. -/
def makeAll (d : Disk) (root : Text) (names : List Text) : Except (Obstacle × Text) Disk :=
  if isLongPath (Path.spell root names) then .error (.tooLong, Path.spell root names)
  else match (d.start root).makeAll names false [] names with
    | .ok p => .ok { d with root := p.tree }
    | .error (obstacle, names) => .error (obstacle, Path.spell root names)

def openFile (d : Disk) (path : Text) : Except Obstacle Unit :=
  if isLongPath path then .error .tooLong else d.root.openFile (Path.names path)

def usualDirectories : List String :=
  ["/bin", "/boot", "/dev", "/dev/mqueue", "/dev/pts", "/dev/shm", "/etc", "/home", "/lib",
    "/lib64", "/media", "/mnt", "/opt", "/root", "/run", "/sbin", "/srv", "/sys", "/tmp", "/usr",
    "/usr/bin", "/usr/include", "/usr/lib", "/usr/local", "/usr/local/bin", "/usr/local/lib",
    "/usr/sbin", "/usr/share", "/usr/src", "/var", "/var/cache", "/var/lib", "/var/log",
    "/var/spool", "/var/tmp"]

def usualFiles : List String :=
  ["/bin/cat", "/bin/ls", "/bin/sh", "/dev/full", "/dev/null", "/dev/random", "/dev/stderr",
    "/dev/stdin", "/dev/stdout", "/dev/tty", "/dev/urandom", "/dev/zero", "/etc/group",
    "/etc/hostname", "/etc/hosts", "/etc/passwd", "/etc/resolv.conf", "/usr/bin/env"]

def addAll (root : Node) (paths : List String) (n : Node) : Node :=
  paths.foldl (fun root path => root.add (Path.names path.toList) n) root

def usualRoot : Node :=
  let root := addAll .empty usualDirectories .empty
  let root := addAll root ["/proc", "/proc/self"] (.directory true [])
  addAll root usualFiles .file

def usual : Disk where
  root := usualRoot.add (Path.names "/tmp/journal".toList) .empty
  working := Path.names "/tmp/journal".toList

end Disk
end TypesetTrace.Journal
