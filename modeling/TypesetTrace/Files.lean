import TypesetTrace.Gzip.Member
import TypesetTrace.Keyed
import TypesetTrace.Path
import TypesetTrace.Text.Quoted
import TypesetTrace.Text.Utf8

/-! The files that can be read. They are known by their normal absolute paths, and every spelling
of a path leads to the same file. -/
namespace TypesetTrace
open Text

inductive Stored where
  | bytes (content : List UInt8)
  | denied
  deriving DecidableEq

structure Files where
  stored : Keyed Text Stored := .empty
  working : Path.WorkingDirectory := .usual

/-- Why a file cannot be opened, with the path as it was given. -/
inductive OpenError where
  | missing (path : Text)
  | denied (path : Text)
  deriving DecidableEq, Repr

def OpenError.message : OpenError → String
  | .missing path => s!"[Errno 2] No such file or directory: {String.ofList (quoted path)}"
  | .denied path => s!"[Errno 13] Permission denied: {String.ofList (quoted path)}"

namespace Files

/-- The path under which a file is stored; two slashes in front count as one. -/
def resolve (fs : Files) (p : Text) : Text :=
  match Path.absolute fs.working p with
  | '/' :: '/' :: q => '/' :: q
  | q => q

def write (p : Text) (content : Stored) (fs : Files) : Files :=
  { fs with stored := fs.stored.put (fs.resolve p) content }

def delete (p : Text) (fs : Files) : Files := { fs with stored := fs.stored.erase (fs.resolve p) }

/-- Nothing can be found under an empty path or one with a NUL. -/
def isUsable (p : Text) : Bool := p != [] && !p.contains '\x00'

/-- A file is stored under the path; a path that ends in a slash names no file. -/
def isFile (fs : Files) (p : Text) : Bool :=
  isUsable p && p.getLast? != some '/' && (fs.stored.get? (fs.resolve p)).isSome

def isDirectory (fs : Files) (p : Text) : Bool :=
  p == ['/'] || fs.stored.keys.any fun k => (after? (p ++ ['/']) k).isSome

/-- The path names a file or a directory that leads to one. -/
def exists? (fs : Files) (p : Text) : Bool :=
  isUsable p && (fs.isFile p || isDirectory fs (fs.resolve p))

def read (fs : Files) (p : Text) : Except OpenError (List UInt8) :=
  match if fs.isFile p then fs.stored.get? (fs.resolve p) else none with
  | none => .error (.missing p)
  | some .denied => .error (.denied p)
  | some (.bytes content) => .ok content

def textOf (bytes : List UInt8) : Text := unifyBreaks (ofUtf8 bytes)

def readText (fs : Files) (p : Text) : Except OpenError Text := (fs.read p).map textOf

def isCompressed (p : Text) : Bool := (after? ".gz".toList.reverse p.reverse).isSome

def readMaybeCompressed? (fs : Files) (p : Text) : Option Text :=
  match fs.read p with
  | .error _ => none
  | .ok bytes => (if isCompressed p then Gzip.decompress? bytes else some bytes).map textOf

end Files
end TypesetTrace
