import TypesetTrace.Files
import TypesetTrace.Sync.Document

/-! Finding the synchronisation data of a source file. What was read last is kept in one slot under
the path that it was asked for with, spelled exactly so. -/
namespace TypesetTrace.Navigation
open Text Sync

abbrev Slot (K : Type) := Option (Text × Document K)

/-- The names tried for synchronisation data beside a source file, in this order. -/
def defaultSuffixes : List Text :=
  [".sync".toList, ".sync.gz".toList, ".synctex".toList, ".synctex.gz".toList]

/-- What a look-up gave, the slot after it, and the files that were opened for it, in order. -/
structure Access (K α : Type) where
  result : Except Fault α
  slot : Slot K
  opened : List Text := []

variable {K α β : Type}

def Access.bind (a : Access K α) (f : α → Except Fault β) : Access K β :=
  { a with result := a.result.bind f }

/-- The slot answers only for the very path it was filled under. -/
def Slot.get? (path : Text) (slot : Slot K) : Option (Document K) :=
  match slot with
  | some (kept, d) => if kept = path then some d else none
  | none => none

def Slot.store (path : Text) (d : Document K) (_ : Slot K) : Slot K := some (path, d)

def Slot.path? (slot : Slot K) : Option Text := slot.map (·.1)

def candidates (suffixes : List Text) (source : Text) : List Text :=
  suffixes.map fun suffix => Path.withoutExtension source ++ suffix

variable [Scalar K]

def syncFile? (suffixes : List Text) (fs : Files) (source : Text) : Option Text :=
  (candidates suffixes source).find? fs.isFile

/-- The document in a file; none if the file cannot be read or its axes are not known. -/
def readDocument (fs : Files) (path : Text) : Except Fault (Option (Document K)) :=
  match fs.readMaybeCompressed? path with
  | none => .ok none
  | some body =>
    match Document.ofText body with
    | .ok d => .ok (some d)
    | .error (.unknownAxis _) => .ok none
    | .error (.fault f) => .error f

def fetch (suffixes : List Text) (fs : Files) (source : Text) :
    Except Fault (Option (Document K)) × List Text :=
  match syncFile? suffixes fs source with
  | none => (.ok none, [])
  | some path => (readDocument fs path, [path])

/-- The synchronisation data of a source file, from the slot if it is there. Data that was read
takes the slot; where there is none the slot stays as it is. -/
def load (suffixes : List Text) (fs : Files) (source : Text) (slot : Slot K) :
    Access K (Option (Document K)) :=
  match slot.get? source with
  | some d => ⟨.ok (some d), slot, []⟩
  | none =>
    match fetch suffixes fs source with
    | (.ok (some d), opened) => ⟨.ok (some d), slot.store source d, opened⟩
    | (result, opened) => ⟨result, slot, opened⟩

end TypesetTrace.Navigation
