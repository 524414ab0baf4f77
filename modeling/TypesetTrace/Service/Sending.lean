import TypesetTrace.Service.Location
import TypesetTrace.Service.Request
import TypesetTrace.Text.Quoted

/-! What keeps a request from being sent at all. -/
namespace TypesetTrace.Service
open Text

inductive Unsendable where
  /-- The path or the query has a control or is too long. -/
  | badLocation
  /-- The site has characters outside ASCII; the first of them, and those next to it, follow so
  many others. -/
  | foreignOrigin (skipped : Nat) (run : Text)
  | endlessNumber
  deriving DecidableEq, Repr

def isAscii (c : Char) : Bool := c.toNat < 0x80

def Unsendable.message : Unsendable → Option String
  | .badLocation => none
  | .endlessNumber => some "Out of range float values are not JSON compliant"
  | .foreignOrigin skipped run =>
    let what := match run with
      | [c] => s!"character '{String.ofList (byNumber c)}' in position {skipped}"
      | run => s!"characters in position {skipped}-{skipped + run.length - 1}"
    some ("'ascii' codec can't encode " ++ what ++ ": ordinal not in range(128)")

def maxLocation : Nat := 65536

def isControl (c : Char) : Bool := c.toNat < 0x20 || c.toNat = 0x7F

def isPathChar (c : Char) : Bool :=
  isAscii c && !isControl c && !" \"#<>?\x60\x7b\x7d".toList.contains c

def isQueryChar (c : Char) : Bool := c.isAlphanum || " -._~".toList.contains c

def sentLength (isPlain : Char → Bool) (s : Text) : Nat :=
  s.foldl (fun n c => n + if isPlain c then 1 else 3 * c.utf8Size) 0

/-- Fields are sent with a mark between name and value, and one between neighbours. -/
def queryLength : List (Text × Text) → Nat
  | [] => 0
  | [(name, value)] => sentLength isQueryChar name + 1 + sentLength isQueryChar value
  | (name, value) :: rest =>
    sentLength isQueryChar name + 1 + sentLength isQueryChar value + 1 + queryLength rest

def isBadLocation (r : Request) : Bool :=
  r.path.any isControl || maxLocation < sentLength isPathChar (base ++ r.path)

def foreignOrigin? (origin : Text) : Option Unsendable :=
  match origin.dropWhile isAscii with
  | [] => none
  | run => some (.foreignOrigin (origin.length - run.length) (run.takeWhile (!isAscii ·)))

/-- Why the request cannot be sent, with the value that its body is to write, if it writes one. -/
def unsendable? (r : Request) (value : Option Json) : Option Unsendable :=
  if isBadLocation r then some .badLocation
  else match r.origin.bind foreignOrigin? with
    | some problem => some problem
    | none =>
      if maxLocation < queryLength r.query then some .badLocation
      else if value.any (!isSendable ·) then some .endlessNumber
      else none

end TypesetTrace.Service
