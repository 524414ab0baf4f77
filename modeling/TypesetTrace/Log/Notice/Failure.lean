import TypesetTrace.Text.Digit
import TypesetTrace.Text.Match

/-! Errors: the line that announces one, and the line that shows the source text at it. -/
namespace TypesetTrace.Log
open Text

/-- A line such as `! LaTeX Error: body` or `./a.tex:3: body`. -/
structure Failure where
  place : Option (Text × Text)
  emitter : Option Text
  body : Text
  deriving DecidableEq, Repr

def spacedBody? : Text → Option (Text × Text)
  | ' ' :: c :: s => if isInLine c then restOfLine? (c :: s) else none
  | _ => none

def afterErrorWord? (s : Text) : Option (Text × Text) :=
  ((after? " Error:".toList s).bind spacedBody?).or
    ((after? " error:".toList s).bind spacedBody?)

def withEmitter? (s : Text) : Option (Text × Text × Text) :=
  let emitted (s : Text) : Option (Text × Text × Text) :=
    longestNonempty isInLine afterErrorWord? s
  match s with
  | c :: r => (if isBlank c then emitted r else none).or (emitted s)
  | [] => none

/-- What follows the place or the exclamation mark: the emitter, if one is named, and the body.
The last `Error:` of the line ends the emitter. -/
def failureText? (s : Text) : Option (Option Text × Text × Text) :=
  ((withEmitter? s).map fun (emitter, body, rest) => (some emitter, body, rest)).or
    ((spacedBody? s).map fun (body, rest) => (none, body, rest))

def numbered? : Text → Option (Text × Option Text × Text × Text)
  | ':' :: s => do
    let (line, rest) ← run? isDigit s
    let found ← failureText? (← after? ":".toList rest)
    some (line, found)
  | _ => none

/-- The file name reaches to the last number between colons after which the line can be read. -/
def Failure.ofLine? (s : Text) : Option (Failure × Text) :=
  match longest isInLine numbered? s with
  | some (file, line, emitter, body, rest) => some (⟨some (file, line), emitter, body⟩, rest)
  | none => do
    let (emitter, body, rest) ← failureText? (← after? "!".toList s)
    some (⟨none, emitter, body⟩, rest)

/-- A line such as `l.3 \foo`: the number of the source line and its text. -/
structure SourceMark where
  line : Text
  /-- The text was cut at the front. -/
  shortened : Bool
  text : Text
  deriving DecidableEq, Repr

def SourceMark.ofLine? (s : Text) : Option (SourceMark × Text) := do
  let (line, rest) ← run? isDigit (← after? "l.".toList s)
  match rest with
  | c :: r =>
    if isBlank c then
      match after? "...".toList r with
      | some r => (restOfLine? r).map fun (text, rest) => (⟨line, true, text⟩, rest)
      | none => (restOfLine? r).map fun (text, rest) => (⟨line, false, text⟩, rest)
    else none
  | [] => none

end TypesetTrace.Log
