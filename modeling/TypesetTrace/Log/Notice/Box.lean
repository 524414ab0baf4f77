import TypesetTrace.Text.Digit
import TypesetTrace.Text.Match

/-! Notices about boxes that came out badly. All start with a heading such as
`Overfull \hbox (3.2pt too wide)` and then say where the box stands. -/
namespace TypesetTrace.Log
open Text

inductive Fullness where
  | overfull | underfull
  deriving DecidableEq, Repr

/-- Where a bad box stands: in the lines of a paragraph, at a line, or on a page that was just
being put together. Numbers are kept as they are written. -/
inductive BoxPlace where
  | paragraph (first last : Text)
  | detected (line : Text)
  | output (page : Option Text)
  deriving DecidableEq, Repr

structure BoxNotice where
  heading : Text
  place : BoxPlace
  deriving DecidableEq, Repr

def Fullness.word : Fullness → Text
  | .overfull => "Overfull ".toList
  | .underfull => "Underfull ".toList

namespace BoxNotice

def heading? (fullness : Fullness) (s : Text) : Option (Text × Text) := do
  let rest ← after? fullness.word s
  let (box, rest) ← match rest with
    | '\\' :: 'h' :: rest => some ("\\h".toList, rest)
    | '\\' :: 'v' :: rest => some ("\\v".toList, rest)
    | _ => none
  let rest ← after? "box (".toList rest
  match rest.dropWhile (· != ')') with
  | ')' :: tail =>
    some (fullness.word ++ box ++ "box (".toList ++ rest.takeWhile (· != ')') ++ [')'], tail)
  | _ => none

def paragraph? (s : Text) : Option (BoxPlace × Text) := do
  let rest ← after? " in paragraph at lines ".toList s
  let (first, rest) ← run? isDigit rest
  let rest ← after? "--".toList rest
  let (last, rest) ← run? isDigit rest
  if endsLine rest then some (.paragraph first last, rest) else none

def detected? (s : Text) : Option (BoxPlace × Text) := do
  let rest ← after? " detected at line ".toList s
  let (line, rest) ← run? isDigit rest
  if endsLine rest then some (.detected line, rest) else none

def pageMark? (s : Text) : Option (Text × Text) := do
  let (page, rest) ← run? isDigit (← after? " [".toList s)
  some (page, ← after? "]".toList rest)

/-- The notice may go on with the number of the page, and more may follow on the line. -/
def output? (s : Text) : Option (BoxPlace × Text) := do
  let rest ← after? " has occurred while \\output is active".toList s
  match pageMark? rest with
  | some (page, rest) => some (.output (some page), rest)
  | none => some (.output none, rest)

/-- The places that a heading can be followed by; no two of them start alike. -/
def place? (s : Text) : Option (BoxPlace × Text) :=
  (paragraph? s).or ((detected? s).or (output? s))

def ofLine? (s : Text) : Option (BoxNotice × Text) := do
  let (heading, rest) ← (heading? .overfull s).or (heading? .underfull s)
  let (place, rest) ← place? rest
  some (⟨heading, place⟩, rest)

end BoxNotice
end TypesetTrace.Log
