import TypesetTrace.Text.Match
import TypesetTrace.Text.Numeral

/-! The records of a synchronisation file, one to a line. A record may stand anywhere in its
line, and the first kind of record that a line holds counts. Numbers are kept as written: they are
converted only where the record takes effect. -/
namespace TypesetTrace.Sync
open Text

inductive BoxKind where
  | vertical | horizontal
  deriving DecidableEq, Repr

structure BoxFields where
  file : Text
  line : Text
  left : Text
  bottom : Text
  width : Text
  height : Text
  depth : Text
  deriving DecidableEq, Repr

structure ElementFields where
  symbol : Char
  file : Text
  line : Text
  left : Text
  bottom : Text
  width : Option Text
  deriving DecidableEq, Repr

inductive Record where
  | input (number path : Text)
  | offset (axis : Char) (value : Text)
  | openPage (number : Text)
  | closePage (number : Text)
  | openBox (kind : BoxKind) (fields : BoxFields)
  | closeBox
  | element (fields : ElementFields)
  deriving DecidableEq, Repr

def BoxKind.bracket : BoxKind → Char
  | .vertical => '['
  | .horizontal => '('

def BoxKind.closingBracket : BoxKind → Char
  | .vertical => ']'
  | .horizontal => ')'

namespace Record

def isAxis (c : Char) : Bool := ('a' ≤ c && c ≤ 'z') || ('A' ≤ c && c ≤ 'Z')

/-- `Input:1:path`, where the path reaches to the end of the line. -/
def inputAt? (s : Text) : Option ((Text × Text) × Text) := do
  let (number, rest) ← run? isAsciiDigit (← after? "Input:".toList s)
  let (path, rest) ← run? isInLine (← after? [':'] rest)
  some ((number, path), rest)

/-- `X Offset:12` -/
def offsetAt? : Text → Option ((Char × Text) × Text)
  | axis :: s =>
    if isAxis axis then do
      let (value, rest) ← signedRun? (← after? " Offset:".toList s)
      some ((axis, value), rest)
    else none
  | [] => none

def pageAt? (brace : Char) (s : Text) : Option (Text × Text) := do
  let (number, rest) ← run? isAsciiDigit (← after? [brace] s)
  if endsLine rest then some (number, rest) else none

def corner? (s : Text) : Option ((Text × Text × Text × Text) × Text) := do
  let (file, rest) ← run? isAsciiDigit s
  let (line, rest) ← run? isAsciiDigit (← after? [','] rest)
  let (left, rest) ← signedRun? (← after? [':'] rest)
  let (bottom, rest) ← signedRun? (← after? [','] rest)
  some ((file, line, left, bottom), rest)

/-- `[1,20:300,400:50,60,7` or the same with a parenthesis. -/
def boxAt? (kind : BoxKind) (s : Text) : Option (BoxFields × Text) := do
  let ((file, line, left, bottom), rest) ← corner? (← after? [kind.bracket] s)
  let (width, rest) ← signedRun? (← after? [':'] rest)
  let (height, rest) ← signedRun? (← after? [','] rest)
  let (depth, rest) ← signedRun? (← after? [','] rest)
  some (⟨file, line, left, bottom, width, height, depth⟩, rest)

def closeAt? (kind : BoxKind) (s : Text) : Option (Unit × Text) := do
  let rest ← after? [kind.closingBracket] s
  if endsLine rest then some ((), rest) else none

/-- The width of an element; the colon in front of it may be missing. -/
def elementWidth? (s : Text) : Option (Text × Text) :=
  ((after? [':'] s).bind signedRun?).or (signedRun? s)

/-- `x1,20:300,400` or `x1,20:300,400:50`, where any character may stand for `x`. -/
def elementAt? : Text → Option (ElementFields × Text)
  | symbol :: s =>
    if isInLine symbol then do
      let ((file, line, left, bottom), rest) ← corner? s
      match elementWidth? rest with
      | some (width, rest) => some (⟨symbol, file, line, left, bottom, some width⟩, rest)
      | none => some (⟨symbol, file, line, left, bottom, none⟩, rest)
    else none
  | [] => none

/-- What a reader finds at the first place of a line from which it reads. -/
def find? {α : Type} (read : Text → Option (α × Text)) (s : Text) : Option α :=
  (anywhere read s).map (·.2.1)

def ofLine? (s : Text) : Option Record :=
  match find? inputAt? s with
  | some (number, path) => some (.input number path)
  | none => match find? offsetAt? s with
  | some (axis, value) => some (.offset axis value)
  | none => match find? (pageAt? '\x7b') s with
  | some number => some (.openPage number)
  | none => match find? (pageAt? '\x7d') s with
  | some number => some (.closePage number)
  | none => match find? (boxAt? .vertical) s with
  | some fields => some (.openBox .vertical fields)
  | none =>
    if (find? (closeAt? .vertical) s).isSome || (find? (closeAt? .horizontal) s).isSome then
      some .closeBox
    else match find? (boxAt? .horizontal) s with
    | some fields => some (.openBox .horizontal fields)
    | none => (find? elementAt? s).map .element

end Record
end TypesetTrace.Sync
