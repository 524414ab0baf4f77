import TypesetTrace.Text.Digit
import TypesetTrace.Text.Match

/-! Which input file the engine is in. It prints an opening parenthesis and the name when it
opens a file and a closing one when it leaves the file; parentheses that open no file are only
counted, so that the ones that close them take no file away. -/
namespace TypesetTrace.Log

/-- The files that are open, innermost first, and the number of parentheses that are open
without naming a file. -/
structure Nesting where
  files : List Text
  anonymous : Int := 0
  deriving DecidableEq, Repr

namespace Nesting
open Text

def isLetter (c : Char) : Bool :=
  ('a' ≤ c && c ≤ 'z') || ('A' ≤ c && c ≤ 'Z')

def isSmallLetter (c : Char) : Bool := 'a' ≤ c && c ≤ 'z'

def isSlash (c : Char) : Bool := c == '/' || c == '\\'

/-- A name ends at a quote, a parenthesis or a bracket. -/
def isNameChar (c : Char) : Bool :=
  !(c == '"' || c == '(' || c == ')' || c == '[' || c == ']')

def unquoted : Text → Text
  | '"' :: s => s
  | s => s

/-- A text that starts like a path: with a slash, or a dot or a drive and then a slash. -/
def startsLikePath : Text → Bool
  | [] => false
  | [c] => isSlash c
  | [c, d] => isSlash c || (c == '.' && isSlash d)
  | c :: d :: e :: _ =>
    isSlash c || (c == '.' && isSlash d) || (isLetter c && d == ':' && isSlash e)

def path? (s : Text) : Option (Text × Text) :=
  let s := unquoted s
  if startsLikePath s then some (s.takeWhile isNameChar, s.dropWhile isNameChar) else none

/-- A name that ends in a dot and at least three small letters, at the front of a text, as far
as it goes, with what follows it. -/
def bareName? (s : Text) : Option (Text × Text) :=
  let extension : Text → Option (Text × Text)
    | '.' :: r => if 3 ≤ (r.takeWhile isSmallLetter).length then run? isSmallLetter r else none
    | _ => none
  (longest isNameChar extension (unquoted s)).map
    fun (stem, letters, rest) => (stem ++ '.' :: letters, rest)

def opened? (s : Text) : Option Text :=
  match path? s with
  | some (path, _) => some (strip path)
  | none => (bareName? s).map fun (name, _) => '.' :: '/' :: strip name

def parenthesis? (s : Text) : Option (Text × Char × Text) :=
  anywhere (fun
    | c :: r => if c == '(' || c == ')' then some (c, r) else none
    | [] => none) s

def enter (rest : Text) (n : Nesting) : Nesting :=
  match opened? rest with
  | some file => { n with files := file :: n.files }
  | none => { n with anonymous := n.anonymous + 1 }

/-- A closing parenthesis closes one that names no file first, then the innermost file. -/
def leave (n : Nesting) : Nesting :=
  if 0 < n.anonymous then { n with anonymous := n.anonymous - 1 }
  else { n with files := n.files.tail }

def scan : Text → Nesting → Nesting
  | [], n => n
  | c :: rest, n =>
    if c = '(' then scan rest (enter rest n)
    else if c = ')' then scan rest (leave n)
    else scan rest n

end Nesting
end TypesetTrace.Log
