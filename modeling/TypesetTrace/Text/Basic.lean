/-! Text as a list of characters, blanks, and cutting text at fixed words.
Blanks are the characters that separate words in Unicode text, line breaks included. -/
namespace TypesetTrace

abbrev Text := List Char

namespace Text

/-- The blanks: controls that move the cursor, and every space and separator of Unicode. -/
def isBlank (c : Char) : Bool :=
  let n := c.toNat
  (0x09 ≤ n && n ≤ 0x0D) || (0x1C ≤ n && n ≤ 0x20) || n == 0x85 || n == 0xA0 || n == 0x1680 ||
  (0x2000 ≤ n && n ≤ 0x200A) || n == 0x2028 || n == 0x2029 || n == 0x202F || n == 0x205F ||
  n == 0x3000

/-- A line break may not be passed over where a rule speaks about one line. -/
def isInLine (c : Char) : Bool := c != '\n'

def trimEnd (p : Char → Bool) (s : Text) : Text := (s.reverse.dropWhile p).reverse

def strip (s : Text) : Text := trimEnd isBlank (s.dropWhile isBlank)

def after? : (w s : Text) → Option Text
  | [], s => some s
  | _ :: _, [] => none
  | a :: w, c :: s => if a = c then after? w s else none

/-- The text ends here, or with one last line break. -/
def endsLine : Text → Bool
  | [] => true
  | [c] => c == '\n'
  | _ => false

/-- Every occurrence of the word `w`, taken from the left without overlap, is left out. The number
is how many more characters of the present occurrence are to be passed over. -/
def remove (w : Text) : Nat → Text → Text
  | _, [] => []
  | n + 1, _ :: s => remove w n s
  | 0, c :: s =>
    if w ≠ [] ∧ (after? w (c :: s)).isSome then remove w (w.length - 1) s
    else c :: remove w 0 s

def cutAt (p : Char → Bool) : Text → List Text
  | [] => [[]]
  | c :: s =>
    if p c then [] :: cutAt p s
    else match cutAt p s with
      | [] => [[c]]
      | piece :: pieces => (c :: piece) :: pieces

def lines (s : Text) : List Text := cutAt (· == '\n') s

/-- One carriage return at the end of a line belongs to its line break. -/
def dropReturn (line : Text) : Text :=
  match line.reverse with
  | '\r' :: r => r.reverse
  | _ => line

def linesOfEither (s : Text) : List Text :=
  match (lines s).reverse with
  | [] => []
  | last :: before => (last :: before.map dropReturn).reverse

/-- Pairs of return and feed, and lone returns, become line feeds. -/
def unifyBreaks : Text → Text
  | [] => []
  | '\r' :: '\n' :: s => '\n' :: unifyBreaks s
  | '\r' :: s => '\n' :: unifyBreaks s
  | c :: s => c :: unifyBreaks s

def join (sep : Text) : List Text → Text
  | [] => []
  | [s] => s
  | s :: rest => s ++ sep ++ join sep rest

end Text
end TypesetTrace
