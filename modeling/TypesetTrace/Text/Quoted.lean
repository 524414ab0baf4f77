import TypesetTrace.Text.Basic
import TypesetTrace.Text.Printable.Table

/-! Text between quotes, as it stands in messages. What has no look of its own is written by its
number. Single quotes stand around the text unless it has single quotes and no double ones. -/
namespace TypesetTrace.Text

/-- The character has a look of its own. -/
def isPrintable (c : Char) : Bool :=
  !(unprintableRanges.any fun (first, last) => first ≤ c.toNat && c.toNat ≤ last)

def hexDigits : Nat → Nat → Text
  | 0, _ => []
  | width + 1, n => hexDigits width (n / 16) ++ [Nat.digitChar (n % 16)]

def byNumber (c : Char) : Text :=
  if c.toNat < 0x100 then '\\' :: 'x' :: hexDigits 2 c.toNat
  else if c.toNat < 0x10000 then '\\' :: 'u' :: hexDigits 4 c.toNat
  else '\\' :: 'U' :: hexDigits 8 c.toNat

def quoteChar (quote c : Char) : Text :=
  if c = quote ∨ c = '\\' then ['\\', c]
  else if c = '\t' then ['\\', 't']
  else if c = '\n' then ['\\', 'n']
  else if c = '\r' then ['\\', 'r']
  else if isPrintable c then [c]
  else byNumber c

def quoted (s : Text) : Text :=
  let quote := if s.contains '\x27' && !s.contains '"' then '"' else '\x27'
  quote :: s.flatMap (quoteChar quote) ++ [quote]

end TypesetTrace.Text
