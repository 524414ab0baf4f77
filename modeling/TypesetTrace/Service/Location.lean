import TypesetTrace.Text.Digit
import TypesetTrace.Text.Utf8

/-! Where a request leads. Its path may have steps that stay or go up, and characters written as
escaped bytes; steps are taken first, so an escaped dot or slash is none. -/
namespace TypesetTrace.Service
open Text

def base : Text := "/api/v1".toList

/-- A question or a fragment behind the path is no part of it. -/
def isPathEnd (c : Char) : Bool := c == '?' || c == '#'

/-- One more step after those taken, which are given last first. The way up takes a step back, but
never the root. -/
def follow (taken : List Text) (step : Text) : List Text :=
  if step = ['.'] then taken
  else if step = ['.', '.'] then
    match taken with
    | [] => []
    | [root] => if root = [] then [root] else []
    | _ :: before => before
  else step :: taken

def resolved (path : Text) : Text :=
  join ['/'] ((cutAt (· == '/') path).foldl follow []).reverse

/-- The bytes that a text with escapes stands for. What only looks like an escape is kept. -/
def unescaped : Text → List UInt8
  | '%' :: a :: b :: rest =>
    match hexValue? a, hexValue? b with
    | some high, some low => UInt8.ofNat (16 * high + low) :: unescaped rest
    | _, _ => toUtf8 ['%'] ++ unescaped (a :: b :: rest)
  | c :: rest => toUtf8 [c] ++ unescaped rest
  | [] => []

def location (sent : Text) : Text :=
  ofUtf8 (unescaped (resolved (base ++ sent.takeWhile fun c => !isPathEnd c)))

end TypesetTrace.Service
