import TypesetTrace.Text.Basic

/-! Text given by code units. Two halves of a surrogate pair make one character; half of a pair on
its own makes none, and a raw text keeps its place. -/
namespace TypesetTrace

/-- Characters in order, with `none` for every half of a surrogate pair that stands alone. -/
abbrev RawText := List (Option Char)

namespace RawText

def ofText (s : Text) : RawText := s.map some

def text? (s : RawText) : Option Text := s.mapM id

def filled (mark : Char) (s : RawText) : Text := s.map fun c => c.getD mark

end RawText

namespace Text

def isHighHalf (u : Nat) : Bool := 0xD800 ≤ u && u < 0xDC00

def isLowHalf (u : Nat) : Bool := 0xDC00 ≤ u && u < 0xE000

def pairChar (high low : Nat) : Char :=
  Char.ofNat (0x10000 + (high - 0xD800) * 0x400 + (low - 0xDC00))

/-- What a number stands for: a character, or half of a pair. -/
def unitChar (u : Nat) : Option Char :=
  if isHighHalf u || isLowHalf u then none else some (Char.ofNat u)

def ofUnits : List Nat → RawText
  | u :: v :: rest =>
    if isHighHalf u && isLowHalf v then some (pairChar u v) :: ofUnits rest
    else unitChar u :: ofUnits (v :: rest)
  | [u] => [unitChar u]
  | [] => []

/-- A private character that the text does not have: one of more characters than it has. -/
def unusedChar (s : Text) : Char :=
  let candidates := (List.range (s.length + 1)).map fun i => Char.ofNat (0xF0000 + i)
  (candidates.find? fun c => !s.contains c).getD '\uE000'

end Text
end TypesetTrace
