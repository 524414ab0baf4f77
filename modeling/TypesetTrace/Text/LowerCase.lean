import TypesetTrace.Text.Basic
import TypesetTrace.Text.LowerCase.Table

/-! The small form of a text. Letters are made small one by one, but a capital sigma at the end of
a word takes its final form. -/
namespace TypesetTrace.Text

def within (ranges : List (Nat × Nat)) (c : Char) : Bool :=
  ranges.any fun (first, last) => first ≤ c.toNat && c.toNat ≤ last

def lowerChar (c : Char) : Text :=
  if c.toNat < 0x80 then [c.toLower]
  else if c = '\u0130' then ['i', '\u0307']
  else
    match smallForms.find? fun r =>
      r.first ≤ c.toNat && c.toNat ≤ r.last && (c.toNat - r.first) % r.step == 0 with
    | some r => [Char.ofNat (c.toNat + r.shift).toNat]
    | none => [c]

/-- The nearest character that is not passed over has case. -/
def nextToCase (s : Text) : Bool :=
  match s.dropWhile (within ignoredRanges) with
  | [] => false
  | c :: _ => within casedRanges c

/-- The small form of a text, where `before` stands in front of it, last character first. -/
def lowerAfter (before : Text) : Text → Text
  | [] => []
  | c :: s =>
    if c = 'Σ' then
      (if nextToCase before && !nextToCase s then 'ς' else 'σ') :: lowerAfter (c :: before) s
    else lowerChar c ++ lowerAfter (c :: before) s

def lower (s : Text) : Text := lowerAfter [] s

end TypesetTrace.Text
