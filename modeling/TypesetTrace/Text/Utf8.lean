import TypesetTrace.Text.Basic

/-! Reading and writing text as UTF-8 bytes. Bytes that are no character are replaced, one mark for
every longest run of bytes that starts a character and cannot be continued. -/
namespace TypesetTrace.Text

def replacement : Char := '\uFFFD'

/-- A character of which some bytes were read: its bits so far, the number of bytes that are
owed, and the least and greatest next one. -/
structure Pending where
  bits : Nat
  owed : Nat
  least : Nat := 0x80
  greatest : Nat := 0xBF

def firstByte (b : Nat) : Text × Option Pending :=
  if b < 0x80 then ([Char.ofNat b], none)
  else if b < 0xC2 then ([replacement], none)
  else if b < 0xE0 then ([], some ⟨b % 0x20, 1, 0x80, 0xBF⟩)
  else if b = 0xE0 then ([], some ⟨0, 2, 0xA0, 0xBF⟩)
  else if b = 0xED then ([], some ⟨0xD, 2, 0x80, 0x9F⟩)
  else if b < 0xF0 then ([], some ⟨b % 0x10, 2, 0x80, 0xBF⟩)
  else if b = 0xF0 then ([], some ⟨0, 3, 0x90, 0xBF⟩)
  else if b < 0xF4 then ([], some ⟨b % 8, 3, 0x80, 0xBF⟩)
  else if b = 0xF4 then ([], some ⟨4, 3, 0x80, 0x8F⟩)
  else ([replacement], none)

/-- What a byte does inside a character; one that does not fit starts anew. -/
def nextByte (p : Pending) (b : Nat) : Text × Option Pending :=
  if p.least ≤ b ∧ b ≤ p.greatest then
    let bits := p.bits * 0x40 + b % 0x40
    if p.owed ≤ 1 then ([Char.ofNat bits], none) else ([], some { bits, owed := p.owed - 1 })
  else
    let (text, pending) := firstByte b
    (replacement :: text, pending)

def decodeFrom : Option Pending → List UInt8 → Text
  | none, [] => []
  | some _, [] => [replacement]
  | none, b :: bytes =>
    let (text, pending) := firstByte b.toNat
    text ++ decodeFrom pending bytes
  | some p, b :: bytes =>
    let (text, pending) := nextByte p b.toNat
    text ++ decodeFrom pending bytes

def ofUtf8 (bytes : List UInt8) : Text := decodeFrom none bytes

def toUtf8 (s : Text) : List UInt8 := (String.ofList s).toUTF8.toList

end TypesetTrace.Text
