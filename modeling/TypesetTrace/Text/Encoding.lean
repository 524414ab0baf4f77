import TypesetTrace.Text.Surrogate
import TypesetTrace.Text.Utf8

/-! The encodings that a JSON text may come in. Its first character is an ASCII one, so the zeros
among its first bytes tell how wide characters are and which of their bytes comes first. -/
namespace TypesetTrace.Text

inductive ByteOrder where
  | bigFirst | littleFirst
  deriving DecidableEq, Repr

inductive Encoding where
  | utf8
  | utf16 (order : ByteOrder)
  | utf32 (order : ByteOrder)
  deriving DecidableEq, Repr

def Encoding.ofBytes : List UInt8 → Encoding
  | 0 :: b :: _ :: _ :: _ => if b = 0 then .utf32 .bigFirst else .utf16 .bigFirst
  | _ :: 0 :: c :: d :: _ => if c = 0 ∧ d = 0 then .utf32 .littleFirst else .utf16 .littleFirst
  | [0, _] => .utf16 .bigFirst
  | [_, 0] => .utf16 .littleFirst
  | _ => .utf8

def ByteOrder.value (order : ByteOrder) (bytes : List UInt8) : Nat :=
  let low : List UInt8 := match order with
    | .bigFirst => bytes.reverse
    | .littleFirst => bytes
  low.foldr (fun b n => b.toNat + 256 * n) 0

/-- Bytes in pairs, none left over. -/
def pairs? : List UInt8 → Option (List (List UInt8))
  | [] => some []
  | a :: b :: rest => (pairs? rest).map ([a, b] :: ·)
  | [_] => none

def fours? : List UInt8 → Option (List (List UInt8))
  | [] => some []
  | a :: b :: c :: d :: rest => (fours? rest).map ([a, b, c, d] :: ·)
  | _ => none

/-- The text that bytes in an encoding write. A mark of byte order in front of narrow characters is
passed over. -/
def Encoding.decode? (encoding : Encoding) (bytes : List UInt8) : Option RawText :=
  match encoding with
  | .utf8 =>
    let s := ofUtf8 bytes
    if toUtf8 s ≠ bytes then none
    else match s with
      | '\uFEFF' :: rest => some (RawText.ofText rest)
      | _ => some (RawText.ofText s)
  | .utf16 order => (pairs? bytes).map fun units => ofUnits (units.map order.value)
  | .utf32 order => do
    let values := (← fours? bytes).map order.value
    if values.all (· < 0x110000) then some (values.map unitChar) else none

end TypesetTrace.Text
