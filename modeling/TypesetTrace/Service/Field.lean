import TypesetTrace.Number.Binary64
import TypesetTrace.Service.Json
import TypesetTrace.Text.Numeral

/-! The fields of requests: numbers that come as text, and what is said about a field that cannot
be used. -/
namespace TypesetTrace.Service
open Text

inductive Complaint where
  | missing
  | notInteger
  /-- An integer with too many digits to be converted. -/
  | integerTooLong
  | notNumber
  | tooSmall
  | notString
  | notJson
  | notObject
  deriving DecidableEq, Repr

def Complaint.name : Complaint → String
  | .missing => "missing"
  | .notInteger => "int_parsing"
  | .integerTooLong => "int_parsing_size"
  | .notNumber => "float_parsing"
  | .tooSmall => "greater_than_equal"
  | .notString => "string_type"
  | .notJson => "json_invalid"
  | .notObject => "model_attributes_type"

/-- The blanks that may stand around a number. Separators of data are not among them. -/
def isPadding (c : Char) : Bool := isBlank c && !(0x1C ≤ c.toNat && c.toNat ≤ 0x1F)

def unpadded (s : Text) : Text := trimEnd isPadding (s.dropWhile isPadding)

/-- Single underscores may stand between the digits of a number. -/
def withoutUnderscores (s : Text) : Option Text :=
  let doubled := (s.zip s.tail).any fun (a, b) => a == '_' && b == '_'
  if s.head? = some '_' ∨ s.getLast? = some '_' ∨ doubled then none
  else some (s.filter (· != '_'))

def isZeroOrUnderscore (c : Char) : Bool := c == '0' || c == '_'

/-- Zeros in front are dropped, the last one kept if no digit follows. Behind them, a minus sign
may still come. -/
def withoutLeadingZeros (s : Text) : Option Text :=
  match s with
  | '0' :: _ =>
    let zeros := s.takeWhile isZeroOrUnderscore
    match s.dropWhile isZeroOrUnderscore with
    | [] => some (zeros.drop (zeros.length - 1))
    | '.' :: rest => some (zeros.drop (zeros.length - 1) ++ '.' :: rest)
    | c :: rest => if isAsciiDigit c || c == '-' then some (c :: rest) else none
  | c :: _ => if isAsciiDigit c || c == '-' then some s else none
  | [] => none

def withoutZeros : Text → Option Text
  | '-' :: s => (withoutLeadingZeros s).map ('-' :: ·)
  | s => withoutLeadingZeros s

def withoutZeroFraction (s : Text) : Option Text :=
  match s.dropWhile (· != '.') with
  | [] => some s
  | _ :: fraction =>
    if fraction ≠ [] ∧ fraction.all (· == '0') then some (s.takeWhile (· != '.')) else none

def withoutPlus : Text → Option Text
  | '+' :: '-' :: _ => none
  | '+' :: s => some s
  | s => some s

def unsigned : Text → Text
  | '-' :: s => s
  | s => s

/-- The text starts with more digits than are converted, whatever comes behind them. Behind a zero
no digits are read. -/
def isTooLong (s : Text) : Bool :=
  match (unsigned s).takeWhile isAsciiDigit with
  | '0' :: _ => false
  | digits => maxDigits < digits.length

def plainInteger? (s : Text) : Option Int :=
  let digits := unsigned s
  if digits = [] ∨ !digits.all isAsciiDigit ∨ (digits ≠ ['0'] ∧ digits.head? = some '0') then none
  else if maxDigits < digits.length then none
  else some (if s = digits then digitsValue digits else -digitsValue digits)

def cleaned (s : Text) : Option Text := do
  let s ← withoutPlus (unpadded s)
  let s ← withoutZeros s
  let s ← withoutZeroFraction s
  if s.contains '_' then withoutUnderscores s else some s

/-- The integer that a text writes. Too many digits are named as such only in a text that starts
with them. -/
def integer (s : Text) : Except Complaint Int :=
  if isTooLong s then .error .integerTooLong
  else match (cleaned s).bind plainInteger? with
    | none => .error .notInteger
    | some n => .ok n

def asciiLower (s : Text) : Text := s.map Char.toLower

def infinity : Float := Float.ofBits (UInt64.ofNat Binary64.infinityBits)

def power? (s : Text) : Option Int :=
  let (sign, digits) : Int × Text := match s with
    | '+' :: r => (1, r)
    | '-' :: r => (-1, r)
    | r => (1, r)
  if digits ≠ [] ∧ digits.all isAsciiDigit then some (sign * digitsValue digits) else none

/-- Digits with an optional point among, before or after them, and an optional power of ten. -/
def decimal? (negative : Bool) (s : Text) : Option Float := do
  let isMark (c : Char) : Bool := c == 'e' || c == 'E'
  let mantissa := s.takeWhile fun c => !isMark c
  let power ← match s.dropWhile fun c => !isMark c with
    | [] => some 0
    | _ :: r => power? r
  let whole := mantissa.takeWhile (· != '.')
  let fraction := (mantissa.dropWhile (· != '.')).drop 1
  let digits := whole ++ fraction
  if digits ≠ [] ∧ digits.all isAsciiDigit then
    some (Binary64.ofDecimal negative (digitsValue digits) (power - fraction.length))
  else none

def realValue? (s : Text) : Option Float :=
  let (negative, s) := match s with
    | '+' :: r => (false, r)
    | '-' :: r => (true, r)
    | r => (false, r)
  let word := asciiLower s
  if word = "nan".toList then some (infinity - infinity)
  else if word = "inf".toList ∨ word = "infinity".toList then
    some (if negative then -infinity else infinity)
  else decimal? negative s

def real (s : Text) : Except Complaint Float :=
  match (realValue? (unpadded s)).or
      (if s.contains '_' then (withoutUnderscores s).bind realValue? else none) with
  | some x => .ok x
  | none => .error .notNumber

/-- The number is finite: a whole number always, any other as the nearest double. -/
def isFinite (spelling : Text) : Bool :=
  match signedRun? spelling with
  | some (_, []) => true
  | _ => match real spelling with
    | .ok x => x.isFinite
    | .error _ => false

mutual

def isSendable : Json → Bool
  | .number spelling => isFinite spelling
  | .string s => s.all Option.isSome
  | .array vs => allSendable vs
  | .object fs => allFieldsSendable fs
  | .null | .bool _ => true

def allSendable : List Json → Bool
  | [] => true
  | v :: vs => isSendable v && allSendable vs

def allFieldsSendable : List (RawText × Json) → Bool
  | [] => true
  | (name, v) :: fs => name.all Option.isSome && isSendable v && allFieldsSendable fs

end

end TypesetTrace.Service
