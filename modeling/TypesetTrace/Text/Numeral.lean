import TypesetTrace.Fault
import TypesetTrace.Text.Digit

/-! The value of a number written in decimal digits. Digits of different scripts may be mixed,
and leading zeros count towards the limit on the number of digits. -/
namespace TypesetTrace.Text

/-- The number that the digits write, without a limit; a character that is no digit counts as
zero. -/
def digitsValue (digits : Text) : Nat :=
  digits.foldl (fun v c => 10 * v + (digitValue? c).getD 0) 0

def toNat (digits : Text) : Except Fault Nat :=
  if digits.length ≤ maxDigits then .ok (digitsValue digits)
  else .error (.tooManyDigits digits.length)

def toInt : Text → Except Fault Int
  | '-' :: digits => (toNat digits).map fun n => -(n : Int)
  | digits => (toNat digits).map fun n => (n : Int)

/-- A decimal numeral at the front: an optional minus sign and ASCII digits, and what follows. -/
def signedRun? (s : Text) : Option (Text × Text) :=
  match s with
  | '-' :: r =>
    match r.takeWhile isAsciiDigit with
    | [] => none
    | t => some ('-' :: t, r.dropWhile isAsciiDigit)
  | _ =>
    match s.takeWhile isAsciiDigit with
    | [] => none
    | t => some (t, s.dropWhile isAsciiDigit)

def ofNat (n : Nat) : Text := Nat.toDigits 10 n

def ofInt : Int → Text
  | .ofNat n => ofNat n
  | .negSucc n => '-' :: ofNat (n + 1)

end TypesetTrace.Text
