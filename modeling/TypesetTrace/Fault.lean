/-! What can go wrong while numbers are read and combined, each cause with its wording. -/
namespace TypesetTrace

inductive Fault where
  /-- A number is written with more digits than are converted. -/
  | tooManyDigits (count : Nat)
  /-- An integer lies beyond the largest finite double. -/
  | integerTooLarge
  /-- The quotient of two integers lies beyond the largest finite double. -/
  | quotientTooLarge
  | divisionByZero
  | noSuchEntry
  deriving DecidableEq, Repr

/-- Numbers with more digits than this are not converted. -/
def maxDigits : Nat := 4300

def Fault.message : Fault → String
  | .tooManyDigits count =>
    s!"Exceeds the limit ({maxDigits} digits) for integer string conversion: value has " ++
    s!"{count} digits; use sys.set_int_max_str_digits() to increase the limit"
  | .integerTooLarge => "int too large to convert to float"
  | .quotientTooLarge => "integer division result too large for a float"
  | .divisionByZero => "division by zero"
  | .noSuchEntry => "list index out of range"

end TypesetTrace
