import TypesetTrace.Fault
import TypesetTrace.Text.Basic

/-! Exact arithmetic around doubles. A double is read as a whole number times a power of two, and
a result that is known exactly is rounded once, to the nearest double, an exact tie going to the
neighbour whose last bit is zero. -/
namespace TypesetTrace.Binary64

/-- `n / d` rounded to the nearest whole number; an exact half goes to the even neighbour. -/
def roundDiv (n d : Nat) : Nat :=
  let q := n / d
  let r := n % d
  if 2 * r < d then q
  else if d < 2 * r then q + 1
  else if q % 2 = 0 then q else q + 1

def infinityBits : Nat := 0x7FF <<< 52

def signBit : Nat := 1 <<< 63

/-- The bits of the double nearest to `m * 2 ^ e`. The last place counts `2 ^ q`: 53 bits are
kept, fewer where the smallest double ends them. Too large a number gives infinity. -/
def nearestBits (m : Nat) (e : Int) : Nat :=
  if m = 0 then 0
  else
    let q : Int := max (e + (m.log2 : Int) - 52) (-1074)
    let s := if q ≤ e then m <<< (e - q).toNat else roundDiv m (1 <<< (q - e).toNat)
    min ((q + 1074).toNat <<< 52 + s) infinityBits

def signed (negative : Bool) (bits : Nat) : Float :=
  Float.ofBits (UInt64.ofNat (if negative then signBit + bits else bits))

def nearest (negative : Bool) (m : Nat) (e : Int) : Float := signed negative (nearestBits m e)

def isNegative (x : Float) : Bool := signBit ≤ x.toBits.toNat

def magnitude (x : Float) : Nat × Int :=
  let bits := x.toBits.toNat % signBit
  let exponent : Nat := bits >>> 52
  let fraction : Nat := bits % 1 <<< 52
  if exponent = 0 then (fraction, -1074) else (fraction + 1 <<< 52, (exponent : Int) - 1075)

def ofInt (n : Int) : Except Fault Float :=
  if infinityBits ≤ nearestBits n.natAbs 0 then .error .integerTooLarge
  else .ok (nearest (n < 0) n.natAbs 0)

/-- `n / d` as `m * 2 ^ e` with more bits than a double keeps. The last bit of `m` says whether
anything was cut off, so rounding it is rounding the quotient. -/
def quotientDigits (n d : Nat) : Nat × Int :=
  let k : Nat := 66 + d.log2 - n.log2
  let scaled := n <<< k
  (2 * (scaled / d) + (if scaled % d = 0 then 0 else 1), -((k : Int) + 1))

/-- The double nearest to a quotient of integers. A zero keeps the sign of the divisor. -/
def quotient (a b : Int) : Except Fault Float :=
  if b = 0 then .error .divisionByZero
  else
    let negative := decide (a < 0) != decide (b < 0)
    let (m, e) := quotientDigits a.natAbs b.natAbs
    let bits := nearestBits m e
    if infinityBits ≤ bits then .error .quotientTooLarge else .ok (signed negative bits)

def ofDecimal (negative : Bool) (m : Nat) (e : Int) : Float :=
  if m = 0 then signed negative 0
  else if 400 < e then signed negative infinityBits
  else if 0 ≤ e then nearest negative (m * Nat.pow 10 e.toNat) 0
  else if (Nat.log2 m : Int) + 1200 < -e * 3 then signed negative 0
  else
    let (q, e) := quotientDigits m (Nat.pow 10 (-e).toNat)
    nearest negative q e

def root (n : Nat) : Nat :=
  if h : n < 2 then n
  else
    have : n / 4 < n := by omega
    let r := 2 * root (n / 4)
    if (r + 1) * (r + 1) ≤ n then r + 1 else r
termination_by n

/-- The length of the hypotenuse over two legs, rounded once. An infinite leg makes it infinite
even beside a value that is no number. -/
def hypot (x y : Float) : Float :=
  if x.isInf || y.isInf then signed false infinityBits
  else if x.isNaN || y.isNaN then x + y
  else
    let (a, ea) := magnitude x
    let (b, eb) := magnitude y
    let e : Int := min ea eb
    let a := a <<< (ea - e).toNat
    let b := b <<< (eb - e).toNat
    let square : Nat := a * a + b * b
    let k : Nat := 64 - square.log2 / 2
    let scaled := square <<< (2 * k)
    let r : Nat := root scaled
    nearest false (2 * r + (if r * r = scaled then 0 else 1)) (e - k - 1)

/-- The decimal text with a fixed number of places, a half going to the even digit. -/
def toFixed (places : Nat) (x : Float) : Text :=
  if x.isNaN then "nan".toList
  else
    let sign : Text := if isNegative x then ['-'] else []
    if x.isInf then sign ++ "inf".toList
    else
      let (m, e) := magnitude x
      let scaled := m * Nat.pow 10 places
      let units := if 0 ≤ e then scaled <<< e.toNat else roundDiv scaled (1 <<< (-e).toNat)
      let digits := Nat.toDigits 10 units
      let digits := List.replicate (places + 1 - digits.length) '0' ++ digits
      let whole := digits.take (digits.length - places)
      let rest := digits.drop (digits.length - places)
      sign ++ whole ++ (if places = 0 then [] else '.' :: rest)

end TypesetTrace.Binary64
