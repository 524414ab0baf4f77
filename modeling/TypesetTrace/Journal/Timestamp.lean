import TypesetTrace.Journal.Problem
import TypesetTrace.Text.Numeral

/-! The date and time of a moment given in seconds since the start of 1970. -/
namespace TypesetTrace.Journal

structure Timestamp where
  year : Int
  month : Nat
  day : Nat
  hour : Nat
  minute : Nat
  second : Nat
  deriving DecidableEq, Repr

/-- The calendar repeats after 400 years of this many days. -/
def daysPerEra : Nat := 146097

/-- Days from the first of March of year 0 to the start of 1970. -/
def epochDay : Int := 719468

/-- The date in the proleptic calendar. Years are counted from March, so that the day that a leap
year adds is its last. -/
def dateOfDay (days : Int) : Int × Nat × Nat :=
  let z := days + epochDay
  let era := z / daysPerEra
  let dayOfEra := (z % daysPerEra).toNat
  let yearOfEra := (dayOfEra - dayOfEra / 1460 + dayOfEra / 36524 - dayOfEra / 146096) / 365
  let dayOfYear := dayOfEra - (365 * yearOfEra + yearOfEra / 4 - yearOfEra / 100)
  let fromMarch := (5 * dayOfYear + 2) / 153
  let day := dayOfYear - (153 * fromMarch + 2) / 5 + 1
  let month := if fromMarch < 10 then fromMarch + 3 else fromMarch - 9
  let year := (yearOfEra : Int) + era * 400 + (if month ≤ 2 then 1 else 0)
  (year, month, day)

def fitsBelow (bound : Nat) (n : Int) : Bool := -(bound : Int) ≤ n && n < bound

def bound32 : Nat := 0x80000000

def bound64 : Nat := 0x8000000000000000

/-- The date and time of a moment. Seconds are kept in 64 bits and years in 32, first as counted
from 1900 and then as they are. -/
def Timestamp.ofSeconds (t : Int) : Except Problem Timestamp :=
  let (year, month, day) := dateOfDay (t / 86400)
  let s := (t % 86400).toNat
  if !fitsBelow bound64 t then .error .beyondClock
  else if !fitsBelow bound32 (year - 1900) then .error .beyondCalendar
  else if !fitsBelow bound32 year then .error .beyondYears
  else .ok { year, month, day, hour := s / 3600, minute := s / 60 % 60, second := s % 60 }

def twoDigits (n : Nat) : Text :=
  if n < 10 then '0' :: Text.ofNat n else Text.ofNat n

def Timestamp.render (t : Timestamp) : Text :=
  Text.ofInt t.year ++ ['-'] ++ twoDigits t.month ++ ['-'] ++ twoDigits t.day ++ [' '] ++
    twoDigits t.hour ++ [':'] ++ twoDigits t.minute ++ [':'] ++ twoDigits t.second

end TypesetTrace.Journal
