import TypesetTrace.Service.Json
import TypesetTrace.Text.Encoding
import TypesetTrace.Text.Numeral

/-! Reading JSON texts. Besides the numbers of the standard, `NaN` and the infinities are read. -/
namespace TypesetTrace.Json
open Text

inductive Problem where
  | malformed
  | tooManyDigits
  | undecodable
  deriving DecidableEq, Repr

def isSpace (c : Option Char) : Bool :=
  c == some ' ' || c == some '\t' || c == some '\n' || c == some '\r'

def skipSpace (s : RawText) : RawText := s.dropWhile isSpace

def codeUnit? : RawText → Option (Nat × RawText)
  | some a :: some b :: some c :: some d :: s => do
    let a ← hexValue? a
    let b ← hexValue? b
    let c ← hexValue? c
    let d ← hexValue? d
    some (((a * 16 + b) * 16 + c) * 16 + d, s)
  | _ => none

def lowHalf? : RawText → Option (Nat × RawText)
  | some '\\' :: some 'u' :: s => do
    let (v, rest) ← codeUnit? s
    if isLowHalf v then some (v, rest) else none
  | _ => none

/-- A character given by code units, or half of a pair. -/
def codedChar? (s : RawText) : Option (Option Char × RawText) := do
  let (u, rest) ← codeUnit? s
  match if isHighHalf u then lowHalf? rest else none with
  | some (v, rest) => some (some (pairChar u v), rest)
  | none => some (unitChar u, rest)

def escaped? : Char → Option Char
  | '"' => some '"'
  | '\\' => some '\\'
  | '/' => some '/'
  | 'b' => some '\x08'
  | 'f' => some '\x0c'
  | 'n' => some '\n'
  | 'r' => some '\r'
  | 't' => some '\t'
  | _ => none

/-- Controls may not stand in a string unescaped. -/
def isControl (c : Option Char) : Bool := c.any fun c => c.toNat < 0x20

/-- The characters of a string up to its closing quote, last first, after those in `taken`. -/
def characters? : Nat → RawText → RawText → Option (RawText × RawText)
  | 0, _, _ => none
  | n + 1, taken, s =>
    match s with
    | [] => none
    | some '"' :: s => some (taken, s)
    | some '\\' :: some 'u' :: s => do
      let (c, s) ← codedChar? s
      characters? n (c :: taken) s
    | some '\\' :: c :: s => do
      let c ← c.bind escaped?
      characters? n (some c :: taken) s
    | c :: s => if isControl c then none else characters? n (c :: taken) s

def string? (s : RawText) : Option (RawText × RawText) :=
  (characters? (s.length + 1) [] s).map fun (taken, rest) => (taken.reverse, rest)

def isDigitHere (c : Option Char) : Bool := c.any isAsciiDigit

def digits (s : RawText) : Text × RawText :=
  ((s.takeWhile isDigitHere).filterMap id, s.dropWhile isDigitHere)

def fraction (s : RawText) : Text × RawText :=
  match s with
  | some '.' :: r => match digits r with
    | ([], _) => ([], s)
    | (d, r) => ('.' :: d, r)
  | _ => ([], s)

def sign (s : RawText) : Text × RawText :=
  match s with
  | some '+' :: r => (['+'], r)
  | some '-' :: r => (['-'], r)
  | r => ([], r)

def exponent (s : RawText) : Text × RawText :=
  match s with
  | some e :: r =>
    if e = 'e' ∨ e = 'E' then
      let (sign, r) := sign r
      match digits r with
      | ([], _) => ([], s)
      | (d, r) => (e :: sign ++ d, r)
    else ([], s)
  | _ => ([], s)

/-- A number at the front of a text. Only whole numbers are bound to the limit on digits. -/
def numberAt (s : RawText) : Except Problem (Text × RawText) :=
  let (minus, r) : Text × RawText := match s with
    | some '-' :: r => (['-'], r)
    | r => ([], r)
  let (whole, r) : Text × RawText := match r with
    | some '0' :: r => (['0'], r)
    | r => digits r
  if whole = [] then .error .malformed
  else
    let (f, r) := fraction r
    let (e, r) := exponent r
    if f = [] ∧ e = [] ∧ maxDigits < whole.length then .error .tooManyDigits
    else .ok (minus ++ whole ++ f ++ e, r)

def words : List (Text × Json) :=
  [("null".toList, .null), ("true".toList, .bool true), ("false".toList, .bool false),
   ("NaN".toList, .number "NaN".toList), ("Infinity".toList, .number "Infinity".toList),
   ("-Infinity".toList, .number "-Infinity".toList)]

def word? (s : RawText) : Option (Json × RawText) :=
  words.findSome? fun (w, v) =>
    if (RawText.ofText w).isPrefixOf s then some (v, s.drop w.length) else none

mutual

/-- A value at the front of a text. The number bounds the calls; each of them takes at least one
character, so the length of the text is enough. -/
def value : Nat → RawText → Except Problem (Json × RawText)
  | 0, _ => .error .malformed
  | n + 1, s =>
    match s with
    | some '"' :: r => match string? r with
      | some (t, r) => .ok (.string t, r)
      | none => .error .malformed
    | some '[' :: r => match skipSpace r with
      | some ']' :: r => .ok (.array [], r)
      | r => (items n [] r).map fun (vs, r) => (.array vs, r)
    | some '\x7b' :: r => match skipSpace r with
      | some '\x7d' :: r => .ok (.object [], r)
      | r => (fields n [] r).map fun (fs, r) => (.object (lastOfEach fs), r)
    | _ => match word? s with
      | some found => .ok found
      | none => (numberAt s).map fun (t, r) => (.number t, r)

/-- The items of an array from the first value on, after those in `taken`. -/
def items : Nat → List Json → RawText → Except Problem (List Json × RawText)
  | 0, _, _ => .error .malformed
  | n + 1, taken, s =>
    match value n s with
    | .error problem => .error problem
    | .ok (v, r) => match skipSpace r with
      | some ',' :: r => items n (v :: taken) (skipSpace r)
      | some ']' :: r => .ok ((v :: taken).reverse, r)
      | _ => .error .malformed

def fields : Nat → List (RawText × Json) → RawText →
    Except Problem (List (RawText × Json) × RawText)
  | 0, _, _ => .error .malformed
  | n + 1, taken, s =>
    match s with
    | some '"' :: r => match string? r with
      | none => .error .malformed
      | some (name, r) => match skipSpace r with
        | some ':' :: r => match value n (skipSpace r) with
          | .error problem => .error problem
          | .ok (v, r) => match skipSpace r with
            | some ',' :: r => fields n ((name, v) :: taken) (skipSpace r)
            | some '\x7d' :: r => .ok (((name, v) :: taken).reverse, r)
            | _ => .error .malformed
        | _ => .error .malformed
    | _ => .error .malformed

end

def parse (s : RawText) : Except Problem Json :=
  match value (s.length + 1) (skipSpace s) with
  | .error problem => .error problem
  | .ok (v, r) => if skipSpace r = [] then .ok v else .error .malformed

def ofBytes (bytes : List UInt8) : Except Problem Json :=
  match (Encoding.ofBytes bytes).decode? bytes with
  | some s => parse s
  | none => .error .undecodable

end TypesetTrace.Json
