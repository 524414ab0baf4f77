import TypesetTrace.Gzip.Bits

/-! Codes in which no word starts another. A code is given by the length of the word of every
symbol; words of one length are counted up in the order of their symbols, and a shorter word comes
before a longer one. -/
namespace TypesetTrace.Gzip

def maxWordLength : Nat := 15

/-- The symbols by the length of their words, from length 1 on, each in order. -/
abbrev WordTable := List (List Nat)

def tableOf (lengths : List Nat) : WordTable :=
  (List.range maxWordLength).map fun i =>
    (lengths.zipIdx.filter fun (length, _) => length = i + 1).map (·.2)

/-- How many words of the greatest length are still free; `none` if words are missing. -/
def freeWords (table : WordTable) : Option Nat :=
  table.foldl (fun free symbols => free.bind fun n =>
    if symbols.length ≤ 2 * n then some (2 * n - symbols.length) else none) (some 1)

def isShort (table : WordTable) : Bool := (table.drop 1).all List.isEmpty

/-- A code uses up all words. Where the code may be `partly` used it can also have no symbol, or
one symbol with a word of one bit. -/
def codeOf? (lengths : List Nat) (partly : Bool) : Option WordTable :=
  let table := tableOf lengths
  match freeWords table with
  | none => none
  | some 0 => some table
  | some _ => if partly && isShort table then some table else none

/-- The symbol whose word is next. The words of the present length start at `first`, and `word` is
what was read of it so far. -/
def decodeWord : WordTable → (first word : Nat) → Bits → Option (Nat × Bits)
  | [], _, _, _ => none
  | _, _, _, [] => none
  | symbols :: longer, first, word, b :: bits =>
    let first := 2 * first
    let word := 2 * word + b.toNat
    match symbols[word - first]? with
    | some symbol => some (symbol, bits)
    | none => decodeWord longer (first + symbols.length) word bits

def nextSymbol (table : WordTable) (bits : Bits) : Option (Nat × Bits) := decodeWord table 0 0 bits

end TypesetTrace.Gzip
