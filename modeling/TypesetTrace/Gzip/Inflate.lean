import TypesetTrace.Gzip.PrefixCode

/-! Decompression: blocks of stored bytes, or of symbols for single bytes and for copies of what
came before. -/
namespace TypesetTrace.Gzip

/-- Lengths of copies: the least length and the number of bits added to it, by symbol from 257. -/
def copyLengths : List (Nat × Nat) :=
  [(3, 0), (4, 0), (5, 0), (6, 0), (7, 0), (8, 0), (9, 0), (10, 0), (11, 1), (13, 1), (15, 1),
   (17, 1), (19, 2), (23, 2), (27, 2), (31, 2), (35, 3), (43, 3), (51, 3), (59, 3), (67, 4),
   (83, 4), (99, 4), (115, 4), (131, 5), (163, 5), (195, 5), (227, 5), (258, 0)]

def copyDistances : List (Nat × Nat) :=
  [(1, 0), (2, 0), (3, 0), (4, 0), (5, 1), (7, 1), (9, 2), (13, 2), (17, 3), (25, 3), (33, 4),
   (49, 4), (65, 5), (97, 5), (129, 6), (193, 6), (257, 7), (385, 7), (513, 8), (769, 8),
   (1025, 9), (1537, 9), (2049, 10), (3073, 10), (4097, 11), (6145, 11), (8193, 12), (12289, 12),
   (16385, 13), (24577, 13)]

def extended (table : List (Nat × Nat)) (symbol : Nat) (bits : Bits) :
    Option (Nat × Bits) := do
  let (least, extra) ← table[symbol]?
  let (more, bits) ← takeNumber extra bits
  some (least + more, bits)

def copyBack (distance : Nat) : Nat → Array UInt8 → Array UInt8
  | 0, out => out
  | n + 1, out => copyBack distance n (out.push (out.getD (out.size - distance) 0))

/-- The symbols of a block up to its end. Every symbol takes at least one bit, so the number of bits
bounds the number of symbols. -/
def symbols (literals distances : WordTable) :
    Nat → Bits → Array UInt8 → Option (Array UInt8 × Bits)
  | 0, _, _ => none
  | n + 1, bits, out => do
    let (symbol, bits) ← nextSymbol literals bits
    if symbol < 256 then symbols literals distances n bits (out.push (UInt8.ofNat symbol))
    else if symbol = 256 then some (out, bits)
    else
      let (length, bits) ← extended copyLengths (symbol - 257) bits
      let (distanceSymbol, bits) ← nextSymbol distances bits
      let (distance, bits) ← extended copyDistances distanceSymbol bits
      if out.size < distance then none
      else symbols literals distances n bits (copyBack distance length out)

def fixedLiterals : WordTable :=
  tableOf (List.replicate 144 8 ++ List.replicate 112 9 ++ List.replicate 24 7 ++
    List.replicate 8 8)

def fixedDistances : WordTable := tableOf (List.replicate 32 5)

def stored (bits : Bits) (out : Array UInt8) : Option (Array UInt8 × Bits) := do
  let (length, bits) ← takeNumber 16 (align bits)
  let (complement, bits) ← takeNumber 16 bits
  if length + complement ≠ 0xFFFF then none
  else
    let (bytes, bits) ← takeBytes length bits
    some (out ++ bytes.toArray, bits)

/-- The order in which the lengths of the words for lengths are given. -/
def lengthOrder : List Nat :=
  [16, 17, 18, 0, 8, 7, 9, 6, 10, 5, 11, 4, 12, 3, 13, 2, 14, 1, 15]

def takeNumbers (width : Nat) : Nat → Bits → Option (List Nat × Bits)
  | 0, bits => some ([], bits)
  | n + 1, bits => do
    let (v, bits) ← takeNumber width bits
    let (vs, bits) ← takeNumbers width n bits
    some (v :: vs, bits)

/-- `count` lengths of words; `taken` has those read so far, last first. Some symbols repeat the
last length or zero. -/
def wordLengths (table : WordTable) (count : Nat) :
    Nat → List Nat → Bits → Option (List Nat × Bits)
  | 0, _, _ => none
  | n + 1, taken, bits =>
    if taken.length = count then some (taken.reverse, bits)
    else if count < taken.length then none
    else do
      let (symbol, bits) ← nextSymbol table bits
      if symbol < 16 then wordLengths table count n (symbol :: taken) bits
      else if symbol = 16 then
        let last ← taken.head?
        let (more, bits) ← takeNumber 2 bits
        wordLengths table count n (List.replicate (3 + more) last ++ taken) bits
      else
        let (least, width) := if symbol = 17 then (3, 3) else (11, 7)
        let (more, bits) ← takeNumber width bits
        wordLengths table count n (List.replicate (least + more) 0 ++ taken) bits

def ownCodes (bits : Bits) : Option (WordTable × WordTable × Bits) := do
  let (literalCount, bits) ← takeNumber 5 bits
  let (distanceCount, bits) ← takeNumber 5 bits
  let (lengthCount, bits) ← takeNumber 4 bits
  let literalCount := literalCount + 257
  let distanceCount := distanceCount + 1
  if 286 < literalCount ∨ 30 < distanceCount then none
  else
    let (given, bits) ← takeNumbers 3 (lengthCount + 4) bits
    let order := lengthOrder.zip given
    let lengths := (List.range 19).map fun symbol => (order.lookup symbol).getD 0
    let table ← codeOf? lengths false
    let (all, bits) ← wordLengths table (literalCount + distanceCount) (bits.length + 1) [] bits
    let literalLengths := all.take literalCount
    if literalLengths[256]? = some 0 then none
    else
      let literals ← codeOf? literalLengths true
      let distances ← codeOf? (all.drop literalCount) true
      some (literals, distances, bits)

def block (bits : Bits) (out : Array UInt8) : Option (Array UInt8 × Bits) := do
  let (kind, bits) ← takeNumber 2 bits
  match kind with
  | 0 => stored bits out
  | 1 => symbols fixedLiterals fixedDistances (bits.length + 1) bits out
  | 2 =>
    let (literals, distances, bits) ← ownCodes bits
    symbols literals distances (bits.length + 1) bits out
  | _ => none

def blocks : Nat → Bits → Array UInt8 → Option (Array UInt8 × Bits)
  | 0, _, _ => none
  | n + 1, bits, out => do
    let (last, bits) ← takeNumber 1 bits
    let (out, bits) ← block bits out
    if last = 1 then some (out, bits) else blocks n bits out

/-- The bytes that compressed data stands for, and the bits from the next whole byte on. -/
def inflate (bits : Bits) : Option (List UInt8 × Bits) := do
  let (out, bits) ← blocks (bits.length + 1) bits #[]
  some (out.toList, align bits)

end TypesetTrace.Gzip
