import TypesetTrace.Gzip.Inflate

/-! Compressed files: members one after another, each with a header, compressed data, a checksum
and a length. Zeros may follow a member. -/
namespace TypesetTrace.Gzip

def reduced : Nat → UInt32 → UInt32
  | 0, r => r
  | n + 1, r => reduced n (if r &&& 1 = 1 then (r >>> 1) ^^^ 0xEDB88320 else r >>> 1)

/-- The cyclic redundancy check of 32 bits, lowest bit first. -/
def checksum (bytes : List UInt8) : UInt32 :=
  bytes.foldl (fun r b => reduced 8 (r ^^^ b.toUInt32)) 0xFFFFFFFF ^^^ 0xFFFFFFFF

/-- A text that ends in a zero byte; at the end of the file it may also end without one. -/
def skipZeroEnded : List UInt8 → List UInt8
  | [] => []
  | b :: rest => if b = 0 then rest else skipZeroEnded rest

def skipBytes (n : Nat) (bytes : List UInt8) : Option (List UInt8) :=
  if n ≤ bytes.length then some (bytes.drop n) else none

def skipExtra : List UInt8 → Option (List UInt8)
  | low :: high :: rest => skipBytes (low.toNat + 256 * high.toNat) rest
  | _ => none

/-- What follows the header of a member: two bytes of signature, the method, the flags, time and
system, and then the fields that the flags announce. -/
def afterHeader? : List UInt8 → Option (List UInt8)
  | 0x1F :: 0x8B :: 8 :: flags :: rest => do
    let has (bit : Nat) : Bool := flags.toNat.testBit bit
    let rest ← skipBytes 6 rest
    let rest ← if has 2 then skipExtra rest else some rest
    let rest := if has 3 then skipZeroEnded rest else rest
    let rest := if has 4 then skipZeroEnded rest else rest
    if has 1 then skipBytes 2 rest else some rest
  | _ => none

def littleEndian (bytes : List UInt8) : Nat :=
  bytes.foldr (fun b n => b.toNat + 256 * n) 0

def member? (bytes : List UInt8) : Option (List UInt8 × List UInt8) := do
  let body ← afterHeader? bytes
  let (content, bits) ← inflate (bitsOf body)
  let rest := body.drop (body.length - bits.length / 8)
  let trailer := rest.take 8
  if trailer.length < 8 ∨ littleEndian (trailer.take 4) ≠ (checksum content).toNat ∨
      littleEndian (trailer.drop 4) ≠ content.length % 0x100000000 then none
  else some (content, rest.drop 8)

def members? : Nat → List UInt8 → Option (List UInt8)
  | _, [] => some []
  | 0, _ :: _ => none
  | n + 1, bytes => do
    let (content, rest) ← member? bytes
    some (content ++ (← members? n (rest.dropWhile (· = 0))))

/-- The content of a compressed file. Every member takes up bytes, so the number of bytes bounds the
number of members. -/
def decompress? (bytes : List UInt8) : Option (List UInt8) := members? bytes.length bytes

end TypesetTrace.Gzip
