/-! Bytes as a stream of bits, the lowest bit of a byte first. -/
namespace TypesetTrace.Gzip

abbrev Bits := List Bool

def bitsOfByte (b : UInt8) : Bits := (List.range 8).map b.toNat.testBit

def bitsOf (bytes : List UInt8) : Bits := bytes.flatMap bitsOfByte

/-- A number of `n` bits, the lowest first. -/
def takeNumber : Nat → Bits → Option (Nat × Bits)
  | 0, bits => some (0, bits)
  | _ + 1, [] => none
  | n + 1, b :: bits => (takeNumber n bits).map fun (v, rest) => (2 * v + b.toNat, rest)

/-- What follows the byte that the stream stands in; a whole number of bytes is left. -/
def align (bits : Bits) : Bits := bits.drop (bits.length % 8)

def takeBytes : Nat → Bits → Option (List UInt8 × Bits)
  | 0, bits => some ([], bits)
  | n + 1, bits => do
    let (b, bits) ← takeNumber 8 bits
    let (bytes, bits) ← takeBytes n bits
    some (UInt8.ofNat b :: bytes, bits)

end TypesetTrace.Gzip
