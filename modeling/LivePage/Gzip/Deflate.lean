import LivePage.Gzip.PrefixCode

/-!
# Compressed data

Compressed data is a sequence of blocks, the last one marked.  A block holds octets
as they are, or items in prefix codes: an octet, a copy of octets a distance back, or
the end of the block.
-/

namespace LivePage
namespace Gzip

/-- What reading a part of compressed data gives: the octets up to there, and the bits
left or why there are none. -/
abbrev Inflation := Array UInt8 × Except DeflateFault (List Bool)

/-! ## Items -/

/-- One item of a block. -/
inductive Item where
  | octet (b : UInt8)
  | copy (length distance : Nat)
  | blockEnd
  deriving DecidableEq, Repr

/-- The least length of each symbol for a copy, and the number of bits added to it. -/
def copyLengths : List (Nat × Nat) := [
  (3, 0), (4, 0), (5, 0), (6, 0), (7, 0), (8, 0), (9, 0), (10, 0), (11, 1), (13, 1), (15, 1),
  (17, 1), (19, 2), (23, 2), (27, 2), (31, 2), (35, 3), (43, 3), (51, 3), (59, 3), (67, 4),
  (83, 4), (99, 4), (115, 4), (131, 5), (163, 5), (195, 5), (227, 5), (258, 0)]

/-- The least distance of each symbol for one, and the number of bits added to it. -/
def copyDistances : List (Nat × Nat) := [
  (1, 0), (2, 0), (3, 0), (4, 0), (5, 1), (7, 1), (9, 2), (13, 2), (17, 3), (25, 3), (33, 4),
  (49, 4), (65, 5), (97, 5), (129, 6), (193, 6), (257, 7), (385, 7), (513, 8), (769, 8),
  (1025, 9), (1537, 9), (2049, 10), (3073, 10), (4097, 11), (6145, 11), (8193, 12),
  (12289, 12), (16385, 13), (24577, 13)]

/-- Reads what a symbol leaves open of a number. -/
def readAmount (table : List (Nat × Nat)) (symbol : Nat) (bs : List Bool) :
    Except DeflateFault (Nat × List Bool) :=
  match table[symbol]? with
  | none => .error .malformed
  | some (least, width) => (readBits width bs).map fun (n, rest) => (least + n, rest)

/-- The codes of a block. -/
structure BlockCodes where
  /-- Of octets, lengths and the end of the block. -/
  items : PrefixCode
  distances : PrefixCode
  deriving Repr

def readItem (c : BlockCodes) (bs : List Bool) : Except DeflateFault (Item × List Bool) := do
  let (symbol, bs) ← c.items.read bs
  if symbol < 256 then return (.octet (UInt8.ofNat symbol), bs)
  else if symbol = 256 then return (.blockEnd, bs)
  else
    let (length, bs) ← readAmount copyLengths (symbol - 257) bs
    let (symbol, bs) ← c.distances.read bs
    let (distance, bs) ← readAmount copyDistances symbol bs
    return (.copy length distance, bs)

/-- Adds a copy of octets a distance back, one at a time.  Before the first octet all
are zero. -/
def addCopy (distance : Nat) : Nat → Array UInt8 → Array UInt8
  | 0, out => out
  | length + 1, out =>
    let b := if distance ≤ out.size then out.getD (out.size - distance) 0 else 0
    addCopy distance length (out.push b)

/-- Reads at most the given number of items up to the end of a block. -/
def readItems (c : BlockCodes) : Nat → Array UInt8 → List Bool → Inflation
  | 0, out, _ => (out, .error .short)
  | limit + 1, out, bs =>
    match readItem c bs with
    | .error fault => (out, .error fault)
    | .ok (.octet b, bs) => readItems c limit (out.push b) bs
    | .ok (.copy length distance, bs) => readItems c limit (addCopy distance length out) bs
    | .ok (.blockEnd, bs) => (out, .ok bs)

/-! ## Codes -/

/-- The codes of a block that brings none. -/
def standardCodes : BlockCodes where
  items := .ofLengths
    (List.replicate 144 8 ++ List.replicate 112 9 ++ List.replicate 24 7 ++ List.replicate 8 8)
  distances := .ofLengths (List.replicate 32 5)

/-- The order of the lengths of the code words for lengths. -/
def lengthOrder : List Nat :=
  [16, 17, 18, 0, 8, 7, 9, 6, 10, 5, 11, 4, 12, 3, 13, 2, 14, 1, 15]

/-- Reads a length, or so many times the one before or zero: the lengths read. -/
def readLengthRun (c : PrefixCode) (last? : Option Nat) (bs : List Bool) :
    Except DeflateFault (List Nat × List Bool) := do
  let (symbol, bs) ← c.read bs
  match symbol, last? with
  | 16, none => throw .malformed
  | 16, some last =>
    let (n, bs) ← readBits 2 bs
    return (List.replicate (3 + n) last, bs)
  | 17, _ =>
    let (n, bs) ← readBits 3 bs
    return (List.replicate (3 + n) 0, bs)
  | 18, _ =>
    let (n, bs) ← readBits 7 bs
    return (List.replicate (11 + n) 0, bs)
  | length, _ => return ([length], bs)

/-- Reads the given number of lengths, in at most so many runs. -/
def readLengths (c : PrefixCode) (count : Nat) :
    Nat → List Nat → List Bool → Except DeflateFault (List Nat × List Bool)
  | limit, lengths, bs =>
    if lengths.length = count then .ok (lengths, bs)
    else if count < lengths.length then .error .malformed
    else
      match limit with
      | 0 => .error .malformed
      | limit + 1 => do
        let (more, bs) ← readLengthRun c lengths.getLast? bs
        readLengths c count limit (lengths ++ more) bs

/-- Reads the codes that a block brings. -/
def readCodes (bs : List Bool) : Except DeflateFault (BlockCodes × List Bool) := do
  let (items, bs) ← readBits 5 bs
  let (distances, bs) ← readBits 5 bs
  let (lengths, bs) ← readBits 4 bs
  let (widths, bs) ← readBitsEach 3 (lengths + 4) bs
  let widthOf (symbol : Nat) : Nat := ((lengthOrder.zip widths).lookup symbol).getD 0
  let code ← PrefixCode.ofLengths? ((List.range 19).map widthOf)
  let count := items + 257 + (distances + 1)
  let (lengths, bs) ← readLengths code count count [] bs
  let distances ← PrefixCode.ofLengths? (lengths.drop (items + 257))
  let items ← PrefixCode.ofLengths? (lengths.take (items + 257))
  return ({ items, distances }, bs)

/-! ## Blocks -/

def readOctets : Nat → Array UInt8 → List Bool → Inflation
  | 0, out, bs => (out, .ok bs)
  | count + 1, out, bs =>
    match readBits 8 bs with
    | .error fault => (out, .error fault)
    | .ok (b, bs) => readOctets count (out.push (UInt8.ofNat b)) bs

/-- Reads the number of the octets in a block that holds them as they are.  It is
written twice, the second time with all bits turned. -/
def readCount (bs : List Bool) : Except DeflateFault (Nat × List Bool) := do
  let (count, bs) ← readBits 16 (align bs)
  let (turned, bs) ← readBits 16 bs
  if count + turned = UInt16.size - 1 then return (count, bs) else throw .malformed

/-- Reads the content of a block of the given kind. -/
def readContent (kind : Nat) (out : Array UInt8) (bs : List Bool) : Inflation :=
  match kind with
  | 0 =>
    match readCount bs with
    | .error fault => (out, .error fault)
    | .ok (count, bs) => readOctets count out bs
  | 1 => readItems standardCodes (bs.length + 1) out bs
  | 2 =>
    match readCodes bs with
    | .error fault => (out, .error fault)
    | .ok (codes, bs) => readItems codes (bs.length + 1) out bs
  | _ => (out, .error .malformed)

/-- Reads what stands in front of a block: whether it is the last one, and its kind. -/
def readBlockHead (bs : List Bool) : Except DeflateFault (Bool × Nat × List Bool) := do
  let (last, bs) ← readBits 1 bs
  let (kind, bs) ← readBits 2 bs
  return (last = 1, kind, bs)

/-- Reads at most the given number of blocks up to the last one. -/
def readBlocks : Nat → Array UInt8 → List Bool → Inflation
  | 0, out, _ => (out, .error .short)
  | limit + 1, out, bs =>
    match readBlockHead bs with
    | .error fault => (out, .error fault)
    | .ok (isLast, kind, bs) =>
      match readContent kind out bs with
      | (out, .error fault) => (out, .error fault)
      | (out, .ok bs) => if isLast then (out, .ok bs) else readBlocks limit out bs

/-- The octets that compressed data stands for, and the octets after it. -/
def inflate (bs : List UInt8) : List UInt8 × Except DeflateFault (List UInt8) :=
  let bits := bitsOf bs
  let (out, rest) := readBlocks (bits.length + 1) #[] bits
  (out.toList, rest.map fun rest => bs.drop (bs.length - rest.length / 8))

end Gzip
end LivePage
