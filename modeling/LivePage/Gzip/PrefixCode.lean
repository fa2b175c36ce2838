import LivePage.Gzip.Bits

/-!
# Prefix codes

A prefix code is given by the length of the code word of each symbol.  Code words of
one length are consecutive numbers, in the order of their symbols, and those of a
greater length come after them.
-/

namespace LivePage
namespace Gzip

/-- A prefix code. -/
structure PrefixCode where
  /-- The number of code words of each length from one bit on. -/
  counts : List Nat
  /-- The symbols in the order of their code words. -/
  symbols : Array Nat
  deriving Repr

/-- The greatest length of a code word. -/
def maxWordLength : Nat := 15

namespace PrefixCode

/-- The symbols that have code words of a length. -/
def symbolsOf (lengths : List Nat) (length : Nat) : List Nat :=
  (lengths.zipIdx.filter (·.1 = length)).map (·.2)

/-- The code in which each symbol, counted from zero, has a word of the given length;
none where the length is zero. -/
def ofLengths (lengths : List Nat) : PrefixCode :=
  let groups := (List.range' 1 maxWordLength).map (symbolsOf lengths)
  { counts := groups.map List.length, symbols := groups.flatten.toArray }

/-- The share of all sequences of bits that begin with a code word, as a multiple of
the smallest one. -/
def share (c : PrefixCode) : Nat :=
  c.counts.foldl (fun n count => 2 * n + count) 0

/-- Whether a code can be used: every sequence of bits begins with one code word, or
there is at most one. -/
def isUsable (c : PrefixCode) : Bool :=
  c.share = Nat.pow 2 maxWordLength || c.symbols.size ≤ 1

/-- The code of lengths, if it can be used. -/
def ofLengths? (lengths : List Nat) : Except DeflateFault PrefixCode :=
  if (ofLengths lengths).isUsable then .ok (ofLengths lengths) else .error .malformed

/-- Reads on in a code word whose bits so far are the number `word`.  The words of
this length begin at `first`, which is that of the symbol at `index`. -/
def readWord (symbols : Array Nat) (word first index : Nat) :
    List Nat → List Bool → Except DeflateFault (Nat × List Bool)
  | [], _ => .error .malformed
  | _ :: _, [] => .error .short
  | count :: counts, b :: bs =>
    let word := 2 * word + b.toNat
    let first := 2 * first
    if word < first + count then .ok (symbols.getD (index + (word - first)) 0, bs)
    else readWord symbols word (first + count) (index + count) counts bs

def read (c : PrefixCode) (bs : List Bool) : Except DeflateFault (Nat × List Bool) :=
  readWord c.symbols 0 0 0 c.counts bs

end PrefixCode
end Gzip
end LivePage
