/-!
# Bits

Octets as a sequence of bits, the least of each octet first.  A number is a sequence
of bits with the least first.
-/

namespace LivePage
namespace Gzip

/-- Why compressed octets cannot be read on. -/
inductive DeflateFault where
  /-- They end too early. -/
  | short
  | malformed
  deriving DecidableEq, Repr

def octetBits (b : UInt8) : List Bool :=
  (List.range 8).map b.toNat.testBit

def bitsOf (bs : List UInt8) : List Bool :=
  bs.flatMap octetBits

/-- Reads a number of the given number of bits. -/
def readBits : Nat → List Bool → Except DeflateFault (Nat × List Bool)
  | 0, bs => .ok (0, bs)
  | _ + 1, [] => .error .short
  | count + 1, b :: bs => (readBits count bs).map fun (n, rest) => (b.toNat + 2 * n, rest)

/-- Reads numbers of the given number of bits each. -/
def readBitsEach (width : Nat) : Nat → List Bool → Except DeflateFault (List Nat × List Bool)
  | 0, bs => .ok ([], bs)
  | count + 1, bs => do
    let (n, bs) ← readBits width bs
    let (ns, bs) ← readBitsEach width count bs
    return (n :: ns, bs)

def align (bs : List Bool) : List Bool :=
  bs.drop (bs.length % 8)

end Gzip
end LivePage
