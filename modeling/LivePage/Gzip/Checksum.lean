/-!
# Checksums

The cyclic redundancy check of 32 bits that goes with compressed data, one octet at
a time, the least bit of each first.
-/

namespace LivePage
namespace Gzip

/-- The divisor of the check, its greatest power left out and the least bit first. -/
def divisor : UInt32 := 0xEDB88320

/-- Takes one bit off a remainder. -/
def shift (r : UInt32) : UInt32 :=
  if r &&& 1 = 1 then (r >>> 1) ^^^ divisor else r >>> 1

/-- Takes one octet into a remainder. -/
def addOctet (r : UInt32) (b : UInt8) : UInt32 :=
  Nat.repeat shift 8 (r ^^^ b.toUInt32)

def checksum (bs : List UInt8) : UInt32 :=
  bs.foldl addOctet 0xFFFFFFFF ^^^ 0xFFFFFFFF

end Gzip
end LivePage
