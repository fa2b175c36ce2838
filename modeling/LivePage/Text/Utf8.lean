/-!
# UTF-8 text

Octet sequences are read by a machine that takes one octet at a time.  An
octet that cannot continue the character begun before it ends that character
as malformed and is then read as the start of the next one, so each malformed
mark stands for one longest beginning of a character.
-/

namespace LivePage
namespace Utf8

/-- Where the machine stands between two octets. -/
inductive State where
  /-- Between two characters. -/
  | between
  /-- Inside a character: the number of octets still missing, the least and
  the greatest octet that may come next, and the bits read so far. -/
  | inside (missing : Nat) (least greatest : UInt8) (bits : Nat)
  deriving DecidableEq, Repr

/-- What reading one octet yields: a character, or `none` for a malformed
beginning of one. -/
abbrev Marks := List (Option Char)

/-- Reads an octet between two characters. -/
def start (b : UInt8) : Marks × State :=
  if b < 0x80 then ([some (Char.ofNat b.toNat)], .between)
  else if b < 0xC2 then ([none], .between)
  else if b < 0xE0 then ([], .inside 1 0x80 0xBF (b.toNat - 0xC0))
  else if b = 0xE0 then ([], .inside 2 0xA0 0xBF 0)
  else if b = 0xED then ([], .inside 2 0x80 0x9F 13)
  else if b < 0xF0 then ([], .inside 2 0x80 0xBF (b.toNat - 0xE0))
  else if b = 0xF0 then ([], .inside 3 0x90 0xBF 0)
  else if b < 0xF4 then ([], .inside 3 0x80 0xBF (b.toNat - 0xF0))
  else if b = 0xF4 then ([], .inside 3 0x80 0x8F 4)
  else ([none], .between)

def State.read : State → UInt8 → Marks × State
  | .between, b => start b
  | .inside missing least greatest bits, b =>
    if least ≤ b ∧ b ≤ greatest then
      let bits := bits * 64 + (b.toNat - 0x80)
      if missing ≤ 1 then ([some (Char.ofNat bits)], .between)
      else ([], .inside (missing - 1) 0x80 0xBF bits)
    else
      let (marks, state) := start b
      (none :: marks, state)

/-- What the end of the octets yields. -/
def State.finish : State → Marks
  | .between => []
  | .inside .. => [none]

/-- The characters and malformed beginnings of an octet sequence, from a given
state. -/
def State.marks : State → List UInt8 → Marks
  | state, [] => state.finish
  | state, b :: bs => (state.read b).1 ++ (state.read b).2.marks bs

/-- The character that stands for a malformed beginning. -/
def replacement : Char := '\uFFFD'

/-- Reads octets as text, with one replacement character for each malformed
beginning. -/
def decodeLossy (bs : List UInt8) : List Char :=
  (State.between.marks bs).map (·.getD replacement)

/-- Reads octets as text, if none of it is malformed. -/
def decode? (bs : List UInt8) : Option (List Char) :=
  (State.between.marks bs).mapM id

def encodeChar (c : Char) : List UInt8 :=
  let n := c.toNat
  if n < 0x80 then [UInt8.ofNat n]
  else if n < 0x800 then [UInt8.ofNat (0xC0 + n / 64), UInt8.ofNat (0x80 + n % 64)]
  else if n < 0x10000 then
    [UInt8.ofNat (0xE0 + n / 4096), UInt8.ofNat (0x80 + n / 64 % 64),
      UInt8.ofNat (0x80 + n % 64)]
  else
    [UInt8.ofNat (0xF0 + n / 262144), UInt8.ofNat (0x80 + n / 4096 % 64),
      UInt8.ofNat (0x80 + n / 64 % 64), UInt8.ofNat (0x80 + n % 64)]

def encode (cs : List Char) : List UInt8 :=
  cs.flatMap encodeChar

end Utf8
end LivePage
