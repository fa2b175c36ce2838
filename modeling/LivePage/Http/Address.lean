import LivePage.Text.Digits
import LivePage.Text.Utf8

/-!
# Addresses

An address names a server and what is requested from it: a scheme, an authority
that gives the host and may give a port, a path, and an optional query.  A fragment
is no part of an address.
-/

namespace LivePage
namespace Http

/-- Why a text is no address. -/
inductive AddressFault where
  | tooLong
  | schemeTooLong
  | badCharacter
  | badAuthority
  /-- A part is missing. -/
  | badFormat
  deriving DecidableEq, Repr

def AddressFault.text : AddressFault → String
  | .tooLong => "uri too long"
  | .schemeTooLong => "scheme too long"
  | .badCharacter => "invalid uri character"
  | .badAuthority => "invalid authority"
  | .badFormat => "invalid format"

/-! ## Characters -/

/-- Whether a character may stand in a scheme. -/
def isSchemeChar (c : Char) : Bool :=
  c.isAlphanum || "+-.~".toList.contains c

/-- Whether a character may stand in an authority. -/
def isAuthorityChar (c : Char) : Bool :=
  c.isAlphanum || "-._~!$&'()*+,;=:@[]%".toList.contains c

/-- Whether a character may stand in a path. -/
def isPathChar (c : Char) : Bool :=
  0x20 < c.toNat && c.toNat ≠ 0x7F && c ∉ ['#', '<', '>', '?', '\x60']

/-- Whether a character may stand in a query. -/
def isQueryChar (c : Char) : Bool :=
  0x20 < c.toNat && c.toNat ≠ 0x7F && c ∉ ['\x22', '#', '<', '>']

def endsAuthority (c : Char) : Bool :=
  c = '/' || c = '?' || c = '#'

/-! ## Authorities -/

/-- What reading an authority has met so far. -/
structure AuthorityScan where
  /-- The colons since the user information or the brackets ended. -/
  colons : Nat := 0
  /-- Whether there was an opening bracket. -/
  isOpened : Bool := false
  /-- Whether there was a closing bracket. -/
  isClosed : Bool := false
  /-- Whether there was a percent sign since the user information or the brackets
  ended. -/
  hasPercent : Bool := false
  deriving DecidableEq, Repr

/-- The greatest number of colons that are counted together: those within brackets
and the one before a port. -/
def maxColons : Nat := 8

namespace AuthorityScan

def read (s : AuthorityScan) (c : Char) : Except AddressFault AuthorityScan :=
  if !isAuthorityChar c then .error .badCharacter
  else if c = ':' then
    if s.colons < maxColons then .ok { s with colons := s.colons + 1 } else .error .badAuthority
  else if c = '[' then
    if s.hasPercent || s.isOpened then .error .badAuthority else .ok { s with isOpened := true }
  else if c = ']' then
    if !s.isOpened || s.isClosed then .error .badAuthority
    else .ok { s with isClosed := true, colons := 0, hasPercent := false }
  else if c = '@' then .ok { s with colons := 0, hasPercent := false }
  else if c = '%' then .ok { s with hasPercent := true }
  else .ok s

def isComplete (s : AuthorityScan) : Bool :=
  s.isOpened = s.isClosed && s.colons ≤ 1 && !s.hasPercent

end AuthorityScan

def checkAuthority (cs : List Char) : Except AddressFault Unit := do
  let scan ← cs.foldlM AuthorityScan.read {}
  if !scan.isComplete || cs.getLast? = some '@' then .error .badAuthority
  else if cs = [] then .error .badFormat
  else .ok ()

/-- What follows the last occurrence of a character; the whole text if there is
none. -/
def afterLast (c : Char) (cs : List Char) : List Char :=
  (cs.reverse.takeWhile (· ≠ c)).reverse

/-- The host that an authority gives, without user information and port. -/
def hostOf (authority : List Char) : List Char :=
  match afterLast '@' authority with
  | '[' :: cs => '[' :: cs.takeWhile (· ≠ ']') ++ [']']
  | cs => cs.takeWhile (· ≠ ':')

/-- Reads the number of a port, which may have a plus sign. -/
def readPort? (cs : List Char) : Option Nat :=
  let digits := if cs.head? = some '+' then cs.tail else cs
  if Digits.isNumeral digits ∧ Digits.value digits < UInt16.size then some (Digits.value digits)
  else none

def portOf? (authority : List Char) : Option Nat :=
  if ':' ∈ authority then readPort? (afterLast ':' authority) else none

/-! ## Schemes -/

/-- The schemes that can be requested, each with its port. -/
def standardPorts : List (String × Nat) := [
  ("http", 80), ("https", 443), ("socks", 1080), ("socks4", 1080), ("socks4a", 1080),
  ("socks5", 1080)]

def maxSchemeLength : Nat := 64

/-- The scheme at the front of a text and what follows it, if there is one. -/
def cutScheme? (cs : List Char) : Option (List Char × List Char) :=
  match cs.dropWhile isSchemeChar with
  | ':' :: '/' :: '/' :: rest => some (cs.takeWhile isSchemeChar, rest)
  | _ => none

/-! ## Addresses -/

/-- An address. -/
structure Address where
  scheme : List Char
  authority : List Char
  path : List Char
  /-- The query with its question mark; empty if there is none. -/
  query : List Char
  deriving DecidableEq, Repr

/-- The greatest length of an address in octets. -/
def maxLength : Nat := 65534

/-- Reads a path and a query.  A fragment is dropped. -/
def readTarget (cs : List Char) : Except AddressFault (List Char × List Char) :=
  let cs := cs.takeWhile (· ≠ '#')
  let path := cs.takeWhile (· ≠ '?')
  let query := cs.dropWhile (· ≠ '?')
  if path.all isPathChar && (query.drop 1).all isQueryChar then .ok (path, query)
  else .error .badCharacter

namespace Address

def ofText (cs : List Char) : Except AddressFault Address :=
  if (Utf8.encode cs).length > maxLength then .error .tooLong
  else
    match cutScheme? cs with
    | none => .error .badFormat
    | some (scheme, rest) => do
      if scheme.length > maxSchemeLength then throw .schemeTooLong
      let authority := rest.takeWhile (!endsAuthority ·)
      checkAuthority authority
      let (path, query) ← readTarget (rest.dropWhile (!endsAuthority ·))
      return { scheme, authority, path, query }

def host (a : Address) : List Char :=
  hostOf a.authority

/-- The scheme in the spelling of the standard ones. -/
def schemeName (a : Address) : String :=
  String.ofList (a.scheme.map Char.toLower)

/-- The port of the scheme, if it can be requested. -/
def standardPort? (a : Address) : Option Nat :=
  standardPorts.lookup a.schemeName

/-- The port of the server, if the scheme can be requested. -/
def port? (a : Address) : Option Nat :=
  a.standardPort?.map fun standard => (portOf? a.authority).getD standard

/-- The path, which is never empty in a request. -/
def fullPath (a : Address) : List Char :=
  if a.path = [] then ['/'] else a.path

/-- The part of an address that is sent to the server. -/
def target (a : Address) : List Char :=
  a.fullPath ++ a.query

end Address
end Http
end LivePage
