import SpaServer.Text.Numeral

/-!
# Internet addresses

The written forms of addresses: four decimal octets between dots, or eight groups of hexadecimal
digits between colons, where an IPv4 address may stand for the last two groups and two colons in a
row, at one place, for as many groups of zeros as are missing. A zone may follow an IPv6 address,
and addresses of a future kind are known by the `v` that they begin with.
-/

namespace SpaServer.Address

/-- Whether the text is a decimal octet without leading zeros. -/
def isOctet (text : Text) : Bool :=
  !text.isEmpty && text.all Char.isDigit && text.length ≤ 3 &&
    (text == ['0'] || text.head? != some '0') && Text.digitsValue (text.map (·.toNat - 48)) ≤ 255

def isIpv4 (text : Text) : Bool :=
  (text.splitOn '.').length == 4 && (text.splitOn '.').all isOctet

def isHex (c : Char) : Bool :=
  c.isDigit || ('a' ≤ c && c ≤ 'f') || ('A' ≤ c && c ≤ 'F')

/-- Whether the text is one group of an IPv6 address. -/
def isGroup (text : Text) : Bool :=
  !text.isEmpty && text.length ≤ 4 && text.all isHex

/-- The parts with two groups in the place of an IPv4 address at the end. -/
def embedIpv4 (parts : List Text) : List Text :=
  if parts.getLast?.any isIpv4 then parts.dropLast ++ [['0'], ['0']] else parts

/-- The number of groups on one side of two colons in a row, where there may be none. -/
def sideGroups? (parts : List Text) : Option Nat :=
  if parts = [[]] then some 0
  else if parts.all isGroup then some parts.length
  else none

/-- Whether the parts between colons make an IPv6 address. An empty part that is neither the first
nor the last stands for groups of zeros. -/
def areGroups : List Text → Bool
  | [] => false
  | first :: rest =>
    match rest.dropWhile (· != []) with
    | _ :: next :: back =>
      match sideGroups? (first :: rest.takeWhile (· != [])), sideGroups? (next :: back) with
      | some n, some m => n + m ≤ 7
      | _, _ => false
    | _ => rest.length == 7 && (first :: rest).all isGroup

def isIpv6 (text : Text) : Bool := areGroups (embedIpv4 (text.splitOn ':'))

/-- Whether the text is an IPv6 address, perhaps with a percent sign and the name of a zone behind
it. -/
def isZonedIpv6 (text : Text) : Bool :=
  match Text.cut '%' text with
  | (address, none) => isIpv6 address
  | (address, some zone) => isIpv6 address && !zone.isEmpty && !zone.contains '%'

/-- Whether the text is an address of a future kind: a small `v`, a version, a dot and an
address. -/
def isFuture : Text → Bool
  | 'v' :: rest =>
    match Text.cut '.' rest with
    | (version, some address) => !version.isEmpty && version.all isHex && !address.isEmpty
    | (_, none) => false
  | _ => false

def isFutureChar (c : Char) : Bool :=
  c.isAlphanum || "._~!$&'()*+,;=:-".toList.contains c

/-- Whether the text is an address of a future kind without unusual characters. -/
def isPlainFuture (text : Text) : Bool := isFuture text && text.all isFutureChar

end SpaServer.Address
