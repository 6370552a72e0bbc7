import SpaServer.Text.Quoted
import SpaServer.Url.Address

/-!
# Authorities

The authority of a URL names a host and perhaps a port. What a client sends in its `host` header is
taken for one only if it has the form of an authority: a name, or an IPv6 address or an address of a
future kind in brackets, and then perhaps a colon and a port. `check` asks less of an authority, and
is what every URL has to pass when it is taken apart: brackets stand around an address at the place
of the host, and no character looks like one that divides a URL.
-/

namespace SpaServer.Authority

/-! ### What a client may send -/

def isNameChar (c : Char) : Bool :=
  c.isAlphanum || "._~%!$&'()*+,;=-".toList.contains c

def maxPort : Nat := 65535

/-- Whether the text is a port, which may have leading zeros. -/
def isPort (text : Text) : Bool :=
  let digits := text.dropWhile (· == '0')
  !text.isEmpty && text.all Char.isDigit && digits.length ≤ 5 &&
    Text.digitsValue (digits.map (·.toNat - 48)) ≤ maxPort

/-- Whether the text is empty or a colon and a port. -/
def isPortPart : Text → Bool
  | [] => true
  | ':' :: port => isPort port
  | _ => false

def isValid : Text → Bool
  | '[' :: rest =>
    match Text.cut ']' rest with
    | (address, some port) =>
      (Address.isIpv6 address || Address.isPlainFuture address) && isPortPart port
    | (_, none) => false
  | text =>
    !(text.takeWhile isNameChar).isEmpty && isPortPart (text.dropWhile isNameChar)

/-! ### What a server listens on -/

/-- The port that a scheme stands for. -/
def defaultPort? (scheme : Text) : Option Nat :=
  if scheme ∈ ["http".toList, "ws".toList] then some 80
  else if scheme ∈ ["https".toList, "wss".toList] then some 443
  else none

def bracketed (host : Text) : Text :=
  if ':' ∈ host ∧ host.head? ≠ some '[' then '[' :: host ++ [']'] else host

/-- The authority of the address that a server listens on, where `standard` is the port that the
scheme stands for. -/
def ofServer (standard : Nat) (host : Text) (port : Nat) : Text :=
  if port = standard then bracketed host else bracketed host ++ ':' :: Text.ofNat port

/-! ### What a URL may contain -/

inductive Error
  /-- A bracket stands alone or away from the host. -/
  | brackets
  /-- An IPv4 address stands in brackets. -/
  | ipv4
  /-- The address in brackets begins like one of a future kind and is none. -/
  | future
  /-- What should be in brackets is no address. -/
  | noAddress (host : Text)
  /-- A character of the authority looks like one that divides a URL. -/
  | lookalike (authority : Text)
  deriving DecidableEq

def Error.message : Error → Text
  | .brackets => "Invalid IPv6 URL".toList
  | .ipv4 => "An IPv4 address cannot be in brackets".toList
  | .future => "IPvFuture address is invalid".toList
  | .noAddress host =>
    Text.quoted host ++ " does not appear to be an IPv4 or IPv6 address".toList
  | .lookalike authority =>
    "netloc '".toList ++ authority ++
      "' contains invalid characters under NFKC normalization".toList

/-- The characters, other than themselves, whose compatibility form in the Unicode database contains
a slash, a question mark, a hash sign, an at sign or a colon. -/
def lookalikes : List Nat :=
  [0x2047, 0x2048, 0x2049, 0x2100, 0x2101, 0x2105, 0x2106, 0x2a74, 0xfe13, 0xfe16, 0xfe55, 0xfe56,
    0xfe5f, 0xfe6b, 0xff03, 0xff0f, 0xff1a, 0xff1f, 0xff20]

def checkHost (host : Text) : Except Error Unit :=
  if host.head? = some 'v' then
    if Address.isFuture host then .ok () else .error .future
  else if Address.isIpv4 host then .error .ipv4
  else if Address.isZonedIpv6 host then .ok ()
  else .error (.noAddress host)

/-- Checks an authority that has brackets. The host begins behind the last at sign, and within its
brackets if it has some; behind them only a port may follow. -/
def checkBrackets (authority : Text) : Except Error Unit :=
  let place := (authority.reverse.takeWhile (· != '@')).reverse
  match Text.cut '[' place with
  | ([], some inner) =>
    match (Text.cut ']' inner).2.bind List.head? with
    | none => checkHost (Text.cut ']' inner).1
    | some ':' => checkHost (Text.cut ']' inner).1
    | some _ => .error .brackets
  | (_, some _) => .error .brackets
  | (name, none) => checkHost (Text.cut ':' name).1

def check (authority : Text) : Except Error Unit :=
  if authority.contains '[' != authority.contains ']' then .error .brackets
  else
    match if authority.contains '[' then checkBrackets authority else .ok () with
    | .error error => .error error
    | .ok () =>
      if authority.any (lookalikes.contains ·.toNat) then .error (.lookalike authority) else .ok ()

end SpaServer.Authority
