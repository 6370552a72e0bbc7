import SpaServer.Text.Utf8

/-!
# Percent-encoding

The encoding of a location. Characters that have a place in a URL stay as they are, the percent sign
among them; all others are written byte by byte.
-/

namespace SpaServer.Percent

/-- Whether a character of a location stays as it is. -/
def isPlain (c : Char) : Bool :=
  c.isAlphanum || "_.-~:/%#?=@[]!$&'()*+,;".toList.contains c

def hexDigit (n : Nat) : Char := (Nat.digitChar n).toUpper

def encodeByte (b : UInt8) : Text :=
  ['%', hexDigit (b.toNat / 16), hexDigit (b.toNat % 16)]

def encodeChar (c : Char) : Text :=
  if isPlain c then [c] else (String.utf8EncodeChar c).flatMap encodeByte

def encode (location : Text) : Text := location.flatMap encodeChar

end SpaServer.Percent
