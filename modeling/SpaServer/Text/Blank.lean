import SpaServer.Text.Basic

/-!
# Blank characters

Two classes of blank characters. `isBlank` is the white space of the Unicode database together
with the four information separators, and is what surrounds media types, level names, range parts
and the tokens of an environment file. `isNumeralBlank`, what may surround an integer numeral, is
the same class without the information separators.
-/

namespace SpaServer.Text

/-- The information separators, from the file separator to the unit separator. -/
def isSeparator (c : Char) : Bool :=
  0x1c ≤ c.toNat && c.toNat ≤ 0x1f

/-- The white space of the Unicode database. -/
def isNumeralBlank (c : Char) : Bool :=
  (0x09 ≤ c.toNat && c.toNat ≤ 0x0d) || (0x2000 ≤ c.toNat && c.toNat ≤ 0x200a) ||
    [0x20, 0x85, 0xa0, 0x1680, 0x2028, 0x2029, 0x202f, 0x205f, 0x3000].contains c.toNat

/-- White space and the information separators. -/
def isBlank (c : Char) : Bool :=
  isNumeralBlank c || isSeparator c

def strip (text : Text) : Text := trim isBlank text

end SpaServer.Text
