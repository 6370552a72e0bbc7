import SpaServer.Text.Printable

/-!
# Quoted texts

A text between quotes, as messages show names. Single quotes are taken unless the text has some and
no double ones. Backslashes and the quote in use are escaped, and every character that would leave
no mark is shown by the number of its code point.
-/

namespace SpaServer.Text

def quoteFor (text : Text) : Char :=
  if text.contains '\'' && !text.contains '"' then '"' else '\''

/-- The hexadecimal numeral of `n`, filled up with zeros to `width` digits. -/
def hexNumeral (width n : Nat) : Text := (Nat.toDigits 16 n).leftpad width '0'

/-- A code point by its number, in two, four or eight digits. -/
def codePoint (n : Nat) : Text :=
  if n < 0x100 then '\\' :: 'x' :: hexNumeral 2 n
  else if n < 0x10000 then '\\' :: 'u' :: hexNumeral 4 n
  else '\\' :: 'U' :: hexNumeral 8 n

def quoteChar (quote : Char) (c : Char) : Text :=
  if c = quote ∨ c = '\\' then ['\\', c]
  else if c = '\t' then ['\\', 't']
  else if c = '\n' then ['\\', 'n']
  else if c = '\r' then ['\\', 'r']
  else if isPrintable c then [c]
  else codePoint c.toNat

def quoted (text : Text) : Text :=
  quoteFor text :: text.flatMap (quoteChar (quoteFor text)) ++ [quoteFor text]

end SpaServer.Text
