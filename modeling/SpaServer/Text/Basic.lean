/-!
# Texts and bytes

A text is the list of its characters and a content is the list of its bytes, so every function of
the library that reads or writes text is ordinary list recursion. This module holds the few
operations that all of them share: trimming, cutting at a character, and decimal numerals.
-/

namespace SpaServer

abbrev Text := List Char

/-- The content of a file or of a response body, byte by byte. -/
abbrev Bytes := List UInt8

namespace Text

def trimEnd (drop : Char → Bool) (text : Text) : Text :=
  (text.reverse.dropWhile drop).reverse

/-- Leaves out the characters of the class `drop` at both ends. -/
def trim (drop : Char → Bool) (text : Text) : Text :=
  trimEnd drop (text.dropWhile drop)

/-- The text before the first `mark`, and the text after it if there is a `mark` at all. -/
def cut (mark : Char) (text : Text) : Text × Option Text :=
  (text.takeWhile (· != mark),
    match text.dropWhile (· != mark) with
    | [] => none
    | _ :: rest => some rest)

def ofNat (n : Nat) : Text := Nat.toDigits 10 n

/-- The decimal numeral of an integer, with a minus sign below zero. -/
def ofInt : Int → Text
  | .ofNat n => ofNat n
  | .negSucc n => '-' :: ofNat (n + 1)

end Text

end SpaServer
